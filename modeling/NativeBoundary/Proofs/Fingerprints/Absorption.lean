import NativeBoundary.Surface

/-!
# What bytes do to a hash

Taking a byte into a hash changes the low byte of the state and multiplies the
state by an odd factor.  The multiplication can be undone, so two states that
differ stay different whatever the same bytes do to both of them.

States that differ in their low byte alone are driven far apart by the
multiplication: mixing in another byte cannot bring them together again, nor can
two more bytes.  So from one state two sequences of at most three bytes lead to
one state only if they are the same.
-/

namespace NativeBoundary.Surface

/-! ## The same bytes on two states -/

/-- The factor that undoes the odd one. -/
def primeInverse : UInt64 := 0xce965057aff6957b

theorem prime_mul_primeInverse : prime * primeInverse = 1 := by
  decide

theorem mul_prime_injective : Function.Injective fun hash : UInt64 => hash * prime := by
  intro first second agree
  have undone := congrArg (fun product => product * primeInverse) agree
  simpa only [UInt64.mul_assoc, prime_mul_primeInverse, UInt64.mul_one] using undone

theorem absorb_injective (byte : UInt8) :
    Function.Injective fun hash => absorb hash byte := by
  intro first second agree
  exact (UInt64.xor_left_inj byte.toUInt64).mp (mul_prime_injective agree)

/-- States that differ still differ after the same bytes. -/
theorem foldl_absorb_injective (bytes : List UInt8) :
    Function.Injective fun hash => bytes.foldl absorb hash := by
  induction bytes with
  | nil => exact Function.injective_id
  | cons byte rest hypothesis =>
    intro first second agree
    exact absorb_injective byte (hypothesis agree)

/-! ## Blocks -/

/-- A state without its low byte, which is all that mixing in a byte can change. -/
def block (hash : UInt64) : Nat :=
  hash.toNat / 256

theorem block_xor (hash : UInt64) (byte : UInt8) :
    block (hash ^^^ byte.toUInt64) = block hash := by
  have small : byte.toNat / 256 = 0 := Nat.div_eq_of_lt byte.toNat_lt
  have divided : (hash.toNat ^^^ byte.toNat) / 256 = hash.toNat / 256 ^^^ byte.toNat / 256 :=
    Nat.xor_div_two_pow (n := 8)
  rw [block, UInt64.toNat_xor, UInt8.toNat_toUInt64, divided, small, Nat.xor_zero, block]

/-- States that one byte each can bring together are in one block. -/
theorem block_eq_of_absorb_eq {first second : UInt64} {byte other : UInt8}
    (agree : absorb first byte = absorb second other) : block first = block second := by
  have mixed : first ^^^ byte.toUInt64 = second ^^^ other.toUInt64 := mul_prime_injective agree
  calc
    block first = block (first ^^^ byte.toUInt64) := (block_xor first byte).symm
    _ = block (second ^^^ other.toUInt64) := congrArg block mixed
    _ = block second := block_xor second other

/-! ## How far the factor drives states apart

Distances are followed as integers, and the factor multiplies them as far as 64
bits can tell.  It is `2 ^ 40 + 435`, and its square is `870 * 2 ^ 40 + 189225` to
64 bits: a small distance has to vanish in both parts of such a product before the
states come together.
-/

/-- A number below `2 ^ 40` that a multiple of `2 ^ 40` cancels is zero, and so is the
multiple. -/
theorem eq_zero_of_cancels {high low : Int} (cancels : 1099511627776 * high + low = 0)
    (lower : -1099511627776 < low) (upper : low < 1099511627776) : high = 0 ∧ low = 0 := by
  omega

/-- The factor makes no small distance of another one. -/
theorem multiplied_ne {before after turns : Int} (near : -255 ≤ before ∧ before ≤ 255)
    (apart : before ≠ 0) (nearAfter : -255 ≤ after ∧ after ≤ 255) :
    after ≠ before * 1099511628211 + 18446744073709551616 * turns := by
  intro multiplied
  have cancels :
      1099511627776 * (before + 16777216 * turns) + (435 * before - after) = 0 := by omega
  rcases eq_zero_of_cancels cancels (by omega) (by omega) with ⟨high, low⟩
  omega

/-- Nor does it do so in two turns, with a small change between them. -/
theorem multiplied_twice_ne {before change after turns : Int}
    (near : -255 ≤ before ∧ before ≤ 255) (apart : before ≠ 0)
    (nearChange : -510 ≤ change ∧ change ≤ 510) (nearAfter : -255 ≤ after ∧ after ≤ 255) :
    after ≠
      (before * 1099511628211 + change) * 1099511628211 + 18446744073709551616 * turns := by
  intro multiplied
  have cancels :
      1099511627776 * (870 * before + change + 16777216 * (65536 * before + turns)) +
        (189225 * before + 435 * change - after) = 0 := by omega
  rcases eq_zero_of_cancels cancels (by omega) (by omega) with ⟨high, low⟩
  have balanced : 870 * before + change = 0 := by omega
  omega

/-- The distance from one state to another. -/
def distance (first second : UInt64) : Int :=
  (first.toNat : Int) - second.toNat

theorem distance_ne_zero {first second : UInt64} (different : first ≠ second) :
    distance first second ≠ 0 := by
  intro none
  apply different
  apply UInt64.toNat_inj.mp
  unfold distance at none
  omega

theorem distance_bounds {first second : UInt64} (same : block first = block second) :
    -255 ≤ distance first second ∧ distance first second ≤ 255 := by
  unfold block at same
  unfold distance
  omega

/-- Moving both states inside their blocks changes their distance a little. -/
theorem exists_distance_eq_add {first second left right : UInt64}
    (sameLeft : block left = block first) (sameRight : block right = block second) :
    ∃ change : Int, (-510 ≤ change ∧ change ≤ 510) ∧
      distance left right = distance first second + change := by
  refine ⟨distance left first - distance right second, ?_⟩
  have leftBounds := distance_bounds sameLeft
  have rightBounds := distance_bounds sameRight
  unfold distance at *
  omega

theorem exists_distance_mul_prime (first second : UInt64) :
    ∃ turns : Int,
      distance (first * prime) (second * prime) =
        distance first second * 1099511628211 + 18446744073709551616 * turns := by
  have factor : prime.toNat = 1099511628211 := rfl
  let turned (hash : UInt64) : Nat := hash.toNat * 1099511628211 / 18446744073709551616
  refine ⟨(turned second : Int) - turned first, ?_⟩
  simp only [distance, UInt64.toNat_mul, factor, turned]
  omega

/-- The factor drives different states of one block into different blocks. -/
theorem block_mul_prime_ne {first second : UInt64} (same : block first = block second)
    (different : first ≠ second) : block (first * prime) ≠ block (second * prime) := by
  intro together
  rcases exists_distance_mul_prime first second with ⟨turns, multiplied⟩
  exact
    multiplied_ne (distance_bounds same) (distance_ne_zero different)
      (distance_bounds together) multiplied

/-- It does so again after the products were moved inside their blocks. -/
theorem block_mul_prime_mul_prime_ne {first second left right : UInt64}
    (same : block first = block second) (different : first ≠ second)
    (sameLeft : block left = block (first * prime))
    (sameRight : block right = block (second * prime)) :
    block (left * prime) ≠ block (right * prime) := by
  intro together
  rcases exists_distance_mul_prime first second with ⟨turns, multiplied⟩
  rcases exists_distance_eq_add sameLeft sameRight with ⟨change, nearChange, moved⟩
  rcases exists_distance_mul_prime left right with ⟨further, multipliedAgain⟩
  have collected :
      distance (left * prime) (right * prime) =
        (distance first second * 1099511628211 + change) * 1099511628211 +
          18446744073709551616 * (turns * 1099511628211 + further) := by
    rw [multipliedAgain, moved, multiplied]
    generalize distance first second = before
    omega
  exact
    multiplied_twice_ne (distance_bounds same) (distance_ne_zero different) nearChange
      (distance_bounds together) collected

/-! ## Different bytes on one state -/

/-- Once the factor has driven two states of one block apart, no two bytes on either side bring
them together. -/
theorem foldl_absorb_ne {first second : UInt64} {bytes others : List UInt8}
    (same : block first = block second) (different : first ≠ second)
    (lengths : bytes.length = others.length) (short : bytes.length ≤ 2) :
    bytes.foldl absorb (first * prime) ≠ others.foldl absorb (second * prime) := by
  intro together
  rcases bytes with - | ⟨next, rest⟩
  · obtain rfl := List.eq_nil_of_length_eq_zero lengths.symm
    exact different (mul_prime_injective together)
  · rcases others with - | ⟨nextOther, restOther⟩
    · cases lengths
    have restLengths : rest.length = restOther.length := Nat.succ.inj lengths
    have restShort : rest.length ≤ 1 := Nat.le_of_succ_le_succ short
    rcases rest with - | ⟨last, rest⟩
    · obtain rfl := List.eq_nil_of_length_eq_zero restLengths.symm
      exact block_mul_prime_ne same different (block_eq_of_absorb_eq together)
    · rcases restOther with - | ⟨lastOther, restOther⟩
      · cases restLengths
      have nothing : rest = [] :=
        List.eq_nil_of_length_eq_zero (Nat.le_zero.mp (Nat.le_of_succ_le_succ restShort))
      have nothingOther : restOther = [] :=
        List.eq_nil_of_length_eq_zero
          ((Nat.succ.inj restLengths).symm.trans (List.length_eq_zero_iff.mpr nothing))
      subst nothing nothingOther
      exact
        block_mul_prime_mul_prime_ne same different (block_xor (first * prime) next)
          (block_xor (second * prime) nextOther) (block_eq_of_absorb_eq together)

/-- From one state, different sequences of at most three bytes lead to different states. -/
theorem eq_of_foldl_absorb_eq {hash : UInt64} {bytes others : List UInt8}
    (lengths : bytes.length = others.length) (short : bytes.length ≤ 3)
    (together : bytes.foldl absorb hash = others.foldl absorb hash) : bytes = others := by
  induction bytes generalizing hash others with
  | nil => exact (List.eq_nil_of_length_eq_zero lengths.symm).symm
  | cons byte rest hypothesis =>
    rcases others with - | ⟨other, restOther⟩
    · cases lengths
    have restLengths : rest.length = restOther.length := Nat.succ.inj lengths
    have restShort : rest.length ≤ 2 := Nat.le_of_succ_le_succ short
    by_cases equal : byte = other
    · subst equal
      have tails : rest = restOther :=
        hypothesis restLengths (Nat.le_succ_of_le restShort) together
      rw [tails]
    · exfalso
      have same : block (hash ^^^ byte.toUInt64) = block (hash ^^^ other.toUInt64) := by
        rw [block_xor, block_xor]
      have different : hash ^^^ byte.toUInt64 ≠ hash ^^^ other.toUInt64 := by
        intro mixed
        exact equal (UInt8.toUInt64_inj.mp ((UInt64.xor_right_inj hash).mp mixed))
      exact foldl_absorb_ne same different restLengths restShort together

end NativeBoundary.Surface
