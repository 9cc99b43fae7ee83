import NativeBoundary.Gateway.Buffers
import NativeBoundary.Overrides
import NativeBoundary.Proofs.Run.Yields
import NativeBoundary.Reference.Table

/-!
# Both codings of optional values

The caller and the reference library each have their own reading and writing of optional
values over one wire form.  A reading is fixed by the presence byte: the payload counts
behind the byte one, and behind no other.  A writing is fixed by the value.  Everything
else follows from these two laws for every pair of a reading and a writing, whichever
side they belong to, and the calls with optional values are instances of them.
-/

namespace NativeBoundary

namespace Wire.Optional

variable {α : Type}

/-- The readings of a wire form: two of the caller, and that of the library. -/
def readings : List (Optional α → Option α) :=
  [decode, toOption, Reference.decodeOptional]

/-- The writings of an optional value: two of the caller, and that of the library. -/
def writings [Inhabited α] : List (Option α → Optional α) :=
  [encode, ofOption, Reference.encodeOptional]

/-- A reading answers the payload exactly if the presence byte is one. -/
def Reads (read : Optional α → Option α) : Prop :=
  ∀ payload byte, read ⟨payload, byte⟩ = if byte = 1 then some payload else none

/-- A writing marks a payload with one, and absence with zero beside the default payload. -/
structure Writes [Inhabited α] (write : Option α → Optional α) : Prop where
  absent : write none = ⟨default, 0⟩
  present : ∀ payload, write (some payload) = ⟨payload, 1⟩

/-! ## Each side obeys both laws -/

theorem isPresent_iff (wire : Optional α) : wire.isPresent = true ↔ wire.presence = 1 :=
  beq_iff_eq

theorem reads_decode : Reads (decode : Optional α → Option α) := by
  intro payload byte
  simp [decode, isPresent]

theorem decode_eq_some_iff (wire : Optional α) {payload : α} :
    wire.decode = some payload ↔ wire.presence = 1 ∧ wire.payload = payload := by
  rw [reads_decode wire.payload wire.presence]
  by_cases marked : wire.presence = 1 <;> simp [marked]

theorem reads_decodeOptional : Reads (Reference.decodeOptional : Optional α → Option α) := by
  intro payload byte
  unfold Reference.decodeOptional
  split
  next marked => exact (if_pos marked).symm
  next other => exact (if_neg other).symm

theorem reads_of_mem {read : Optional α → Option α} (member : read ∈ readings) : Reads read := by
  simp only [readings, List.mem_cons, List.not_mem_nil, or_false] at member
  rcases member with rfl | rfl | rfl
  · exact reads_decode
  · exact reads_decode
  · exact reads_decodeOptional

variable [Inhabited α]

theorem writes_of_mem {write : Option α → Optional α} (member : write ∈ writings) :
    Writes write := by
  simp only [writings, List.mem_cons, List.not_mem_nil, or_false] at member
  rcases member with rfl | rfl | rfl <;> exact ⟨rfl, fun _ => rfl⟩

/-! ## What follows from the laws -/

variable {read : Optional α → Option α} {write other : Option α → Optional α}

/-- There is only one writing. -/
theorem Writes.unique (writes : Writes write) (others : Writes other) (value : Option α) :
    write value = other value := by
  cases value with
  | none => rw [writes.absent, others.absent]
  | some payload => rw [writes.present, others.present]

theorem Reads.read_write (reads : Reads read) (writes : Writes write) (value : Option α) :
    read (write value) = value := by
  cases value with
  | none =>
    rw [writes.absent, reads]
    rfl
  | some payload =>
    rw [writes.present, reads]
    rfl

/-- A wire form that is marked as present is written as it was read. -/
theorem Reads.write_read (reads : Reads read) (writes : Writes write) {wire : Optional α}
    (marked : wire.presence = 1) : write (read wire) = wire := by
  rcases wire with ⟨payload, byte⟩
  obtain rfl : byte = 1 := marked
  rw [reads, if_pos rfl, writes.present]

end Wire.Optional

namespace Gateway

open Crossing Wire Word

variable {W : Type}

/-! ## Calls with optional values -/

theorem option1_yields (gateway : Gateway W) {value : Option Single} {wire : Optional Single}
    {world after : W}
    (ran :
      (gateway.exports.patternFfiOption1 (.encode value)).run world = (wire, after)) :
    Yields (gateway.option1 value) world wire.decode after :=
  (Yields.native ran).bind (.pure wire.decode)

variable (isDynamic : Bool) (value : Option Single) (world : Reference.Heap)

theorem option1_yields_value :
    Yields (option1 ⟨Reference.table, isDynamic⟩ value) world value world := by
  have returned :
      Yields (option1 ⟨Reference.table, isDynamic⟩ value) world (Optional.encode value).decode
        world := option1_yields _ rfl
  rwa [Optional.decode_encode] at returned

theorem option2_yields_value :
    Yields (option2 ⟨Reference.table, isDynamic⟩ value) world (value.getD .notANumber) world := by
  have read : Reference.decodeOptional (Optional.encode value) = value :=
    Optional.reads_decodeOptional.read_write (Optional.writes_of_mem List.mem_cons_self) value
  have computed :
      (Reference.table.patternFfiOption2 (.encode value)).run world =
        (value.getD .notANumber, world) :=
    congrArg (fun given : Option Single => (given.getD .notANumber, world)) read
  exact .native computed

/-- For payloads of every type: each reading of either side answers the payload exactly if the
presence byte is one, whatever the payload.  Each writing of either side is undone by each reading,
all of them write the same payload and the same byte, zero beside the default payload for an absent
value, and a form with the byte one is written again as it was read.

A value comes back from the reference library bit for bit, or as a not-a-number where it is absent.
Whatever a library returns in its place, the caller gets its payload exactly if it is marked by the
byte one. -/
theorem optional_codings_agree :
    (∀ (α : Type) [Inhabited α],
      (∀ wire : Optional α, wire.isPresent = true ↔ wire.presence = 1) ∧
      (∀ read ∈ Optional.readings, ∀ (payload : α) (byte : UInt8),
        read ⟨payload, byte⟩ = if byte = 1 then some payload else none) ∧
      (∀ write ∈ Optional.writings,
        write none = (⟨default, 0⟩ : Optional α) ∧
          ∀ other ∈ Optional.writings, ∀ value : Option α,
            (write value).payload = (other value).payload ∧
              (write value).presence = (other value).presence) ∧
      ∀ read ∈ Optional.readings, ∀ write ∈ Optional.writings,
        (∀ value : Option α, read (write value) = value) ∧
          ∀ wire : Optional α, wire.presence = 1 → write (read wire) = wire) ∧
    (∀ (isDynamic : Bool) (value : Option Single) (world : Reference.Heap),
      Yields (option1 ⟨Reference.table, isDynamic⟩ value) world value world ∧
        Yields (option2 ⟨Reference.table, isDynamic⟩ value) world (value.getD .notANumber) world) ∧
    Single.notANumber.isNaN = true ∧
    ∀ (W : Type) (gateway : Gateway W) (value : Option Single) (wire : Optional Single)
      (world after : W),
      (gateway.exports.patternFfiOption1 (.encode value)).run world = (wire, after) →
        ∃ result,
          Yields (gateway.option1 value) world result after ∧
            ∀ payload, result = some payload ↔ wire.presence = 1 ∧ wire.payload = payload := by
  refine ⟨fun α _ => ⟨Optional.isPresent_iff, ?_, ?_, ?_⟩, ?_, by decide, ?_⟩
  · intro read member
    exact Optional.reads_of_mem member
  · intro write member
    have writes := Optional.writes_of_mem member
    refine ⟨writes.absent, fun other otherMember value => ?_⟩
    rw [writes.unique (Optional.writes_of_mem otherMember) value]
    exact ⟨rfl, rfl⟩
  · intro read readMember write writeMember
    have reads := Optional.reads_of_mem readMember
    have writes := Optional.writes_of_mem writeMember
    exact ⟨reads.read_write writes, fun wire marked => reads.write_read writes marked⟩
  · intro isDynamic value world
    exact ⟨option1_yields_value isDynamic value world, option2_yields_value isDynamic value world⟩
  · intro W gateway value wire world after ran
    exact ⟨wire.decode, gateway.option1_yields ran, fun _ => wire.decode_eq_some_iff⟩

/-- A signalling not-a-number on both sides, and a stale payload that is returned behind the byte
two. -/
theorem optional_codings_agree_stale :
    let signalling : Single := ⟨0x7fa00001⟩
    let marked : Optional Single := ⟨signalling, 1⟩
    let stale : Gateway Reference.Heap :=
      ⟨Overrides.apply { presence := some 2 } Reference.table, false⟩
    marked.presence = 1 ∧
      Reference.encodeOptional (Optional.decode marked) = marked ∧
      Optional.encode (Reference.decodeOptional marked) = marked ∧
      Yields (stale.option1 (some signalling)) .empty none .empty := by
  intro signalling marked stale
  rcases optional_codings_agree with ⟨codings, -, -, replaced⟩
  rcases codings Single with ⟨-, -, -, inverse⟩
  rcases replaced _ stale (some signalling) ⟨signalling, 2⟩ .empty .empty rfl with
    ⟨result, returned, judged⟩
  have absent : result = none := by
    refine Option.eq_none_iff_forall_ne_some.mpr fun payload present => ?_
    exact absurd ((judged payload).mp present).1 (by decide)
  subst absent
  refine ⟨rfl, ?_, ?_, returned⟩
  · exact (inverse Optional.decode (by simp [Optional.readings]) Reference.encodeOptional
      (by simp [Optional.writings])).2 marked rfl
  · exact (inverse Reference.decodeOptional (by simp [Optional.readings]) Optional.encode
      (by simp [Optional.writings])).2 marked rfl

end Gateway

end NativeBoundary
