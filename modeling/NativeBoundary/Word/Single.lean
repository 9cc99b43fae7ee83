import NativeBoundary.Word.Hexadecimal

/-!
# Single precision numbers as bit patterns

A number of single precision crosses the boundary by its 32 bits, so that a
not-a-number keeps its payload and the two zeros stay apart.  Only the sign
class of a number and the nearest number to a count are ever computed.
-/

namespace NativeBoundary.Word

/-- A single precision number, held by its bits. -/
structure Single where
  bits : UInt32
deriving DecidableEq, Repr, Inhabited

namespace Single

/-- The positive zero, which is also the default payload of an absent value. -/
def zero : Single := ⟨0⟩

theorem default_eq_zero : (default : Single) = zero := rfl

/-- The quiet not-a-number that the library makes itself. -/
def notANumber : Single := ⟨0x7fc00000⟩

def magnitude (number : Single) : UInt32 :=
  number.bits &&& 0x7fffffff

/-- All exponent bits are set and the fraction is not empty. -/
def isNaN (number : Single) : Bool :=
  0x7f800000 < number.magnitude

def signBit (number : Single) : Bool :=
  0x80000000 ≤ number.bits

/-- Strictly below zero; neither zero nor any not-a-number is. -/
def isNegative (number : Single) : Bool :=
  number.signBit && number.magnitude != 0 && !number.isNaN

/-- Strictly above zero; neither zero nor any not-a-number is. -/
def isPositive (number : Single) : Bool :=
  !number.signBit && number.magnitude != 0 && !number.isNaN

/-- The bits of the positive infinity, the bound of every rounded count. -/
def infinityBits : Nat := 0x7f800000

/-- Divide by a power of two and round to the nearest number, a tie to the even one. -/
def roundShift (number shift : Nat) : Nat :=
  let quotient := number >>> shift
  let remainder := number - (quotient <<< shift)
  let half := 1 <<< (shift - 1)
  if shift = 0 ∨ remainder < half ∨ (remainder = half ∧ quotient % 2 = 0) then quotient
  else quotient + 1

/-- The nearest single precision number to a count, a tie to the even fraction. -/
def ofNat (count : Nat) : Single :=
  if count = 0 then zero
  else
    let exponent := count.log2
    let significand :=
      if exponent ≤ 23 then count <<< (23 - exponent)
      else roundShift count (exponent - 23)
    ⟨(min infinityBits (((exponent + 126) <<< 23) + significand)).toUInt32⟩

/-- The negative unit, which a closure may answer for a missing element. -/
def minusOne : Single := ⟨0xbf800000⟩

/-- The text of the bits: the mark and eight digits. -/
def render (number : Single) : String :=
  Hexadecimal.render 8 number.bits.toNat

end Single

/-- Three single precision numbers side by side. -/
structure Vector3 where
  x : Single
  y : Single
  z : Single
deriving DecidableEq, Repr, Inhabited

namespace Vector3

def zero : Vector3 := ⟨.zero, .zero, .zero⟩

def splat (number : Single) : Vector3 := ⟨number, number, number⟩

end Vector3

end NativeBoundary.Word
