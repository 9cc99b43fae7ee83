import NativeBoundary.Status

/-!
# The sign class of a number

The library classifies a number by its sign and reports the class as a
discriminant of 32 bits.  A discriminant that names no class is an error of the
call, never a value.
-/

namespace NativeBoundary.Wire

/-- The classes that the library tells apart. -/
inductive SignClass
  | negative
  /-- Zero, or not a number. -/
  | neutral
  | positive
deriving DecidableEq, Repr, Inhabited

namespace SignClass

def discriminant : SignClass → UInt32
  | .negative => 0
  | .neutral => 1
  | .positive => 2

def name : SignClass → String
  | .negative => "A"
  | .neutral => "B"
  | .positive => "C"

def typeName : String := "EnumDocumented"

/-- Read a discriminant; one that names no class is refused with its value. -/
def ofDiscriminant (value : UInt32) : CallResult SignClass :=
  if value = 0 then .ok .negative
  else if value = 1 then .ok .neutral
  else if value = 2 then .ok .positive
  else .error (.invalidDiscriminant typeName value)

@[simp]
theorem ofDiscriminant_discriminant (sign : SignClass) :
    ofDiscriminant sign.discriminant = .ok sign := by
  cases sign <;> rfl

end SignClass

end NativeBoundary.Wire
