/-!
# Values that may be absent, and flags

An optional value crosses the boundary as a payload beside a presence byte, and
a flag as one byte.  Only the byte one stands for presence or truth; every other
byte reads as absence or falsehood.
-/

namespace NativeBoundary.Wire

/-- An optional value as it crosses the boundary. -/
structure Optional (α : Type) where
  payload : α
  presence : UInt8
deriving DecidableEq, Repr

namespace Optional

variable {α : Type} [Inhabited α]

def present (payload : α) : Optional α := ⟨payload, 1⟩

/-- An absent value; its payload is the default one and nobody reads it. -/
def absent : Optional α := ⟨default, 0⟩

/-- The form in which a caller hands over an optional value. -/
def encode : Option α → Optional α
  | some payload => present payload
  | none => absent

omit [Inhabited α] in
/-- Only the byte one marks presence. -/
def isPresent (wire : Optional α) : Bool :=
  wire.presence == 1

omit [Inhabited α] in
/-- What a caller reads: the payload exactly when it is marked as present. -/
def decode (wire : Optional α) : Option α :=
  if wire.isPresent then some wire.payload else none

/-- The conversion of an optional value into its wire form. -/
def ofOption (value : Option α) : Optional α := encode value

omit [Inhabited α] in
/-- The conversion of a wire form into an optional value. -/
def toOption (wire : Optional α) : Option α := wire.decode

@[simp]
theorem decode_encode (value : Option α) : (encode value).decode = value := by
  cases value <;> rfl

end Optional

/-- A flag as it crosses the boundary. -/
structure Flag where
  byte : UInt8
deriving DecidableEq, Repr, Inhabited

namespace Flag

/-- The form in which a caller hands over a flag. -/
def encode (value : Bool) : Flag :=
  ⟨if value then 1 else 0⟩

/-- What a caller reads: only the byte one is true. -/
def decode (flag : Flag) : Bool :=
  flag.byte == 1

@[simp]
theorem decode_encode (value : Bool) : (encode value).decode = value := by
  cases value <;> rfl

end Flag

end NativeBoundary.Wire
