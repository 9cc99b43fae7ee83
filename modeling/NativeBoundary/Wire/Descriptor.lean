/-!
# Descriptors of lent buffers

A buffer crosses the boundary as a descriptor.  A descriptor without memory
behind it claims a length all the same, and reads as empty whatever it claims.
-/

namespace NativeBoundary.Wire

/-- The description of a buffer that is lent for one call. -/
inductive Descriptor (α : Type) where
  /-- No memory stands behind the claimed length. -/
  | null (claimed : Nat)
  | lent (elements : List α)
deriving DecidableEq, Repr

namespace Descriptor

variable {α β : Type}

/-- What a reader of the descriptor finds. -/
def elements : Descriptor α → List α
  | .null _ => []
  | .lent elements => elements

def length : Descriptor α → Nat
  | .null claimed => claimed
  | .lent elements => elements.length

/-- The descriptor after its elements were replaced; there is nothing to replace in a null one. -/
def write (descriptor : Descriptor α) (elements : List α) : Descriptor α :=
  match descriptor with
  | .null claimed => .null claimed
  | .lent _ => .lent elements

@[simp]
theorem elements_null (claimed : Nat) : (null claimed : Descriptor α).elements = [] := rfl

@[simp]
theorem elements_lent (elements : List α) : (lent elements).elements = elements := rfl

@[simp]
theorem write_null (claimed : Nat) (elements : List α) :
    (null claimed).write elements = null claimed := rfl

@[simp]
theorem write_lent (old new : List α) : (lent old).write new = lent new := rfl

end Descriptor

end NativeBoundary.Wire
