/-!
# Handles and the slots they are written to

A handle names an object inside the library by its address, and the address
zero is the null handle.  Factories and destroy exports are given a pointer to
a slot, which may itself be null.
-/

namespace NativeBoundary

/-- The address of an object inside the library. -/
structure Handle where
  address : Nat
deriving DecidableEq, Repr, Inhabited

namespace Handle

/-- The handle that names no object. -/
def null : Handle := ⟨0⟩

def isNull (handle : Handle) : Bool :=
  handle == null

theorem isNull_eq_false_iff {handle : Handle} : handle.isNull = false ↔ handle ≠ .null :=
  beq_eq_false_iff_ne

end Handle

/-- A pointer to a place that holds a handle; `none` is the null pointer. -/
abbrev Slot := Option Handle

end NativeBoundary
