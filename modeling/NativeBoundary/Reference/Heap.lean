import NativeBoundary.Handle
import NativeBoundary.Status

/-!
# The objects of the reference library

The library keeps services and plain instances on a heap.  Addresses are handed
out in order and never again, so a handle names at most one object.
-/

namespace NativeBoundary.Reference

/-- The state of a service. -/
structure Service where
  /-- The value it was made with. -/
  value : UInt32 := 0
  /-- How often its empty method was called. -/
  voidCalls : UInt32 := 0
  /-- How many flags were set in the last list of them. -/
  trueFlags : UInt32 := 0
deriving DecidableEq, Repr, Inhabited

/-- The state of a plain instance: the value last stored in it. -/
structure Instance where
  value : UInt32 := 0
deriving DecidableEq, Repr, Inhabited

/-- The objects that exist, by address, and the next address. -/
structure Heap where
  next : Nat
  services : Nat → Option Service
  instances : Nat → Option Instance

namespace Heap

/-- No objects; the address zero is never handed out. -/
def empty : Heap := ⟨1, fun _ => none, fun _ => none⟩

/-- Set or clear the object at an address. -/
def update {α : Type} (objects : Nat → Option α) (address : Nat) (object : Option α) :
    Nat → Option α :=
  fun other => if other = address then object else objects other

/-- The service that a handle names; the null handle names none. -/
def service? (heap : Heap) (handle : Handle) : Option Service :=
  if handle.isNull then none else heap.services handle.address

/-- The instance that a handle names; the null handle names none. -/
def instance? (heap : Heap) (handle : Handle) : Option Instance :=
  if handle.isNull then none else heap.instances handle.address

def setService (heap : Heap) (handle : Handle) (object : Option Service) : Heap :=
  { heap with services := update heap.services handle.address object }

def setInstance (heap : Heap) (handle : Handle) (object : Option Instance) : Heap :=
  { heap with instances := update heap.instances handle.address object }

def allocateService (heap : Heap) (object : Service) : Handle × Heap :=
  (⟨heap.next⟩,
    { heap with
      next := heap.next + 1
      services := update heap.services heap.next (some object) })

def allocateInstance (heap : Heap) (object : Instance) : Handle × Heap :=
  (⟨heap.next⟩,
    { heap with
      next := heap.next + 1
      instances := update heap.instances heap.next (some object) })

@[simp]
theorem update_same {α : Type} (objects : Nat → Option α) (address : Nat)
    (object : Option α) : update objects address object address = object := by
  simp [update]

theorem update_other {α : Type} (objects : Nat → Option α) {address other : Nat}
    (object : Option α) (different : other ≠ address) :
    update objects address object other = objects other := by
  simp [update, different]

end Heap

end NativeBoundary.Reference
