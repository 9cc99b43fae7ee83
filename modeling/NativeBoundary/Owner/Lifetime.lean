import NativeBoundary.Owner

/-!
# The lifetime of an owner

An owner is followed from the factory that makes it through two attempts to
destroy its object to a use after that.
-/

namespace NativeBoundary

/-- What is seen of an owner in the course of its lifetime. -/
structure Lifetime where
  typeName : String
  liveBefore : Bool
  handle : Handle
  firstDestroy : CallResult Unit
  secondDestroy : CallResult Unit
  liveAfter : Bool
  laterUse : Outcome Handle

namespace Owner

variable {W : Type}

/-- Follow an owner from its factory to its end. -/
def lifetime (typeName : String) (factory : Slot → Crossing W (Status × Slot))
    (destroyExport : Handle → Crossing W (Status × Slot)) : Crossing W (CallResult Lifetime) := do
  match ← Owner.create typeName factory with
  | .error error => pure (.error error)
  | .ok owner => do
    let handle ← owner.handle
    let (firstDestroy, destroyed) ← owner.destroy destroyExport
    let (secondDestroy, ended) ← destroyed.destroy destroyExport
    let laterUse ← Crossing.attempt ended.handle
    ended.drop destroyExport
    pure (.ok {
      typeName := owner.typeName
      liveBefore := owner.isLive
      handle, firstDestroy, secondDestroy
      liveAfter := ended.isLive
      laterUse })

/-- Follow an owner whose factory writes a given handle and reports a given status, and whose
object is always destroyed successfully. -/
def lifetimeOf (typeName : String) (status : Status) (handle : Handle) :
    Crossing W (CallResult Lifetime) :=
  lifetime typeName (fun slot => pure (status, slot.map fun _ => handle))
    fun _ => pure (.ok, some .null)

end Owner

end NativeBoundary
