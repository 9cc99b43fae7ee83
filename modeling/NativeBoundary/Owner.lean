import NativeBoundary.Crossing
import NativeBoundary.Status

/-!
# Owners of objects

An owner holds the handle of one object of the library and destroys it once.  A
factory that fails, or that reports success without a handle, leaves no owner
behind.  An owner counts as destroyed as soon as its destroy export was called,
whatever status that export reports.
-/

namespace NativeBoundary

open NativeBoundary.Log

/-- What an owner holds. -/
inductive Ownership
  | live (handle : Handle)
  | destroyed
deriving DecidableEq, Repr

/-- The owner of one object of the type that `typeName` names. -/
structure Owner where
  typeName : String
  state : Ownership
deriving DecidableEq, Repr

namespace Owner

variable {W α : Type}

/-- Whether the object was not destroyed yet. -/
def isLive (owner : Owner) : Bool :=
  match owner.state with
  | .live _ => true
  | .destroyed => false

def factoryFailed (typeName : String) (status : Status) : Record :=
  Source.handles.record .debug "factory failed"
    [("type_name", .text typeName), ("status", .shown status.render)]

/-- The record of a factory that reported success and wrote no handle. -/
def factoryWithoutHandle (typeName : String) : Record :=
  Source.handles.record .debug "factory reported success without a handle"
    [("type_name", .text typeName)]

def handleCreated (typeName : String) : Record :=
  Source.handles.record .debug "handle created"
    [("type_name", .text typeName), ("handle", .address)]

def handleDestroyed (typeName : String) (status : Status) : Record :=
  Source.handles.record .debug "handle destroyed"
    [("type_name", .text typeName), ("status", .shown status.render)]

/-- The record of an object whose destroy export failed when its owner went away. -/
def dropFailed (typeName : String) (error : CallError) : Record :=
  Source.handles.record .warn "destroy failed during drop"
    [("type_name", .text typeName), ("error", .shown error.message)]

def usedAfterDestroy (typeName : String) : String :=
  typeName ++ " used after destroy"

/-- The owner of what a factory wrote, judged by the status it reported. -/
def ofFactory (typeName : String) (status : Status) (written : Handle) : CallResult Owner :=
  match status.toResult with
  | .error error => .error error
  | .ok () =>
    if written.isNull then .error (.callFailed .null)
    else .ok ⟨typeName, .live written⟩

def factoryRecord (typeName : String) (status : Status) (written : Handle) : Record :=
  if status.isOk then
    if written.isNull then factoryWithoutHandle typeName else handleCreated typeName
  else factoryFailed typeName status

/-- Run a factory on an empty slot and own what it writes. -/
def create (typeName : String) (factory : Slot → Crossing W (Status × Slot)) :
    Crossing W (CallResult Owner) := do
  let (status, slot) ← factory (some .null)
  let written := slot.getD .null
  Crossing.raise (factoryRecord typeName status written)
  pure (ofFactory typeName status written)

/-- The handle for a call; an owner that was destroyed panics. -/
def handle (owner : Owner) : Crossing W Handle :=
  match owner.state with
  | .live handle => pure handle
  | .destroyed => Crossing.panic (usedAfterDestroy owner.typeName)

/-- Destroy the object, unless that was done before, and answer the owner as it is afterwards. -/
def destroy (owner : Owner) (destroyExport : Handle → Crossing W (Status × Slot)) :
    Crossing W (CallResult Unit × Owner) :=
  match owner.state with
  | .destroyed => pure (.ok (), owner)
  | .live handle => do
    let (status, _) ← destroyExport handle
    Crossing.raise (handleDestroyed owner.typeName status)
    pure (status.toResult, { owner with state := .destroyed })

/-- Let an owner go: destroy its object, and tell about a failure to do so. -/
def drop (owner : Owner) (destroyExport : Handle → Crossing W (Status × Slot)) :
    Crossing W Unit := do
  let (result, _) ← owner.destroy destroyExport
  match result with
  | .ok () => pure ()
  | .error error => Crossing.raise (dropFailed owner.typeName error)

end Owner

end NativeBoundary
