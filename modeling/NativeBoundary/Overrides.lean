import NativeBoundary.Exports

/-!
# Changed tables

Single exports of a table can be replaced before a gateway is established, so
that a library reports other statuses, bytes or hashes than it would.
-/

namespace NativeBoundary

open NativeBoundary.Wire

/-- What a changed table reports in place of its own answers; `none` leaves an export alone. -/
structure Overrides where
  guardHash : Option UInt64 := none
  /-- The status of destroying a service, which is destroyed all the same. -/
  serviceDestroy : Option Status := none
  /-- The status of destroying a plain instance, which is destroyed all the same. -/
  plainDestroy : Option Status := none
  /-- The status of every factory, none of which writes a handle. -/
  factory : Option Status := none
  /-- The status of two factories that do write a handle. -/
  factoryWithHandle : Option Status := none
  discriminant : Option UInt32 := none
  /-- The presence byte of an optional number on its way back. -/
  presence : Option UInt8 := none
  /-- The byte of a flag on its way back. -/
  flagByte : Option UInt8 := none
  status : Option Status := none
deriving DecidableEq, Repr

namespace Overrides

variable {W : Type}

/-- Report another status for work that is done all the same. -/
def reporting {α : Type} (status : Option Status) (work : StateM W (Status × α)) :
    StateM W (Status × α) := do
  let (own, rest) ← work
  pure (status.getD own, rest)

def instead (status : Option Status) (work : StateM W Status) : StateM W Status :=
  match status with
  | some fixed => pure fixed
  | none => work

def refusing (status : Option Status) (slot : Slot) (work : StateM W (Status × Slot)) :
    StateM W (Status × Slot) :=
  match status with
  | some fixed => pure (fixed, slot)
  | none => work

/-- The table with the changes. -/
def apply (changes : Overrides) (table : Exports W) : Exports W :=
  { table with
    surfaceGuard :=
      match changes.guardHash with
      | some hash => pure hash
      | none => table.surfaceGuard
    simpleServiceDestroy := fun slot =>
      reporting changes.serviceDestroy (table.simpleServiceDestroy slot)
    simpleClassDestroy := fun slot =>
      reporting changes.plainDestroy (table.simpleClassDestroy slot)
    simpleServiceNewWith := fun slot value =>
      refusing changes.factory slot
        (reporting changes.factoryWithHandle (table.simpleServiceNewWith slot value))
    simpleServiceNewWithout := fun slot =>
      refusing changes.factory slot (table.simpleServiceNewWithout slot)
    simpleServiceNewFailing := fun slot value =>
      refusing changes.factory slot (table.simpleServiceNewFailing slot value)
    simpleClassCreate := fun slot =>
      refusing changes.factory slot
        (reporting changes.factoryWithHandle (table.simpleClassCreate slot))
    documented := fun number =>
      match changes.discriminant with
      | some discriminant => pure discriminant
      | none => table.documented number
    patternFfiOption1 := fun value => do
      let own ← table.patternFfiOption1 value
      pure { own with presence := changes.presence.getD own.presence }
    patternFfiBool := fun flag => do
      let own ← table.patternFfiBool flag
      pure ⟨changes.flagByte.getD own.byte⟩
    simpleServiceMethodResult := fun handle argument =>
      instead changes.status (table.simpleServiceMethodResult handle argument)
    simpleServiceMethodVoidFfiError := fun handle =>
      instead changes.status (table.simpleServiceMethodVoidFfiError handle)
    simpleClassResult := fun handle argument =>
      instead changes.status (table.simpleClassResult handle argument)
    panics := instead changes.status table.panics
    complexArgs1 := fun vector given =>
      instead changes.status (table.complexArgs1 vector given) }

end Overrides

end NativeBoundary
