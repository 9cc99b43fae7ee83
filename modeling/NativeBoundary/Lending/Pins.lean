import NativeBoundary.Crossing

/-!
# Pins

A buffer is pinned while it is lent to the library.  Each call counts its own
pins: how many are held, and how many were taken and given back so far.
`pinned` takes the pins of a call and gives them back on every way out of it.
-/

namespace NativeBoundary.Lending

open NativeBoundary.Log

/-- The pins of one call. -/
structure Pins where
  active : Nat := 0
  acquired : Nat := 0
  released : Nat := 0
deriving DecidableEq, Repr, Inhabited

namespace Pins

def none : Pins := {}

def acquire (pins : Pins) : Pins :=
  { pins with active := pins.active + 1, acquired := pins.acquired + 1 }

def release (pins : Pins) : Pins :=
  { pins with active := pins.active - 1, released := pins.released + 1 }

def acquiredRecord (length : Nat) (pins : Pins) : Record :=
  Source.lending.record .trace "pin acquired"
    [("len", .number length), ("active", .number pins.active)]

def releasedRecord (pins : Pins) : Record :=
  Source.lending.record .trace "pin released" [("active", .number pins.active)]

end Pins

variable {W α : Type}

def acquire (pins : Pins) (length : Nat) : Crossing W Pins := do
  let after := pins.acquire
  Crossing.raise (after.acquiredRecord length)
  pure after

def release (pins : Pins) : Crossing W Pins := do
  let after := pins.release
  Crossing.raise after.releasedRecord
  pure after

/-- Take a pin for each length on top of those that are held, run a part of the call, and give
these pins back however it ends. -/
def pinnedOver (pins : Pins) (lengths : List Nat) (body : Crossing W α) :
    Crossing W (Outcome α × Pins) := do
  let held ← lengths.foldlM acquire pins
  let outcome ← Crossing.attempt body
  let left ← lengths.foldlM (fun pins _ => release pins) held
  pure (outcome, left)

/-- Run a call with pins of its own, and end as it ends. -/
def pinned (lengths : List Nat) (body : Crossing W α) : Crossing W α := do
  let (outcome, _) ← pinnedOver Pins.none lengths body
  Crossing.resume outcome

end NativeBoundary.Lending
