import NativeBoundary.Proofs.Run.Footprints

/-!
# Computations that never call an export

A computation avoids an export if it leaves the calls of that export in the
journal as they are, wherever it is started.  What stays within other exports
avoids it, and so no plain call and no method of an object reaches the guard, a
factory or a destroy export.
-/

namespace NativeBoundary

/-- The handles with which an export was called, the newest call first. -/
def Journal.handles (journal : Journal) (symbol : Symbol) : List (Option Handle) :=
  journal.filterMap fun entry =>
    match entry with
    | .called called handle => if called = symbol then some handle else none
    | _ => none

namespace Journal

variable (journal : Journal) (symbol : Symbol)

@[simp]
theorem handles_raised (record : Log.Record) :
    handles (.raised record :: journal) symbol = handles journal symbol := rfl

@[simp]
theorem handles_called (called : Symbol) (handle : Option Handle) :
    handles (.called called handle :: journal) symbol =
      (if called = symbol then [handle] else []) ++ handles journal symbol := by
  by_cases same : called = symbol <;> simp [handles, same]

end Journal

/-- Entries that call other exports hold no call of an export. -/
theorem Journal.handles_of_within {calls : Symbol → Prop} {symbol : Symbol} {added : List Entry}
    (within : ∀ entry ∈ added, Entry.IsWithin calls entry) (other : ¬ calls symbol) :
    Journal.handles added symbol = [] := by
  refine List.filterMap_eq_nil_iff.mpr fun entry member => ?_
  cases entry with
  | called called handle =>
    refine if_neg ?_
    rintro rfl
    exact other (within _ member)
  | looked looked => rfl
  | raised record => rfl
  | configured part => rfl

variable {W α β : Type} {symbol : Symbol}

namespace Crossing

/-- A computation that leaves the calls of an export as they are. -/
def Avoids (symbol : Symbol) (body : Crossing W α) : Prop :=
  ∀ session, (body.run session).2.journal.handles symbol = session.journal.handles symbol

/-- A computation that stays within other exports avoids an export. -/
theorem Within.avoids {calls : Symbol → Prop} {body : Crossing W α} (within : Within calls body)
    (other : ¬ calls symbol) : Avoids symbol body := by
  rintro ⟨world, journal⟩
  rcases within world with ⟨outcome, after, added, fits, ran⟩
  rw [ran]
  change Journal.handles (added ++ journal) symbol = Journal.handles journal symbol
  rw [Journal.handles, List.filterMap_append]
  change Journal.handles added symbol ++ Journal.handles journal symbol = _
  rw [Journal.handles_of_within fits other, List.nil_append]

namespace Avoids

theorem pure (value : α) : Avoids symbol (Pure.pure value : Crossing W α) := fun _ => rfl

theorem bind {first : Crossing W α} {next : α → Crossing W β} (avoids : Avoids symbol first)
    (rest : ∀ value, Avoids symbol (next value)) : Avoids symbol (first >>= next) := by
  intro session
  rw [run_bind, ← avoids session]
  rcases first.run session with ⟨outcome, after⟩
  cases outcome with
  | returned value => exact rest value after
  | panicked message => rfl

theorem attempt {body : Crossing W α} (avoids : Avoids symbol body) :
    Avoids symbol (Crossing.attempt body) :=
  fun session => avoids session

end Avoids

end Crossing

namespace Gateway

open Crossing

variable (gateway : Gateway W)

/-- No call without an object reaches a reserved export. -/
theorem perform_avoids (reserved : symbol.isReserved = true) (call : Call) :
    Avoids symbol (gateway.perform call) :=
  (gateway.perform_within call).avoids (Symbol.not_isFree_of_isReserved reserved)

/-- No method of a service reaches a reserved export. -/
theorem performService_avoids (reserved : symbol.isReserved = true) (owner : Owner)
    (call : ServiceCall) : Avoids symbol (gateway.performService owner call) :=
  (gateway.performService_within owner call).avoids (Symbol.not_isFree_of_isReserved reserved)

/-- No method of a plain instance reaches a reserved export. -/
theorem performPlain_avoids (reserved : symbol.isReserved = true) (owner : Owner)
    (call : PlainCall) : Avoids symbol (gateway.performPlain owner call) :=
  (gateway.performPlain_within owner call).avoids (Symbol.not_isFree_of_isReserved reserved)

end Gateway

end NativeBoundary
