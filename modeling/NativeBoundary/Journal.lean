import NativeBoundary.Handle
import NativeBoundary.Settings.Basic
import NativeBoundary.Symbol

/-!
# The journal of a session

A session holds the private state of the library beside a journal of everything
that crossed the boundary: which exports were called on which handles, which
symbols were looked up, which records were raised, and how the writing of them was
set up.  The journal only grows, and its newest entry comes first.
-/

namespace NativeBoundary

/-- Something that happened at the boundary. -/
inductive Entry
  /-- An export was called; a method or a destroy export names its handle. -/
  | called (symbol : Symbol) (handle : Option Handle)
  | looked (symbol : Symbol)
  | raised (record : Log.Record)
  | configured (part : LoggingSection)
deriving DecidableEq, Repr

/-- Everything that happened so far, the newest entry first. -/
abbrev Journal := List Entry

namespace Journal

def callCount (journal : Journal) (symbol : Symbol) : Nat :=
  journal.countP fun entry =>
    match entry with
    | .called called _ => called == symbol
    | _ => false

/-- The exports that were called, the newest first. -/
def calls (journal : Journal) : List (Symbol × Option Handle) :=
  journal.filterMap fun entry =>
    match entry with
    | .called symbol handle => some (symbol, handle)
    | _ => none

/-- The records that were raised, the oldest first. -/
def records (journal : Journal) : List Log.Record :=
  (journal.filterMap fun entry =>
    match entry with
    | .raised record => some record
    | _ => none).reverse

def isConfigured (journal : Journal) : Bool :=
  journal.any fun entry =>
    match entry with
    | .configured _ => true
    | _ => false

@[simp]
theorem callCount_nil (symbol : Symbol) : callCount [] symbol = 0 := rfl

@[simp]
theorem callCount_raised (record : Log.Record) (journal : Journal) (symbol : Symbol) :
    callCount (.raised record :: journal) symbol = callCount journal symbol := by
  simp [callCount]

@[simp]
theorem callCount_called (called : Symbol) (handle : Option Handle) (journal : Journal)
    (symbol : Symbol) :
    callCount (.called called handle :: journal) symbol =
      callCount journal symbol + if called = symbol then 1 else 0 := by
  simp [callCount, List.countP_cons]

end Journal

/-- The state of a session: what the library keeps, and what was seen of it. -/
structure Session (W : Type) where
  world : W
  journal : Journal := []

end NativeBoundary
