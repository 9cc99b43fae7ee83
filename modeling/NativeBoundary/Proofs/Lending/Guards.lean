import NativeBoundary.Lending.Context

/-!
# Guards of pinned buffers

Whoever pins a buffer holds a guard, and the buffer stays pinned until its guard is
dropped.  Guards are numbered in the order in which they are made.  What happens to
them in an exchange is told here by who holds them, a name or a part of a call, and
without a look at the counts of pins: a guard that loses its name is dropped, a part
of a call drops its own guards on every way out of it, and at the end of an exchange
the guards are dropped that names still hold.

The main statements are that only guards that are alive are ever dropped, and that
none is alive in the end.
-/

namespace NativeBoundary.Lending

/-- What happens to a guard. -/
inductive GuardEvent
  /-- One more guard is made, over a buffer of so many elements. -/
  | made (length : Nat)
  | dropped (guard : Nat)
deriving DecidableEq, Repr

/-- Guards by their numbers: those that are alive, and those that were dropped. -/
structure Guards where
  alive : List Nat := []
  dropped : List Nat := []
  /-- How many were made. -/
  made : Nat := 0
deriving DecidableEq, Repr

namespace Guards

def none : Guards := {}

def after (guards : Guards) : GuardEvent → Guards
  | .made _ => { guards with alive := guards.alive ++ [guards.made], made := guards.made + 1 }
  | .dropped guard =>
    { guards with alive := guards.alive.erase guard, dropped := guards.dropped ++ [guard] }

def afterAll (guards : Guards) (events : List GuardEvent) : Guards :=
  events.foldl after guards

/-- Events of which none drops a guard that is not alive by then. -/
def Allows (guards : Guards) : List GuardEvent → Prop
  | [] => True
  | .made length :: rest => (guards.after (.made length)).Allows rest
  | .dropped guard :: rest =>
    guard ∈ guards.alive ∧ (guards.after (.dropped guard)).Allows rest

/-- Every guard that was made is either alive or was dropped, and dropped once. -/
def Sound (guards : Guards) : Prop :=
  List.Perm (guards.alive ++ guards.dropped) (List.range guards.made)

/-- The counts of pins that the guards call for. -/
def pins (guards : Guards) : Pins :=
  ⟨guards.alive.length, guards.made, guards.dropped.length⟩

/-- What is to be told of an event, with the counts after it. -/
def record (guards : Guards) (event : GuardEvent) : Log.Record :=
  match event with
  | .made length => (guards.after event).pins.acquiredRecord length
  | .dropped _ => (guards.after event).pins.releasedRecord

def records (guards : Guards) : List GuardEvent → List Log.Record
  | [] => []
  | event :: rest => guards.record event :: (guards.after event).records rest

variable {guards : Guards} {guard : Nat} {events : List GuardEvent}

@[simp]
theorem afterAll_append (guards : Guards) (first second : List GuardEvent) :
    guards.afterAll (first ++ second) = (guards.afterAll first).afterAll second :=
  List.foldl_append

theorem records_append (guards : Guards) (first second : List GuardEvent) :
    guards.records (first ++ second) =
      guards.records first ++ (guards.afterAll first).records second := by
  induction first generalizing guards with
  | nil => rfl
  | cons event rest hypothesis =>
    exact congrArg (guards.record event :: ·) (hypothesis (guards.after event))

theorem allows_append {first second : List GuardEvent} :
    guards.Allows (first ++ second) ↔
      guards.Allows first ∧ (guards.afterAll first).Allows second := by
  induction first generalizing guards with
  | nil => exact (true_and _).to_iff.symm
  | cons event rest hypothesis =>
    cases event with
    | made length => exact hypothesis
    | dropped guard =>
      simp only [List.cons_append, Allows, and_assoc]
      exact and_congr_right fun _ => hypothesis

/-! ## Sound guards -/

theorem sound_none : none.Sound := List.Perm.refl []

theorem Sound.made_eq (sound : guards.Sound) :
    guards.made = guards.alive.length + guards.dropped.length := by
  have lengths := sound.length_eq
  rw [List.length_append, List.length_range] at lengths
  exact lengths.symm

theorem Sound.after_made (sound : guards.Sound) (length : Nat) :
    (guards.after (.made length)).Sound := by
  have split :
      List.Perm (guards.alive ++ [guards.made] ++ guards.dropped)
        (guards.alive ++ guards.dropped ++ [guards.made]) := by
    rw [List.append_assoc, List.append_assoc]
    exact List.perm_append_comm.append_left guards.alive
  rw [Sound, after, List.range_succ]
  exact split.trans (sound.append_right [guards.made])

theorem Sound.after_dropped (sound : guards.Sound) (alive : guard ∈ guards.alive) :
    (guards.after (.dropped guard)).Sound := by
  have moved :
      List.Perm (guards.alive.erase guard ++ (guards.dropped ++ [guard]))
        (guards.alive ++ guards.dropped) := by
    have joined := (List.perm_cons_erase alive).symm.append_right guards.dropped
    refine List.Perm.trans ?_ joined
    rw [← List.append_assoc]
    exact List.perm_append_singleton guard (guards.alive.erase guard ++ guards.dropped)
  exact moved.trans sound

theorem Sound.afterAll (sound : guards.Sound) (allowed : guards.Allows events) :
    (guards.afterAll events).Sound := by
  induction events generalizing guards with
  | nil => exact sound
  | cons event rest hypothesis =>
    cases event with
    | made length => exact hypothesis (sound.after_made length) allowed
    | dropped guard => exact hypothesis (sound.after_dropped allowed.1) allowed.2

/-! ## Making and dropping many guards -/

/-- One guard after the other is made over buffers of these lengths. -/
def makings (lengths : List Nat) : List GuardEvent :=
  lengths.map .made

def droppings (chosen : List Nat) : List GuardEvent :=
  chosen.map .dropped

theorem allows_makings (guards : Guards) (lengths : List Nat) :
    guards.Allows (makings lengths) := by
  induction lengths generalizing guards with
  | nil => trivial
  | cons length rest hypothesis => exact hypothesis (guards.after (.made length))

/-- New guards have the next numbers. -/
theorem afterAll_makings (guards : Guards) (lengths : List Nat) :
    guards.afterAll (makings lengths) =
      { guards with
        alive := guards.alive ++ List.range' guards.made lengths.length
        made := guards.made + lengths.length } := by
  induction lengths generalizing guards with
  | nil => simp [makings, afterAll]
  | cons length rest hypothesis =>
    have further := hypothesis (guards.after (.made length))
    rw [makings, List.map_cons, afterAll, List.foldl_cons]
    refine further.trans ?_
    simp [after, List.range'_succ, Nat.add_comm, Nat.add_left_comm]

/-- Guards that are alive beside others can be dropped in any order, and the others stay. -/
theorem allows_droppings {chosen kept : List Nat}
    (alive : List.Perm guards.alive (chosen ++ kept)) :
    guards.Allows (droppings chosen) ∧
      List.Perm (guards.afterAll (droppings chosen)).alive kept := by
  induction chosen generalizing guards with
  | nil => exact ⟨trivial, alive⟩
  | cons guard rest hypothesis =>
    have member : guard ∈ guards.alive := alive.mem_iff.mpr List.mem_cons_self
    have left : List.Perm (guards.after (.dropped guard)).alive (rest ++ kept) := by
      have erased := alive.erase guard
      rwa [List.cons_append, List.erase_cons_head] at erased
    rcases hypothesis left with ⟨allowed, others⟩
    exact ⟨⟨member, allowed⟩, others⟩

/-- The guards that a part of a call made for itself are dropped when it ends, the last one
first. -/
def ending (guards : Guards) (lengths : List Nat) : List GuardEvent :=
  droppings (List.range' guards.made lengths.length).reverse

/-- What happens to the guards that a part of a call holds for itself. -/
def passing (guards : Guards) (lengths : List Nat) : List GuardEvent :=
  makings lengths ++ guards.ending lengths

/-- A part of a call leaves the guards alive that it found. -/
theorem allows_passing (guards : Guards) (lengths : List Nat) :
    guards.Allows (guards.passing lengths) ∧
      List.Perm (guards.afterAll (guards.passing lengths)).alive guards.alive := by
  have held :
      List.Perm (guards.afterAll (makings lengths)).alive
        ((List.range' guards.made lengths.length).reverse ++ guards.alive) := by
    rw [afterAll_makings]
    exact List.perm_append_comm.trans ((List.reverse_perm _).symm.append_right guards.alive)
  rcases allows_droppings held with ⟨allowed, others⟩
  refine ⟨allows_append.mpr ⟨allows_makings guards lengths, allowed⟩, ?_⟩
  rw [passing, afterAll_append]
  exact others

end Guards

/-! ## Guards under names -/

/-- The guards of an exchange, and the names that hold some of them. -/
structure Custody where
  named : List (String × Nat) := []
  guards : Guards := {}
deriving DecidableEq, Repr

namespace Custody

open Guards

def none : Custody := {}

def holder? (custody : Custody) (name : String) : Option Nat :=
  (custody.named.find? fun entry => entry.1 == name).map (·.2)

def others (custody : Custody) (name : String) : List (String × Nat) :=
  custody.named.filter fun entry => entry.1 != name

/-- What happens to the guards in a step. -/
def events (custody : Custody) : ExchangeStep → List GuardEvent
  | .pin name pin =>
    makings [pin.elements.length] ++ droppings (custody.holder? name).toList
  | .unpin name => droppings (custody.holder? name).toList
  | .copyThenMeasure source target _ => custody.guards.passing [source.length, target.length]
  | .fillWithoutService buffer => custody.guards.passing [buffer.length]
  | .unwind count buffer _ => custody.guards.passing (List.replicate count buffer.length)
  | .inspect _ => []
  | .copy _ _ => []
  | .keepText _ _ => []
  | .readText _ => []

/-- The names that hold guards after a step. -/
def renamed (custody : Custody) : ExchangeStep → List (String × Nat)
  | .pin name _ => (name, custody.guards.made) :: custody.others name
  | .unpin name => custody.others name
  | _ => custody.named

def after (custody : Custody) (step : ExchangeStep) : Custody :=
  ⟨custody.renamed step, custody.guards.afterAll (custody.events step)⟩

def afterAll (custody : Custody) (steps : List ExchangeStep) : Custody :=
  steps.foldl after custody

/-- What happens to the guards in the course of some steps. -/
def history (custody : Custody) : List ExchangeStep → List GuardEvent
  | [] => []
  | step :: rest => custody.events step ++ (custody.after step).history rest

/-- What happens to the guards at the end of an exchange. -/
def closing (custody : Custody) : List GuardEvent :=
  droppings (custody.named.map Prod.snd)

/-- Names that hold exactly the guards that are alive, each one of its own. -/
structure Holds (custody : Custody) : Prop where
  sound : custody.guards.Sound
  distinct : (custody.named.map Prod.fst).Nodup
  alive : List.Perm custody.guards.alive (custody.named.map Prod.snd)

theorem holds_none : none.Holds :=
  ⟨sound_none, List.nodup_nil, List.Perm.refl []⟩

variable {custody : Custody}

/-- The guard under a name stands beside those under the other names. -/
theorem Holds.alive_perm (holds : custody.Holds) (name : String) :
    List.Perm custody.guards.alive
      ((custody.holder? name).toList ++ (custody.others name).map Prod.snd) := by
  refine holds.alive.trans ?_
  rcases custody with ⟨named, guards⟩
  have distinct := holds.distinct
  clear holds
  simp only [holder?, others] at distinct ⊢
  induction named with
  | nil => exact List.Perm.refl []
  | cons entry rest hypothesis =>
    rcases List.nodup_cons.mp distinct with ⟨fresh, distinctRest⟩
    by_cases same : entry.1 = name
    · have kept : rest.filter (fun other => other.1 != name) = rest := by
        refine List.filter_eq_self.mpr fun other member => ?_
        have different : other.1 ≠ entry.1 := fun equal =>
          fresh (equal ▸ List.mem_map_of_mem member)
        simpa [same] using different
      simp [same, kept]
    · have further := (hypothesis distinctRest).cons entry.2
      simpa [same] using further.trans List.perm_middle.symm

theorem Holds.distinct_others (holds : custody.Holds) (name : String) :
    ((custody.others name).map Prod.fst).Nodup :=
  holds.distinct.sublist (List.filter_sublist.map Prod.fst)

/-- A step drops only guards that are alive, and leaves each guard that is alive with the name
that holds it. -/
theorem Holds.step (holds : custody.Holds) (step : ExchangeStep) :
    custody.guards.Allows (custody.events step) ∧ (custody.after step).Holds := by
  -- It is enough to know which guards are alive and which names there are.
  have settles
      (allowed : custody.guards.Allows (custody.events step))
      (distinct : ((custody.renamed step).map Prod.fst).Nodup)
      (alive :
        List.Perm (custody.guards.afterAll (custody.events step)).alive
          ((custody.renamed step).map Prod.snd)) :
      custody.guards.Allows (custody.events step) ∧ (custody.after step).Holds :=
    ⟨allowed, holds.sound.afterAll allowed, distinct, alive⟩
  have passes (lengths : List Nat)
      (events : custody.events step = custody.guards.passing lengths)
      (renamed : custody.renamed step = custody.named) :
      custody.guards.Allows (custody.events step) ∧ (custody.after step).Holds := by
    rcases custody.guards.allows_passing lengths with ⟨allowed, alive⟩
    refine settles ?_ ?_ ?_
    · rwa [events]
    · rw [renamed]
      exact holds.distinct
    · rw [events, renamed]
      exact alive.trans holds.alive
  cases step with
  | pin name pin =>
    have alive :
        List.Perm (custody.guards.afterAll (makings [pin.elements.length])).alive
          ((custody.holder? name).toList ++
            ((custody.others name).map Prod.snd ++ [custody.guards.made])) := by
      rw [afterAll_makings, ← List.append_assoc]
      exact (holds.alive_perm name).append_right [custody.guards.made]
    rcases allows_droppings alive with ⟨allowed, left⟩
    refine settles (allows_append.mpr ⟨allows_makings _ _, allowed⟩) ?_ ?_
    · refine List.nodup_cons.mpr ⟨?_, holds.distinct_others name⟩
      simp [others]
    · rw [events, afterAll_append]
      exact left.trans (List.perm_append_singleton _ _)
  | unpin name =>
    rcases allows_droppings (holds.alive_perm name) with ⟨allowed, left⟩
    exact settles allowed (holds.distinct_others name) left
  | copyThenMeasure source target label => exact passes _ rfl rfl
  | fillWithoutService buffer => exact passes _ rfl rfl
  | unwind count buffer message => exact passes _ rfl rfl
  | inspect name => exact settles trivial holds.distinct holds.alive
  | copy source target => exact settles trivial holds.distinct holds.alive
  | keepText name text => exact settles trivial holds.distinct holds.alive
  | readText name => exact settles trivial holds.distinct holds.alive

theorem guards_afterAll (custody : Custody) (steps : List ExchangeStep) :
    (custody.afterAll steps).guards = custody.guards.afterAll (custody.history steps) := by
  induction steps generalizing custody with
  | nil => rfl
  | cons step rest hypothesis =>
    rw [history, Guards.afterAll_append]
    exact hypothesis (custody.after step)

/-- Some steps drop only guards that are alive, and names go on holding those that are left. -/
theorem Holds.steps (holds : custody.Holds) (steps : List ExchangeStep) :
    custody.guards.Allows (custody.history steps) ∧ (custody.afterAll steps).Holds := by
  induction steps generalizing custody with
  | nil => exact ⟨trivial, holds⟩
  | cons step rest hypothesis =>
    rcases holds.step step with ⟨allowed, after⟩
    rcases hypothesis after with ⟨further, last⟩
    exact ⟨allows_append.mpr ⟨allowed, further⟩, last⟩

/-- At the end of an exchange all guards are dropped that are left. -/
theorem Holds.closing (holds : custody.Holds) :
    custody.guards.Allows custody.closing ∧
      (custody.guards.afterAll custody.closing).alive = [] := by
  have alive : List.Perm custody.guards.alive (custody.named.map Prod.snd ++ []) := by
    rw [List.append_nil]
    exact holds.alive
  rcases allows_droppings alive with ⟨allowed, left⟩
  exact ⟨allowed, left.eq_nil⟩

end Custody

end NativeBoundary.Lending
