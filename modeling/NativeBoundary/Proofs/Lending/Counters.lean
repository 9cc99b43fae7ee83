import NativeBoundary.Proofs.Lending.Guards

/-!
# Counts of pins

The counts of an exchange follow its guards.  Whenever a guard is made or dropped,
the counts show how many guards are alive, how many were made and how many were
dropped, and the record of the event tells the first of these numbers.  A pin is
given back only while one is held, and at the end of an exchange every pin has been
given back once.
-/

namespace NativeBoundary

/-- A session after some records were raised, the first of them first. -/
def Session.told {W : Type} (session : Session W) (records : List Log.Record) : Session W :=
  { session with journal := (records.map .raised).reverse ++ session.journal }

theorem Session.told_told {W : Type} (session : Session W) (first second : List Log.Record) :
    (session.told first).told second = session.told (first ++ second) := by
  simp [told]

theorem Session.records_told {W : Type} (session : Session W) (records : List Log.Record) :
    (session.told records).journal.records = session.journal.records ++ records := by
  induction records generalizing session with
  | nil => simp [told]
  | cons record rest hypothesis =>
    have split : session.told (record :: rest) = (session.told [record]).told rest :=
      (session.told_told [record] rest).symm
    have one : (session.told [record]).journal.records = session.journal.records ++ [record] := by
      simp [told, Journal.records]
    rw [split, hypothesis, one, List.append_assoc]
    rfl

end NativeBoundary

namespace NativeBoundary.Lending

variable {W α : Type}

/-! ## Making and dropping guards by the counts -/

namespace Guards

variable {guards : Guards} {events : List GuardEvent}

theorem pins_made (guards : Guards) (length : Nat) :
    (guards.after (.made length)).pins = guards.pins.acquire := by
  simp [pins, after, Pins.acquire]

theorem pins_dropped {guard : Nat} (alive : guard ∈ guards.alive) :
    (guards.after (.dropped guard)).pins = guards.pins.release := by
  simp [pins, after, Pins.release, List.length_erase_of_mem alive]

/-- Taking a pin counts a guard that is made. -/
theorem run_acquire (guards : Guards) (length : Nat) (session : Session W) :
    (acquire guards.pins length).run session =
      (.returned (guards.after (.made length)).pins,
        session.told [guards.record (.made length)]) := by
  simp only [record, pins_made]
  rfl

/-- Giving a pin back counts a guard that is dropped, as long as it is alive. -/
theorem run_release {guard : Nat} (alive : guard ∈ guards.alive) (session : Session W) :
    (release guards.pins).run session =
      (.returned (guards.after (.dropped guard)).pins,
        session.told [guards.record (.dropped guard)]) := by
  simp only [record, pins_dropped alive]
  rfl

/-- Take and give back pins, one event after the other. -/
def perform (pins : Pins) (events : List GuardEvent) : Crossing W Pins :=
  events.foldlM
    (fun pins event =>
      match event with
      | .made length => acquire pins length
      | .dropped _ => release pins)
    pins

/-- As long as only guards are dropped that are alive, the counts follow the guards, and every
event is told. -/
theorem run_perform (allowed : guards.Allows events) (session : Session W) :
    (perform guards.pins events).run session =
      (.returned (guards.afterAll events).pins, session.told (guards.records events)) := by
  induction events generalizing guards session with
  | nil => rfl
  | cons event rest hypothesis =>
    cases event with
    | made length =>
      rw [perform, List.foldlM_cons,
        Crossing.run_bind_of_returned (run_acquire guards length session)]
      refine (hypothesis allowed _).trans ?_
      rw [Session.told_told]
      rfl
    | dropped guard =>
      rw [perform, List.foldlM_cons,
        Crossing.run_bind_of_returned (run_release allowed.1 session)]
      refine (hypothesis allowed.2 _).trans ?_
      rw [Session.told_told]
      rfl

theorem perform_makings (pins : Pins) (lengths : List Nat) :
    (perform pins (makings lengths) : Crossing W Pins) = lengths.foldlM acquire pins := by
  rw [perform, makings, List.foldlM_map]

/-- Pins are given back without a look at what they were taken for. -/
theorem perform_droppings {β : Type} (pins : Pins) (items : List β) (chosen : List Nat)
    (same : items.length = chosen.length) :
    (perform pins (droppings chosen) : Crossing W Pins) =
      items.foldlM (fun pins _ => release pins) pins := by
  induction items generalizing pins chosen with
  | nil =>
    rw [List.eq_nil_of_length_eq_zero same.symm]
    rfl
  | cons item rest hypothesis =>
    cases chosen with
    | nil => cases same
    | cons guard others =>
      have further := Nat.succ.inj same
      refine congrArg (release pins >>= ·) (funext fun left => ?_)
      exact hypothesis left others further

/-- A part of a call runs between the records of the guards that are made for it and the records of
those that are dropped.  However it ends, its guards are gone then, and its end is the end of the
whole. -/
theorem run_pinnedOver (guards : Guards) (lengths : List Nat) (body : Crossing W α)
    (session : Session W) :
    let ran := body.run (session.told (guards.records (makings lengths)))
    (pinnedOver guards.pins lengths body).run session =
      (.returned (ran.1, (guards.afterAll (guards.passing lengths)).pins),
        ran.2.told ((guards.afterAll (makings lengths)).records (guards.ending lengths))) := by
  intro ran
  have allowed : (guards.afterAll (makings lengths)).Allows (guards.ending lengths) :=
    (allows_append.mp (guards.allows_passing lengths).1).2
  have taken := run_perform (allows_makings guards lengths) session
  have given := run_perform allowed ran.2
  rw [perform_makings] at taken
  rw [ending, perform_droppings _ lengths _ (by simp)] at given
  rw [passing, afterAll_append, pinnedOver, Crossing.run_bind_of_returned taken,
    Crossing.run_bind_of_returned (Crossing.run_attempt body _)]
  exact Crossing.run_bind_of_returned given

/-- The records of a part of a call that itself tells nothing. -/
theorem records_passing (guards : Guards) (lengths : List Nat) {session after : Session W}
    (quiet :
      after.journal.records =
        (session.told (guards.records (makings lengths))).journal.records) :
    (after.told
        ((guards.afterAll (makings lengths)).records (guards.ending lengths))).journal.records =
      session.journal.records ++ guards.records (guards.passing lengths) := by
  rw [Session.records_told, quiet, Session.records_told, passing, records_append,
    List.append_assoc]

/-! ## The counts at every point -/

/-- One pin more or one less, as an event says. -/
def recount (pins : Pins) : GuardEvent → Pins
  | .made _ => pins.acquire
  | .dropped _ => pins.release

/-- The counts at one point are the numbers of the guards that are alive, that were made and that
were dropped, and a guard that is dropped next is one of those alive. -/
structure Counted (guards : Guards) (pins : Pins) (rest : List GuardEvent) : Prop where
  active : pins.active = guards.alive.length
  acquired : pins.acquired = guards.made
  released : pins.released = guards.dropped.length
  balanced : pins.acquired = pins.active + pins.released
  /-- No guard was dropped twice, or is alive after it was dropped. -/
  once : (guards.alive ++ guards.dropped).Nodup
  /-- A pin is never given back while none is held. -/
  held : ∀ guard later, rest = .dropped guard :: later → guard ∈ guards.alive ∧ 0 < pins.active

/-- Counts that are right at every point of some events. -/
def CountedThroughout (events : List GuardEvent) : Prop :=
  ∀ before rest, events = before ++ rest →
    Counted (none.afterAll before) (before.foldl recount Pins.none) rest

theorem pins_afterAll (allowed : guards.Allows events) :
    (guards.afterAll events).pins = events.foldl recount guards.pins := by
  induction events generalizing guards with
  | nil => rfl
  | cons event rest hypothesis =>
    cases event with
    | made length =>
      rw [List.foldl_cons, recount, ← pins_made guards length]
      exact hypothesis allowed
    | dropped guard =>
      rw [List.foldl_cons, recount, ← pins_dropped allowed.1]
      exact hypothesis allowed.2

/-- As long as only guards are dropped that are alive, the counts are right at every point. -/
theorem countedThroughout (allowed : none.Allows events) : CountedThroughout events := by
  rintro before rest rfl
  rcases allows_append.mp allowed with ⟨first, further⟩
  have sound := sound_none.afterAll first
  have pins : before.foldl recount Pins.none = (none.afterAll before).pins :=
    (pins_afterAll first).symm
  rw [pins]
  refine ⟨rfl, rfl, rfl, sound.made_eq, sound.nodup_iff.mpr List.nodup_range, ?_⟩
  rintro guard later rfl
  exact ⟨further.1, List.length_pos_of_mem further.1⟩

end Guards

end NativeBoundary.Lending
