import NativeBoundary.Proofs.Lending.Counters
import NativeBoundary.Reference.Table

/-!
# Exchanges and their guards

An exchange knows its pins by their names and by three counts.  The names hold the
guards that are alive, and the counts follow the guards, step by step.  At the end of
an exchange every pin that it took has been given back once.
-/

namespace NativeBoundary.Lending

variable {W : Type}

namespace Custody

open Guards

/-- A context that counts the guards and knows the names that hold them. -/
structure Tracks (custody : Custody) (context : Context) : Prop where
  pins : context.pins = custody.guards.pins
  names : context.held.map Prod.fst = custody.named.map Prod.fst

theorem tracks_none : none.Tracks {} := ⟨rfl, rfl⟩

variable {custody : Custody} {context : Context}

/-- A name holds a pin of the context if and only if it holds a guard. -/
theorem Tracks.isSome_holder? (tracks : custody.Tracks context) (name : String) :
    (context.held? name).isSome = (custody.holder? name).isSome := by
  have keys {β : Type} (entries : List (String × β)) :
      (entries.find? fun entry => entry.1 == name).isSome =
        (entries.map Prod.fst).contains name := by
    rw [Bool.eq_iff_iff, List.find?_isSome, List.contains_iff_mem, List.mem_map]
    simp only [beq_iff_eq]
  simp only [Context.held?, holder?, Option.isSome_map, keys, tracks.names]

theorem Tracks.exists_held (tracks : custody.Tracks context) {name : String} {guard : Nat}
    (known : custody.holder? name = some guard) : ∃ pin, context.held? name = some pin := by
  rw [← Option.isSome_iff_exists, tracks.isSome_holder? name, known]
  rfl

theorem Tracks.held?_eq_none (tracks : custody.Tracks context) {name : String}
    (known : custody.holder? name = Option.none) : context.held? name = Option.none := by
  rw [← Option.isNone_iff_eq_none, ← Option.not_isSome, tracks.isSome_holder? name, known]
  rfl

/-- The names but one are the same on both sides. -/
theorem Tracks.names_others (tracks : custody.Tracks context) (name : String) :
    (context.held.filter fun entry => entry.1 != name).map Prod.fst =
      (custody.others name).map Prod.fst := by
  have kept {β : Type} (entries : List (String × β)) :
      (entries.filter fun entry => entry.1 != name).map Prod.fst =
        (entries.map Prod.fst).filter (· != name) := by
    rw [List.filter_map]
    rfl
  rw [others, kept, kept, tracks.names]

/-- Without a guard under a name, no name is lost by leaving it out. -/
theorem others_eq_named {name : String} (absent : custody.holder? name = Option.none) :
    custody.others name = custody.named := by
  refine List.filter_eq_self.mpr fun entry member => ?_
  have missing := List.find?_eq_none.mp (Option.map_eq_none_iff.mp absent) entry member
  simpa using missing

/-- What is left of a step that changes no pins and raises no record. -/
theorem Tracks.idle (tracks : custody.Tracks context) {step : ExchangeStep} {left : Context}
    {session after : Session W} (nothing : custody.events step = [])
    (kept : custody.renamed step = custody.named) (pins : left.pins = context.pins)
    (names : left.held.map Prod.fst = context.held.map Prod.fst)
    (quiet : after.journal.records = session.journal.records) :
    (custody.after step).Tracks left ∧
      after.journal.records =
        session.journal.records ++ custody.guards.records (custody.events step) := by
  refine ⟨⟨?_, ?_⟩, ?_⟩
  · rw [Custody.after, nothing, pins]
    exact tracks.pins
  · rw [Custody.after, kept, names]
    exact tracks.names
  · rw [quiet, nothing]
    exact (List.append_nil _).symm

/-- What is left of a step that tells of each of its guards, and does nothing else with pins. -/
theorem Tracks.recounted {step : ExchangeStep} {happened : List GuardEvent} {left : Context}
    (session : Session W) (events : custody.events step = happened)
    (pins : left.pins = (custody.guards.afterAll happened).pins)
    (names : left.held.map Prod.fst = (custody.renamed step).map Prod.fst) :
    (custody.after step).Tracks left ∧
      (session.told (custody.guards.records happened)).journal.records =
        session.journal.records ++ custody.guards.records (custody.events step) := by
  rw [events]
  refine ⟨⟨?_, names⟩, Session.records_told _ _⟩
  rw [Custody.after, events]
  exact pins

/-- What is left of a step that does its work over pins of its own. -/
theorem Tracks.passed (tracks : custody.Tracks context) {step : ExchangeStep}
    {lengths : List Nat} {left : Context} {session after : Session W}
    (events : custody.events step = custody.guards.passing lengths)
    (kept : custody.renamed step = custody.named)
    (pins : left.pins = (custody.guards.afterAll (custody.guards.passing lengths)).pins)
    (held : left.held = context.held)
    (told :
      after.journal.records =
        session.journal.records ++ custody.guards.records (custody.guards.passing lengths)) :
    (custody.after step).Tracks left ∧
      after.journal.records =
        session.journal.records ++ custody.guards.records (custody.events step) := by
  rw [events]
  refine ⟨⟨?_, ?_⟩, told⟩
  · rw [Custody.after, events, pins]
  · rw [Custody.after, kept, held]
    exact tracks.names

/-- A new pin is taken before the one is given back that it replaces. -/
theorem Tracks.run_pin (table : Exports W) (holds : custody.Holds)
    (tracks : custody.Tracks context) (name : String) (pin : HeldPin) (session : Session W) :
    ∃ answer left after,
      (context.step table (.pin name pin)).run session = (.returned (answer, left), after) ∧
        (custody.after (.pin name pin)).Tracks left ∧
        after.journal.records =
          session.journal.records ++ custody.guards.records (custody.events (.pin name pin)) := by
  let length := pin.elements.length
  have taken := run_acquire custody.guards length session
  have names :
      (context.setHeld name pin).held.map Prod.fst =
        (custody.renamed (.pin name pin)).map Prod.fst :=
    congrArg (name :: ·) (tracks.names_others name)
  cases known : custody.holder? name with
  | none =>
    have events : custody.events (.pin name pin) = [.made length] := by
      rw [Custody.events, known]
      rfl
    have ran :
        (context.pin name pin).run session =
          (.returned
            { context.setHeld name pin with
              pins := (custody.guards.after (.made length)).pins },
            session.told [custody.guards.record (.made length)]) := by
      rw [Context.pin, tracks.pins, Crossing.run_bind_of_returned taken,
        tracks.held?_eq_none known]
      rfl
    exact
      ⟨_, _, _, Crossing.run_bind_of_returned ran, Tracks.recounted session events rfl names⟩
  | some old =>
    rcases tracks.exists_held known with ⟨replaced, found⟩
    have events : custody.events (.pin name pin) = [.made length, .dropped old] := by
      rw [Custody.events, known]
      rfl
    have allowed := (holds.step (.pin name pin)).1
    rw [events] at allowed
    have given := run_release allowed.1 (session.told [custody.guards.record (.made length)])
    rw [Session.told_told] at given
    have ran :
        (context.pin name pin).run session =
          (.returned
            { context.setHeld name pin with
              pins := ((custody.guards.after (.made length)).after (.dropped old)).pins },
            session.told (custody.guards.records [.made length, .dropped old])) := by
      rw [Context.pin, tracks.pins, Crossing.run_bind_of_returned taken, found]
      exact Crossing.run_bind_of_returned given
    exact
      ⟨_, _, _, Crossing.run_bind_of_returned ran, Tracks.recounted session events rfl names⟩

/-- A name gives its pin back if it holds one. -/
theorem Tracks.run_unpin (table : Exports W) (holds : custody.Holds)
    (tracks : custody.Tracks context) (name : String) (session : Session W) :
    ∃ answer left after,
      (context.step table (.unpin name)).run session = (.returned (answer, left), after) ∧
        (custody.after (.unpin name)).Tracks left ∧
        after.journal.records =
          session.journal.records ++ custody.guards.records (custody.events (.unpin name)) := by
  cases known : custody.holder? name with
  | none =>
    have events : custody.events (.unpin name) = [] := by
      rw [Custody.events, known]
      rfl
    rw [Context.step, tracks.held?_eq_none known]
    exact ⟨_, _, _, rfl, tracks.idle events (others_eq_named known) rfl rfl rfl⟩
  | some guard =>
    rcases tracks.exists_held known with ⟨dropped, found⟩
    have events : custody.events (.unpin name) = [.dropped guard] := by
      rw [Custody.events, known]
      rfl
    have allowed := (holds.step (.unpin name)).1
    rw [events] at allowed
    have given := run_release allowed.1 session
    rw [Context.step, found, tracks.pins]
    exact
      ⟨_, _, _, Crossing.run_bind_of_returned given,
        Tracks.recounted session events rfl (tracks.names_others name)⟩

/-- A step answers, its context goes on tracking the guards, and it tells of each of them. -/
theorem Tracks.run_step (table : Exports W) (holds : custody.Holds)
    (tracks : custody.Tracks context) (step : ExchangeStep) (session : Session W) :
    ∃ answer left after,
      (context.step table step).run session = (.returned (answer, left), after) ∧
        (custody.after step).Tracks left ∧
        after.journal.records =
          session.journal.records ++ custody.guards.records (custody.events step) := by
  cases step with
  | pin name pin => exact tracks.run_pin table holds name pin session
  | inspect name =>
    rw [Context.step]
    cases context.held? name with
    | none => exact ⟨_, _, _, rfl, tracks.idle rfl rfl rfl rfl rfl⟩
    | some pin => exact ⟨_, _, _, rfl, tracks.idle rfl rfl rfl rfl rfl⟩
  | unpin name => exact tracks.run_unpin table holds name session
  | copy source target =>
    rw [Context.step, Context.copy]
    split
    · refine ⟨_, _, _, rfl, tracks.idle rfl rfl rfl ?_ rfl⟩
      rw [List.map_map]
      refine List.map_congr_left fun entry _ => ?_
      simp only [Function.comp_apply]
      split <;> rfl
    · exact ⟨_, _, _, rfl, tracks.idle rfl rfl rfl rfl rfl⟩
  | keepText name text =>
    rw [Context.step, Context.keep]
    cases terminated text with
    | error position => exact ⟨_, _, _, rfl, tracks.idle rfl rfl rfl rfl rfl⟩
    | ok bytes => exact ⟨_, _, _, rfl, tracks.idle rfl rfl rfl rfl rfl⟩
  | readText name =>
    rw [Context.step]
    cases context.text? name with
    | none => exact ⟨_, _, _, rfl, tracks.idle rfl rfl rfl rfl rfl⟩
    | some bytes => exact ⟨_, _, _, rfl, tracks.idle rfl rfl rfl rfl rfl⟩
  | copyThenMeasure source target label =>
    rw [Context.step, Context.copyThenMeasure, Context.keep, tracks.pins]
    cases terminated label with
    | error position =>
      rw [Crossing.run_bind_of_returned (run_pinnedOver custody.guards _ _ session)]
      exact ⟨_, _, _, rfl, tracks.passed rfl rfl rfl rfl (records_passing _ _ rfl)⟩
    | ok bytes =>
      rw [Crossing.run_bind_of_returned (run_pinnedOver custody.guards _ _ session)]
      exact ⟨_, _, _, rfl, tracks.passed rfl rfl rfl rfl (records_passing _ _ rfl)⟩
  | fillWithoutService buffer =>
    rw [Context.step, Context.fillWithoutService, tracks.pins,
      Crossing.run_bind_of_returned (run_pinnedOver custody.guards _ _ session)]
    exact ⟨_, _, _, rfl, tracks.passed rfl rfl rfl rfl (records_passing _ _ rfl)⟩
  | unwind count buffer message =>
    rw [Context.step, Context.unwind, tracks.pins,
      Crossing.run_bind_of_returned (run_pinnedOver custody.guards _ _ session)]
    exact ⟨_, _, _, rfl, tracks.passed rfl rfl rfl rfl (records_passing _ _ rfl)⟩

/-- The counts after each of some steps. -/
def counts (custody : Custody) : List ExchangeStep → List Pins
  | [] => []
  | step :: rest => (custody.after step).guards.pins :: (custody.after step).counts rest

/-- Steps answer with the counts after each of them and tell of every guard on the way. -/
theorem Tracks.run_steps (table : Exports W) (holds : custody.Holds)
    (tracks : custody.Tracks context) (steps : List ExchangeStep) (session : Session W) :
    ∃ answers left after,
      (context.steps table steps).run session = (.returned (answers, left), after) ∧
        (custody.afterAll steps).Tracks left ∧
        answers.map Prod.snd = custody.counts steps ∧
        after.journal.records =
          session.journal.records ++ custody.guards.records (custody.history steps) := by
  induction steps generalizing custody context session with
  | nil => exact ⟨[], context, session, rfl, tracks, rfl, (List.append_nil _).symm⟩
  | cons step rest hypothesis =>
    rcases tracks.run_step table holds step session with ⟨answer, middle, between, ran, goes, told⟩
    rcases hypothesis (holds.step step).2 goes between with
      ⟨answers, left, after, finished, last, counted, further⟩
    refine ⟨(answer, middle.pins) :: answers, left, after, ?_, last, ?_, ?_⟩
    · rw [Context.steps, Crossing.run_bind_of_returned ran,
        Crossing.run_bind_of_returned finished]
      rfl
    · rw [List.map_cons, counted, goes.pins]
      rfl
    · rw [further, told, List.append_assoc, history, records_append]
      rfl

/-- What an exchange gives back at its end are the pins that names still hold. -/
theorem Tracks.run_close (holds : custody.Holds) (tracks : custody.Tracks context)
    (session : Session W) :
    context.close.run session =
      (.returned (custody.guards.afterAll custody.closing).pins,
        session.told (custody.guards.records custody.closing)) := by
  have same : context.held.length = (custody.named.map Prod.snd).length := by
    have names := congrArg List.length tracks.names
    rw [List.length_map, List.length_map] at names
    rwa [List.length_map]
  rw [Context.close, tracks.pins, ← perform_droppings _ _ _ same]
  exact run_perform holds.closing.1 session

end Custody

namespace Context

open Guards

/-- What happens to the guards from the beginning of an exchange to its end. -/
def guardEvents (steps : List ExchangeStep) : List GuardEvent :=
  Custody.none.history steps ++ (Custody.none.afterAll steps).closing

/-- An exchange answers with the counts of its guards after each step, and tells of each guard
that it makes or drops.  The counts are right at every point, none of its guards is left in the
end, and each one was dropped once.

The same holds of any other use of pins that drops only guards that are alive, and a part of a
call drops the guards that it made and no others, whether it returns, fails early or panics. -/
theorem pins_count_guards (table : Exports W) (steps : List ExchangeStep) (session : Session W) :
    (∃ answers after,
      (Context.exchange table steps).run session =
          (.returned (answers, (Guards.none.afterAll (guardEvents steps)).pins), after) ∧
        answers.map Prod.snd = Custody.none.counts steps ∧
        after.journal.records =
          session.journal.records ++ Guards.none.records (guardEvents steps)) ∧
      CountedThroughout (guardEvents steps) ∧
      (∃ made,
        (Guards.none.afterAll (guardEvents steps)).alive = [] ∧
          List.Perm (Guards.none.afterAll (guardEvents steps)).dropped (List.range made) ∧
          (Guards.none.afterAll (guardEvents steps)).pins = ⟨0, made, made⟩) ∧
      (∀ events, Guards.none.Allows events →
        CountedThroughout events ∧
          (perform Pins.none events).run session =
            (.returned (Guards.none.afterAll events).pins,
              session.told (Guards.none.records events))) ∧
      ∀ (α : Type) (guards : Guards) (lengths : List Nat) (body : Crossing W α),
        guards.Allows (guards.passing lengths) ∧
          List.Perm (guards.afterAll (guards.passing lengths)).alive guards.alive ∧
          (pinnedOver guards.pins lengths body).run session =
            let ran := body.run (session.told (guards.records (makings lengths)))
            (.returned (ran.1, (guards.afterAll (guards.passing lengths)).pins),
              ran.2.told ((guards.afterAll (makings lengths)).records (guards.ending lengths))) := by
  have held := Custody.holds_none.steps steps
  have closed := held.2.closing
  rw [Custody.guards_afterAll] at closed
  have allowed : Guards.none.Allows (guardEvents steps) :=
    allows_append.mpr ⟨held.1, closed.1⟩
  refine ⟨?_, countedThroughout allowed, ?_, ?_, ?_⟩
  · rcases Custody.tracks_none.run_steps table Custody.holds_none steps session with
      ⟨answers, left, after, ran, tracks, counted, told⟩
    have given := tracks.run_close held.2 after
    let closing := (Custody.none.afterAll steps).closing
    refine
      ⟨answers, after.told ((Custody.none.afterAll steps).guards.records closing), ?_, counted, ?_⟩
    · rw [Context.exchange, Crossing.run_bind_of_returned ran,
        Crossing.run_bind_of_returned given, Custody.guards_afterAll, guardEvents,
        Guards.afterAll_append]
      rfl
    · rw [Session.records_told, told, Custody.guards_afterAll, guardEvents, records_append,
        List.append_assoc]
      rfl
  · have sound := sound_none.afterAll allowed
    have none_left : (Guards.none.afterAll (guardEvents steps)).alive = [] := by
      rw [guardEvents, Guards.afterAll_append]
      exact closed.2
    have made := sound.made_eq
    rw [none_left, List.length_nil, Nat.zero_add] at made
    refine ⟨(Guards.none.afterAll (guardEvents steps)).made, none_left, ?_, ?_⟩
    · rwa [Sound, none_left, List.nil_append] at sound
    · rw [Guards.pins, none_left, ← made]
      rfl
  · intro events allows
    exact ⟨countedThroughout allows, run_perform allows session⟩
  · intro α guards lengths body
    rcases guards.allows_passing lengths with ⟨allows, alive⟩
    exact ⟨allows, alive, run_pinnedOver guards lengths body session⟩

/-- Two guards that are dropped in the order in which they were made, as a name does with its pin
when it takes another one. -/
theorem pins_count_guards_in_order :
    Guards.none.Allows [.made 4, .made 2, .dropped 0, .dropped 1] ∧
      (perform Pins.none [.made 4, .made 2, .dropped 0, .dropped 1]).run
          (⟨Reference.Heap.empty, []⟩ : Session Reference.Heap) =
        (.returned ⟨0, 2, 2⟩,
          (⟨Reference.Heap.empty, []⟩ : Session Reference.Heap).told
            (Guards.none.records [.made 4, .made 2, .dropped 0, .dropped 1])) := by
  have allowed : Guards.none.Allows [.made 4, .made 2, .dropped 0, .dropped 1] :=
    ⟨List.mem_cons_self, List.mem_singleton_self 1, trivial⟩
  rcases pins_count_guards Reference.table [] ⟨Reference.Heap.empty, []⟩ with ⟨-, -, -, any, -⟩
  exact ⟨allowed, (any _ allowed).2⟩

end Context

end NativeBoundary.Lending
