import NativeBoundary.Proofs.Admission.GuardAlone
import NativeBoundary.Proofs.Ownership.ExactlyOnce
import NativeBoundary.Proofs.Scopes.ClosureCalls
import NativeBoundary.Proofs.Scopes.Silence

/-!
# Clients of a gateway

A client makes the steps of a gateway and its calls with closures in any order and
decides by what it is told what to do next.  Its closures are clients themselves: they
may make steps and calls with closures of their own, and they may panic.

The main statement is that the guard is asked once, before everything else and alone.
If it reports another hash than the expected one nothing else is ever called, and
otherwise no client of the gateway calls the guard again.
-/

namespace NativeBoundary

open NativeBoundary.Callback
open NativeBoundary.Lending

/-- What a client works on: values of its own, the objects that it holds, and the private state of
the library. -/
structure Workplace (V W : Type) where
  own : V
  objects : Objects
  memory : W

/-- A program over a gateway. -/
inductive Client (V : Type) : Type → Type 1
  | done {α : Type} (value : α) : Client V α
  | panic {α : Type} (message : String) : Client V α
  | own {α β : Type} (change : V → β × V) (next : β → Client V α) : Client V α
  /-- Change the bytes that are lent to a closure. -/
  | edit {α : Type} (change : List UInt8 → List UInt8) (next : Client V α) : Client V α
  | attempt {α β : Type} (body : Client V β) (next : Outcome β → Client V α) : Client V α
  | step {α : Type} (made : Step) (next : StepReport → Client V α) : Client V α
  | call {α : Type} (made : ClosureCall)
      (closure : made.shape.View → Client V made.shape.Answer)
      (next : Outcome made.Result × List UInt8 → Client V α) : Client V α

variable {V W α : Type}

namespace Workplace

/-- The part of a session that the steps of a gateway are about. -/
def standing (session : Session (Workplace V W)) : Standing W :=
  ⟨session.world.objects, ⟨session.world.memory, session.journal⟩⟩

/-- A session in which the steps of a gateway have led to another standing. -/
def settle (session : Session (Workplace V W)) (standing : Standing W) :
    Session (Workplace V W) :=
  ⟨⟨session.world.own, standing.objects, standing.session.world⟩, standing.session.journal⟩

def change {β : Type} (transform : V → β × V) (session : Session (Workplace V W)) :
    β × Session (Workplace V W) :=
  let (value, own) := transform session.world.own
  (value, { session with world := { session.world with own } })

def advance (gateway : Gateway W) (step : Step) (session : Session (Workplace V W)) :
    StepReport × Session (Workplace V W) :=
  let (report, reached) := gateway.advance (standing session) step
  (report, settle session reached)

/-- Let all objects go. -/
def vacate (gateway : Gateway W) (session : Session (Workplace V W)) :
    Unit × Session (Workplace V W) :=
  let (_, after) := (gateway.dropAll session.world.objects).run (standing session).session
  ((), settle session ⟨[], after⟩)

end Workplace

namespace Client

variable (gateway : Gateway W)

def action : {α : Type} → Client V α → Action (Workplace V W) α
  | _, .done value => .done value
  | _, .panic message => .panic message
  | _, .own change next => .work (Workplace.change change) fun value => (next value).action
  | _, .edit change next => .edit change next.action
  | _, .attempt body next => .attempt body.action fun outcome => (next outcome).action
  | _, .step made next => .work (Workplace.advance gateway made) fun report => (next report).action
  | _, .call made closure next =>
    (gateway.closureCall made fun view => (closure view).action).andThen fun ended =>
      (next ended).action

/-- What a client does, and the end of the objects that it still holds then. -/
def run (client : Client V α) : Action (Workplace V W) (Outcome α) :=
  .attempt (client.action gateway) fun outcome =>
    .work (Workplace.vacate gateway) fun _ => .done outcome

end Client

/-! ## Clients and the guard -/

namespace Gateway

variable (gateway : Gateway W)

theorem lending_avoids_guard {bytes : List UInt8} {body : Action V Unit}
    (avoids : body.Avoids .surfaceGuard) :
    (lending bytes body).Avoids .surfaceGuard := by
  refine Action.Avoids.note (fun _ => Entry.noConfusion) ⟨avoids, fun outcome left => ?_⟩
  exact Action.Avoids.note (fun _ => Entry.noConfusion) trivial

/-- A call with a closure calls no guard, unless its closure does. -/
theorem closureCall_avoids_guard {made : ClosureCall} {closure : Closure V made.shape}
    (called : ∀ view, (closure view).Avoids .surfaceGuard) :
    (gateway.closureCall made closure).Avoids .surfaceGuard := by
  cases made with
  | callback value =>
    exact ⟨⟨called, .native _ Symbol.noConfusion, fun _ => trivial⟩, fun _ => trivial⟩
  | callback1 value =>
    exact ⟨⟨called, .native _ Symbol.noConfusion, fun _ => trivial⟩, fun _ => trivial⟩
  | slice3 bytes =>
    refine lending_avoids_guard ⟨called, ?_, fun _ => trivial⟩
    exact Action.Avoids.andThen (.native _ Symbol.noConfusion) fun _ => trivial
  | slice6 bytes =>
    refine lending_avoids_guard ⟨called, ?_, fun _ => trivial⟩
    exact Action.Avoids.andThen (.native _ Symbol.noConfusion) fun _ => trivial
  | delegate =>
    exact ⟨⟨called, .native _ Symbol.noConfusion, fun _ => trivial⟩, fun _ => trivial⟩
  | delegateHuge =>
    exact ⟨⟨called, .native _ Symbol.noConfusion, fun _ => trivial⟩, fun _ => trivial⟩

/-- Wherever a step is made, it leaves the calls of the guard as they are. -/
theorem advance_avoids_guard (standing : Standing W) (step : Step) :
    (gateway.advance standing step).2.session.journal.handles .surfaceGuard =
      standing.session.journal.handles .surfaceGuard := by
  have avoids := gateway.guardedStep_avoids_guard standing.objects step standing.session
  rwa [run_guardedStep] at avoids

end Gateway

namespace Client

variable (gateway : Gateway W)

theorem action_avoids_guard (client : Client V α) :
    (client.action gateway).Avoids .surfaceGuard := by
  induction client with
  | done value => trivial
  | panic message => trivial
  | own change next hypothesis => exact ⟨fun _ => rfl, hypothesis⟩
  | edit change next hypothesis => exact hypothesis
  | attempt body next bodyHypothesis nextHypothesis => exact ⟨bodyHypothesis, nextHypothesis⟩
  | step made next hypothesis =>
    exact ⟨fun session => gateway.advance_avoids_guard _ made, hypothesis⟩
  | call made closure next closureHypothesis nextHypothesis =>
    exact Action.Avoids.andThen (gateway.closureCall_avoids_guard closureHypothesis) nextHypothesis

theorem confined_action (client : Client V α) : Confined (client.action gateway) := by
  induction client with
  | done value => exact .done
  | panic message => exact .panic
  | own change next hypothesis => exact .work hypothesis
  | edit change next hypothesis => exact .edit hypothesis
  | attempt body next bodyHypothesis nextHypothesis => exact .attempt bodyHypothesis nextHypothesis
  | step made next hypothesis => exact .work hypothesis
  | call made closure next closureHypothesis nextHypothesis =>
    exact Confined.andThen (gateway.confined_closureCall closureHypothesis) nextHypothesis

theorem run_avoids_guard (client : Client V α) : (client.run gateway).Avoids .surfaceGuard := by
  refine ⟨client.action_avoids_guard gateway, fun outcome => ⟨fun session => ?_, fun _ => trivial⟩⟩
  exact gateway.dropAll_avoids_guard session.world.objects (Workplace.standing session).session

theorem confined_run (client : Client V α) : Confined (client.run gateway) :=
  .attempt (client.confined_action gateway) fun _ => .work fun _ => .done

end Client

/-! ## The one question -/

namespace Gateway

/-- The hash that the guard of a table reports in a session. -/
def reportedHash (table : Exports W) (session : Session W) : UInt64 :=
  (table.surfaceGuard.run session.world).1

/-- The session after the guard of a table was asked: the call stands in the journal, and what came
of it was told. -/
def questioned (table : Exports W) (session : Session W) : Session W :=
  ⟨(table.surfaceGuard.run session.world).2,
    .raised (Guard.record (reportedHash table session)) :: .called .surfaceGuard none ::
      session.journal⟩

variable (table : Exports W) (session : Session W)

theorem run_establish :
    (establish table).run session =
      (.returned ((Guard.judge (reportedHash table session)).map fun _ => ⟨table, false⟩),
        questioned table session) := rfl

theorem handles_questioned :
    (questioned table session).journal.handles .surfaceGuard =
      none :: session.journal.handles .surfaceGuard := by
  rw [questioned, Journal.handles_raised, Journal.handles_called, if_pos rfl]
  rfl

/-- A refused table is not called again. -/
theorem runOver_refused (steps : List Step)
    (refused : reportedHash table session ≠ Surface.expectedHash) :
    (runOver table steps).run session =
      (.returned (.error (.mismatch Surface.expectedHash (reportedHash table session))),
        questioned table session) := by
  have judged :
      Guard.judge (reportedHash table session) =
        .error (.mismatch Surface.expectedHash (reportedHash table session)) := if_neg refused
  rw [runOver, Crossing.run_bind_of_returned (run_establish table session), judged]
  rfl

/-- A run over a table that is accepted returns its reports. -/
theorem runOver_accepted (steps : List Step)
    (accepted : reportedHash table session = Surface.expectedHash) :
    ∃ reports last,
      (runOver table steps).run session = (.returned (.ok reports), last) ∧
        last.journal.handles .surfaceGuard = none :: session.journal.handles .surfaceGuard := by
  let gateway : Gateway W := ⟨table, false⟩
  have judged : Guard.judge (reportedHash table session) = .ok () := if_pos accepted
  have walked := gateway.run_steps ⟨[], questioned table session⟩ steps
  rcases gateway.run_dropAll (gateway.reach ⟨[], questioned table session⟩ steps).objects
    (gateway.reach ⟨[], questioned table session⟩ steps).session with ⟨last, dropped, -⟩
  have ran :
      (gateway.run steps).run (questioned table session) =
        (.returned (gateway.reports ⟨[], questioned table session⟩ steps), last) := by
    rw [run, Crossing.run_bind_of_returned walked, Crossing.run_bind_of_returned dropped]
    rfl
  refine ⟨gateway.reports ⟨[], questioned table session⟩ steps, last, ?_, ?_⟩
  · rw [runOver, Crossing.run_bind_of_returned (run_establish table session), judged]
    exact Crossing.run_bind_of_returned ran
  · have avoided := gateway.run_avoids_guard steps (questioned table session)
    rw [ran] at avoided
    rw [avoided, handles_questioned]

/-- A table is taken into use by asking its guard once, before anything else and alone, and it is
accepted if and only if the guard reports the expected hash.  If it is refused, a run over it calls
nothing more.  If it is accepted, no step of a run and no client calls the guard again. -/
theorem guard_asked_once (table : Exports W) (session : Session W) :
    (establish table).run session =
        (.returned
          (if reportedHash table session = Surface.expectedHash then .ok ⟨table, false⟩
            else .error (.mismatch Surface.expectedHash (reportedHash table session))),
          questioned table session) ∧
      (questioned table session).journal.calls = (.surfaceGuard, none) :: session.journal.calls ∧
      (reportedHash table session ≠ Surface.expectedHash →
        ∀ steps,
          (runOver table steps).run session =
            (.returned (.error (.mismatch Surface.expectedHash (reportedHash table session))),
              questioned table session)) ∧
      (reportedHash table session = Surface.expectedHash →
        (∀ steps, ∃ reports last,
          (runOver table steps).run session = (.returned (.ok reports), last) ∧
            last.journal.handles .surfaceGuard =
              none :: session.journal.handles .surfaceGuard) ∧
          (∀ standing step,
            (advance ⟨table, false⟩ standing step).2.session.journal.handles .surfaceGuard =
              standing.session.journal.handles .surfaceGuard) ∧
          ∀ (V α : Type) (client : Client V α) (own : V), ∃ depth ended last,
            execute depth (client.run ⟨table, false⟩)
                (Thread.fresh
                  ⟨⟨own, [], (questioned table session).world⟩,
                    (questioned table session).journal⟩) =
              some (ended, last) ∧
              last.session.journal.handles .surfaceGuard =
                none :: session.journal.handles .surfaceGuard) := by
  refine ⟨?_, rfl, ?_, ?_⟩
  · rw [run_establish, Guard.judge]
    by_cases accepted : reportedHash table session = Surface.expectedHash
    · rw [if_pos accepted, if_pos accepted]
      rfl
    · rw [if_neg accepted, if_neg accepted]
      rfl
  · intro refused steps
    exact runOver_refused table session steps refused
  · intro accepted
    refine ⟨?_, ?_, ?_⟩
    · intro steps
      exact runOver_accepted table session steps accepted
    · intro standing step
      exact advance_avoids_guard ⟨table, false⟩ standing step
    · intro V α client own
      have contained := (client.confined_run ⟨table, false⟩).selfContained
      rcases contained.exists_execute (client.run_avoids_guard ⟨table, false⟩)
        (Thread.fresh
          ⟨⟨own, [], (questioned table session).world⟩, (questioned table session).journal⟩)
        rfl rfl with
        ⟨depth, ended, last, executed, avoided⟩
      exact ⟨depth, ended, last, executed, avoided.trans (handles_questioned table session)⟩

/-- The reference library behind a guard that reports a hash. -/
def guardedBy (hash : UInt64) : Exports Reference.Heap :=
  { Reference.table with surfaceGuard := pure hash }

/-- A client that asks for the declared hash inside a closure, which makes an object inside a call
with a closure of its own. -/
def asking : Client Unit StepReport :=
  .call (.callback 3)
    (fun view =>
      .step (.call .apiGuard) fun _ =>
        .call (.callback1 7) (fun word => .step (.create "a" .plain) fun _ => .done word) fun _ =>
          .done view)
    fun _ => .step (.call .apiGuard) .done

theorem guard_asked_once_of_each_answer :
    reportedHash (guardedBy Surface.expectedHash) ⟨Reference.Heap.empty, []⟩ =
        Surface.expectedHash ∧
      (∃ depth ended last,
        execute depth (asking.run ⟨guardedBy Surface.expectedHash, false⟩)
            (Thread.fresh
              ⟨⟨(), [], Reference.Heap.empty⟩,
                (questioned (guardedBy Surface.expectedHash)
                  ⟨Reference.Heap.empty, []⟩).journal⟩) =
          some (ended, last) ∧
          last.session.journal.handles .surfaceGuard = [none]) ∧
      reportedHash (guardedBy (Surface.expectedHash + 1)) ⟨Reference.Heap.empty, []⟩ ≠
        Surface.expectedHash ∧
      ∀ steps,
        ((runOver (guardedBy (Surface.expectedHash + 1)) steps).run
          ⟨Reference.Heap.empty, []⟩).2.journal.calls = [(.surfaceGuard, none)] := by
  have differs : Surface.expectedHash + 1 ≠ Surface.expectedHash := by simp
  rcases guard_asked_once (guardedBy Surface.expectedHash) ⟨Reference.Heap.empty, []⟩ with
    ⟨-, -, -, accepted⟩
  rcases guard_asked_once (guardedBy (Surface.expectedHash + 1)) ⟨Reference.Heap.empty, []⟩ with
    ⟨-, alone, refused, -⟩
  refine ⟨rfl, (accepted rfl).2.2 Unit StepReport asking (), differs, fun steps => ?_⟩
  rw [refused differs steps]
  exact alone

end Gateway

end NativeBoundary
