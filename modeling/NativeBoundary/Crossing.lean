import NativeBoundary.Journal

/-!
# Computations at the boundary

A crossing runs in a session and either returns or panics.  A panic carries its
message; whatever the computation did to the session before stays done.
-/

namespace NativeBoundary

/-- How a computation ends. -/
inductive Outcome (α : Type) where
  | returned (value : α)
  | panicked (message : String)
deriving DecidableEq, Repr

/-- A computation that runs in a session, and may panic. -/
structure Crossing (W α : Type) where
  run : Session W → Outcome α × Session W

namespace Crossing

variable {W α β : Type}

@[ext]
theorem ext {first second : Crossing W α}
    (agree : ∀ session, first.run session = second.run session) : first = second := by
  cases first
  cases second
  congr
  exact funext agree

protected def pure (value : α) : Crossing W α :=
  ⟨fun session => (.returned value, session)⟩

/-- Go on with the answer, unless the first part panicked. -/
protected def bind (first : Crossing W α) (next : α → Crossing W β) : Crossing W β :=
  ⟨fun session =>
    match first.run session with
    | (.returned value, after) => (next value).run after
    | (.panicked message, after) => (.panicked message, after)⟩

instance : Monad (Crossing W) where
  pure := Crossing.pure
  bind := Crossing.bind

def panic (message : String) : Crossing W α :=
  ⟨fun session => (.panicked message, session)⟩

def note (entry : Entry) : Crossing W Unit :=
  ⟨fun session => (.returned (), { session with journal := entry :: session.journal })⟩

def raise (record : Log.Record) : Crossing W Unit :=
  note (.raised record)

def configure (part : LoggingSection) : Crossing W Unit :=
  note (.configured part)

def journal : Crossing W Journal :=
  ⟨fun session => (.returned session.journal, session)⟩

/-- Let the library compute on its own state. -/
def inside (work : StateM W α) : Crossing W α :=
  ⟨fun session =>
    let (value, world) := work.run session.world
    (.returned value, { session with world })⟩

def world : Crossing W W :=
  inside get

/-- Run a part that works on one component of the state. -/
def focus {V : Type} (get : V → W) (set : W → V → V) (body : Crossing W α) : Crossing V α :=
  ⟨fun session =>
    let (outcome, after) := body.run ⟨get session.world, session.journal⟩
    (outcome, ⟨set after.world session.world, after.journal⟩)⟩

/-- Call an export: the call is entered into the journal before the library runs. -/
def native (symbol : Symbol) (handle : Option Handle) (work : StateM W α) : Crossing W α := do
  note (.called symbol handle)
  inside work

def attempt (body : Crossing W α) : Crossing W (Outcome α) :=
  ⟨fun session =>
    let (outcome, after) := body.run session
    (.returned outcome, after)⟩

def resume (outcome : Outcome α) : Crossing W α :=
  ⟨fun session => (outcome, session)⟩

@[simp]
theorem run_pure (value : α) (session : Session W) :
    (pure value : Crossing W α).run session = (.returned value, session) := rfl

theorem run_bind (first : Crossing W α) (next : α → Crossing W β) (session : Session W) :
    (first >>= next).run session =
      match first.run session with
      | (.returned value, after) => (next value).run after
      | (.panicked message, after) => (.panicked message, after) := rfl

theorem run_bind_of_returned {first : Crossing W α} {next : α → Crossing W β}
    {session after : Session W} {value : α} (ran : first.run session = (.returned value, after)) :
    (first >>= next).run session = (next value).run after := by
  rw [run_bind, ran]

@[simp]
theorem run_note (entry : Entry) (session : Session W) :
    (note entry).run session =
      (.returned (), { session with journal := entry :: session.journal }) := rfl

@[simp]
theorem run_panic (message : String) (session : Session W) :
    (panic message : Crossing W α).run session = (.panicked message, session) := rfl

@[simp]
theorem run_raise (record : Log.Record) (session : Session W) :
    (raise record).run session =
      (.returned (), { session with journal := .raised record :: session.journal }) := rfl

@[simp]
theorem run_journal (session : Session W) :
    (journal : Crossing W Journal).run session = (.returned session.journal, session) := rfl

@[simp]
theorem run_native (symbol : Symbol) (handle : Option Handle) (work : StateM W α)
    (session : Session W) :
    (native symbol handle work).run session =
      (.returned (work.run session.world).1,
        ⟨(work.run session.world).2, .called symbol handle :: session.journal⟩) := rfl

@[simp]
theorem run_attempt (body : Crossing W α) (session : Session W) :
    (attempt body).run session = (.returned (body.run session).1, (body.run session).2) := rfl

@[simp]
theorem run_resume (outcome : Outcome α) (session : Session W) :
    (resume outcome).run session = (outcome, session) := rfl

theorem id_map (body : Crossing W α) : id <$> body = body := by
  refine Crossing.ext fun session => ?_
  change (match body.run session with
    | (.returned value, after) => (.returned value, after)
    | (.panicked message, after) => (.panicked message, after)) = body.run session
  cases body.run session with
  | mk result after => cases result <;> rfl

theorem bind_assoc {γ : Type} (first : Crossing W α) (second : α → Crossing W β)
    (third : β → Crossing W γ) :
    first >>= second >>= third = first >>= fun value => second value >>= third := by
  refine Crossing.ext fun session => ?_
  simp only [run_bind]
  cases first.run session with
  | mk result after => cases result <;> rfl

instance : LawfulMonad (Crossing W) :=
  LawfulMonad.mk' (Crossing W) id_map (fun _ _ => rfl) bind_assoc

end Crossing

end NativeBoundary
