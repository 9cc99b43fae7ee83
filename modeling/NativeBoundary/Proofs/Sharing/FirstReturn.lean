import NativeBoundary.Gateway.Shared

/-!
# The first return decides

A host that shares a gateway asks initializers for it one after the other.  An
initializer that panics is as good as none: the panic goes on to the caller and
the next initializer is asked.  The first one that returns is the last one that
runs.  What it returned, a gateway or an error, is the answer to all initializers
after it, and from then on it alone tells whether there is a gateway and which.
-/

namespace NativeBoundary

variable {W : Type}

/-- What is shared and the session, between two steps. -/
structure SharedStanding (W : Type) where
  shared : Shared W
  session : Session (Host W)

namespace Shared

/-! ## Sessions as standings -/

/-- What a step answers, and the standing after it; a panic leaves what is shared as it is. -/
def advance (standing : SharedStanding W) (step : SharedStep W) :
    SharedAnswer × SharedStanding W :=
  match (standing.shared.step step).run standing.session with
  | (.returned (answer, shared), after) => (answer, ⟨shared, after⟩)
  | (.panicked message, after) => (.panicked message, ⟨standing.shared, after⟩)

/-- How the shared gateway behaves where `returned` is what the first initializer that returned
has returned, if any has. -/
structure Follows (standing : SharedStanding W)
    (returned : Option (Except InitError (Gateway W))) : Prop where
  /-- An initializer runs while none has returned, and decides by returning. -/
  decides : returned = none → ∀ initializer result after,
    initializer.run standing.session = (.returned result, after) →
      (standing.shared.settle initializer).run standing.session =
        (.returned (⟨true, result⟩, ⟨some result⟩), after)
  /-- The panic of an initializer goes on to the caller, and nothing is decided by it. -/
  panics : returned = none → ∀ initializer message after,
    initializer.run standing.session = (.panicked message, after) →
      (standing.shared.settle initializer).run standing.session = (.panicked message, after) ∧
        advance standing (.settle initializer) = (.panicked message, ⟨.undecided, after⟩)
  /-- After a return every initializer is answered by it and does nothing in the session. -/
  keeps : ∀ result, returned = some result → ∀ initializer,
    (standing.shared.settle initializer).run standing.session =
      (.returned (⟨false, result⟩, standing.shared), standing.session)
  isReady : standing.shared.isReady = true ↔ ∃ gateway, returned = some (.ok gateway)
  gateway : ∀ gateway, returned = some (.ok gateway) →
    standing.shared.gateway.run standing.session = (.returned gateway, standing.session)
  failed : ∀ error, returned = some (.error error) → ∃ opening,
    standing.shared.gateway.run standing.session =
      (.panicked (opening ++ error.message), standing.session)
  unasked : returned = none → ∃ text,
    standing.shared.gateway.run standing.session = (.panicked text, standing.session)

/-- The standing after some steps. -/
def reach (standing : SharedStanding W) (steps : List (SharedStep W)) : SharedStanding W :=
  steps.foldl (fun reached step => (advance reached step).2) standing

def answers (standing : SharedStanding W) : List (SharedStep W) → List SharedAnswer
  | [] => []
  | step :: rest => (advance standing step).1 :: answers (advance standing step).2 rest

theorem run_guardedStep (standing : SharedStanding W) (step : SharedStep W) :
    (standing.shared.guardedStep step).run standing.session =
      (.returned ((advance standing step).1, (advance standing step).2.shared),
        (advance standing step).2.session) := by
  rw [guardedStep, Crossing.run_bind, Crossing.run_attempt, advance]
  rcases (standing.shared.step step).run standing.session with ⟨outcome, after⟩
  cases outcome <;> rfl

/-- Steps made in order return their answers. -/
theorem run_steps (standing : SharedStanding W) (steps : List (SharedStep W)) :
    (standing.shared.steps steps).run standing.session =
      (.returned (answers standing steps), (reach standing steps).session) := by
  induction steps generalizing standing with
  | nil => rfl
  | cons step rest hypothesis =>
    simp only [Shared.steps, Crossing.run_bind, run_guardedStep]
    rw [hypothesis (advance standing step).2]
    rfl

/-- What a step answers is decided where the steps before it have led. -/
theorem getElem?_answers (standing : SharedStanding W) (steps : List (SharedStep W))
    (index : Nat) :
    (answers standing steps)[index]? =
      steps[index]?.map fun step => (advance (reach standing (steps.take index)) step).1 := by
  induction steps generalizing standing index with
  | nil => simp [answers]
  | cons step rest hypothesis =>
    cases index with
    | zero => simp [answers, reach]
    | succ index => simp [answers, reach, hypothesis]

/-! ## What is decided -/

/-- What the first initializer that returns has returned, where initializers are run one after
the other until one does. -/
def firstReturn? (session : Session (Host W)) :
    List (SharedStep W) → Option (Except InitError (Gateway W))
  | [] => none
  | .settle initializer :: rest =>
    match initializer.run session with
    | (.returned result, _) => some result
    | (.panicked _, after) => firstReturn? after rest
  | .isReady :: rest => firstReturn? session rest
  | .use _ :: rest => firstReturn? session rest

/-- A step that returns what is shared as it is leaves it as it is, whether it panics or not. -/
theorem advance_shared_of_bind {α : Type} {standing : SharedStanding W} {step : SharedStep W}
    {body : Crossing (Host W) α} {answer : α → SharedAnswer}
    (told : standing.shared.step step =
      body >>= fun value => pure (answer value, standing.shared)) :
    (advance standing step).2.shared = standing.shared := by
  rw [advance, told, Crossing.run_bind]
  rcases body.run standing.session with ⟨outcome, after⟩
  cases outcome <;> rfl

/-- What was decided stays decided. -/
theorem advance_decided {standing : SharedStanding W} {result : Except InitError (Gateway W)}
    (decided : standing.shared = ⟨some result⟩) (step : SharedStep W) :
    (advance standing step).2.shared = ⟨some result⟩ := by
  rcases standing with ⟨shared, session⟩
  subst decided
  cases step with
  | settle initializer => rfl
  | isReady => rfl
  | use calls =>
    let body := (⟨some result⟩ : Shared W).gateway >>= fun gateway =>
      Host.onMemory (gateway.run calls)
    have told : (⟨some result⟩ : Shared W).step (.use calls) =
        body >>= fun answers => pure (.used answers, ⟨some result⟩) := by
      simp only [body, Shared.step, bind_assoc]
    exact advance_shared_of_bind told

theorem reach_decided {standing : SharedStanding W} {result : Except InitError (Gateway W)}
    (decided : standing.shared = ⟨some result⟩) (steps : List (SharedStep W)) :
    (reach standing steps).shared = ⟨some result⟩ := by
  induction steps generalizing standing with
  | nil => exact decided
  | cons step rest hypothesis => exact hypothesis (advance_decided decided step)

section

variable {session after : Session (Host W)}
  {initializer : Crossing (Host W) (Except InitError (Gateway W))}

/-- An initializer that returns before anything is decided. -/
theorem advance_settle_of_returned {result : Except InitError (Gateway W)}
    (returned : initializer.run session = (.returned result, after)) :
    advance ⟨.undecided, session⟩ (.settle initializer) =
      (.settled true (Settlement.refusal ⟨true, result⟩), ⟨⟨some result⟩, after⟩) := by
  simp only [advance, Shared.step, settle, undecided, Crossing.run_bind, returned]
  rfl

/-- An initializer that panics before anything is decided. -/
theorem advance_settle_of_panicked {message : String}
    (panicked : initializer.run session = (.panicked message, after)) :
    advance ⟨.undecided, session⟩ (.settle initializer) =
      (.panicked message, ⟨.undecided, after⟩) := by
  simp only [advance, Shared.step, settle, undecided, Crossing.run_bind, panicked]

end

/-- From the beginning, what is decided is what was returned first. -/
theorem reach_shared (session : Session (Host W)) (steps : List (SharedStep W)) :
    (reach ⟨.undecided, session⟩ steps).shared = ⟨firstReturn? session steps⟩ := by
  induction steps generalizing session with
  | nil => rfl
  | cons step rest hypothesis =>
    cases step with
    | settle initializer =>
      rcases ran : initializer.run session with ⟨outcome, after⟩
      cases outcome with
      | returned result =>
        have decided : firstReturn? session (.settle initializer :: rest) = some result := by
          simp only [firstReturn?, ran]
        rw [decided, reach, List.foldl_cons, advance_settle_of_returned ran]
        exact reach_decided rfl rest
      | panicked message =>
        have further :
            firstReturn? session (.settle initializer :: rest) = firstReturn? after rest := by
          simp only [firstReturn?, ran]
        rw [further, reach, List.foldl_cons, advance_settle_of_panicked ran]
        exact hypothesis after
    | isReady => exact hypothesis session
    | use calls => exact hypothesis session

/-- Nothing was returned if and only if every initializer has panicked. -/
theorem firstReturn?_eq_none_iff (session : Session (Host W)) (steps : List (SharedStep W)) :
    firstReturn? session steps = none ↔
      ∀ (index : Nat) initializer, steps[index]? = some (.settle initializer) →
        ∃ message, (answers ⟨.undecided, session⟩ steps)[index]? = some (.panicked message) := by
  induction steps generalizing session with
  | nil => simp [firstReturn?]
  | cons step rest hypothesis =>
    -- A step that leaves everything undecided puts the question to the rest.
    have passes {answer : SharedAnswer} {after : Session (Host W)}
        (advanced : advance ⟨.undecided, session⟩ step = (answer, ⟨.undecided, after⟩))
        (same : firstReturn? session (step :: rest) = firstReturn? after rest)
        (panicked : ∀ initializer, step = .settle initializer →
          ∃ message, answer = .panicked message) :
        firstReturn? session (step :: rest) = none ↔
          ∀ (index : Nat) initializer, (step :: rest)[index]? = some (.settle initializer) →
            ∃ message,
              (answers ⟨.undecided, session⟩ (step :: rest))[index]? =
                some (.panicked message) := by
      rw [same, hypothesis after, answers, advanced]
      constructor
      · intro later index initializer found
        cases index with
        | zero =>
          rcases panicked initializer (Option.some.inj found) with ⟨message, rfl⟩
          exact ⟨message, rfl⟩
        | succ index => exact later index initializer found
      · intro all index initializer found
        exact all (index + 1) initializer found
    cases step with
    | settle initializer =>
      rcases ran : initializer.run session with ⟨outcome, after⟩
      cases outcome with
      | returned result =>
        have decided : firstReturn? session (.settle initializer :: rest) = some result := by
          simp only [firstReturn?, ran]
        rw [decided, answers, advance_settle_of_returned ran]
        constructor
        · intro impossible
          cases impossible
        · intro all
          rcases all 0 initializer rfl with ⟨message, impossible⟩
          cases impossible
      | panicked message =>
        refine passes (advance_settle_of_panicked ran) ?_ ?_
        · simp only [firstReturn?, ran]
        · intro _ _
          exact ⟨message, rfl⟩
    | isReady =>
      refine passes rfl rfl ?_
      intro initializer impossible
      cases impossible
    | use calls =>
      refine passes rfl rfl ?_
      intro initializer impossible
      cases impossible

theorem follows_of_shared {standing : SharedStanding W}
    {returned : Option (Except InitError (Gateway W))} (decided : standing.shared = ⟨returned⟩) :
    Follows standing returned := by
  rcases standing with ⟨shared, session⟩
  subst decided
  constructor
  · rintro rfl initializer result after ran
    simp only [settle, Crossing.run_bind, ran]
    rfl
  · rintro rfl initializer message after ran
    refine ⟨?_, advance_settle_of_panicked ran⟩
    simp only [settle, Crossing.run_bind, ran]
  · rintro result rfl initializer
    rfl
  · rcases returned with - | error | gateway
    · exact ⟨nofun, nofun⟩
    · constructor
      · intro ready
        cases ready
      · rintro ⟨gateway, impossible⟩
        cases impossible
    · exact ⟨fun _ => ⟨gateway, rfl⟩, fun _ => rfl⟩
  · rintro gateway rfl
    rfl
  · rintro error rfl
    exact ⟨"native interop failed to initialize: ", rfl⟩
  · rintro rfl
    exact ⟨undecidedText, rfl⟩

/-- In every session with a shared gateway that begins undecided, and after any of its steps, the
shared gateway follows what the first initializer that returned has returned, if any has. -/
theorem first_return_decides (session : Session (Host W)) (steps : List (SharedStep W)) :
    let start : SharedStanding W := ⟨.undecided, session⟩
    (undecided.steps steps).run session =
        (.returned (answers start steps), (reach start steps).session) ∧
      (firstReturn? session steps = none ↔
        ∀ (index : Nat) initializer, steps[index]? = some (.settle initializer) →
          ∃ message, (answers start steps)[index]? = some (.panicked message)) ∧
      ∀ index,
        let reached := reach start (steps.take index)
        Follows reached (firstReturn? session (steps.take index)) ∧
          (answers start steps)[index]? =
            steps[index]?.map fun step => (advance reached step).1 := by
  intro start
  refine ⟨run_steps start steps, firstReturn?_eq_none_iff session steps, ?_⟩
  intro index reached
  exact ⟨follows_of_shared (reach_shared session _), getElem?_answers start steps index⟩

/-- A panic decides nothing, and an error that was returned is the answer to whatever comes
after it. -/
example (session : Session (Host W)) (error : InitError)
    (late : Crossing (Host W) (Except InitError (Gateway W))) :
    answers ⟨.undecided, session⟩
        [.settle (Crossing.panic "early"), .isReady, .settle (pure (.error error)), .settle late,
          .isReady, .use []] =
      [.panicked "early", .isReady false, .settled true (some error),
        .settled false (some error), .isReady false, .panicked (failedText error)] :=
  rfl

end Shared

end NativeBoundary
