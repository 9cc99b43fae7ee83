import NativeBoundary.Proofs.Run.Names

/-!
# Where a run stands

A run goes from one standing to the next: the objects under their names, and the
session.  A step always leaves a standing behind, since a panic ends with the
step.  The main statements read a run as the standings that its steps pass
through, and carry a property from the first of them to all of them.
-/

namespace NativeBoundary

variable {W : Type}

/-- The objects of a run and its session between two steps. -/
structure Standing (W : Type) where
  objects : Objects
  session : Session W

/-- An object whose owner holds nothing any more. -/
def OwnedObject.ended (object : OwnedObject) : OwnedObject :=
  { object with owner := { object.owner with state := .destroyed } }

theorem OwnedObject.ended_eq_self (object : OwnedObject)
    (destroyed : object.owner.state = .destroyed) : object.ended = object := by
  rcases object with ⟨kind, typeName, state⟩
  cases destroyed
  rfl

namespace Gateway

variable (gateway : Gateway W)

/-- What a step reports, and the standing after it. -/
def advance (standing : Standing W) (step : Step) : StepReport × Standing W :=
  match (gateway.step standing.objects step).run standing.session with
  | (.returned (reported, left), after) =>
    (⟨reported, after.journal.destroyCounts⟩, ⟨left, after⟩)
  | (.panicked message, after) =>
    (⟨.error (.panic message), after.journal.destroyCounts⟩, ⟨standing.objects, after⟩)

/-- The standing after some steps. -/
def reach (standing : Standing W) (steps : List Step) : Standing W :=
  steps.foldl (fun reached step => (gateway.advance reached step).2) standing

def reports (standing : Standing W) : List Step → List StepReport
  | [] => []
  | step :: rest =>
    (gateway.advance standing step).1 :: reports (gateway.advance standing step).2 rest

@[simp]
theorem reach_nil (standing : Standing W) : gateway.reach standing [] = standing := rfl

@[simp]
theorem reach_cons (standing : Standing W) (step : Step) (rest : List Step) :
    gateway.reach standing (step :: rest) =
      gateway.reach (gateway.advance standing step).2 rest := rfl

theorem reach_append (standing : Standing W) (first second : List Step) :
    gateway.reach standing (first ++ second) =
      gateway.reach (gateway.reach standing first) second :=
  List.foldl_append

/-! ## Steps on named objects -/

section

variable {objects : Objects} {name : String} {kind : ObjectKind}
  {work : OwnedObject → Crossing W (Reported × Objects)}

/-- Work on the object of a kind under a name, if it is there. -/
theorem onObject_found {object : OwnedObject} (found : objects.get? name = some object) :
    onObject objects name object.kind work = work object := by
  simp [onObject, found]

/-- Nothing is done where a name stands for no object of the kind. -/
theorem onObject_missing
    (absent : ∀ object, objects.get? name = some object → object.kind ≠ kind) :
    onObject objects name kind work = pure (.error .noSuchObject, objects) := by
  unfold onObject
  cases found : objects.get? name with
  | none => rfl
  | some object => exact if_neg (absent object found)

end

/-! ## Steps in order -/

/-- A step returns its report and its standing, also when what it does panics. -/
theorem run_guardedStep (standing : Standing W) (step : Step) :
    (gateway.guardedStep standing.objects step).run standing.session =
      (.returned
        ((gateway.advance standing step).1, (gateway.advance standing step).2.objects),
        (gateway.advance standing step).2.session) := by
  simp only [guardedStep, advance, Crossing.run_bind, Crossing.run_attempt,
    Crossing.run_journal]
  rcases (gateway.step standing.objects step).run standing.session with ⟨outcome, after⟩
  cases outcome <;> rfl

/-- Steps made in order return their reports and the last standing. -/
theorem run_steps (standing : Standing W) (steps : List Step) :
    (gateway.steps standing.objects steps).run standing.session =
      (.returned (gateway.reports standing steps, (gateway.reach standing steps).objects),
        (gateway.reach standing steps).session) := by
  induction steps generalizing standing with
  | nil => rfl
  | cons step rest hypothesis =>
    simp only [Gateway.steps, Crossing.run_bind, run_guardedStep]
    rw [hypothesis (gateway.advance standing step).2]
    rfl

/-- What a step reports is decided where the steps before it have led. -/
theorem getElem?_reports (standing : Standing W) (steps : List Step) (index : Nat) :
    (gateway.reports standing steps)[index]? =
      steps[index]?.map fun step =>
        (gateway.advance (gateway.reach standing (steps.take index)) step).1 := by
  induction steps generalizing standing index with
  | nil => simp [reports]
  | cons step rest hypothesis =>
    cases index with
    | zero => simp [reports]
    | succ index => simp [reports, hypothesis]

/-- What holds at first and is kept by every step holds wherever a run leads. -/
theorem reach_induction {motive : Standing W → Prop} {standing : Standing W}
    (first : motive standing)
    (kept : ∀ reached step, motive reached → motive (gateway.advance reached step).2)
    (steps : List Step) : motive (gateway.reach standing steps) := by
  induction steps generalizing standing with
  | nil => exact first
  | cons step rest hypothesis => exact hypothesis (kept standing step first)

end Gateway

end NativeBoundary
