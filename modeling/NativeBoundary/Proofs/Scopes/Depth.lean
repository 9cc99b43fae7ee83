import NativeBoundary.Callback.Thread

/-!
# The depth of calls back

The depth to which calls back may be nested only bounds a run.  A run that
finishes within some depth finishes within every greater one, and in the same
way, so how an action ends does not depend on the bound.
-/

namespace NativeBoundary.Callback

variable {W : Type}

/-- The second way of running closures finishes whatever the first one finishes, and alike. -/
def Serve.ExtendedBy (first second : Serve W) : Prop :=
  ∀ shape (closure : Closure W shape) view thread result,
    first shape closure view thread = some result →
      second shape closure view thread = some result

/-- A call back that is finished one way is finished alike by every extension of it. -/
theorem callBack_extended {first second : Serve W} (extended : first.ExtendedBy second)
    {shape : Shape} {argument : shape.Argument} {thread : Thread W}
    {result : shape.Reply × Thread W}
    (finished : callBack first shape argument thread = some result) :
    callBack second shape argument thread = some result := by
  unfold callBack at finished ⊢
  split at finished
  · exact finished
  · exact finished
  · rcases Option.map_eq_some_iff.mp finished with ⟨served, ran, shown⟩
    exact Option.map_eq_some_iff.mpr ⟨served, extended _ _ _ _ _ ran, shown⟩

/-- An action that is finished one way is finished alike by every extension of it. -/
theorem runWith_extended {first second : Serve W} (extended : first.ExtendedBy second)
    {α : Type} {action : Action W α} {thread : Thread W} {result : Outcome α × Thread W}
    (finished : runWith first action thread = some result) :
    runWith second action thread = some result := by
  induction action generalizing thread with
  | done value => exact finished
  | panic message => exact finished
  | work change next hypothesis =>
    simp only [runWith] at finished ⊢
    exact hypothesis _ finished
  | edit change next hypothesis =>
    simp only [runWith] at finished ⊢
    exact hypothesis finished
  | attempt body next bodyHypothesis nextHypothesis =>
    simp only [runWith] at finished ⊢
    cases ran : runWith first body thread with
    | none => simp [ran] at finished
    | some ended =>
      rw [ran] at finished
      rw [bodyHypothesis ran]
      exact nextHypothesis _ finished
  | lend bytes body next bodyHypothesis nextHypothesis =>
    simp only [runWith] at finished ⊢
    cases ran : runWith first body { thread with lent := bytes } with
    | none => simp [ran] at finished
    | some ended =>
      rw [ran] at finished
      rw [bodyHypothesis ran]
      exact nextHypothesis _ _ finished
  | enter shape closure body next closureHypothesis bodyHypothesis nextHypothesis =>
    simp only [runWith] at finished ⊢
    cases ran : runWith first body (thread.push shape closure) with
    | none => simp [ran] at finished
    | some ended =>
      rw [ran] at finished
      rw [bodyHypothesis ran]
      rcases ended with ⟨outcome, after⟩
      cases outcome with
      | panicked message => exact finished
      | returned value =>
        simp only at finished ⊢
        split at finished
        · exact finished
        · exact nextHypothesis value finished
  | invoke shape argument next hypothesis =>
    simp only [runWith] at finished ⊢
    cases ran : callBack first shape argument thread with
    | none => simp [ran] at finished
    | some replied =>
      rw [ran] at finished
      rw [callBack_extended extended ran]
      exact hypothesis _ finished

/-- Every further level of nesting extends the levels below it. -/
theorem serveWithin_extended (depth : Nat) :
    (serveWithin depth : Serve W).ExtendedBy (serveWithin (depth + 1)) := by
  induction depth with
  | zero =>
    intro shape closure view thread result finished
    cases finished
  | succ depth hypothesis =>
    intro shape closure view thread result finished
    exact runWith_extended hypothesis finished

/-- What is finished within some depth is finished alike within a greater one. -/
theorem execute_of_le {depth greater : Nat} (within : depth ≤ greater) {α : Type}
    {action : Action W α} {thread : Thread W} {result : Outcome α × Thread W}
    (finished : execute depth action thread = some result) :
    execute greater action thread = some result := by
  induction within with
  | refl => exact finished
  | step _ hypothesis => exact runWith_extended (serveWithin_extended _) hypothesis

/-- An action ends in one way, whatever the depth. -/
theorem execute_unique {first second : Nat} {α : Type} {action : Action W α}
    {thread : Thread W} {one other : Outcome α × Thread W}
    (finished : execute first action thread = some one)
    (alsoFinished : execute second action thread = some other) : one = other := by
  have oneWithin := execute_of_le (Nat.le_max_left first second) finished
  have otherWithin := execute_of_le (Nat.le_max_right first second) alsoFinished
  exact Option.some.inj (oneWithin.symm.trans otherWithin)

/-- What one finished run of an action shows, every finished run of it shows. -/
theorem execute_shows {first : Nat} (second : Nat) {α β : Type} {action : Action W α}
    {thread : Thread W} {result : Outcome α × Thread W} (seen : Outcome α × Thread W → β)
    {value : β}
    (finished : execute first action thread = some result)
    (shown : (execute second action thread).map seen = some value) : seen result = value := by
  rcases Option.map_eq_some_iff.mp shown with ⟨other, alsoFinished, same⟩
  rw [execute_unique finished alsoFinished]
  exact same

end NativeBoundary.Callback
