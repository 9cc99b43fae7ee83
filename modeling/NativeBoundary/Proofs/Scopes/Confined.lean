import NativeBoundary.Proofs.Scopes.Conversation

/-!
# Confined actions

A confined action works on its session, changes lent bytes, panics and catches
panics, and installs a closure only for the length of one piece of library code.
The closure may itself do all this, to any depth.  A confined action always ends,
and it ends in the same way whatever scopes are open around it: every call back
inside it is answered by a closure of its own.
-/

namespace NativeBoundary

/-- A session after an entry was written into its journal. -/
def Session.noted {W : Type} (session : Session W) (entry : Entry) : Session W :=
  { session with journal := entry :: session.journal }

end NativeBoundary

namespace NativeBoundary.Callback

variable {W : Type}

/-- An action that does nothing but change lent bytes before it returns. -/
inductive Inert : {α : Type} → Action W α → Prop
  | done {α : Type} {value : α} : Inert (.done value)
  | edit {α : Type} {change : List UInt8 → List UInt8} {next : Action W α}
      (rest : Inert next) : Inert (.edit change next)

/-- An action whose closures are installed for the length of one piece of library code each. -/
inductive Confined : {α : Type} → Action W α → Prop
  | done {α : Type} {value : α} : Confined (.done value)
  | panic {α : Type} {message : String} : Confined (.panic message : Action W α)
  | work {α β : Type} {change : Session W → β × Session W} {next : β → Action W α}
      (rest : ∀ value, Confined (next value)) : Confined (.work change next)
  | edit {α : Type} {change : List UInt8 → List UInt8} {next : Action W α}
      (rest : Confined next) : Confined (.edit change next)
  | attempt {α β : Type} {body : Action W β} {next : Outcome β → Action W α}
      (first : Confined body) (rest : ∀ outcome, Confined (next outcome)) :
      Confined (.attempt body next)
  | lend {α β : Type} {bytes : List UInt8} {body : Action W β}
      {next : Outcome β → List UInt8 → Action W α} (first : Confined body)
      (rest : ∀ outcome left, Confined (next outcome left)) :
      Confined (.lend bytes body next)
  | crossing {α β ρ : Type} {shape : Shape} {closure : Closure W shape} {symbol : Symbol}
      {code : Foreign shape ρ} {finish : ρ → Action W β} {next : β → Action W α}
      (called : ∀ view, Confined (closure view)) (inert : ∀ result, Inert (finish result))
      (rest : ∀ value, Confined (next value)) :
      Confined (.enter shape closure ((Action.native symbol code).andThen finish) next)

/-! ## Putting actions together -/

@[simp]
theorem Action.andThen_done {α : Type} (action : Action W α) :
    action.andThen Action.done = action := by
  induction action with
  | done value => rfl
  | panic message => rfl
  | work change next hypothesis =>
    rw [Action.andThen]
    exact congrArg _ (funext hypothesis)
  | edit change next hypothesis => rw [Action.andThen, hypothesis]
  | attempt body next bodyHypothesis nextHypothesis =>
    rw [Action.andThen]
    exact congrArg _ (funext nextHypothesis)
  | lend bytes body next bodyHypothesis nextHypothesis =>
    rw [Action.andThen]
    exact congrArg _ (funext fun outcome => funext (nextHypothesis outcome))
  | enter shape closure body next closureHypothesis bodyHypothesis nextHypothesis =>
    rw [Action.andThen]
    exact congrArg _ (funext nextHypothesis)
  | invoke shape argument next hypothesis =>
    rw [Action.andThen]
    exact congrArg _ (funext hypothesis)

/-- Confined actions in a row are confined. -/
theorem Confined.andThen {α β : Type} {action : Action W α} (confined : Confined action)
    {next : α → Action W β} (further : ∀ value, Confined (next value)) :
    Confined (action.andThen next) := by
  induction confined with
  | done => exact further _
  | panic => exact .panic
  | work rest hypothesis => exact .work fun value => hypothesis value further
  | edit rest hypothesis => exact .edit (hypothesis further)
  | attempt first rest firstHypothesis restHypothesis =>
    exact .attempt first fun outcome => restHypothesis outcome further
  | lend first rest firstHypothesis restHypothesis =>
    exact .lend first fun outcome left => restHypothesis outcome left further
  | crossing called inert rest calledHypothesis restHypothesis =>
    exact .crossing called inert fun value => restHypothesis value further

/-- Library code whose result is answered at once can be installed for. -/
theorem Confined.native {α ρ : Type} {shape : Shape} {closure : Closure W shape}
    {symbol : Symbol} {code : Foreign shape ρ} {next : ρ → Action W α}
    (called : ∀ view, Confined (closure view)) (rest : ∀ value, Confined (next value)) :
    Confined (.enter shape closure (Action.native symbol code) next) := by
  rw [← Action.andThen_done (Action.native symbol code)]
  exact .crossing called (fun result => .done) rest

/-! ## How a crossing ends -/

/-- An inert action returns and leaves everything but the lent bytes. -/
theorem Inert.evaluates {α : Type} {action : Action W α} (inert : Inert action)
    (lent : List UInt8) :
    ∃ value left, ∀ unwinding chain session parked,
      Evaluates unwinding chain action ⟨session, parked, lent⟩ (.returned value)
        ⟨session, parked, left⟩ := by
  induction inert generalizing lent with
  | @done value =>
    refine ⟨value, lent, ?_⟩
    intro unwinding chain session parked
    exact .done
  | @edit change next rest hypothesis =>
    rcases hypothesis (change lent) with ⟨value, left, everywhere⟩
    refine ⟨value, left, ?_⟩
    intro unwinding chain session parked
    exact .edit (everywhere unwinding chain session parked)

section

variable {chain : Chain W} {shape : Shape} {closure : Closure W shape} {ρ β : Type}
  {symbol : Symbol} {code : Foreign shape ρ} {finish : ρ → Action W β}
  {session after : Session W} {log : List (Outcome shape.Answer)} {result : ρ}
  {lent left : List UInt8} {value : β}

/-- The library code in a scope returns, with the first panic of the closure parked. -/
theorem Conversation.evaluates_native (contained : ∀ view, (closure view).SelfContained)
    (talks : Conversation closure code (session.noted (.called symbol none)) log result after)
    (finished :
      ∀ parked,
        Evaluates false (⟨shape, closure⟩ :: chain) (finish result) ⟨after, parked, lent⟩
          (.returned value) ⟨after, parked, left⟩) :
    Evaluates false (⟨shape, closure⟩ :: chain) ((Action.native symbol code).andThen finish)
      ⟨session, none, lent⟩ (.returned value) ⟨after, firstPanic? log, left⟩ := by
  have innermost := Chain.innermost?_cons_same shape closure chain
  have spoken := talks.evaluates contained innermost (finished (firstPanic? log))
  exact .work spoken

/-- A crossing without a panic goes on behind its scope. -/
theorem Conversation.crossing_returned {α : Type} {next : β → Action W α}
    {outcome : Outcome α} {last : Store W} (contained : ∀ view, (closure view).SelfContained)
    (talks : Conversation closure code (session.noted (.called symbol none)) log result after)
    (finished :
      ∀ parked,
        Evaluates false (⟨shape, closure⟩ :: chain) (finish result) ⟨after, parked, lent⟩
          (.returned value) ⟨after, parked, left⟩)
    (quiet : firstPanic? log = none)
    (rest : Evaluates false chain (next value) ⟨after, none, left⟩ outcome last) :
    Evaluates false chain
      (.enter shape closure ((Action.native symbol code).andThen finish) next)
      ⟨session, none, lent⟩ outcome last := by
  have body := talks.evaluates_native contained finished
  rw [quiet] at body
  exact .left body (.inr rfl) rest

/-- A crossing in which the closure panicked ends with the first panic. -/
theorem Conversation.crossing_panicked {α : Type} {next : β → Action W α} {message : String}
    (contained : ∀ view, (closure view).SelfContained)
    (talks : Conversation closure code (session.noted (.called symbol none)) log result after)
    (finished :
      ∀ parked,
        Evaluates false (⟨shape, closure⟩ :: chain) (finish result) ⟨after, parked, lent⟩
          (.returned value) ⟨after, parked, left⟩)
    (panics : firstPanic? log = some message) :
    Evaluates false chain
      (.enter shape closure ((Action.native symbol code).andThen finish) next)
      ⟨session, none, lent⟩ (.panicked message) ⟨after, none, left⟩ := by
  have body := talks.evaluates_native contained finished
  rw [panics] at body
  exact .resumed body rfl rfl

/-- A crossing that nothing comes after ends as its conversation ends. -/
theorem Conversation.crossing (contained : ∀ view, (closure view).SelfContained)
    (talks : Conversation closure code (session.noted (.called symbol none)) log result after)
    (finished :
      ∀ parked,
        Evaluates false (⟨shape, closure⟩ :: chain) (finish result) ⟨after, parked, lent⟩
          (.returned value) ⟨after, parked, left⟩) :
    Evaluates false chain
      (.enter shape closure ((Action.native symbol code).andThen finish) .done)
      ⟨session, none, lent⟩ (endOf log value) ⟨after, none, left⟩ := by
  unfold endOf
  cases panics : firstPanic? log with
  | none => exact talks.crossing_returned contained finished panics .done
  | some message => exact talks.crossing_panicked contained finished panics

end

/-! ## Confined actions are self-contained -/

/-- A confined action ends, in one way under all scopes, and leaves no panic parked. -/
theorem Confined.selfContained {α : Type} {action : Action W α} (confined : Confined action) :
    action.SelfContained := by
  induction confined with
  | @done α value =>
    intro session lent
    exact ⟨.returned value, session, lent, fun chain => .done⟩
  | @panic α message =>
    intro session lent
    exact ⟨.panicked message, session, lent, fun chain => .panic⟩
  | @work α β change next rest hypothesis =>
    intro session lent
    rcases hypothesis (change session).1 (change session).2 lent with
      ⟨outcome, after, left, everywhere⟩
    exact ⟨outcome, after, left, fun chain => .work (everywhere chain)⟩
  | @edit α change next rest hypothesis =>
    intro session lent
    rcases hypothesis session (change lent) with ⟨outcome, after, left, everywhere⟩
    exact ⟨outcome, after, left, fun chain => .edit (everywhere chain)⟩
  | attempt first rest firstHypothesis restHypothesis =>
    intro session lent
    rcases firstHypothesis session lent with ⟨ended, between, middle, first⟩
    rcases restHypothesis ended between middle with ⟨outcome, after, left, second⟩
    exact ⟨outcome, after, left, fun chain => .attempt (first chain) (second chain)⟩
  | @lend α β bytes body next first rest firstHypothesis restHypothesis =>
    intro session lent
    rcases firstHypothesis session bytes with ⟨ended, between, middle, first⟩
    rcases restHypothesis ended middle between lent with ⟨outcome, after, left, second⟩
    exact ⟨outcome, after, left, fun chain => .lend (first chain) (second chain)⟩
  | @crossing α β ρ shape closure symbol code finish next called inert rest calledHypothesis
      restHypothesis =>
    intro session lent
    rcases exists_conversation calledHypothesis code (session.noted (.called symbol none)) with
      ⟨log, result, between, talks⟩
    rcases (inert result).evaluates lent with ⟨value, middle, finished⟩
    cases panics : firstPanic? log with
    | some message =>
      refine ⟨.panicked message, between, middle, fun chain => ?_⟩
      exact talks.crossing_panicked calledHypothesis (finished false _ between) panics
    | none =>
      rcases restHypothesis value between middle with ⟨outcome, after, left, everywhere⟩
      refine ⟨outcome, after, left, fun chain => ?_⟩
      exact talks.crossing_returned calledHypothesis (finished false _ between) panics
        (everywhere chain)

end NativeBoundary.Callback
