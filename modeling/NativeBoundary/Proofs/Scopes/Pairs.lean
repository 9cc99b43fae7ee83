import Mathlib.Data.List.Forall2
import NativeBoundary.Proofs.Scopes.Confined

/-!
# Pairs of actions

Two actions are alike, up to a relation on sessions, if they do the same piece by piece:
they panic with the same messages, change lent bytes in the same way, install closures
that are alike, and their own work gives the same values and related sessions when it
starts in related ones.

The main statement is that actions that are alike end alike.  Started in related sessions
and under scopes whose closures are alike, they end in the same way, leave related
sessions, the same lent bytes and the same parked panic.
-/

namespace NativeBoundary.Callback

variable {W : Type} {related : Session W → Session W → Prop}

/-- Actions that do the same piece by piece. -/
inductive Action.Alike (related : Session W → Session W → Prop) :
    {α : Type} → Action W α → Action W α → Prop
  | done {α : Type} {value : α} : Alike related (.done value) (.done value)
  | panic {α : Type} {message : String} :
      Alike related (.panic message : Action W α) (.panic message)
  | work {α β : Type} {change other : Session W → β × Session W} {next further : β → Action W α}
      (agree : ∀ first second, related first second →
        (change first).1 = (other second).1 ∧ related (change first).2 (other second).2)
      (rest : ∀ value, Alike related (next value) (further value)) :
      Alike related (.work change next) (.work other further)
  | edit {α : Type} {change : List UInt8 → List UInt8} {next further : Action W α}
      (rest : Alike related next further) : Alike related (.edit change next) (.edit change further)
  | attempt {α β : Type} {body other : Action W β} {next further : Outcome β → Action W α}
      (first : Alike related body other)
      (rest : ∀ outcome, Alike related (next outcome) (further outcome)) :
      Alike related (.attempt body next) (.attempt other further)
  | lend {α β : Type} {bytes : List UInt8} {body other : Action W β}
      {next further : Outcome β → List UInt8 → Action W α} (first : Alike related body other)
      (rest : ∀ outcome left, Alike related (next outcome left) (further outcome left)) :
      Alike related (.lend bytes body next) (.lend bytes other further)
  | enter {α β : Type} {shape : Shape} {closure installed : Closure W shape}
      {body other : Action W β} {next further : β → Action W α}
      (called : ∀ view, Alike related (closure view) (installed view))
      (first : Alike related body other)
      (rest : ∀ value, Alike related (next value) (further value)) :
      Alike related (.enter shape closure body next) (.enter shape installed other further)
  | invoke {α : Type} {shape : Shape} {argument : shape.Argument}
      {next further : shape.Reply → Action W α}
      (rest : ∀ reply, Alike related (next reply) (further reply)) :
      Alike related (.invoke shape argument next) (.invoke shape argument further)

/-- Closures that are alike, whatever they are called with. -/
def Closure.Alike (related : Session W → Session W → Prop) {shape : Shape}
    (first second : Closure W shape) : Prop :=
  ∀ view, Action.Alike related (first view) (second view)

namespace Action.Alike

variable {α β : Type}

/-- Actions in a row are alike where each of them is. -/
theorem andThen {first second : Action W α} {next further : α → Action W β}
    (alike : Alike related first second)
    (rest : ∀ value, Alike related (next value) (further value)) :
    Alike related (first.andThen next) (second.andThen further) := by
  induction alike with
  | done => exact rest _
  | panic => exact .panic
  | work agree inner hypothesis => exact .work agree fun value => hypothesis value rest
  | edit inner hypothesis => exact .edit (hypothesis rest)
  | attempt first inner firstHypothesis hypothesis =>
    exact .attempt first fun outcome => hypothesis outcome rest
  | lend first inner firstHypothesis hypothesis =>
    exact .lend first fun outcome left => hypothesis outcome left rest
  | enter called first inner calledHypothesis firstHypothesis hypothesis =>
    exact .enter called first fun value => hypothesis value rest
  | invoke inner hypothesis => exact .invoke fun reply => hypothesis reply rest

theorem ofForeign {shape : Shape} {ρ : Type} (code : Foreign shape ρ) :
    Alike related (Action.ofForeign code : Action W ρ) (Action.ofForeign code) := by
  induction code with
  | finish result => exact .done
  | call argument next hypothesis => exact .invoke hypothesis

/-- Both actions note an entry that keeps sessions related. -/
theorem note {entry : Entry} {next further : Action W α}
    (keeps : ∀ first second, related first second →
      related (first.noted entry) (second.noted entry))
    (rest : Alike related next further) :
    Alike related (Action.note entry next) (Action.note entry further) :=
  .work (fun first second sessions => ⟨rfl, keeps first second sessions⟩) fun _ => rest

end Action.Alike

/-- Open scopes of the same shapes whose closures are alike. -/
def Chain.Alike (related : Session W → Session W → Prop) (first second : Chain W) : Prop :=
  ∀ shape, List.Forall₂ (Closure.Alike related) (first.closures shape) (second.closures shape)

namespace Chain.Alike

theorem nil : Chain.Alike related ([] : Chain W) [] := fun _ => .nil

theorem cons {first second : Chain W} (alike : Chain.Alike related first second) {shape : Shape}
    {closure installed : Closure W shape} (called : Closure.Alike related closure installed) :
    Chain.Alike related (⟨shape, closure⟩ :: first) (⟨shape, installed⟩ :: second) := by
  intro other
  by_cases same : other = shape
  · subst same
    rw [Chain.closures_cons_same, Chain.closures_cons_same]
    exact .cons called (alike other)
  · rw [Chain.closures_cons_other closure first same,
      Chain.closures_cons_other installed second same]
    exact alike other

/-- Where no scope of a shape is open on one side, none is open on the other. -/
theorem innermost_none {first second : Chain W} (alike : Chain.Alike related first second)
    {shape : Shape} (idle : first.innermost? shape = none) : second.innermost? shape = none := by
  have both := alike shape
  rw [List.head?_eq_none_iff.mp idle] at both
  exact List.head?_eq_none_iff.mpr (List.forall₂_nil_left_iff.mp both)

/-- The innermost closures of a shape are alike. -/
theorem exists_innermost {first second : Chain W} (alike : Chain.Alike related first second)
    {shape : Shape} {closure : Closure W shape} (found : first.innermost? shape = some closure) :
    ∃ installed, second.innermost? shape = some installed ∧
      Closure.Alike related closure installed := by
  rcases List.head?_eq_some_iff.mp found with ⟨older, listed⟩
  have both := alike shape
  rw [listed] at both
  rcases List.forall₂_cons_left_iff.mp both with ⟨installed, others, called, -, other⟩
  exact ⟨installed, List.head?_eq_some_iff.mpr ⟨others, other⟩, called⟩

end Chain.Alike

/-- Actions that are alike end alike when they start in related sessions, under scopes that are
alike. -/
theorem Evaluates.alike {unwinding : Bool} {chain otherChain : Chain W} {α : Type}
    {first second : Action W α} {store after : Store W} {outcome : Outcome α}
    (evaluated : Evaluates unwinding chain first store outcome after)
    (alike : Action.Alike related first second) (scopes : Chain.Alike related chain otherChain)
    {session : Session W} (sessions : related store.session session) :
    ∃ reached, related after.session reached ∧
      Evaluates unwinding otherChain second { store with session } outcome
        { after with session := reached } := by
  -- The run of the second action is built along that of the first: `alike` names the piece that
  -- goes with the one at hand, and `scopes` the closure that answers in place of the other.
  induction evaluated generalizing otherChain session with
  | done =>
    cases alike
    exact ⟨session, sessions, .done⟩
  | panic =>
    cases alike
    exact ⟨session, sessions, .panic⟩
  | work rest hypothesis =>
    cases alike with
    | work agree further =>
      rcases agree _ _ sessions with ⟨same, kept⟩
      rcases hypothesis (further _) scopes kept with ⟨reached, ended, evaluated⟩
      rw [same] at evaluated
      exact ⟨reached, ended, .work evaluated⟩
  | edit rest hypothesis =>
    cases alike with
    | edit further =>
      rcases hypothesis further scopes sessions with ⟨reached, ended, evaluated⟩
      exact ⟨reached, ended, .edit evaluated⟩
  | attempt first rest firstHypothesis restHypothesis =>
    cases alike with
    | attempt body further =>
      rcases firstHypothesis body scopes sessions with ⟨middle, kept, evaluated⟩
      rcases restHypothesis (further _) scopes kept with ⟨reached, ended, continued⟩
      exact ⟨reached, ended, .attempt evaluated continued⟩
  | lend first rest firstHypothesis restHypothesis =>
    cases alike with
    | lend body further =>
      rcases firstHypothesis body scopes sessions with ⟨middle, kept, evaluated⟩
      rcases restHypothesis (further _ _) scopes kept with ⟨reached, ended, continued⟩
      exact ⟨reached, ended, .lend evaluated continued⟩
  | unwound first hypothesis =>
    cases alike with
    | enter called body further =>
      rcases hypothesis body (scopes.cons called) sessions with ⟨reached, ended, evaluated⟩
      exact ⟨reached, ended, .unwound evaluated⟩
  | resumed first calm waiting hypothesis =>
    cases alike with
    | enter called body further =>
      rcases hypothesis body (scopes.cons called) sessions with ⟨reached, ended, evaluated⟩
      exact ⟨reached, ended, .resumed evaluated calm waiting⟩
  | left first quiet rest firstHypothesis restHypothesis =>
    cases alike with
    | enter called body further =>
      rcases firstHypothesis body (scopes.cons called) sessions with ⟨middle, kept, evaluated⟩
      rcases restHypothesis (further _) scopes kept with ⟨reached, ended, continued⟩
      exact ⟨reached, ended, .left evaluated quiet continued⟩
  | unanswered idle rest hypothesis =>
    cases alike with
    | invoke further =>
      rcases hypothesis (further _) scopes sessions with ⟨reached, ended, evaluated⟩
      exact ⟨reached, ended, .unanswered (idle.imp_right scopes.innermost_none) evaluated⟩
  | answered clear innermost called rest calledHypothesis restHypothesis =>
    cases alike with
    | invoke further =>
      rcases scopes.exists_innermost innermost with ⟨installed, found, partner⟩
      rcases calledHypothesis (partner _) scopes sessions with ⟨middle, kept, evaluated⟩
      rcases restHypothesis (further _) scopes kept with ⟨reached, ended, continued⟩
      exact ⟨reached, ended, .answered clear found evaluated continued⟩
  | trapped clear innermost called rest calledHypothesis restHypothesis =>
    cases alike with
    | invoke further =>
      rcases scopes.exists_innermost innermost with ⟨installed, found, partner⟩
      rcases calledHypothesis (partner _) scopes sessions with ⟨middle, kept, evaluated⟩
      rcases restHypothesis (further _) scopes kept with ⟨reached, ended, continued⟩
      exact ⟨reached, ended, .trapped clear found evaluated continued⟩

/-! ## Actions by themselves -/

variable {α : Type} {session after : Session W} {lent left : List UInt8} {outcome : Outcome α}

/-- An action by itself ends in one way. -/
theorem Action.EndsAlone.unique {action : Action W α} {ended : Outcome α} {reached : Session W}
    {remaining : List UInt8} (ends : action.EndsAlone session lent outcome after left)
    (endsToo : action.EndsAlone session lent ended reached remaining) :
    outcome = ended ∧ after = reached := by
  rcases ends with ⟨depth, finished⟩
  rcases endsToo with ⟨other, alsoFinished⟩
  have same := execute_unique finished alsoFinished
  injection same with sameOutcome sameThread
  exact ⟨sameOutcome, congrArg Thread.session sameThread⟩

/-- An action that is like a self-contained one ends as that one does. -/
theorem Action.SelfContained.endsAlone_of_alike {first second : Action W α} {other : Session W}
    (contained : first.SelfContained) (alike : Action.Alike related first second)
    (sessions : related session other)
    (ends : first.EndsAlone session lent outcome after left) :
    ∃ reached, related after reached ∧ second.EndsAlone other lent outcome reached left := by
  rcases (contained.evaluates ends []).alike alike .nil sessions with ⟨reached, ended, evaluated⟩
  exact ⟨reached, ended, execute_of_evaluates rfl rfl evaluated⟩

end NativeBoundary.Callback
