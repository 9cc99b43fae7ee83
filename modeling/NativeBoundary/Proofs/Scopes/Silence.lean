import NativeBoundary.Proofs.Run.Avoidance
import NativeBoundary.Proofs.Scopes.Conversation

/-!
# Actions that never call an export

An action avoids an export if none of its pieces calls it: not its own work, not the
bodies of its scopes, and none of the closures that it installs, whatever they are
called with.  The closures of the scopes around it may answer its calls back, so an
action leaves the calls of the export as they are if they avoid it as well.
-/

namespace NativeBoundary.Callback

variable {W : Type} {symbol : Symbol}

/-- No piece of an action calls an export. -/
def Action.Avoids (symbol : Symbol) : {α : Type} → Action W α → Prop
  | _, .done _ => True
  | _, .panic _ => True
  | _, .work change next =>
    (∀ session, (change session).2.journal.handles symbol = session.journal.handles symbol) ∧
      ∀ value, (next value).Avoids symbol
  | _, .edit _ next => next.Avoids symbol
  | _, .attempt body next => body.Avoids symbol ∧ ∀ outcome, (next outcome).Avoids symbol
  | _, .lend _ body next => body.Avoids symbol ∧ ∀ outcome left, (next outcome left).Avoids symbol
  | _, .enter _ closure body next =>
    (∀ view, (closure view).Avoids symbol) ∧ body.Avoids symbol ∧
      ∀ value, (next value).Avoids symbol
  | _, .invoke _ _ next => ∀ reply, (next reply).Avoids symbol

namespace Action.Avoids

/-- Actions in a row avoid what each of them avoids. -/
theorem andThen {α β : Type} {action : Action W α} {next : α → Action W β}
    (avoids : action.Avoids symbol) (rest : ∀ value, (next value).Avoids symbol) :
    (action.andThen next).Avoids symbol := by
  induction action with
  | done value => exact rest value
  | panic message => trivial
  | work change further hypothesis =>
    exact ⟨avoids.1, fun value => hypothesis value (avoids.2 value) rest⟩
  | edit change further hypothesis => exact hypothesis avoids rest
  | attempt body further bodyHypothesis furtherHypothesis =>
    exact ⟨avoids.1, fun outcome => furtherHypothesis outcome (avoids.2 outcome) rest⟩
  | lend bytes body further bodyHypothesis furtherHypothesis =>
    exact ⟨avoids.1, fun outcome left => furtherHypothesis outcome left (avoids.2 outcome left) rest⟩
  | enter shape closure body further closureHypothesis bodyHypothesis furtherHypothesis =>
    exact ⟨avoids.1, avoids.2.1, fun value => furtherHypothesis value (avoids.2.2 value) rest⟩
  | invoke shape argument further hypothesis =>
    exact fun reply => hypothesis reply (avoids reply) rest

theorem ofForeign {shape : Shape} {ρ : Type} (code : Foreign shape ρ) :
    (Action.ofForeign code : Action W ρ).Avoids symbol := by
  induction code with
  | finish result => trivial
  | call argument next hypothesis => exact hypothesis

/-- An entry of another kind, or the call of another export. -/
theorem note {α : Type} {entry : Entry} {next : Action W α}
    (other : ∀ handle, entry ≠ .called symbol handle) (rest : next.Avoids symbol) :
    (Action.note entry next).Avoids symbol := by
  refine ⟨fun session => ?_, fun _ => rest⟩
  cases entry with
  | called called handle =>
    have different : called ≠ symbol := fun same => other handle (congrArg (Entry.called · handle) same)
    simp [different]
  | looked looked => rfl
  | raised record => rfl
  | configured part => rfl

/-- Library code behind another export. -/
theorem native {shape : Shape} {ρ : Type} {called : Symbol} (code : Foreign shape ρ)
    (different : called ≠ symbol) : (Action.native called code : Action W ρ).Avoids symbol := by
  refine note (fun handle same => different ?_) (ofForeign code)
  cases same
  rfl

end Action.Avoids

/-- Open scopes whose closures all avoid an export. -/
def Chain.Avoids (symbol : Symbol) (chain : Chain W) : Prop :=
  ∀ shape, ∀ closure ∈ chain.closures shape, ∀ view, (closure view).Avoids symbol

namespace Chain.Avoids

theorem nil : Chain.Avoids symbol ([] : Chain W) := by
  intro shape closure member
  cases member

theorem cons {chain : Chain W} (avoids : chain.Avoids symbol) {shape : Shape}
    {closure : Closure W shape} (called : ∀ view, (closure view).Avoids symbol) :
    Chain.Avoids symbol (⟨shape, closure⟩ :: chain) := by
  intro other found member
  by_cases same : other = shape
  · subst same
    rw [Chain.closures_cons_same] at member
    rcases List.mem_cons.mp member with rfl | older
    · exact called
    · exact avoids other found older
  · rw [Chain.closures_cons_other closure chain same] at member
    exact avoids other found member

theorem innermost {chain : Chain W} (avoids : chain.Avoids symbol) {shape : Shape}
    {closure : Closure W shape} (found : chain.innermost? shape = some closure) (view : shape.View) :
    (closure view).Avoids symbol :=
  avoids shape closure (List.mem_of_mem_head? found) view

end Chain.Avoids

/-- An action that avoids an export leaves its calls as they are, under scopes that avoid it. -/
theorem Evaluates.handles_eq {unwinding : Bool} {chain : Chain W} {α : Type} {action : Action W α}
    {store left : Store W} {outcome : Outcome α}
    (evaluated : Evaluates unwinding chain action store outcome left)
    (scopes : chain.Avoids symbol) (avoids : action.Avoids symbol) :
    left.session.journal.handles symbol = store.session.journal.handles symbol := by
  induction evaluated with
  | done => rfl
  | panic => rfl
  | work rest hypothesis => exact (hypothesis scopes (avoids.2 _)).trans (avoids.1 _)
  | edit rest hypothesis => exact hypothesis scopes avoids
  | attempt first rest firstHypothesis restHypothesis =>
    exact (restHypothesis scopes (avoids.2 _)).trans (firstHypothesis scopes avoids.1)
  | lend first rest firstHypothesis restHypothesis =>
    exact (restHypothesis scopes (avoids.2 _ _)).trans (firstHypothesis scopes avoids.1)
  | unwound first hypothesis => exact hypothesis (scopes.cons avoids.1) avoids.2.1
  | resumed first calm waiting hypothesis => exact hypothesis (scopes.cons avoids.1) avoids.2.1
  | left first quiet rest firstHypothesis restHypothesis =>
    exact (restHypothesis scopes (avoids.2.2 _)).trans
      (firstHypothesis (scopes.cons avoids.1) avoids.2.1)
  | unanswered idle rest hypothesis => exact hypothesis scopes (avoids _)
  | answered clear innermost called rest calledHypothesis restHypothesis =>
    exact (restHypothesis scopes (avoids _)).trans
      (calledHypothesis scopes (scopes.innermost innermost _))
  | trapped clear innermost called rest calledHypothesis restHypothesis =>
    exact (restHypothesis scopes (avoids _)).trans
      (calledHypothesis scopes (scopes.innermost innermost _))

/-- A self-contained action that avoids an export ends on every calm thread, and leaves the calls
of the export as they are. -/
theorem Action.SelfContained.exists_execute {α : Type} {action : Action W α}
    (contained : action.SelfContained) (avoids : action.Avoids symbol) (thread : Thread W)
    (calm : thread.isUnwinding = false) (clear : thread.parked = none) :
    ∃ depth outcome after,
      execute depth action thread = some (outcome, after) ∧
        after.session.journal.handles symbol = thread.session.journal.handles symbol := by
  rcases contained thread.session thread.lent with ⟨outcome, after, left, everywhere⟩
  rcases Action.execute_of_evaluates calm clear (everywhere thread.chain) with ⟨depth, executed⟩
  exact ⟨depth, outcome, _, executed, (everywhere []).handles_eq Chain.Avoids.nil avoids⟩

end NativeBoundary.Callback
