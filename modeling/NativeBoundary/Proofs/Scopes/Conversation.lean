import NativeBoundary.Proofs.Scopes.Steps

/-!
# Conversations of library code with a closure

While library code runs, it calls back and a closure answers.  A conversation
lists how the calls of the closure have ended and what the library code has
computed from them.  It is told without scopes: every call of the closure is run
by itself on a fresh thread.  As soon as a call panics the closure is out of the
conversation, and the library code goes on with defaults.
-/

namespace NativeBoundary.Callback

variable {W : Type}

/-! ## Actions by themselves -/

namespace Action

variable {α : Type}

/-- How an action ends on a fresh thread, and the session and the lent bytes that it leaves. -/
def EndsAlone (action : Action W α) (session : Session W) (lent : List UInt8)
    (outcome : Outcome α) (after : Session W) (left : List UInt8) : Prop :=
  ∃ depth,
    execute depth action { Thread.fresh session with lent } =
      some (outcome, { Thread.fresh after with lent := left })

/-- An action that always ends, in one way whatever scopes are open, and leaves no panic parked. -/
def SelfContained (action : Action W α) : Prop :=
  ∀ session lent, ∃ outcome after left, ∀ chain,
    Evaluates false chain action ⟨session, none, lent⟩ outcome ⟨after, none, left⟩

/-- On a thread that is not unwinding, what is evaluated under its open scopes is executed. -/
theorem execute_of_evaluates {action : Action W α} {thread : Thread W} {outcome : Outcome α}
    {after : Session W} {left : List UInt8} (calm : thread.isUnwinding = false)
    (clear : thread.parked = none)
    (evaluated :
      Evaluates false thread.chain action ⟨thread.session, none, thread.lent⟩ outcome
        ⟨after, none, left⟩) :
    ∃ depth,
      execute depth action thread =
        some (outcome, { thread with session := after, lent := left }) := by
  rcases evaluated.finishes thread thread.chain_lists calm with ⟨depth, finished⟩
  refine ⟨depth, ?_⟩
  have same : Store.onto ⟨thread.session, none, thread.lent⟩ thread = thread := by
    rw [← clear]
    rfl
  rw [same] at finished
  rw [finished, Store.onto]
  rw [← clear]

namespace SelfContained

/-- A self-contained action ends on a fresh thread. -/
theorem exists_endsAlone {action : Action W α} (contained : action.SelfContained)
    (session : Session W) (lent : List UInt8) :
    ∃ outcome after left, action.EndsAlone session lent outcome after left := by
  rcases contained session lent with ⟨outcome, after, left, everywhere⟩
  refine ⟨outcome, after, left, ?_⟩
  have evaluated := everywhere ({ Thread.fresh session with lent } : Thread W).chain
  exact execute_of_evaluates rfl rfl evaluated

/-- As a self-contained action ends on a fresh thread, it ends under all scopes. -/
theorem evaluates {action : Action W α} (contained : action.SelfContained)
    {session after : Session W} {lent left : List UInt8} {outcome : Outcome α}
    (ends : action.EndsAlone session lent outcome after left) (chain : Chain W) :
    Evaluates false chain action ⟨session, none, lent⟩ outcome ⟨after, none, left⟩ := by
  rcases contained session lent with ⟨ended, reached, remaining, everywhere⟩
  have evaluated := everywhere ({ Thread.fresh session with lent } : Thread W).chain
  rcases execute_of_evaluates rfl rfl evaluated with ⟨depth, finished⟩
  rcases ends with ⟨alone, finishedAlone⟩
  have unique := execute_unique finishedAlone finished
  injection unique with sameOutcome sameThread
  have sameSession : after = reached := congrArg Thread.session sameThread
  have sameLent : left = remaining := congrArg Thread.lent sameThread
  rw [sameOutcome, sameSession, sameLent]
  exact everywhere chain

end SelfContained

end Action

/-! ## Conversations -/

/-- What library code and a closure do together, from one session to another: how the calls of
the closure end, the first one first, and what the library code computes. -/
inductive Conversation {shape : Shape} (closure : Closure W shape) {ρ : Type} :
    Foreign shape ρ → Session W → List (Outcome shape.Answer) → ρ → Session W → Prop
  | finished {result : ρ} {session : Session W} :
      Conversation closure (.finish result) session [] result session
  /-- The closure answers, and the library code goes on with the reply. -/
  | answered {argument : shape.Argument} {next : shape.Reply → Foreign shape ρ}
      {session between after : Session W} {answer : shape.Answer} {left : List UInt8}
      {log : List (Outcome shape.Answer)} {result : ρ}
      (called :
        (closure (shape.view argument)).EndsAlone session (shape.lent argument)
          (.returned answer) between left)
      (rest : Conversation closure (next (shape.reply answer left)) between log result after) :
      Conversation closure (.call argument next) session (.returned answer :: log) result after
  /-- The closure panics and is not run again; every further call gets the default. -/
  | panicked {argument : shape.Argument} {next : shape.Reply → Foreign shape ρ}
      {session after : Session W} {message : String} {left : List UInt8}
      (called :
        (closure (shape.view argument)).EndsAlone session (shape.lent argument)
          (.panicked message) after left) :
      Conversation closure (.call argument next) session [.panicked message]
        ((next (shape.reply shape.defaultAnswer left)).answeredBy shape.defaultReply) after

/-- The first panic among the ends of some calls. -/
def firstPanic? {α : Type} : List (Outcome α) → Option String
  | [] => none
  | .returned _ :: rest => firstPanic? rest
  | .panicked message :: _ => some message

/-- How a call with a closure ends: with the first panic of the closure, or else with a value. -/
def endOf {α β : Type} (log : List (Outcome α)) (value : β) : Outcome β :=
  match firstPanic? log with
  | some message => .panicked message
  | none => .returned value

namespace Conversation

variable {shape : Shape} {closure : Closure W shape} {ρ : Type} {code : Foreign shape ρ}
  {session after : Session W} {log : List (Outcome shape.Answer)} {result : ρ}

/-- Only the last call of a conversation can have panicked. -/
theorem log_cases (talks : Conversation closure code session log result after) :
    (firstPanic? log = none ∧ ∃ answers : List shape.Answer, log = answers.map .returned) ∨
      ∃ message, firstPanic? log = some message ∧
        ∃ answers : List shape.Answer, log = answers.map .returned ++ [.panicked message] := by
  induction talks with
  | finished => exact .inl ⟨rfl, [], rfl⟩
  | @answered _ _ _ _ _ answer _ log _ called rest hypothesis =>
    rcases hypothesis with ⟨none, answers, rfl⟩ | ⟨message, panics, answers, rfl⟩
    · exact .inl ⟨none, answer :: answers, rfl⟩
    · exact .inr ⟨message, panics, answer :: answers, rfl⟩
  | @panicked _ _ _ _ message _ called => exact .inr ⟨message, rfl, [], rfl⟩

/-- A conversation does not depend on what becomes of the result. -/
theorem map {σ : Type} (transform : ρ → σ)
    (talks : Conversation closure code session log result after) :
    Conversation closure (code.map transform) session log (transform result) after := by
  induction talks with
  | finished => exact .finished
  | answered called rest hypothesis => exact .answered called hypothesis
  | @panicked argument next _ _ _ left called =>
    have talks : Conversation closure ((Foreign.call argument next).map transform) _ _ _ _ :=
      .panicked called
    rw [Foreign.answeredBy_map] at talks
    exact talks

end Conversation

/-- Library code finds a partner in every closure whose calls are self-contained. -/
theorem exists_conversation {shape : Shape} {closure : Closure W shape}
    (contained : ∀ view, (closure view).SelfContained) {ρ : Type} (code : Foreign shape ρ)
    (session : Session W) :
    ∃ log result after, Conversation closure code session log result after := by
  induction code generalizing session with
  | finish result => exact ⟨[], result, session, .finished⟩
  | call argument next hypothesis =>
    rcases (contained (shape.view argument)).exists_endsAlone session (shape.lent argument) with
      ⟨outcome, between, left, called⟩
    cases outcome with
    | panicked message => exact ⟨_, _, _, .panicked called⟩
    | returned answer =>
      rcases hypothesis (shape.reply answer left) between with ⟨log, result, after, rest⟩
      exact ⟨_, _, _, .answered called rest⟩

/-! ## Conversations inside a scope -/

/-- Library code that runs in the scope of a closure holds its conversation with it, and leaves
the first panic of the closure parked. -/
theorem Conversation.evaluates {shape : Shape} {closure : Closure W shape}
    (contained : ∀ view, (closure view).SelfContained) {chain : Chain W}
    (innermost : chain.innermost? shape = some closure) {ρ α : Type} {code : Foreign shape ρ}
    {session after : Session W} {log : List (Outcome shape.Answer)} {result : ρ}
    (talks : Conversation closure code session log result after) {next : ρ → Action W α}
    {lent : List UInt8} {outcome : Outcome α} {left : Store W}
    (rest :
      Evaluates false chain (next result) ⟨after, firstPanic? log, lent⟩ outcome left) :
    Evaluates false chain ((Action.ofForeign code).andThen next) ⟨session, none, lent⟩ outcome
      left := by
  induction talks with
  | finished => exact rest
  | answered called further hypothesis =>
    have ends := (contained _).evaluates called chain
    exact .answered rfl innermost ends (hypothesis rest)
  | panicked called =>
    have ends := (contained _).evaluates called chain
    exact .trapped rfl innermost ends (evaluates_ofForeign_parked_iff.mpr rest)

end NativeBoundary.Callback
