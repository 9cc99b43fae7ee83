import NativeBoundary.Proofs.Scopes.Depth
import NativeBoundary.Proofs.Scopes.Stacks

/-!
# Threads keep the lexical discipline of scopes

A run on a thread and the lexical reading of its action agree: whatever finishes
on the thread is an evaluation under the chain of its open scopes, it leaves the
stacks of all shapes as they were, and every evaluation finishes on the thread
within some depth.  So a call back reaches the closure of the most recently
entered scope of its shape that is still open, and a scope that ends leaves
neither its closure nor a parked panic behind.
-/

namespace NativeBoundary.Callback

variable {W : Type}

/-! ## From the thread to the lexical reading -/

/-- A way of running closures that keeps the stacks and agrees with the lexical reading. -/
def Serve.Lexical (serve : Serve W) : Prop :=
  ∀ shape (closure : Closure W shape) view (thread : Thread W) (chain : Chain W) outcome after,
    chain.Lists thread → serve shape closure view thread = some (outcome, after) →
      ∃ left : Store W, after = left.onto thread ∧
        Evaluates thread.isUnwinding chain (closure view) thread.store outcome left

/-- With closures that keep the discipline, a run of an action keeps it. -/
theorem runWith_lexical {serve : Serve W} (lexical : serve.Lexical) {α : Type}
    {action : Action W α} {thread : Thread W} {chain : Chain W} {outcome : Outcome α}
    {after : Thread W} (lists : chain.Lists thread)
    (finished : runWith serve action thread = some (outcome, after)) :
    ∃ left : Store W, after = left.onto thread ∧
      Evaluates thread.isUnwinding chain action thread.store outcome left := by
  induction action generalizing thread chain after with
  | done value =>
    cases finished
    exact ⟨thread.store, rfl, .done⟩
  | panic message =>
    cases finished
    exact ⟨thread.store, rfl, .panic⟩
  | work change next hypothesis =>
    rcases hypothesis _ (lists.onto ⟨_, _, _⟩) finished with ⟨left, rfl, rest⟩
    exact ⟨left, rfl, .work rest⟩
  | edit change next hypothesis =>
    rcases hypothesis (lists.onto ⟨_, _, _⟩) finished with ⟨left, rfl, rest⟩
    exact ⟨left, rfl, .edit rest⟩
  | attempt body next bodyHypothesis nextHypothesis =>
    simp only [runWith] at finished
    cases ran : runWith serve body thread with
    | none => simp [ran] at finished
    | some ended =>
      rcases ended with ⟨ended, middle⟩
      rw [ran] at finished
      rcases bodyHypothesis lists ran with ⟨between, rfl, first⟩
      rcases nextHypothesis _ (lists.onto between) finished with ⟨left, rfl, rest⟩
      exact ⟨left, rfl, .attempt first rest⟩
  | lend bytes body next bodyHypothesis nextHypothesis =>
    simp only [runWith] at finished
    cases ran : runWith serve body { thread with lent := bytes } with
    | none => simp [ran] at finished
    | some ended =>
      rcases ended with ⟨ended, middle⟩
      rw [ran] at finished
      rcases bodyHypothesis (lists.onto ⟨_, _, bytes⟩) ran with ⟨between, rfl, first⟩
      rcases nextHypothesis _ _ (lists.onto ⟨_, _, _⟩) finished with ⟨left, rfl, rest⟩
      exact ⟨left, rfl, .lend first rest⟩
  | enter shape closure body next closureHypothesis bodyHypothesis nextHypothesis =>
    cases ran : runWith serve body (thread.push shape closure) with
    | none =>
      rw [runWith_enter_of_unfinished ran] at finished
      cases finished
    | some ended =>
      rcases ended with ⟨ended, middle⟩
      rcases bodyHypothesis (lists.push shape closure) ran with ⟨between, rfl, first⟩
      cases ended with
      | panicked message =>
        rw [runWith_enter_of_panicked ran] at finished
        cases finished
        exact ⟨{ between with parked := none }, rfl, .unwound first⟩
      | returned value =>
        by_cases quiet : thread.isUnwinding = true ∨ between.parked = none
        · rw [runWith_enter_of_quiet ran quiet] at finished
          rcases nextHypothesis value (lists.onto { between with parked := none }) finished with
            ⟨left, rfl, rest⟩
          exact ⟨left, rfl, .left first quiet rest⟩
        · rcases not_or.mp quiet with ⟨notUnwinding, busy⟩
          have calm : thread.isUnwinding = false := Bool.eq_false_iff.mpr notUnwinding
          rcases Option.ne_none_iff_exists'.mp busy with ⟨message, waiting⟩
          rw [runWith_enter_of_waiting ran calm waiting] at finished
          cases finished
          exact ⟨{ between with parked := none }, rfl, .resumed first calm waiting⟩
  | invoke shape argument next hypothesis =>
    by_cases idle : thread.parked ≠ none ∨ chain.innermost? shape = none
    · rw [runWith_invoke_of_idle lists idle] at finished
      rcases hypothesis _ lists finished with ⟨left, rfl, rest⟩
      exact ⟨left, rfl, .unanswered idle rest⟩
    · rcases not_or.mp idle with ⟨free, present⟩
      have clear : thread.parked = none := Decidable.not_not.mp free
      rcases Option.ne_none_iff_exists'.mp present with ⟨closure, innermost⟩
      cases served :
          serve shape closure (shape.view argument)
            { thread with lent := shape.lent argument } with
      | none =>
        rw [runWith_invoke_of_unserved lists clear innermost served] at finished
        cases finished
      | some ended =>
        rcases ended with ⟨ended, middle⟩
        rcases lexical _ _ _ _ _ _ _ (lists.onto ⟨_, _, shape.lent argument⟩) served with
          ⟨between, rfl, called⟩
        cases ended with
        | returned answer =>
          rw [runWith_invoke_of_answered lists clear innermost served] at finished
          rcases hypothesis _ (lists.onto ⟨_, _, _⟩) finished with ⟨left, rfl, rest⟩
          exact ⟨left, rfl, .answered clear innermost called rest⟩
        | panicked message =>
          rw [runWith_invoke_of_trapped lists clear innermost served] at finished
          rcases hypothesis _ (lists.onto ⟨_, _, _⟩) finished with ⟨left, rfl, rest⟩
          exact ⟨left, rfl, .trapped clear innermost called rest⟩

/-- Closures that are nested to any depth keep the discipline. -/
theorem serveWithin_lexical (depth : Nat) : (serveWithin depth : Serve W).Lexical := by
  induction depth with
  | zero =>
    intro shape closure view thread chain outcome after lists finished
    cases finished
  | succ depth hypothesis =>
    intro shape closure view thread chain outcome after lists finished
    exact runWith_lexical hypothesis lists finished

/-- What finishes on a thread is an evaluation under its open scopes, and leaves them as they
are. -/
theorem execute_lexical {depth : Nat} {α : Type} {action : Action W α} {thread : Thread W}
    {chain : Chain W} {outcome : Outcome α} {after : Thread W} (lists : chain.Lists thread)
    (finished : execute depth action thread = some (outcome, after)) :
    ∃ left : Store W, after = left.onto thread ∧
      Evaluates thread.isUnwinding chain action thread.store outcome left :=
  runWith_lexical (serveWithin_lexical depth) lists finished

/-! ## From the lexical reading to the thread -/

/-- An evaluation under the open scopes of a thread finishes on that thread. -/
theorem Evaluates.finishes {unwinding : Bool} {chain : Chain W} {α : Type}
    {action : Action W α} {store left : Store W} {outcome : Outcome α}
    (evaluated : Evaluates unwinding chain action store outcome left) :
    ∀ thread : Thread W, chain.Lists thread → thread.isUnwinding = unwinding →
      ∃ depth, execute depth action (store.onto thread) = some (outcome, left.onto thread) := by
  induction evaluated with
  | done =>
    intro thread lists same
    exact ⟨0, rfl⟩
  | panic =>
    intro thread lists same
    exact ⟨0, rfl⟩
  | work rest restHypothesis =>
    intro thread lists same
    rcases restHypothesis thread lists same with ⟨depth, finished⟩
    exact ⟨depth, finished⟩
  | edit rest restHypothesis =>
    intro thread lists same
    rcases restHypothesis thread lists same with ⟨depth, finished⟩
    exact ⟨depth, finished⟩
  | attempt first rest firstHypothesis restHypothesis =>
    intro thread lists same
    rcases firstHypothesis thread lists same with ⟨one, ran⟩
    rcases restHypothesis thread lists same with ⟨other, finished⟩
    refine ⟨max one other, ?_⟩
    rw [execute, runWith]
    have ranWithin := execute_of_le (Nat.le_max_left one other) ran
    rw [execute] at ranWithin
    rw [ranWithin]
    exact execute_of_le (Nat.le_max_right one other) finished
  | @lend chain α β bytes body next store between after ended outcome first rest firstHypothesis
      restHypothesis =>
    intro thread lists same
    rcases firstHypothesis thread lists same with ⟨one, ran⟩
    rcases restHypothesis thread lists same with ⟨other, finished⟩
    refine ⟨max one other, ?_⟩
    have ranWithin :
        runWith (serveWithin (max one other)) body { store.onto thread with lent := bytes } =
          some (ended, between.onto thread) :=
      execute_of_le (Nat.le_max_left one other) ran
    simp only [execute, runWith, ranWithin]
    exact execute_of_le (Nat.le_max_right one other) finished
  | @unwound chain α β shape closure body next store between message first firstHypothesis =>
    intro thread lists same
    rcases firstHypothesis (thread.push shape closure) (lists.push shape closure) same with
      ⟨depth, ran⟩
    exact ⟨depth, runWith_enter_of_panicked ran⟩
  | @resumed chain α β shape closure body next store between value message first calm waiting
      firstHypothesis =>
    intro thread lists same
    rcases firstHypothesis (thread.push shape closure) (lists.push shape closure) same with
      ⟨depth, ran⟩
    exact ⟨depth, runWith_enter_of_waiting ran (same.trans calm) waiting⟩
  | @left chain α β shape closure body next store between after value outcome first quiet rest
      firstHypothesis restHypothesis =>
    intro thread lists same
    rcases firstHypothesis (thread.push shape closure) (lists.push shape closure) same with
      ⟨one, ran⟩
    rcases restHypothesis thread lists same with ⟨other, finished⟩
    refine ⟨max one other, ?_⟩
    have ranWithin :
        runWith (serveWithin (max one other)) body ((store.onto thread).push shape closure) =
          some (.returned value, between.onto ((store.onto thread).push shape closure)) :=
      execute_of_le (Nat.le_max_left one other) ran
    have still : (store.onto thread).isUnwinding = true ∨ between.parked = none :=
      quiet.imp_left same.trans
    refine (runWith_enter_of_quiet ranWithin still).trans ?_
    exact execute_of_le (Nat.le_max_right one other) finished
  | unanswered idle rest restHypothesis =>
    intro thread lists same
    rcases restHypothesis thread lists same with ⟨depth, finished⟩
    exact ⟨depth, (runWith_invoke_of_idle (lists.onto _) idle).trans finished⟩
  | answered clear innermost called rest calledHypothesis restHypothesis =>
    intro thread lists same
    rcases calledHypothesis thread lists same with ⟨one, served⟩
    rcases restHypothesis thread lists same with ⟨other, finished⟩
    -- The closure runs one level deeper than the call back.
    refine ⟨max one other + 1, ?_⟩
    have servedWithin := execute_of_le (Nat.le_max_left one other) served
    have restWithin :=
      execute_of_le (Nat.le_succ_of_le (Nat.le_max_right one other)) finished
    exact (runWith_invoke_of_answered (lists.onto _) clear innermost servedWithin).trans
      restWithin
  | trapped clear innermost called rest calledHypothesis restHypothesis =>
    intro thread lists same
    rcases calledHypothesis thread lists same with ⟨one, served⟩
    rcases restHypothesis thread lists same with ⟨other, finished⟩
    refine ⟨max one other + 1, ?_⟩
    have servedWithin := execute_of_le (Nat.le_max_left one other) served
    have restWithin :=
      execute_of_le (Nat.le_succ_of_le (Nat.le_max_right one other)) finished
    exact (runWith_invoke_of_trapped (lists.onto _) clear innermost servedWithin).trans
      restWithin

/-! ## The discipline -/

/-- The runs of an action on a thread are its evaluations under the open scopes of the thread. -/
theorem execute_iff_evaluates {α : Type} (action : Action W α) (thread : Thread W)
    (outcome : Outcome α) (after : Thread W) :
    (∃ depth, execute depth action thread = some (outcome, after)) ↔
      ∃ left : Store W, after = left.onto thread ∧
        Evaluates thread.isUnwinding thread.chain action thread.store outcome left := by
  constructor
  · rintro ⟨depth, finished⟩
    exact execute_lexical thread.chain_lists finished
  · rintro ⟨left, rfl, evaluated⟩
    exact evaluated.finishes thread thread.chain_lists rfl

/-- The innermost open scope answers a call back, and its panic is parked. -/
theorem execute_invoke_of_innermost {depth : Nat} {shape : Shape} {argument : shape.Argument}
    {α : Type} {next : shape.Reply → Action W α} {thread : Thread W} {closure : Closure W shape}
    (clear : thread.parked = none) (innermost : thread.chain.innermost? shape = some closure) :
    execute (depth + 1) (.invoke shape argument next) thread =
      (execute depth (closure (shape.view argument))
        { thread with lent := shape.lent argument }).bind fun (ended, after) =>
          let back := { after with lent := thread.lent }
          match ended with
          | .returned answer =>
            execute (depth + 1) (next (shape.reply answer after.lent)) back
          | .panicked message =>
            execute (depth + 1) (next (shape.reply shape.defaultAnswer after.lent))
              (back.park message) := by
  rw [execute, runWith, callBack_of_innermost thread.chain_lists clear innermost]
  cases ran :
      execute depth (closure (shape.view argument))
        { thread with lent := shape.lent argument } with
  | none =>
    have served :
        serveWithin (depth + 1) shape closure (shape.view argument)
          { thread with lent := shape.lent argument } = none := ran
    rw [served]
    rfl
  | some result =>
    have served :
        serveWithin (depth + 1) shape closure (shape.view argument)
          { thread with lent := shape.lent argument } = some result := ran
    rcases result with ⟨ended, after⟩
    rw [served]
    cases ended <;> rfl

/-- A scope that has ended is over before the action goes on: the stacks are those of its entry
and no panic is parked. -/
theorem execute_enter {depth : Nat} {shape : Shape} {closure : Closure W shape} {α β : Type}
    {body : Action W β} {next : β → Action W α} {thread after : Thread W} {outcome : Outcome α}
    (finished : execute depth (.enter shape closure body next) thread = some (outcome, after)) :
    ∃ ended between,
      execute depth (.enter shape closure body .done) thread = some (ended, between) ∧
        between.scopes = thread.scopes ∧ between.parked = none ∧
          execute depth ((Action.resume ended).andThen next) between = some (outcome, after) := by
  cases ran : runWith (serveWithin depth) body (thread.push shape closure) with
  | none =>
    rw [execute, runWith_enter_of_unfinished ran] at finished
    cases finished
  | some result =>
    rcases result with ⟨ended, middle⟩
    rcases execute_lexical (thread.push shape closure).chain_lists ran with ⟨between, rfl, -⟩
    cases ended with
    | panicked message =>
      rw [execute, runWith_enter_of_panicked ran] at finished
      exact ⟨_, _, runWith_enter_of_panicked ran, rfl, rfl, finished⟩
    | returned value =>
      by_cases quiet : thread.isUnwinding = true ∨ between.parked = none
      · rw [execute, runWith_enter_of_quiet ran quiet] at finished
        exact ⟨_, _, runWith_enter_of_quiet ran quiet, rfl, rfl, finished⟩
      · rcases not_or.mp quiet with ⟨notUnwinding, busy⟩
        have calm : thread.isUnwinding = false := Bool.eq_false_iff.mpr notUnwinding
        rcases Option.ne_none_iff_exists'.mp busy with ⟨message, waiting⟩
        rw [execute, runWith_enter_of_waiting ran calm waiting] at finished
        exact ⟨_, _, runWith_enter_of_waiting ran calm waiting, rfl, rfl, finished⟩

/-- Scopes keep a lexical discipline, from every state of a thread.  The runs of an action are
its evaluations under the open scopes.  While a panic is parked or where no scope of the shape
is open, a call back is answered by the default and runs no closure; otherwise it runs the
closure of the innermost open scope.  When a scope ends, the stacks of all shapes are those of
its entry and no panic is parked. -/
theorem scope_discipline {α : Type} (action : Action W α) (thread : Thread W) :
    (∀ outcome after,
      (∃ depth, execute depth action thread = some (outcome, after)) ↔
        ∃ left : Store W, after = left.onto thread ∧
          Evaluates thread.isUnwinding thread.chain action thread.store outcome left) ∧
    (∀ (shape : Shape) (argument : shape.Argument) (next : shape.Reply → Action W α),
      thread.parked ≠ none ∨ thread.chain.innermost? shape = none →
        ∀ depth,
          execute depth (.invoke shape argument next) thread =
            execute depth (next (shape.defaultReply argument)) thread) ∧
    (∀ (shape : Shape) (argument : shape.Argument) (next : shape.Reply → Action W α) closure,
      thread.parked = none → thread.chain.innermost? shape = some closure →
        ∀ depth,
          execute (depth + 1) (.invoke shape argument next) thread =
            (execute depth (closure (shape.view argument))
              { thread with lent := shape.lent argument }).bind fun (ended, after) =>
                let back := { after with lent := thread.lent }
                match ended with
                | .returned answer =>
                  execute (depth + 1) (next (shape.reply answer after.lent)) back
                | .panicked message =>
                  execute (depth + 1) (next (shape.reply shape.defaultAnswer after.lent))
                    (back.park message)) ∧
    (∀ (shape : Shape) (closure : Closure W shape) (β : Type) (body : Action W β)
      (next : β → Action W α) depth outcome after,
      execute depth (.enter shape closure body next) thread = some (outcome, after) →
        ∃ ended between,
          execute depth (.enter shape closure body .done) thread = some (ended, between) ∧
            between.scopes = thread.scopes ∧ between.parked = none ∧
              execute depth ((Action.resume ended).andThen next) between =
                some (outcome, after)) := by
  refine ⟨execute_iff_evaluates action thread, ?_, ?_, ?_⟩
  · intro shape argument next idle depth
    exact runWith_invoke_of_idle thread.chain_lists idle
  · intro shape argument next closure clear innermost depth
    exact execute_invoke_of_innermost clear innermost
  · intro shape closure β body next depth outcome after finished
    exact execute_enter finished

/-- A scope in a scope of the same shape; the closure of the inner one panics, its panic is caught,
and the closure of the outer one answers until its scope has ended as well. -/
def Action.nested : Action Unit (UInt8 × UInt8) :=
  .enter .byte (fun view => .done (view + 2))
    (.attempt (.enter .byte (fun _ => .panic "inner") (.invoke .byte 5 .done) .done) fun _ =>
      .invoke .byte 5 .done)
    fun answer => .invoke .byte 5 fun stale => .done (answer, stale)

/-- A thread on which a closure on bytes is installed. -/
def Thread.outer : Thread Unit :=
  (Thread.fresh ⟨(), []⟩).push .byte fun view => .done (view + 1)

theorem scope_discipline_nested :
    (∃ left : Store Unit,
      Evaluates false [⟨.byte, fun view => .done (view + 1)⟩] Action.nested ⟨⟨(), []⟩, none, []⟩
        (.returned (7, 6)) left) ∧
    (∀ depth,
      execute depth (.invoke .word 7 fun reply => .done (reply.toUInt8, 0)) Thread.outer =
        some (.returned ((0, 0) : UInt8 × UInt8), Thread.outer)) ∧
    (∀ depth,
      execute (depth + 1) (.invoke .byte 7 fun reply => .done (reply, 0)) Thread.outer =
        some (.returned ((8, 0) : UInt8 × UInt8), Thread.outer)) ∧
    (∃ ended between,
      execute 1 (.enter .byte (fun _ => .panic "inner") (.invoke .byte 5 .done) .done)
          Thread.outer = some (ended, between) ∧
        between.scopes = Thread.outer.scopes ∧ between.parked = none) := by
  rcases scope_discipline Action.nested Thread.outer with ⟨lexical, idle, answered, restored⟩
  refine ⟨?_, ?_, ?_, ?_⟩
  · rcases (lexical (.returned (7, 6)) _).mp ⟨1, rfl⟩ with ⟨left, -, evaluated⟩
    exact ⟨left, evaluated⟩
  · intro depth
    exact idle .word 7 (fun reply => .done (reply.toUInt8, 0)) (.inr rfl) depth
  · intro depth
    exact answered .byte 7 (fun reply => .done (reply, 0)) (fun view => .done (view + 1)) rfl rfl depth
  · rcases restored .byte (fun _ => .panic "inner") UInt8 (.invoke .byte 5 .done)
        (fun _ => .done (0, 0)) 1 _ _ rfl with ⟨ended, between, ran, same, clear, -⟩
    exact ⟨ended, between, ran, same, clear⟩

end NativeBoundary.Callback
