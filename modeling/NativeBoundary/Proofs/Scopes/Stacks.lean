import NativeBoundary.Proofs.Scopes.Lexical

/-!
# Scopes on a thread

A thread is its stacks of closures beside a store.  Entering a scope pushes a
closure onto a thread and leaving the scope pops it again, whatever became of the
store in between.  From this follows, for one scope and for one call back, how a
run goes on in terms of the store and of the innermost open scope alone.
-/

namespace NativeBoundary.Callback

variable {W : Type}

/-! ## Threads as stacks beside a store -/

namespace Thread

/-- What a thread holds beside its scopes. -/
def store (thread : Thread W) : Store W :=
  ⟨thread.session, thread.parked, thread.lent⟩

/-- The open scopes of a thread, those of one shape after those of another. -/
def chain (thread : Thread W) : Chain W :=
  Shape.all.flatMap fun shape =>
    (thread.scopes shape).map fun closure => ⟨shape, closure⟩

end Thread

/-- A thread that holds this beside the scopes of another one. -/
def Store.onto (store : Store W) (thread : Thread W) : Thread W :=
  { thread with session := store.session, parked := store.parked, lent := store.lent }

/-- A chain of open scopes lists the closures that are installed on a thread. -/
def Chain.Lists (chain : Chain W) (thread : Thread W) : Prop :=
  ∀ shape, chain.closures shape = thread.scopes shape

namespace Thread

@[simp]
theorem setScopes_scopes (thread : Thread W) (shape : Shape) :
    thread.setScopes shape (thread.scopes shape) = thread := by
  have same : (thread.setScopes shape (thread.scopes shape)).scopes = thread.scopes := by
    funext other
    by_cases equal : other = shape
    · subst equal
      exact thread.setScopes_same other _
    · exact thread.setScopes_other _ equal
  cases thread
  simp only [setScopes] at same ⊢
  rw [same]

@[simp]
theorem setScopes_setScopes (thread : Thread W) (shape : Shape)
    (first second : List (Closure W shape)) :
    (thread.setScopes shape first).setScopes shape second =
      thread.setScopes shape second := by
  have same :
      ((thread.setScopes shape first).setScopes shape second).scopes =
        (thread.setScopes shape second).scopes := by
    funext other
    by_cases equal : other = shape
    · subst equal
      rw [setScopes_same, setScopes_same]
    · rw [setScopes_other _ _ equal, setScopes_other _ _ equal, setScopes_other _ _ equal]
  simp only [setScopes] at same ⊢
  rw [same]

theorem push_scopes_same (thread : Thread W) (shape : Shape) (closure : Closure W shape) :
    (thread.push shape closure).scopes shape = closure :: thread.scopes shape :=
  thread.setScopes_same shape _

theorem push_scopes_other (thread : Thread W) {shape other : Shape}
    (closure : Closure W shape) (different : other ≠ shape) :
    (thread.push shape closure).scopes other = thread.scopes other :=
  thread.setScopes_other _ different

@[simp]
theorem store_onto (store : Store W) (thread : Thread W) : (store.onto thread).store = store :=
  rfl

@[simp]
theorem onto_store (thread : Thread W) : thread.store.onto thread = thread := rfl

/-- Leaving a scope removes the closure that entering it has installed. -/
theorem leave_push (store : Store W) (thread : Thread W) (shape : Shape)
    (closure : Closure W shape) (panicked : Bool) :
    (store.onto (thread.push shape closure)).leave shape panicked =
      Store.onto
        { store with
          parked := if panicked || thread.isUnwinding then none else store.parked }
        thread := by
  have popped :
      (store.onto (thread.push shape closure)).setScopes shape
          ((store.onto (thread.push shape closure)).scopes shape).tail =
        store.onto thread := by
    have tail :
        ((store.onto (thread.push shape closure)).scopes shape).tail = thread.scopes shape := by
      rw [show (store.onto (thread.push shape closure)).scopes =
        (thread.push shape closure).scopes from rfl, push_scopes_same, List.tail_cons]
    have lifted :
        (store.onto (thread.push shape closure)).setScopes shape (thread.scopes shape) =
          store.onto ((thread.push shape closure).setScopes shape (thread.scopes shape)) := rfl
    rw [tail, lifted, push, setScopes_setScopes, setScopes_scopes]
  rw [leave, popped]
  rfl

/-- The open scopes of a thread are listed. -/
theorem chain_lists (thread : Thread W) : thread.chain.Lists thread := by
  intro shape
  have others : ∀ other, other ≠ shape →
      Chain.closures ((thread.scopes other).map fun closure => ⟨other, closure⟩) shape = [] :=
    fun other different => Chain.closures_map_other different.symm _
  have own := Chain.closures_map_same shape (thread.scopes shape)
  cases shape <;> simp [chain, Shape.all, Chain.closures_append, own, others]

end Thread

theorem Chain.Lists.push {chain : Chain W} {thread : Thread W} (lists : chain.Lists thread)
    (shape : Shape) (closure : Closure W shape) :
    Chain.Lists (⟨shape, closure⟩ :: chain) (thread.push shape closure) := by
  intro other
  by_cases same : other = shape
  · subst same
    rw [Chain.closures_cons_same, thread.push_scopes_same, lists other]
  · rw [Chain.closures_cons_other _ _ same, thread.push_scopes_other _ same, lists other]

theorem Chain.Lists.onto {chain : Chain W} {thread : Thread W} (lists : chain.Lists thread)
    (store : Store W) : chain.Lists (store.onto thread) :=
  lists

/-- The closure that a call back runs is that of the innermost open scope. -/
theorem Chain.Lists.head?_scopes {chain : Chain W} {thread : Thread W}
    (lists : chain.Lists thread) (shape : Shape) :
    (thread.scopes shape).head? = chain.innermost? shape := by
  rw [Chain.innermost?, lists shape]

/-! ## How a scope ends -/

section

variable {serve : Serve W} {α β : Type} {shape : Shape} {closure : Closure W shape}
  {body : Action W β} {next : β → Action W α} {thread : Thread W} {between : Store W}
  {value : β} {message : String}

/-- A panic of the body leaves the scope and drops what is parked. -/
theorem runWith_enter_of_panicked
    (ran :
      runWith serve body (thread.push shape closure) =
        some (.panicked message, between.onto (thread.push shape closure))) :
    runWith serve (.enter shape closure body next) thread =
      some (.panicked message, Store.onto { between with parked := none } thread) := by
  simp only [runWith, ran, Thread.leave_push]
  rfl

/-- A parked panic goes on where the scope ends. -/
theorem runWith_enter_of_waiting
    (ran :
      runWith serve body (thread.push shape closure) =
        some (.returned value, between.onto (thread.push shape closure)))
    (calm : thread.isUnwinding = false) (waiting : between.parked = some message) :
    runWith serve (.enter shape closure body next) thread =
      some (.panicked message, Store.onto { between with parked := none } thread) := by
  have left :
      (between.onto (thread.push shape closure)).leave shape false = between.onto thread := by
    rw [Thread.leave_push, calm]
    rfl
  simp only [runWith, ran, left]
  rw [show (between.onto thread).parked = some message from waiting]
  rfl

/-- Without a parked panic, or while it unwinds, a thread goes on behind the scope. -/
theorem runWith_enter_of_quiet
    (ran :
      runWith serve body (thread.push shape closure) =
        some (.returned value, between.onto (thread.push shape closure)))
    (quiet : thread.isUnwinding = true ∨ between.parked = none) :
    runWith serve (.enter shape closure body next) thread =
      runWith serve (next value) (Store.onto { between with parked := none } thread) := by
  have left :
      (between.onto (thread.push shape closure)).leave shape false =
        Store.onto { between with parked := none } thread := by
    rw [Thread.leave_push]
    rcases quiet with unwinding | nothing
    · simp [unwinding]
    · simp [nothing]
  simp only [runWith, ran, left]
  rfl

/-- A body that does not finish keeps its scope from ending. -/
theorem runWith_enter_of_unfinished
    (ran : runWith serve body (thread.push shape closure) = none) :
    runWith serve (.enter shape closure body next) thread = none := by
  simp only [runWith, ran]

end

/-! ## What answers a call back -/

section

variable {serve : Serve W} {α : Type} {shape : Shape} {argument : shape.Argument}
  {next : shape.Reply → Action W α} {thread : Thread W} {chain : Chain W}
  {closure : Closure W shape} {between : Store W}

theorem callBack_of_idle (lists : chain.Lists thread)
    (idle : thread.parked ≠ none ∨ chain.innermost? shape = none) :
    callBack serve shape argument thread = some (shape.defaultReply argument, thread) := by
  unfold callBack
  rcases idle with busy | missing
  · rcases Option.ne_none_iff_exists'.mp busy with ⟨message, parked⟩
    rw [parked]
  · have empty : thread.scopes shape = [] := by
      rw [← List.head?_eq_none_iff, lists.head?_scopes, missing]
    cases thread.parked <;> rw [empty]

theorem callBack_of_innermost (lists : chain.Lists thread) (clear : thread.parked = none)
    (innermost : chain.innermost? shape = some closure) :
    callBack serve shape argument thread =
      (serve shape closure (shape.view argument)
        { thread with lent := shape.lent argument }).map fun (outcome, after) =>
          match outcome with
          | .returned answer =>
            (shape.reply answer after.lent, { after with lent := thread.lent })
          | .panicked message =>
            (shape.reply shape.defaultAnswer after.lent,
              { after with lent := thread.lent }.park message) := by
  have first : (thread.scopes shape).head? = some closure := by
    rw [lists.head?_scopes, innermost]
  rcases List.head?_eq_some_iff.mp first with ⟨others, installed⟩
  unfold callBack
  split
  · rename_i waiting
    rw [clear] at waiting
    cases waiting
  · rename_i missing
    rw [installed] at missing
    cases missing
  · rename_i found
    rw [installed] at found
    cases found
    rfl

/-- While no closure can run, a call back is answered by the default. -/
theorem runWith_invoke_of_idle (lists : chain.Lists thread)
    (idle : thread.parked ≠ none ∨ chain.innermost? shape = none) :
    runWith serve (.invoke shape argument next) thread =
      runWith serve (next (shape.defaultReply argument)) thread := by
  simp only [runWith, callBack_of_idle lists idle]

/-- The closure of the innermost scope answers a call back. -/
theorem runWith_invoke_of_answered (lists : chain.Lists thread)
    (clear : thread.parked = none) (innermost : chain.innermost? shape = some closure)
    {answer : shape.Answer}
    (served :
      serve shape closure (shape.view argument) { thread with lent := shape.lent argument } =
        some (.returned answer, between.onto thread)) :
    runWith serve (.invoke shape argument next) thread =
      runWith serve (next (shape.reply answer between.lent))
        (Store.onto { between with lent := thread.lent } thread) := by
  simp only [runWith, callBack_of_innermost lists clear innermost, served, Option.map_some]
  rfl

/-- A panic of that closure is parked, and the library goes on with the default. -/
theorem runWith_invoke_of_trapped (lists : chain.Lists thread) (clear : thread.parked = none)
    (innermost : chain.innermost? shape = some closure) {message : String}
    (served :
      serve shape closure (shape.view argument) { thread with lent := shape.lent argument } =
        some (.panicked message, between.onto thread)) :
    runWith serve (.invoke shape argument next) thread =
      runWith serve (next (shape.reply shape.defaultAnswer between.lent))
        (Store.onto
          { between with
            lent := thread.lent, parked := some (between.parked.getD message) } thread) := by
  simp only [runWith, callBack_of_innermost lists clear innermost, served, Option.map_some]
  rfl

theorem runWith_invoke_of_unserved (lists : chain.Lists thread)
    (clear : thread.parked = none) (innermost : chain.innermost? shape = some closure)
    (served :
      serve shape closure (shape.view argument) { thread with lent := shape.lent argument } =
        none) :
    runWith serve (.invoke shape argument next) thread = none := by
  simp only [runWith, callBack_of_innermost lists clear innermost, served, Option.map_none]

end

end NativeBoundary.Callback
