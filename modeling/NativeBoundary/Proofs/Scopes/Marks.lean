import NativeBoundary.Proofs.Scopes.Discipline

/-!
# Evaluations and what becomes of their panics

An evaluation tells how an action ends, but not what became of the panics on the way.
Here it leaves a mark wherever the panic of a closure is parked, a scope ends by unwinding, or a
panic is caught.  A scope is named by its level, the number of the scopes around it.  Every
evaluation leaves such marks, so they add nothing to the way in which an action ends.
-/

namespace NativeBoundary.Callback

variable {W : Type}

/-- What happens to a panic on the way of an evaluation. -/
inductive Mark
  /-- The closure of the scope at a level panicked, and a panic is parked since then. -/
  | trapped (level : Nat)
  /-- The scope at a level ended by unwinding, and no panic is parked since then. -/
  | unwound (level : Nat)
  /-- A panic was caught. -/
  | caught
deriving DecidableEq, Repr

/-- The mark of a part that ended and did not unwind what is around it: its panic is caught, if it
had one. -/
def Mark.ofEnd {α : Type} : Outcome α → List Mark
  | .returned _ => []
  | .panicked _ => [.caught]

theorem Mark.eq_caught_of_mem_ofEnd {α : Type} {ended : Outcome α} {mark : Mark}
    (inside : mark ∈ ofEnd ended) : mark = .caught := by
  cases ended with
  | returned value => cases inside
  | panicked message => exact List.mem_singleton.mp inside

/-- How an action is evaluated under a chain of open scopes on a thread that is not unwinding, with
the marks that it leaves, the oldest first. -/
inductive Traced :
    Chain W → {α : Type} → Action W α → Store W → List Mark → Outcome α → Store W → Prop
  | done {chain : Chain W} {α : Type} {value : α} {store : Store W} :
      Traced chain (.done value) store [] (.returned value) store
  | panic {chain : Chain W} {α : Type} {message : String} {store : Store W} :
      Traced chain (.panic message : Action W α) store [] (.panicked message) store
  | work {chain : Chain W} {α β : Type} {change : Session W → β × Session W}
      {next : β → Action W α} {store after : Store W} {marks : List Mark} {outcome : Outcome α}
      (rest :
        Traced chain (next (change store.session).1)
          { store with session := (change store.session).2 } marks outcome after) :
      Traced chain (.work change next) store marks outcome after
  | edit {chain : Chain W} {α : Type} {change : List UInt8 → List UInt8} {next : Action W α}
      {store after : Store W} {marks : List Mark} {outcome : Outcome α}
      (rest : Traced chain next { store with lent := change store.lent } marks outcome after) :
      Traced chain (.edit change next) store marks outcome after
  | attempt {chain : Chain W} {α β : Type} {body : Action W β} {next : Outcome β → Action W α}
      {store between after : Store W} {marks further : List Mark} {ended : Outcome β}
      {outcome : Outcome α}
      (first : Traced chain body store marks ended between)
      (rest : Traced chain (next ended) between further outcome after) :
      Traced chain (.attempt body next) store (marks ++ (Mark.ofEnd ended ++ further)) outcome after
  | lend {chain : Chain W} {α β : Type} {bytes : List UInt8} {body : Action W β}
      {next : Outcome β → List UInt8 → Action W α} {store between after : Store W}
      {marks further : List Mark} {ended : Outcome β} {outcome : Outcome α}
      (first : Traced chain body { store with lent := bytes } marks ended between)
      (rest :
        Traced chain (next ended between.lent) { between with lent := store.lent } further
          outcome after) :
      Traced chain (.lend bytes body next) store (marks ++ (Mark.ofEnd ended ++ further)) outcome after
  | unwound {chain : Chain W} {α β : Type} {shape : Shape} {closure : Closure W shape}
      {body : Action W β} {next : β → Action W α} {store between : Store W} {marks : List Mark}
      {message : String}
      (first :
        Traced (⟨shape, closure⟩ :: chain) body store marks (.panicked message) between) :
      Traced chain (.enter shape closure body next) store (marks ++ [.unwound chain.length])
        (.panicked message) { between with parked := none }
  | resumed {chain : Chain W} {α β : Type} {shape : Shape} {closure : Closure W shape}
      {body : Action W β} {next : β → Action W α} {store between : Store W} {marks : List Mark}
      {value : β} {message : String}
      (first : Traced (⟨shape, closure⟩ :: chain) body store marks (.returned value) between)
      (waiting : between.parked = some message) :
      Traced chain (.enter shape closure body next) store (marks ++ [.unwound chain.length])
        (.panicked message) { between with parked := none }
  | left {chain : Chain W} {α β : Type} {shape : Shape} {closure : Closure W shape}
      {body : Action W β} {next : β → Action W α} {store between after : Store W}
      {marks further : List Mark} {value : β} {outcome : Outcome α}
      (first : Traced (⟨shape, closure⟩ :: chain) body store marks (.returned value) between)
      (quiet : between.parked = none)
      (rest : Traced chain (next value) between further outcome after) :
      Traced chain (.enter shape closure body next) store (marks ++ further) outcome after
  | unanswered {chain : Chain W} {α : Type} {shape : Shape} {argument : shape.Argument}
      {next : shape.Reply → Action W α} {store after : Store W} {marks : List Mark}
      {outcome : Outcome α}
      (idle : store.parked ≠ none ∨ chain.innermost? shape = none)
      (rest : Traced chain (next (shape.defaultReply argument)) store marks outcome after) :
      Traced chain (.invoke shape argument next) store marks outcome after
  | answered {chain : Chain W} {α : Type} {shape : Shape} {argument : shape.Argument}
      {next : shape.Reply → Action W α} {store between after : Store W}
      {marks further : List Mark} {outcome : Outcome α} {closure : Closure W shape}
      {answer : shape.Answer}
      (clear : store.parked = none) (innermost : chain.innermost? shape = some closure)
      (called :
        Traced chain (closure (shape.view argument)) { store with lent := shape.lent argument }
          marks (.returned answer) between)
      (rest :
        Traced chain (next (shape.reply answer between.lent)) { between with lent := store.lent }
          further outcome after) :
      Traced chain (.invoke shape argument next) store (marks ++ further) outcome after
  /-- The closure of the innermost scope of the shape panics; the level is that of this scope. -/
  | trapped {inner outer : Chain W} {α : Type} {shape : Shape} {argument : shape.Argument}
      {next : shape.Reply → Action W α} {store between after : Store W}
      {marks further : List Mark} {outcome : Outcome α} {closure : Closure W shape}
      {message : String}
      (clear : store.parked = none) (innermost : inner.closures shape = [])
      (called :
        Traced (inner ++ ⟨shape, closure⟩ :: outer) (closure (shape.view argument))
          { store with lent := shape.lent argument } marks (.panicked message) between)
      (rest :
        Traced (inner ++ ⟨shape, closure⟩ :: outer)
          (next (shape.reply shape.defaultAnswer between.lent))
          { between with
            lent := store.lent, parked := some (between.parked.getD message) } further
          outcome after) :
      Traced (inner ++ ⟨shape, closure⟩ :: outer) (.invoke shape argument next) store
        (marks ++ .trapped outer.length :: further) outcome after

variable {chain : Chain W} {α : Type} {action : Action W α} {store after : Store W}
  {marks : List Mark} {outcome : Outcome α}

/-! ## Marks and evaluations -/

namespace Chain

/-- The innermost scope of a shape has only scopes of other shapes inside. -/
theorem innermost?_eq_some_iff {shape : Shape} {closure : Closure W shape} :
    chain.innermost? shape = some closure ↔
      ∃ inner outer, chain = inner ++ ⟨shape, closure⟩ :: outer ∧
        Chain.closures inner shape = [] := by
  constructor
  · intro found
    induction chain with
    | nil => cases found
    | cons scope rest hypothesis =>
      rcases scope with ⟨other, installed⟩
      by_cases same : shape = other
      · subst same
        rw [innermost?_cons_same] at found
        obtain rfl := Option.some.inj found
        exact ⟨[], rest, rfl, rfl⟩
      · rw [innermost?, closures_cons_other installed rest same] at found
        obtain ⟨inner, outer, written, none⟩ := hypothesis found
        refine ⟨⟨other, installed⟩ :: inner, outer, by rw [written]; rfl, ?_⟩
        rw [closures_cons_other installed inner same, none]
  · rintro ⟨inner, outer, rfl, none⟩
    rw [innermost?, closures_append, none, closures_cons_same]
    rfl

end Chain

theorem Traced.evaluates (traced : Traced chain action store marks outcome after) :
    Evaluates false chain action store outcome after := by
  induction traced with
  | done => exact .done
  | panic => exact .panic
  | work rest hypothesis => exact .work hypothesis
  | edit rest hypothesis => exact .edit hypothesis
  | attempt first rest firstHypothesis restHypothesis =>
    exact .attempt firstHypothesis restHypothesis
  | lend first rest firstHypothesis restHypothesis => exact .lend firstHypothesis restHypothesis
  | unwound first hypothesis => exact .unwound hypothesis
  | resumed first waiting hypothesis => exact .resumed hypothesis rfl waiting
  | @left _ _ _ _ _ _ _ _ between _ _ _ _ _ first quiet rest firstHypothesis restHypothesis =>
    have same : { between with parked := none } = between := by rw [← quiet]
    exact .left firstHypothesis (.inr quiet) (same ▸ restHypothesis)
  | unanswered idle rest hypothesis => exact .unanswered idle hypothesis
  | answered clear innermost called rest calledHypothesis restHypothesis =>
    exact .answered clear innermost calledHypothesis restHypothesis
  | trapped clear innermost called rest calledHypothesis restHypothesis =>
    exact .trapped clear (Chain.innermost?_eq_some_iff.mpr ⟨_, _, rfl, innermost⟩)
      calledHypothesis restHypothesis

/-- Every evaluation leaves marks. -/
theorem Evaluates.exists_traced {unwinding : Bool} (calm : unwinding = false)
    (evaluated : Evaluates unwinding chain action store outcome after) :
    ∃ marks, Traced chain action store marks outcome after := by
  induction evaluated with
  | done => exact ⟨_, .done⟩
  | panic => exact ⟨_, .panic⟩
  | work rest hypothesis =>
    obtain ⟨marks, traced⟩ := hypothesis
    exact ⟨_, .work traced⟩
  | edit rest hypothesis =>
    obtain ⟨marks, traced⟩ := hypothesis
    exact ⟨_, .edit traced⟩
  | attempt first rest firstHypothesis restHypothesis =>
    obtain ⟨marks, traced⟩ := firstHypothesis
    obtain ⟨further, tracedFurther⟩ := restHypothesis
    exact ⟨_, .attempt traced tracedFurther⟩
  | lend first rest firstHypothesis restHypothesis =>
    obtain ⟨marks, traced⟩ := firstHypothesis
    obtain ⟨further, tracedFurther⟩ := restHypothesis
    exact ⟨_, .lend traced tracedFurther⟩
  | unwound first hypothesis =>
    obtain ⟨marks, traced⟩ := hypothesis
    exact ⟨_, .unwound traced⟩
  | resumed first calm waiting hypothesis =>
    obtain ⟨marks, traced⟩ := hypothesis
    exact ⟨_, .resumed traced waiting⟩
  | @left _ _ _ _ _ _ _ _ between _ _ _ first quiet rest firstHypothesis restHypothesis =>
    obtain ⟨marks, traced⟩ := firstHypothesis
    obtain ⟨further, tracedFurther⟩ := restHypothesis
    have nothing : between.parked = none :=
      quiet.resolve_left fun unwinds => Bool.false_ne_true (calm.symm.trans unwinds)
    have same : { between with parked := none } = between := by rw [← nothing]
    exact ⟨_, .left traced nothing (same ▸ tracedFurther)⟩
  | unanswered idle rest hypothesis =>
    obtain ⟨marks, traced⟩ := hypothesis
    exact ⟨_, .unanswered idle traced⟩
  | answered clear innermost called rest calledHypothesis restHypothesis =>
    obtain ⟨marks, traced⟩ := calledHypothesis
    obtain ⟨further, tracedFurther⟩ := restHypothesis
    exact ⟨_, .answered clear innermost traced tracedFurther⟩
  | trapped clear innermost called rest calledHypothesis restHypothesis =>
    obtain ⟨marks, traced⟩ := calledHypothesis
    obtain ⟨further, tracedFurther⟩ := restHypothesis
    obtain ⟨inner, outer, rfl, none⟩ := Chain.innermost?_eq_some_iff.mp innermost
    exact ⟨_, .trapped clear none traced tracedFurther⟩

/-- The runs of an action on a thread that is not unwinding are its evaluations with marks. -/
theorem execute_iff_traced {thread finished : Thread W} (calm : thread.isUnwinding = false) :
    (∃ depth, execute depth action thread = some (outcome, finished)) ↔
      ∃ marks left, finished = Store.onto left thread ∧
        Traced thread.chain action thread.store marks outcome left := by
  rw [execute_iff_evaluates]
  constructor
  · rintro ⟨left, same, evaluated⟩
    obtain ⟨marks, traced⟩ := evaluated.exists_traced calm
    exact ⟨marks, left, same, traced⟩
  · rintro ⟨marks, left, same, traced⟩
    rw [calm]
    exact ⟨left, same, traced.evaluates⟩

/-! ## Levels -/

/-- What unwinds in an evaluation is inside the scopes that it stands under. -/
theorem Traced.le_of_unwound_mem (traced : Traced chain action store marks outcome after)
    {level : Nat} (inside : .unwound level ∈ marks) : chain.length ≤ level := by
  induction traced with
  | done => cases inside
  | panic => cases inside
  | work rest hypothesis => exact hypothesis inside
  | edit rest hypothesis => exact hypothesis inside
  | attempt first rest firstHypothesis restHypothesis =>
    rcases List.mem_append.mp inside with before | behind
    · exact firstHypothesis before
    · rcases List.mem_append.mp behind with caught | further
      · cases Mark.eq_caught_of_mem_ofEnd caught
      · exact restHypothesis further
  | lend first rest firstHypothesis restHypothesis =>
    rcases List.mem_append.mp inside with before | behind
    · exact firstHypothesis before
    · rcases List.mem_append.mp behind with caught | further
      · cases Mark.eq_caught_of_mem_ofEnd caught
      · exact restHypothesis further
  | unwound first hypothesis =>
    rcases List.mem_append.mp inside with before | last
    · exact Nat.le_of_succ_le (hypothesis before)
    · simp only [List.mem_singleton, Mark.unwound.injEq] at last
      exact Nat.le_of_eq last.symm
  | resumed first waiting hypothesis =>
    rcases List.mem_append.mp inside with before | last
    · exact Nat.le_of_succ_le (hypothesis before)
    · simp only [List.mem_singleton, Mark.unwound.injEq] at last
      exact Nat.le_of_eq last.symm
  | left first quiet rest firstHypothesis restHypothesis =>
    rcases List.mem_append.mp inside with before | further
    · exact Nat.le_of_succ_le (firstHypothesis before)
    · exact restHypothesis further
  | unanswered idle rest hypothesis => exact hypothesis inside
  | answered clear innermost called rest calledHypothesis restHypothesis =>
    rcases List.mem_append.mp inside with before | further
    · exact calledHypothesis before
    · exact restHypothesis further
  | trapped clear innermost called rest calledHypothesis restHypothesis =>
    rcases List.mem_append.mp inside with before | behind
    · exact calledHypothesis before
    · rcases List.mem_cons.mp behind with trap | further
      · cases trap
      · exact restHypothesis further

end NativeBoundary.Callback
