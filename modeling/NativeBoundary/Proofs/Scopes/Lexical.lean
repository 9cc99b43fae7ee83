import NativeBoundary.Callback.Thread

/-!
# Scopes read lexically

A thread keeps a stack of closures for every shape and changes the stacks as
scopes are entered and left.  This module reads an action without any stack.  The
open scopes of all shapes form one chain, the most recently entered scope first;
a part of an action is evaluated under the chain of the place where it stands, so
a scope that has ended is out of reach by construction.  A call back is answered
by the first scope of its shape in the chain, and by the default where there is
none or where a panic is parked.
-/

namespace NativeBoundary.Callback

variable {W : Type}

/-- A scope that was entered: its shape and the closure that was installed for it. -/
structure Scope (W : Type) where
  shape : Shape
  closure : Closure W shape

/-- The scopes that were entered and have not ended, the most recently entered first. -/
abbrev Chain (W : Type) := List (Scope W)

namespace Chain

/-- The closures of the open scopes of a shape, the most recently entered first. -/
def closures (chain : Chain W) (shape : Shape) : List (Closure W shape) :=
  chain.filterMap fun scope =>
    if same : scope.shape = shape then some (same ▸ scope.closure) else none

/-- The closure of the most recently entered open scope of a shape. -/
def innermost? (chain : Chain W) (shape : Shape) : Option (Closure W shape) :=
  (chain.closures shape).head?

@[simp]
theorem closures_nil (shape : Shape) : closures ([] : Chain W) shape = [] := rfl

@[simp]
theorem closures_cons_same (shape : Shape) (closure : Closure W shape) (chain : Chain W) :
    closures (⟨shape, closure⟩ :: chain) shape = closure :: closures chain shape := by
  simp [closures]

theorem closures_cons_other {shape other : Shape} (closure : Closure W shape)
    (chain : Chain W) (different : other ≠ shape) :
    closures (⟨shape, closure⟩ :: chain) other = closures chain other := by
  simp [closures, different.symm]

theorem closures_append (first second : Chain W) (shape : Shape) :
    closures (first ++ second) shape = closures first shape ++ closures second shape :=
  List.filterMap_append

/-- Scopes of one shape are the closures that were installed for them. -/
theorem closures_map_same (shape : Shape) (installed : List (Closure W shape)) :
    closures (installed.map fun closure => ⟨shape, closure⟩) shape = installed := by
  induction installed with
  | nil => rfl
  | cons closure rest hypothesis =>
    rw [List.map_cons, closures_cons_same, hypothesis]

theorem closures_map_other {shape other : Shape} (different : other ≠ shape)
    (installed : List (Closure W shape)) :
    closures (installed.map fun closure => ⟨shape, closure⟩) other = [] := by
  induction installed with
  | nil => rfl
  | cons closure rest hypothesis =>
    rw [List.map_cons, closures_cons_other _ _ different, hypothesis]

/-- The scope that was entered last is the innermost one of its shape. -/
@[simp]
theorem innermost?_cons_same (shape : Shape) (closure : Closure W shape) (chain : Chain W) :
    innermost? (⟨shape, closure⟩ :: chain) shape = some closure := by
  simp [innermost?]

end Chain

/-- What a thread holds beside its scopes. -/
structure Store (W : Type) where
  session : Session W
  /-- The panic that waits for the library to return. -/
  parked : Option String
  /-- The bytes that are lent to the running action. -/
  lent : List UInt8

/-- How an action is evaluated under a chain of open scopes, on a thread that was unwinding
before or not: what it starts from, how it ends, and what it leaves behind. -/
inductive Evaluates (unwinding : Bool) :
    Chain W → {α : Type} → Action W α → Store W → Outcome α → Store W → Prop
  | done {chain : Chain W} {α : Type} {value : α} {store : Store W} :
      Evaluates unwinding chain (.done value) store (.returned value) store
  | panic {chain : Chain W} {α : Type} {message : String} {store : Store W} :
      Evaluates unwinding chain (.panic message : Action W α) store (.panicked message) store
  | work {chain : Chain W} {α β : Type} {change : Session W → β × Session W}
      {next : β → Action W α} {store after : Store W} {outcome : Outcome α}
      (rest :
        Evaluates unwinding chain (next (change store.session).1)
          { store with session := (change store.session).2 } outcome after) :
      Evaluates unwinding chain (.work change next) store outcome after
  | edit {chain : Chain W} {α : Type} {change : List UInt8 → List UInt8} {next : Action W α}
      {store after : Store W} {outcome : Outcome α}
      (rest :
        Evaluates unwinding chain next { store with lent := change store.lent } outcome after) :
      Evaluates unwinding chain (.edit change next) store outcome after
  | attempt {chain : Chain W} {α β : Type} {body : Action W β} {next : Outcome β → Action W α}
      {store between after : Store W} {ended : Outcome β} {outcome : Outcome α}
      (first : Evaluates unwinding chain body store ended between)
      (rest : Evaluates unwinding chain (next ended) between outcome after) :
      Evaluates unwinding chain (.attempt body next) store outcome after
  | lend {chain : Chain W} {α β : Type} {bytes : List UInt8} {body : Action W β}
      {next : Outcome β → List UInt8 → Action W α} {store between after : Store W}
      {ended : Outcome β} {outcome : Outcome α}
      (first : Evaluates unwinding chain body { store with lent := bytes } ended between)
      (rest :
        Evaluates unwinding chain (next ended between.lent)
          { between with lent := store.lent } outcome after) :
      Evaluates unwinding chain (.lend bytes body next) store outcome after
  /-- A panic of the body passes through its scope, and a parked one is dropped. -/
  | unwound {chain : Chain W} {α β : Type} {shape : Shape} {closure : Closure W shape}
      {body : Action W β} {next : β → Action W α} {store between : Store W} {message : String}
      (first :
        Evaluates unwinding (⟨shape, closure⟩ :: chain) body store (.panicked message) between) :
      Evaluates unwinding chain (.enter shape closure body next) store (.panicked message)
        { between with parked := none }
  /-- A panic that is parked when the body returns goes on from there. -/
  | resumed {chain : Chain W} {α β : Type} {shape : Shape} {closure : Closure W shape}
      {body : Action W β} {next : β → Action W α} {store between : Store W} {value : β}
      {message : String}
      (first :
        Evaluates unwinding (⟨shape, closure⟩ :: chain) body store (.returned value) between)
      (calm : unwinding = false) (waiting : between.parked = some message) :
      Evaluates unwinding chain (.enter shape closure body next) store (.panicked message)
        { between with parked := none }
  /-- The scope has ended when what comes after it is evaluated. -/
  | left {chain : Chain W} {α β : Type} {shape : Shape} {closure : Closure W shape}
      {body : Action W β} {next : β → Action W α} {store between after : Store W} {value : β}
      {outcome : Outcome α}
      (first :
        Evaluates unwinding (⟨shape, closure⟩ :: chain) body store (.returned value) between)
      (quiet : unwinding = true ∨ between.parked = none)
      (rest :
        Evaluates unwinding chain (next value) { between with parked := none } outcome after) :
      Evaluates unwinding chain (.enter shape closure body next) store outcome after
  /-- No closure runs while a panic is parked or where no scope of the shape is open. -/
  | unanswered {chain : Chain W} {α : Type} {shape : Shape} {argument : shape.Argument}
      {next : shape.Reply → Action W α} {store after : Store W} {outcome : Outcome α}
      (idle : store.parked ≠ none ∨ chain.innermost? shape = none)
      (rest :
        Evaluates unwinding chain (next (shape.defaultReply argument)) store outcome after) :
      Evaluates unwinding chain (.invoke shape argument next) store outcome after
  /-- The innermost open scope of the shape answers. -/
  | answered {chain : Chain W} {α : Type} {shape : Shape} {argument : shape.Argument}
      {next : shape.Reply → Action W α} {store between after : Store W} {outcome : Outcome α}
      {closure : Closure W shape} {answer : shape.Answer}
      (clear : store.parked = none) (innermost : chain.innermost? shape = some closure)
      (called :
        Evaluates unwinding chain (closure (shape.view argument))
          { store with lent := shape.lent argument } (.returned answer) between)
      (rest :
        Evaluates unwinding chain (next (shape.reply answer between.lent))
          { between with lent := store.lent } outcome after) :
      Evaluates unwinding chain (.invoke shape argument next) store outcome after
  /-- The innermost open scope of the shape panics, and the library gets the default. -/
  | trapped {chain : Chain W} {α : Type} {shape : Shape} {argument : shape.Argument}
      {next : shape.Reply → Action W α} {store between after : Store W} {outcome : Outcome α}
      {closure : Closure W shape} {message : String}
      (clear : store.parked = none) (innermost : chain.innermost? shape = some closure)
      (called :
        Evaluates unwinding chain (closure (shape.view argument))
          { store with lent := shape.lent argument } (.panicked message) between)
      (rest :
        Evaluates unwinding chain (next (shape.reply shape.defaultAnswer between.lent))
          { between with
            lent := store.lent, parked := some (between.parked.getD message) } outcome after) :
      Evaluates unwinding chain (.invoke shape argument next) store outcome after

end NativeBoundary.Callback
