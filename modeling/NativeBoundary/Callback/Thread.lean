import NativeBoundary.Callback.Action

/-!
# Threads

A thread holds, for every shape, the closures that are installed and not yet
removed, the innermost first.  A panic of a closure must not pass through the
library, so it is parked on the thread and the library is left with a default;
while a panic is parked no closure runs.  When the part that a closure was
installed for ends, the closure is removed; a parked panic then goes on from
there, unless the thread is unwinding already, and in that case it is dropped.
-/

namespace NativeBoundary.Callback

/-- The state of a thread. -/
structure Thread (W : Type) where
  session : Session W
  /-- The installed closures of every shape, the innermost first. -/
  scopes : (shape : Shape) → List (Closure W shape)
  /-- The panic that waits for the library to return. -/
  parked : Option String
  /-- Whether the thread was unwinding before the action began. -/
  isUnwinding : Bool
  /-- The bytes that are lent to the running action. -/
  lent : List UInt8

namespace Thread

variable {W : Type}

def fresh (session : Session W) : Thread W :=
  ⟨session, fun _ => [], none, false, []⟩

def setScopes (thread : Thread W) (shape : Shape) (closures : List (Closure W shape)) :
    Thread W :=
  { thread with
    scopes := fun other =>
      if same : other = shape then same ▸ closures else thread.scopes other }

def push (thread : Thread W) (shape : Shape) (closure : Closure W shape) : Thread W :=
  thread.setScopes shape (closure :: thread.scopes shape)

/-- Remove the innermost closure of a shape.  A thread that unwinds drops the parked panic. -/
def leave (thread : Thread W) (shape : Shape) (panicked : Bool) : Thread W :=
  let popped := thread.setScopes shape (thread.scopes shape).tail
  { popped with parked := if panicked || thread.isUnwinding then none else popped.parked }

/-- Park a panic, unless another one is parked already. -/
def park (thread : Thread W) (message : String) : Thread W :=
  { thread with parked := some (thread.parked.getD message) }

@[simp]
theorem setScopes_same (thread : Thread W) (shape : Shape)
    (closures : List (Closure W shape)) :
    (thread.setScopes shape closures).scopes shape = closures := by
  simp [setScopes]

theorem setScopes_other (thread : Thread W) {shape other : Shape}
    (closures : List (Closure W shape)) (different : other ≠ shape) :
    (thread.setScopes shape closures).scopes other = thread.scopes other := by
  simp [setScopes, different]

end Thread

/-- How a closure that was called back is run; `none` stands for a run that was not finished. -/
abbrev Serve (W : Type) :=
  (shape : Shape) → Closure W shape → shape.View → Thread W →
    Option (Outcome shape.Answer × Thread W)

variable {W : Type}

/-- What the library gets from a call back: nothing but the default while a panic is parked or no
closure is installed, and otherwise the answer of the innermost closure, whose panic is parked. -/
def callBack (serve : Serve W) (shape : Shape) (argument : shape.Argument)
    (thread : Thread W) : Option (shape.Reply × Thread W) :=
  match thread.parked, thread.scopes shape with
  | some _, _ => some (shape.defaultReply argument, thread)
  | none, [] => some (shape.defaultReply argument, thread)
  | none, closure :: _ =>
    (serve shape closure (shape.view argument)
      { thread with lent := shape.lent argument }).map fun (outcome, after) =>
        let back := { after with lent := thread.lent }
        match outcome with
        | .returned answer => (shape.reply answer after.lent, back)
        | .panicked message =>
          (shape.reply shape.defaultAnswer after.lent, back.park message)

/-- Run an action on a thread. -/
def runWith (serve : Serve W) : {α : Type} → Action W α → Thread W →
    Option (Outcome α × Thread W)
  | _, .done value, thread => some (.returned value, thread)
  | _, .panic message, thread => some (.panicked message, thread)
  | _, .work change next, thread =>
    let (value, session) := change thread.session
    runWith serve (next value) { thread with session }
  | _, .edit change next, thread =>
    runWith serve next { thread with lent := change thread.lent }
  | _, .attempt body next, thread =>
    match runWith serve body thread with
    | none => none
    | some (outcome, after) => runWith serve (next outcome) after
  | _, .lend bytes body next, thread =>
    match runWith serve body { thread with lent := bytes } with
    | none => none
    | some (outcome, after) =>
      runWith serve (next outcome after.lent) { after with lent := thread.lent }
  | _, .enter shape closure body next, thread =>
    match runWith serve body (thread.push shape closure) with
    | none => none
    | some (.panicked message, after) => some (.panicked message, after.leave shape true)
    | some (.returned value, after) =>
      let left := after.leave shape false
      match left.parked with
      | some message => some (.panicked message, { left with parked := none })
      | none => runWith serve (next value) left
  | _, .invoke shape argument next, thread =>
    match callBack serve shape argument thread with
    | none => none
    | some (reply, after) => runWith serve (next reply) after

/-- Run closures whose calls back are nested at most so deep; deeper ones are not finished. -/
def serveWithin : Nat → Serve W
  | 0 => fun _ _ _ _ => none
  | depth + 1 => fun _ closure view thread =>
    runWith (serveWithin depth) (closure view) thread

/-- Run an action in which closures are called back at most `depth` deep. -/
def execute (depth : Nat) {α : Type} (action : Action W α) (thread : Thread W) :
    Option (Outcome α × Thread W) :=
  runWith (serveWithin depth) action thread

end NativeBoundary.Callback
