import NativeBoundary.Callback.Foreign
import NativeBoundary.Crossing

/-!
# Actions of callers that install closures

An action works on a session, changes the bytes that are lent to it, panics and
catches panics, installs closures for the length of a part of it, and calls back
as the library would.  A closure is a function from what it sees to an action,
so it may do all of this itself.
-/

namespace NativeBoundary.Callback

/-- A computation that may install closures and call them back. -/
inductive Action (W : Type) : Type → Type 1 where
  | done {α : Type} (value : α) : Action W α
  | panic {α : Type} (message : String) : Action W α
  | work {α β : Type} (change : Session W → β × Session W) (next : β → Action W α) : Action W α
  /-- Change the bytes that are lent to the action. -/
  | edit {α : Type} (change : List UInt8 → List UInt8) (next : Action W α) : Action W α
  /-- Run a part and go on with how it ended. -/
  | attempt {α β : Type} (body : Action W β) (next : Outcome β → Action W α) : Action W α
  /-- Lend bytes to a part and go on with how it ended and what is left in them. -/
  | lend {α β : Type} (bytes : List UInt8) (body : Action W β)
      (next : Outcome β → List UInt8 → Action W α) : Action W α
  /-- Install a closure while a part runs. -/
  | enter {α β : Type} (shape : Shape) (closure : shape.View → Action W shape.Answer)
      (body : Action W β) (next : β → Action W α) : Action W α
  /-- Call back, whatever closure is installed. -/
  | invoke {α : Type} (shape : Shape) (argument : shape.Argument)
      (next : shape.Reply → Action W α) : Action W α

abbrev Closure (W : Type) (shape : Shape) := shape.View → Action W shape.Answer

namespace Action

variable {W : Type}

def andThen {α β : Type} : Action W α → (α → Action W β) → Action W β
  | .done value, next => next value
  | .panic message, _ => .panic message
  | .work change rest, next => .work change fun value => (rest value).andThen next
  | .edit change rest, next => .edit change (rest.andThen next)
  | .attempt body rest, next => .attempt body fun outcome => (rest outcome).andThen next
  | .lend bytes body rest, next =>
    .lend bytes body fun outcome left => (rest outcome left).andThen next
  | .enter shape closure body rest, next =>
    .enter shape closure body fun value => (rest value).andThen next
  | .invoke shape argument rest, next =>
    .invoke shape argument fun reply => (rest reply).andThen next

def note {α : Type} (entry : Entry) (next : Action W α) : Action W α :=
  .work (fun session => ((), { session with journal := entry :: session.journal }))
    fun _ => next

def change {α : Type} (transform : W → W) (next : Action W α) : Action W α :=
  .work (fun session => ((), { session with world := transform session.world }))
    fun _ => next

def resume {α : Type} : Outcome α → Action W α
  | .returned value => .done value
  | .panicked message => .panic message

def ofForeign {shape : Shape} {ρ : Type} : Foreign shape ρ → Action W ρ
  | .finish result => .done result
  | .call argument next => .invoke shape argument fun reply => ofForeign (next reply)

def native {shape : Shape} {ρ : Type} (symbol : Symbol) (code : Foreign shape ρ) :
    Action W ρ :=
  note (.called symbol none) (ofForeign code)

end Action

end NativeBoundary.Callback
