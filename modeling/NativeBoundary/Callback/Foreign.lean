import NativeBoundary.Callback.Shape

/-!
# Library code that calls back

While an export with a callback runs, it may call the callback any number of
times, and each time goes on with the reply.  Such code is a tree: it is either
finished, or hands over an argument and waits.
-/

namespace NativeBoundary.Callback

/-- Library code that calls a callback of one shape and computes a result. -/
inductive Foreign (shape : Shape) (ρ : Type) where
  | finish (result : ρ)
  | call (argument : shape.Argument) (next : shape.Reply → Foreign shape ρ)

namespace Foreign

variable {shape : Shape} {ρ σ : Type}

def map (transform : ρ → σ) : Foreign shape ρ → Foreign shape σ
  | .finish result => .finish (transform result)
  | .call argument next => .call argument fun reply => (next reply).map transform

/-- The result when every call is answered by a function. -/
def answeredBy (answer : shape.Argument → shape.Reply) : Foreign shape ρ → ρ
  | .finish result => result
  | .call argument next => (next (answer argument)).answeredBy answer

@[simp]
theorem answeredBy_map (transform : ρ → σ) (answer : shape.Argument → shape.Reply)
    (code : Foreign shape ρ) :
    (code.map transform).answeredBy answer = transform (code.answeredBy answer) := by
  induction code with
  | finish result => rfl
  | call argument next hypothesis => exact hypothesis (answer argument)

end Foreign

end NativeBoundary.Callback
