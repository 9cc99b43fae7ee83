import NativeBoundary.Gateway.Run
import NativeBoundary.Host

/-!
# The shared gateway

A host shares one gateway.  The first initializer that returns decides, for
good, whether there is one and which; later initializers do not run.  An
initializer that panics decides nothing.
-/

namespace NativeBoundary

variable {V W : Type}

/-- What a host shares: nothing yet, or what the first initializer returned. -/
structure Shared (W : Type) where
  decided : Option (Except InitError (Gateway W))

namespace Shared

def undecided : Shared W := ⟨none⟩

def isReady (shared : Shared W) : Bool :=
  match shared.decided with
  | some (.ok _) => true
  | _ => false

/-- The answer to an initializer: whether it ran, and what is decided. -/
structure Settlement (W : Type) where
  ran : Bool
  result : Except InitError (Gateway W)

/-- Decide by an initializer, unless that was done before. -/
def settle (shared : Shared W)
    (initializer : Crossing V (Except InitError (Gateway W))) :
    Crossing V (Settlement W × Shared W) :=
  match shared.decided with
  | some result => pure (⟨false, result⟩, shared)
  | none => do
    let result ← initializer
    pure (⟨true, result⟩, ⟨some result⟩)

/-- The text of a panic before anything was decided. -/
def undecidedText : String := "native interop used before init_global"

/-- The text of a panic where there is no gateway. -/
def failedText (error : InitError) : String :=
  "native interop failed to initialize: " ++ error.message

/-- The gateway; where there is none, panic. -/
def gateway (shared : Shared W) : Crossing V (Gateway W) :=
  match shared.decided with
  | some (.ok gateway) => pure gateway
  | some (.error error) => Crossing.panic (failedText error)
  | none => Crossing.panic undecidedText

end Shared

/-! ## Sessions -/

/-- A step of a session with the shared gateway. -/
inductive SharedStep (W : Type) where
  | settle (initializer : Crossing (Host W) (Except InitError (Gateway W)))
  | isReady
  | use (calls : List Step)

/-- What a step of a session with the shared gateway answers. -/
inductive SharedAnswer
  /-- Whether the initializer ran, and why there is no gateway if there is none. -/
  | settled (ran : Bool) (refusal : Option InitError)
  | isReady (value : Bool)
  | used (reports : List StepReport)
  | panicked (message : String)

namespace Shared

/-- Why there is no gateway, if there is none. -/
def Settlement.refusal (settlement : Settlement W) : Option InitError :=
  match settlement.result with
  | .ok _ => none
  | .error error => some error

def step (shared : Shared W) :
    SharedStep W → Crossing (Host W) (SharedAnswer × Shared W)
  | .settle initializer => do
    let (settlement, after) ← shared.settle initializer
    pure (.settled settlement.ran settlement.refusal, after)
  | .isReady => pure (.isReady shared.isReady, shared)
  | .use calls => do
    let gateway ← shared.gateway
    let reports ← Host.onMemory (gateway.run calls)
    pure (.used reports, shared)

/-- Make a step; a panic is its answer, and decides nothing. -/
def guardedStep (shared : Shared W) (step : SharedStep W) :
    Crossing (Host W) (SharedAnswer × Shared W) := do
  match ← Crossing.attempt (shared.step step) with
  | .returned result => pure result
  | .panicked message => pure (.panicked message, shared)

def steps (shared : Shared W) : List (SharedStep W) → Crossing (Host W) (List SharedAnswer)
  | [] => pure []
  | step :: rest => do
    let (answer, after) ← shared.guardedStep step
    let answers ← steps after rest
    pure (answer :: answers)

end Shared

end NativeBoundary
