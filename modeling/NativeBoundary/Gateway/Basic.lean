import NativeBoundary.Exports
import NativeBoundary.Guard

/-!
# Gateways

A gateway is the table of a library whose guard was asked and found to agree.
The question to the guard is the first call that reaches the library, and the
only one when the answer is refused.
-/

namespace NativeBoundary

variable {W : Type}

/-- A verified table. -/
structure Gateway (W : Type) where
  exports : Exports W
  /-- Whether the table was filled from a loaded file. -/
  isDynamic : Bool

namespace Gateway

/-- Ask the guard of a table, and keep the table if it agrees. -/
def establish (exports : Exports W) : Crossing W (Except InitError (Gateway W)) := do
  let actual ← Crossing.native .surfaceGuard none exports.surfaceGuard
  let verdict ← Guard.verify actual
  pure (verdict.map fun _ => ⟨exports, false⟩)

/-- How a gateway is shown: whether its library was loaded from a file. -/
def summary (gateway : Gateway W) : String :=
  "Interop \x7b dynamic: " ++ (if gateway.isDynamic then "true" else "false") ++ " \x7d"

/-- How the table of a gateway is shown: by the number of its symbols. -/
def tableSummary (_gateway : Gateway W) : String :=
  "NativeApi \x7b symbols: " ++ toString Symbol.all.length ++ ", .. \x7d"

end Gateway

end NativeBoundary
