import NativeBoundary.Gateway.Basic
import NativeBoundary.Loading.Opened

/-!
# Gateways over loaded libraries

The guard of a loaded library is looked up and asked before anything else is.
Only when it agrees are the other symbols looked up, one after the other in the
order of the table, up to the first one that is missing.
-/

namespace NativeBoundary

open NativeBoundary.Log

variable {V W : Type}

namespace Image

/-- The table of a library: the code that all libraries share, behind the guard of this one. -/
def table (image : Image) (code : Exports W) : Exports W :=
  { code with surfaceGuard := pure image.hash }

def undefinedSymbol : String := "undefined symbol"

def lookUp (image : Image) (symbol : Symbol) : Crossing V (Except LoadError Unit) := do
  Crossing.note (.looked symbol)
  pure (if image.exported symbol then .ok ()
    else .error (.symbolNotFound symbol.name undefinedSymbol))

/-- Look symbols up in their order, up to the first one that is missing. -/
def lookUpAll (image : Image) : List Symbol → Crossing V (Except LoadError Unit)
  | [] => pure (.ok ())
  | symbol :: rest => do
    match ← image.lookUp symbol with
    | .error error => pure (.error error)
    | .ok () => lookUpAll image rest

def askGuard (image : Image) : Crossing V (Except InitError Unit) := do
  match ← image.lookUp .surfaceGuard with
  | .error error => pure (.error (.load error))
  | .ok () => do
    let actual ← Crossing.native .surfaceGuard none (pure image.hash)
    Guard.verify actual

end Image

namespace Gateway

def readyRecord (name : String) : Record :=
  Source.gateway.record .info "native interop ready" [("library", .text name)]

/-- Take a library into use: first its guard, then its table. -/
def ofImage (code : Exports W) (image : Image) : Crossing V (Except InitError (Gateway W)) := do
  match ← image.askGuard with
  | .error error => pure (.error error)
  | .ok () =>
    match ← image.lookUpAll Symbol.all with
    | .error error => pure (.error (.load error))
    | .ok () => pure (.ok ⟨image.table code, true⟩)

def load (code : Exports W) (surroundings : Surroundings) (name : String)
    (extra : List Path) : Crossing OpenedLibraries (Except InitError (Gateway W)) := do
  let searchPath := SearchPath.extended surroundings.currentPath? extra
  match ← searchPath.load surroundings name with
  | .error error => pure (.error (.load error))
  | .ok library =>
    match ← ofImage code library.image with
    | .error error => pure (.error error)
    | .ok gateway => do
      Crossing.raise (readyRecord name)
      pure (.ok gateway)

end Gateway

end NativeBoundary
