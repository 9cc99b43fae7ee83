import NativeBoundary.Gateway.Loaded
import NativeBoundary.Gateway.Run
import NativeBoundary.Host
import NativeBoundary.Settings.Loader

/-!
# Sessions with loaded libraries

Libraries are loaded one after the other, by short names, by paths and by
settings, while the surroundings change.  All of them are opened by one host.
-/

namespace NativeBoundary

/-- A step of a session with loaded libraries. -/
inductive LoadingStep
  | change (change : Change)
  | candidates (name : String)
  | search (extra : List Path)
  /-- Search in one more directory from now on, before all others. -/
  | prepend (directory : Path)
  | directories
  | load (name : String)
  | use (name : String) (extra : List Path) (calls : List Step)
  /-- Take the library into use that the settings for a directory name, and make calls. -/
  | useConfigured (start : Path) (calls : List Step)

/-- What a step of a session with loaded libraries answers. -/
inductive LoadingAnswer
  | done
  | names (names : List String)
  | paths (paths : List Path)
  /-- A library was loaded: how many loads succeeded before, and the first of them that answered
  the same library. -/
  | loaded (number : Nat) (sameAs : Option Nat)
  | refused (error : InitError)
  | used (summary : String) (reports : List StepReport)

/-- What a session with loaded libraries keeps besides its host. -/
structure LoadingState where
  surroundings : Surroundings
  searchPath : SearchPath
  /-- The libraries that were loaded, by their places, the first load first. -/
  loads : List Nat

namespace LoadingState

variable {W : Type}

def start (surroundings : Surroundings) : LoadingState :=
  ⟨surroundings, .standard surroundings.currentPath?, []⟩

def loadedAnswer (state : LoadingState) (library : Library) : LoadingAnswer :=
  .loaded state.loads.length (state.loads.findIdx? (· == library.place))

/-- Ask the guard of a gateway once more, and make calls through it. -/
def makeCalls (gateway : Gateway W) (calls : List Step) :
    Crossing (Host W) LoadingAnswer := do
  match ← Host.onMemory (Gateway.establish gateway.exports) with
  | .error error => pure (.refused error)
  | .ok _ => do
    let reports ← Host.onMemory (gateway.run calls)
    pure (.used gateway.summary reports)

def useLibrary (code : Exports W) (surroundings : Surroundings) (name : String)
    (extra : List Path) (calls : List Step) : Crossing (Host W) LoadingAnswer := do
  match ← Host.onOpened (Gateway.load code surroundings name extra) with
  | .error error => pure (.refused error)
  | .ok gateway => makeCalls gateway calls

/-- The settings for a directory, without a file of the user. -/
def settingsFor (surroundings : Surroundings) (directory : Path) :
    Except SettingsError Config :=
  (SettingsLoader.loadDirectory surroundings ⟨some .empty⟩ directory).1

def step (code : Exports W) (state : LoadingState) :
    LoadingStep → Crossing (Host W) (LoadingAnswer × LoadingState)
  | .change change =>
    pure (.done, { state with surroundings := state.surroundings.apply change })
  | .candidates name => pure (.names (SearchPath.candidates name), state)
  | .search extra =>
    pure (.done,
      { state with searchPath := .extended state.surroundings.currentPath? extra })
  | .prepend directory =>
    pure (.done, { state with searchPath := state.searchPath.prepend directory })
  | .directories => pure (.paths state.searchPath.directories, state)
  | .load name => do
    match ← Host.onOpened (state.searchPath.load state.surroundings name) with
    | .error error => pure (.refused (.load error), state)
    | .ok library =>
      pure (state.loadedAnswer library, { state with loads := state.loads ++ [library.place] })
  | .use name extra calls =>
    return (← useLibrary code state.surroundings name extra calls, state)
  | .useConfigured directory calls =>
    match settingsFor state.surroundings directory with
    | .error error => pure (.refused (.settings error.message), state)
    | .ok config =>
      return (← useLibrary code state.surroundings config.libraryName config.searchPaths calls,
        state)

/-- Make steps in order; each answer comes with the number of opened libraries after it. -/
def steps (code : Exports W) (state : LoadingState) :
    List LoadingStep → Crossing (Host W) (List (LoadingAnswer × Nat))
  | [] => pure []
  | step :: rest => do
    let (answer, after) ← state.step code step
    let host ← Crossing.world
    let answers ← steps code after rest
    pure ((answer, host.opened.count) :: answers)

end LoadingState

end NativeBoundary
