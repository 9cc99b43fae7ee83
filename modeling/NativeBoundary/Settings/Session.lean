import NativeBoundary.Settings.Loader

/-!
# Sessions with settings

A layer can be changed step by step, and a loader can be asked again and again
while the files, the environment and the home directory change around it.
-/

namespace NativeBoundary

/-! ## One layer -/

/-- A step on the settings of one layer. -/
inductive LayerStep
  | overlay (content : Content)
  /-- Put the relative search paths below a directory. -/
  | resolve (root : Path)
  | name (name : String)

/-- What a step on a layer answers. -/
inductive LayerAnswer
  | settings (settings : Settings)
  | failed (error : SettingsError)
  | accepted

namespace Settings

def layerStep (path : Path) (settings : Settings) : LayerStep → LayerAnswer × Settings
  | .overlay content =>
    match ofContent path content with
    | .error error => (.failed error, settings)
    | .ok upper =>
      let merged := settings.overlay upper
      (.settings merged, merged)
  | .resolve root =>
    let resolved := settings.resolve root
    (.settings resolved, resolved)
  | .name name =>
    let named := settings.setName name
    match named.validate with
    | .error setting => (.failed (.invalid setting), named)
    | .ok () => (.accepted, named)

def layerSteps (path : Path) (settings : Settings) : List LayerStep → List LayerAnswer
  | [] => []
  | step :: rest =>
    let (answer, after) := layerStep path settings step
    answer :: layerSteps path after rest

def layerSession (path : Path) (content : Content) (steps : List LayerStep) :
    Except SettingsError (List LayerAnswer) :=
  (ofContent path content).map fun settings =>
    .settings settings :: layerSteps path settings steps

end Settings

/-! ## A loader in a changing world -/

/-- What a loader is asked for. -/
inductive LoadRequest
  | directory (start : Path)
  | file (file : Path)
deriving DecidableEq, Repr

/-- A step of a session with a loader. -/
inductive LoaderStep
  | change (change : Change)
  | load (request : LoadRequest)
  | userDirectory

/-- What a step of a session with a loader answers. -/
inductive LoaderAnswer
  | loaded (result : Except SettingsError Config)
  | path (result : Except SettingsError Path)

namespace SettingsLoader

def serve (loader : SettingsLoader) (surroundings : Surroundings) :
    LoadRequest → Except SettingsError Config × SettingsLoader
  | .directory start => loader.loadDirectory surroundings start
  | .file file => loader.loadFile surroundings file

/-- Make steps in order; a change gives no answer. -/
def session (loader : SettingsLoader) (surroundings : Surroundings) :
    List LoaderStep → List LoaderAnswer
  | [] => []
  | .change change :: rest => session loader (surroundings.apply change) rest
  | .load request :: rest =>
    let (result, after) := loader.serve surroundings request
    .loaded result :: session after surroundings rest
  | .userDirectory :: rest =>
    .path (userDirectory surroundings) :: session loader surroundings rest

end SettingsLoader

end NativeBoundary
