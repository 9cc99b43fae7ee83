import NativeBoundary.Settings.Error
import NativeBoundary.Surroundings
import NativeBoundary.Toml.Document

/-!
# Loading settings

Settings are assembled from three layers: the file of the user, the file of the
project, and variables of the environment, each of which wins over the ones
before.  The file of the project is the nearest one in a directory or above it.
A loader fixes the place of the user's file when it first gets past the project,
and keeps to it from then on.
-/

namespace NativeBoundary

open NativeBoundary.Log

namespace Settings

def fileName : String := "ferrule.toml"

def userDirectoryName : String := ".ferrule"

def userFileName : String := "config.toml"

/-- The library that is used when nothing names one. -/
def defaultLibraryName : String := "ferrule_native"

def ofText (path : Path) (text : String) : Except SettingsError Settings :=
  match Toml.read? text with
  | none => .error (.malformed path none)
  | some entries =>
    match Schema.decode entries with
    | .error offence => .error (.malformed path (some offence))
    | .ok settings =>
      match settings.validate with
      | .error setting => .error (.invalid setting)
      | .ok () => .ok settings

def ofContent (path : Path) (content : Content) : Except SettingsError Settings :=
  match content.text? with
  | none => .error (.unreadable .notText)
  | some text => ofText path text

def ofFile (surroundings : Surroundings) (path : Path) : Except SettingsError Settings :=
  match surroundings.content path with
  | .error (.path .missing) => .error (.notFound path)
  | .error fault => .error (.unreadable fault)
  | .ok content => ofContent path content

/-- The settings with those of the environment laid over them: the library, then the level, then
the format. -/
def applyVariables (variableText? : String → Option String) (settings : Settings) :
    Except InvalidSetting Settings := do
  let settings :=
    match variableText? "FERRULE_LIBRARY" with
    | some name => settings.setName name
    | none => settings
  let settings ←
    match variableText? "FERRULE_LOG_LEVEL" with
    | some text => (parseLevel text).map settings.setLevel
    | none => pure settings
  match variableText? "FERRULE_LOG_FORMAT" with
  | some text => (parseFormat text).map settings.setFormat
  | none => pure settings

end Settings

/-- Settings as they were loaded, and the directory of the project they belong to. -/
structure Config where
  settings : Settings
  projectRoot : Option Path
deriving DecidableEq, Repr

namespace Config

def libraryName (config : Config) : String :=
  config.settings.libraryName?.getD Settings.defaultLibraryName

/-- The search paths, the first ones of highest priority. -/
def searchPaths (config : Config) : List Path :=
  config.settings.searchPaths

def level (config : Config) : Severity :=
  config.settings.level?.getD .info

def format (config : Config) : Log.Format :=
  config.settings.format?.getD .compact

/-- The section on records with its defaults filled in. -/
def logging (config : Config) : LoggingSection :=
  ⟨some config.level, some config.format⟩

def isProject (config : Config) : Bool :=
  config.projectRoot.isSome

end Config

/-- A loader of settings, with the place of the user's file once that is fixed. -/
structure SettingsLoader where
  userFile : Option Path := none
deriving DecidableEq, Repr

/-- The layer of a project and its directory. -/
structure ProjectLayer where
  root : Option Path
  settings : Settings

namespace SettingsLoader

variable (surroundings : Surroundings)

/-- The directory of the user's settings, below the home directory. -/
def userDirectory : Except SettingsError Path :=
  match surroundings.home with
  | none => .error .homeNotFound
  | some home => .ok (home.joinName Settings.userDirectoryName)

def projectFile (directory : Path) : Path :=
  directory.joinName Settings.fileName

/-- The nearest directory that has a file of a project. -/
def findProject? (start : Path) : Option Path :=
  start.ancestors.find? fun directory =>
    surroundings.pathExists (projectFile directory)

/-- The layer of the project that a directory belongs to; without one the layer is empty. -/
def projectLayer (start : Path) : Except SettingsError ProjectLayer :=
  match findProject? surroundings start with
  | none => .ok ⟨none, .empty⟩
  | some directory =>
    (Settings.ofFile surroundings (projectFile directory)).map fun settings =>
      ⟨some directory, settings.resolve directory⟩

def fileLayer (file : Path) : Except SettingsError ProjectLayer :=
  (Settings.ofFile surroundings file).map fun settings =>
    match file.parent? with
    | none => ⟨none, settings⟩
    | some root => ⟨some root, settings.resolve root⟩

/-- The place of the user's file: where it was fixed, or below the home directory if there is
one. -/
def userFileOf (loader : SettingsLoader) : Option Path :=
  match loader.userFile with
  | some file => some file
  | none =>
    match userDirectory surroundings with
    | .ok directory => some (directory.joinName Settings.userFileName)
    | .error _ => none

/-- The layer of the user's file; without a place for that file, or without the file, the layer is
empty. -/
def userLayer (file? : Option Path) : Except SettingsError Settings :=
  match file? with
  | none => .ok .empty
  | some file =>
    if surroundings.pathExists file then
      Settings.ofFile surroundings file
    else .ok .empty

/-- Lay the project over the user's file and the environment over both. -/
def assemble (userFile? : Option Path) (project : ProjectLayer) :
    Except SettingsError Config := do
  let user ← userLayer surroundings userFile?
  let merged := user.overlay project.settings
  match Settings.applyVariables surroundings.variableText? merged with
  | .error setting => .error (.invalid setting)
  | .ok settings =>
    match settings.validate with
    | .error setting => .error (.invalid setting)
    | .ok () => pure ⟨settings, project.root⟩

/-- Load settings on top of the layer of a project, and fix the place of the user's file unless
the project failed or there is no such place. -/
def loadOver (loader : SettingsLoader) (project : Except SettingsError ProjectLayer) :
    Except SettingsError Config × SettingsLoader :=
  match project with
  | .error error => (.error error, loader)
  | .ok project =>
    let file? := loader.userFileOf surroundings
    (assemble surroundings file? project, { loader with userFile := file? })

def loadDirectory (loader : SettingsLoader) (start : Path) :
    Except SettingsError Config × SettingsLoader :=
  loader.loadOver surroundings (projectLayer surroundings start)

def loadFile (loader : SettingsLoader) (file : Path) :
    Except SettingsError Config × SettingsLoader :=
  loader.loadOver surroundings (fileLayer surroundings file)

end SettingsLoader

end NativeBoundary
