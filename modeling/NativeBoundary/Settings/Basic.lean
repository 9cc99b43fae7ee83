import NativeBoundary.Log.Format
import NativeBoundary.Log.Record
import NativeBoundary.Path
import NativeBoundary.Text.Blank
import NativeBoundary.Text.Lowercase

/-!
# Settings

Settings say which library is used, where it is searched, and how records are
written.  They come in two sections, each of which may be missing, and so may
every value in them.  Settings are layered: the upper layer wins where it has a
value, and its search paths come first.
-/

namespace NativeBoundary

open NativeBoundary.Log

/-- The section on the library. -/
structure LibrarySection where
  name : Option String := none
  searchPaths : List Path := []
deriving DecidableEq, Repr, Inhabited

/-- The section on records. -/
structure LoggingSection where
  level : Option Severity := none
  format : Option Log.Format := none
deriving DecidableEq, Repr, Inhabited

/-- The settings of one layer, or of several layers merged. -/
structure Settings where
  library : Option LibrarySection := none
  logging : Option LoggingSection := none
deriving DecidableEq, Repr, Inhabited

/-- A value that is not accepted, by the name of its setting. -/
structure InvalidSetting where
  field : String
  reason : String
deriving DecidableEq, Repr

def LibrarySection.overlay (lower upper : LibrarySection) : LibrarySection where
  name := upper.name <|> lower.name
  searchPaths := upper.searchPaths ++ lower.searchPaths

def LoggingSection.overlay (lower upper : LoggingSection) : LoggingSection where
  level := upper.level <|> lower.level
  format := upper.format <|> lower.format

namespace Settings

def empty : Settings := {}

/-- Lay one section over another; a missing one changes nothing. -/
def overlaySection {α : Type} [Inhabited α] (overlay : α → α → α) (lower upper : Option α) :
    Option α :=
  match upper with
  | none => lower
  | some upper => some (overlay (lower.getD default) upper)

/-- The settings with an upper layer laid over them. -/
def overlay (lower upper : Settings) : Settings where
  library := overlaySection LibrarySection.overlay lower.library upper.library
  logging := overlaySection LoggingSection.overlay lower.logging upper.logging

/-- A search path as seen from a directory. -/
def resolvePath (root path : Path) : Path :=
  if path.isRelative then root.join path else path

/-- The settings with their relative search paths put below a directory. -/
def resolve (settings : Settings) (root : Path) : Settings :=
  { settings with
    library := settings.library.map fun part =>
      { part with searchPaths := part.searchPaths.map (resolvePath root) } }

def libraryName? (settings : Settings) : Option String :=
  settings.library.bind (·.name)

def searchPaths (settings : Settings) : List Path :=
  (settings.library.map (·.searchPaths)).getD []

def level? (settings : Settings) : Option Severity :=
  settings.logging.bind (·.level)

def format? (settings : Settings) : Option Log.Format :=
  settings.logging.bind (·.format)

/-- The objection to a name that is blank. -/
def blankName : InvalidSetting := ⟨"library.name", "name cannot be empty"⟩

/-- Settings are accepted unless the name of the library is blank. -/
def validate (settings : Settings) : Except InvalidSetting Unit :=
  match settings.libraryName? with
  | some name => if Text.isBlankText name then .error blankName else .ok ()
  | none => .ok ()

def setName (settings : Settings) (name : String) : Settings :=
  { settings with library := some { settings.library.getD {} with name := some name } }

def setLevel (settings : Settings) (level : Severity) : Settings :=
  { settings with logging := some { settings.logging.getD {} with level := some level } }

def setFormat (settings : Settings) (format : Log.Format) : Settings :=
  { settings with logging := some { settings.logging.getD {} with format := some format } }

end Settings

/-! ## Levels and formats as spoken -/

/-- Read the name of a level in any case; a warning may be spelled out. -/
def parseLevel (text : String) : Except InvalidSetting Severity :=
  let name := Text.lowercase text
  match if name == "warning" then some .warn else Severity.ofName? name with
  | some level => .ok level
  | none => .error ⟨"logging.level", "unknown level '" ++ name ++ "'"⟩

def parseFormat (text : String) : Except InvalidSetting Log.Format :=
  let name := Text.lowercase text
  match Log.Format.ofName? name with
  | some format => .ok format
  | none =>
    .error ⟨"logging.format", "must be 'compact' or 'json', got '" ++ name ++ "'"⟩

end NativeBoundary
