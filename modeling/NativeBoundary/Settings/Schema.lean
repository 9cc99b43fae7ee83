import NativeBoundary.Settings.Basic
import NativeBoundary.Text.Quoted
import NativeBoundary.Toml.Value

/-!
# The schema of settings

A document holds settings when it has no keys but the known ones and every value
has its kind.  A section is a table, or an array that gives its values by
position.  A level or a format is named by a text, or by the only key of a table
whose value is empty.  Of several offences the first one in the document counts.
-/

namespace NativeBoundary.Settings.Schema

open NativeBoundary.Log
open NativeBoundary.Toml

/-- Why a document does not hold settings. -/
inductive Offence
  | unknownField (key : String) (expected : List String)
  | unknownVariant (name : String) (expected : List String)
  | invalidType (found expected : String)
  | invalidLength (length : Nat) (expected : String)
  /-- A level or a format is neither a text nor a table. -/
  | neitherTextNorTable
  /-- A table that should name a level or a format has no key. -/
  | noElement
  /-- A table that should name a level or a format has several keys. -/
  | severalElements
  /-- The value behind the name of a level or a format is no table. -/
  | notTable (kind : String)
  /-- The value behind the name of a level or a format is not empty. -/
  | notEmptyTable
  /-- The value behind the name of a level or a format is a list of tables. -/
  | notEmptyArray
deriving DecidableEq, Repr

def named (name : String) : String := "\x60" ++ name ++ "\x60"

def alternatives : List String → String
  | [only] => named only
  | [first, second] => named first ++ " or " ++ named second
  | names => "one of " ++ ", ".intercalate (names.map named)

def Offence.message : Offence → String
  | .unknownField key expected =>
    "unknown field " ++ named key ++ ", expected " ++ alternatives expected
  | .unknownVariant name expected =>
    "unknown variant " ++ named name ++ ", expected " ++ alternatives expected
  | .invalidType found expected => "invalid type: " ++ found ++ ", expected " ++ expected
  | .invalidLength length expected =>
    "invalid length " ++ toString length ++ ", expected " ++ expected
  | .neitherTextNorTable => "wanted string or table"
  | .noElement => "wanted exactly 1 element, found 0 elements"
  | .severalElements => "wanted exactly 1 element, more than 1 element"
  | .notTable kind => "expected table, found " ++ kind
  | .notEmptyTable => "expected empty table"
  | .notEmptyArray => "expected empty array"

/-- A decoded part of a document, or the first offence in it. -/
abbrev Decoded (α : Type) := Except Offence α

/-- The key under which a moment shows its text to a reader of tables. -/
def momentKey : String := "$__toml_private_datetime"

def describe : Value → String
  | .string text => "string " ++ Text.quoted text
  | .integer value => "integer " ++ named (toString value)
  | .float value => "floating point " ++ named value.render
  | .boolean value => "boolean " ++ named (if value then "true" else "false")
  | .moment => "map"
  | .array _ => "sequence"
  | .tables _ => "sequence"
  | .table _ => "map"

def text (expected : String) : Value → Decoded String
  | .string text => .ok text
  | other => .error (.invalidType (describe other) expected)

def paths : Value → Decoded (List Path)
  | .array items => items.mapM fun item => (text "path string" item).map Path.ofText
  | .tables items => items.mapM fun item => (text "path string" item).map Path.ofText
  | other => .error (.invalidType (describe other) "a sequence")

/-- Decode what stands behind a name in a table: it must be empty. -/
def emptyPayload : Value → Decoded Unit
  | .table [] => .ok ()
  | .array [] => .ok ()
  | .tables [] => .ok ()
  | .table _ => .error .notEmptyTable
  | .array _ => .error .notEmptyTable
  | .tables _ => .error .notEmptyArray
  | other => .error (.notTable other.kindName)

def variant {α : Type} (expected : List String) (ofName? : String → Option α)
    (name : String) : Decoded α :=
  match ofName? name with
  | some value => .ok value
  | none => .error (.unknownVariant name expected)

def choice {α : Type} (expected : List String) (ofName? : String → Option α) :
    Value → Decoded α
  | .string name => variant expected ofName? name
  | .table [] => .error .noElement
  | .table [(name, payload)] => do
    let value ← variant expected ofName? name
    emptyPayload payload
    pure value
  | .table _ => .error .severalElements
  | _ => .error .neitherTextNorTable

def level : Value → Decoded Severity :=
  choice (Severity.all.map Severity.name) Severity.ofName?

def format : Value → Decoded Log.Format :=
  choice (Log.Format.all.map Log.Format.name) Log.Format.ofName?

def libraryKeys : List String := ["name", "search-paths"]

def loggingKeys : List String := ["level", "format"]

def rootKeys : List String := ["library", "logging"]

def libraryEntry (decoded : LibrarySection) (entry : String × Value) :
    Decoded LibrarySection :=
  match entry.1 with
  | "name" => (text "a string" entry.2).map fun name => { decoded with name := some name }
  | "search-paths" =>
    (paths entry.2).map fun searchPaths => { decoded with searchPaths }
  | key => .error (.unknownField key libraryKeys)

def loggingEntry (decoded : LoggingSection) (entry : String × Value) :
    Decoded LoggingSection :=
  match entry.1 with
  | "level" => (level entry.2).map fun level => { decoded with level := some level }
  | "format" => (format entry.2).map fun format => { decoded with format := some format }
  | key => .error (.unknownField key loggingKeys)

/-- Decode the section on the library by position; further items do not count. -/
def libraryItems : List Value → Decoded LibrarySection
  | [] => .error (.invalidLength 0 "struct LibraryConfig with 2 elements")
  | name :: rest => do
    let name ← text "a string" name
    match rest with
    | [] => pure { name := some name }
    | searchPaths :: _ => return { name := some name, searchPaths := ← paths searchPaths }

/-- Decode the section on records by position; further items do not count. -/
def loggingItems : List Value → Decoded LoggingSection
  | [] => .error (.invalidLength 0 "struct LoggingConfig with 2 elements")
  | first :: rest => do
    let level ← level first
    match rest with
    | [] => .error (.invalidLength 1 "struct LoggingConfig with 2 elements")
    | second :: _ => return { level := some level, format := some (← format second) }

/-- Decode a section. -/
def decodeSection {α : Type} (expected : String) (keys : List String) (initial : α)
    (entry : α → String × Value → Decoded α) (items : List Value → Decoded α) :
    Value → Decoded α
  | .table entries => entries.foldlM entry initial
  | .array values => items values
  | .tables values => items values
  | .moment => .error (.unknownField momentKey keys)
  | other => .error (.invalidType (describe other) expected)

def library : Value → Decoded LibrarySection :=
  decodeSection "struct LibraryConfig" libraryKeys {} libraryEntry libraryItems

def logging : Value → Decoded LoggingSection :=
  decodeSection "struct LoggingConfig" loggingKeys {} loggingEntry loggingItems

def rootEntry (decoded : Settings) (entry : String × Value) : Decoded Settings :=
  match entry.1 with
  | "library" => (library entry.2).map fun part => { decoded with library := some part }
  | "logging" => (logging entry.2).map fun part => { decoded with logging := some part }
  | key => .error (.unknownField key rootKeys)

def decode (entries : Entries) : Decoded Settings :=
  List.foldlM rootEntry {} entries

end NativeBoundary.Settings.Schema
