/-!
# Formats of written records
-/

namespace NativeBoundary.Log

/-- How records are written. -/
inductive Format
  /-- One line of text for each record. -/
  | compact
  /-- One object for each record. -/
  | json
deriving DecidableEq, Repr, Inhabited

def Format.name : Format → String
  | .compact => "compact"
  | .json => "json"

def Format.all : List Format := [.compact, .json]

def Format.ofName? (name : String) : Option Format :=
  Format.all.find? fun format => format.name == name

end NativeBoundary.Log
