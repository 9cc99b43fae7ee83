import NativeBoundary.Crossing
import NativeBoundary.Log.Filter
import NativeBoundary.Text.Quoted

/-!
# Written records

Nothing is written before the writing of records was set up.  The first set-up
counts, and later ones change nothing.  A variable of the environment, where it
holds a filter, takes the place of the configured level.  A variable whose text is
to be cut inside a character makes the set-up panic, and nothing is set up then.
-/

namespace NativeBoundary.Log

/-! ## One record -/

/-- What stands for the address of an object. -/
def addressMark : String := "PTR"

/-- A value on a line: texts are quoted. -/
def FieldValue.inLine : FieldValue → String
  | .text content => Text.quoted content
  | .shown content => content
  | .number value => toString value
  | .address => addressMark

def Record.line (record : Record) : String :=
  record.severity.label ++ " " ++ record.target ++ ": " ++ record.message ++
    String.join (record.fields.map fun field => " " ++ field.1 ++ "=" ++ field.2.inLine)

/-- A written record. -/
inductive Written
  | line (text : String)
  | object (record : Record)
deriving DecidableEq, Repr

def Record.write (record : Record) : Format → Written
  | .compact => .line record.line
  | .json => .object record

/-! ## All records -/

/-- Which records are written, and how. -/
structure Writer where
  filter : Filter
  format : Format
deriving DecidableEq, Repr

namespace Writer

def filterOf (filterText : Option String) (part : LoggingSection) : Outcome Filter :=
  match filterText.map Filter.ofText with
  | some (.ok filter) => .returned filter
  | some (.error (.cut cut)) => .panicked cut.message
  | some (.error .malformed) | none => .returned (.ofLevel (part.level.getD .info))

def ofSection (filterText : Option String) (part : LoggingSection) : Outcome Writer :=
  match filterOf filterText part with
  | .returned filter => .returned ⟨filter, part.format.getD .compact⟩
  | .panicked message => .panicked message

def write? (writer : Writer) (record : Record) : Option Written :=
  if writer.filter.admits record then some (record.write writer.format) else none

/-- What is written on account of entries in the order in which they were made, from a writer on
if there is one yet. -/
def writeAll (filterText : Option String) : Option Writer → List Entry → List Written
  | _, [] => []
  | none, .configured part :: rest =>
    match ofSection filterText part with
    | .returned writer => writeAll filterText (some writer) rest
    | .panicked _ => writeAll filterText none rest
  | some writer, .raised record :: rest =>
    (writer.write? record).toList ++ writeAll filterText (some writer) rest
  | writer, _ :: rest => writeAll filterText writer rest

variable {W : Type}

/-- Set up the writing of records, unless that was done before. -/
def setUp (filterText : Option String) (part : LoggingSection) : Crossing W Unit := do
  if (← Crossing.journal).isConfigured then Crossing.configure part
  else
    let _ ← Crossing.resume (ofSection filterText part)
    Crossing.configure part

def setUpAll (filterText : Option String) : List LoggingSection → Crossing W Unit
  | [] => pure ()
  | part :: rest => do
    setUp filterText part
    setUpAll filterText rest

/-- Without a filter in the environment no set-up panics. -/
theorem ofSection_none (part : LoggingSection) :
    ofSection none part =
      .returned ⟨.ofLevel (part.level.getD .info), part.format.getD .compact⟩ := rfl

end Writer

end NativeBoundary.Log

namespace NativeBoundary.Journal

/-- What is written on account of a journal. -/
def written (filterText : Option String) (journal : Journal) : List Log.Written :=
  Log.Writer.writeAll filterText none journal.reverse

end NativeBoundary.Journal
