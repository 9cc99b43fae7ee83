/-!
# Records

What happens at the boundary is told in records.  A record has a severity, the
target that raised it, a message and named fields; the kind of a field decides
whether its text is quoted when it is written on a line.
-/

namespace NativeBoundary.Log

/-- How serious a record is, the least serious first. -/
inductive Severity
  | trace
  | debug
  | info
  | warn
  | error
deriving DecidableEq, Repr, Inhabited

namespace Severity

def rank : Severity → Nat
  | .trace => 0
  | .debug => 1
  | .info => 2
  | .warn => 3
  | .error => 4

/-- The name of a severity in settings and directives. -/
def name : Severity → String
  | .trace => "trace"
  | .debug => "debug"
  | .info => "info"
  | .warn => "warn"
  | .error => "error"

/-- The name of a severity in a written record. -/
def label : Severity → String
  | .trace => "TRACE"
  | .debug => "DEBUG"
  | .info => "INFO"
  | .warn => "WARN"
  | .error => "ERROR"

def all : List Severity := [.trace, .debug, .info, .warn, .error]

def ofName? (name : String) : Option Severity :=
  all.find? fun severity => severity.name == name

instance : Ord Severity where
  compare first second := compare first.rank second.rank

instance : LE Severity where
  le first second := first.rank ≤ second.rank

instance (first second : Severity) : Decidable (first ≤ second) :=
  inferInstanceAs (Decidable (first.rank ≤ second.rank))

def max (first second : Severity) : Severity :=
  if first ≤ second then second else first

def min (first second : Severity) : Severity :=
  if first ≤ second then first else second

@[simp]
theorem ofName?_name (severity : Severity) : ofName? severity.name = some severity := by
  cases severity <;> rfl

theorem le_iff_rank_le (first second : Severity) :
    first ≤ second ↔ first.rank ≤ second.rank := Iff.rfl

end Severity

/-- The value of a field. -/
inductive FieldValue
  /-- A text, which a line shows in quotes. -/
  | text (text : String)
  /-- A text that a line shows as it is. -/
  | shown (text : String)
  | number (value : Nat)
  /-- The address of an object, which nobody is meant to rely on. -/
  | address
deriving DecidableEq, Repr

/-- What was told about one event. -/
structure Record where
  severity : Severity
  target : String
  message : String
  fields : List (String × FieldValue)
deriving DecidableEq, Repr

/-- The parts of the boundary that raise records, and the names of their targets. -/
inductive Source
  | guard
  | handles
  | lending
  | loader
  | gateway
deriving DecidableEq, Repr

/-- The target under which a part raises its records. -/
def Source.target : Source → String
  | .guard => "ferrule_runtime::ffi::guard"
  | .handles => "ferrule_runtime::ffi::handle"
  | .lending => "ferrule_runtime::ffi::marshal"
  | .loader => "ferrule_runtime::ffi::loader"
  | .gateway => "ferrule_runtime::interop"

def Source.record (source : Source) (severity : Severity) (message : String)
    (fields : List (String × FieldValue)) : Record :=
  ⟨severity, source.target, message, fields⟩

end NativeBoundary.Log
