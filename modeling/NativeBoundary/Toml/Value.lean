import NativeBoundary.Decimal.Binary64

/-!
# Document trees

A document is a table whose entries keep the order in which they were written.
Moments in time are told apart from other values, but what they say is not kept.
-/

namespace NativeBoundary.Toml

open NativeBoundary.Decimal

/-- A value of a document. -/
inductive Value where
  | string (text : String)
  | integer (value : Int)
  | float (value : Binary64)
  | boolean (value : Bool)
  /-- A date, a time of day, or both. -/
  | moment
  | array (items : List Value)
  /-- The tables that were written under one repeated header. -/
  | tables (items : List Value)
  | table (entries : List (String × Value))

/-- The entries of a table in the order in which they were written. -/
abbrev Entries := List (String × Value)

namespace Value

def kindName : Value → String
  | .string _ => "string"
  | .integer _ => "integer"
  | .float _ => "float"
  | .boolean _ => "boolean"
  | .moment => "datetime"
  | .array _ => "array"
  | .tables _ => "array of tables"
  | .table _ => "table"

end Value

def Entries.get? (entries : Entries) (key : String) : Option Value :=
  (List.find? (fun entry => entry.1 == key) entries).map fun entry => entry.2

end NativeBoundary.Toml
