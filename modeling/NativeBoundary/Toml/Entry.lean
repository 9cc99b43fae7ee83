import NativeBoundary.Toml.Draft
import NativeBoundary.Toml.Moment

/-!
# Values and entries

A value is read by its first character.  Arrays and tables in braces may be
nested up to a limit.  A table in braces stands on one line, except where its
values do not, and has no comma behind its last entry.
-/

namespace NativeBoundary.Toml.Reader

/-- Take a value that holds no others. -/
def scalar (bound : Nat) : Reader Value := do
  match ← next? with
  | some '"' | some '\'' => return .string (← text bound)
  | some 't' =>
    chars ['t', 'r', 'u', 'e']
    pure (.boolean true)
  | some 'f' =>
    chars ['f', 'a', 'l', 's', 'e']
    pure (.boolean false)
  | some 'i' | some 'n' => return .float (← namedFloat)
  | _ =>
    either
      (do
        moment
        pure .moment)
      (either (return .float (← float bound)) (return .integer (← integer bound)))

/-- Take the items of an array with the comma that may follow the last one. -/
def items (bound : Nat) (value : Reader Value) : Reader (List Value) := do
  let item := do
    gap bound
    let taken ← value
    gap bound
    pure taken
  let taken ← separated bound (char ',') item
  let _ ← optional (char ',')
  pure taken

def array (bound : Nat) (value : Reader Value) : Reader Value := do
  char '['
  let taken ← optional (items bound value)
  gap bound
  char ']'
  pure (.array (taken.getD []))

def assignment (bound : Nat) (value : Reader Value) : Reader Assignment := do
  let (path, name) ← key bound
  char '='
  blanks
  let taken ← value
  pure ⟨path, name, taken⟩

def braces (bound : Nat) (value : Reader Value) : Reader Value := do
  char '\x7b'
  let entry := do
    let taken ← assignment bound value
    blanks
    pure taken
  let entries ← optional (separated bound (char ',') entry)
  blanks
  char '\x7d'
  match Draft.applyAll [] (entries.getD []) with
  | some draft => pure (.table draft.finish)
  | none => refuse

/-- Take a value; arrays and tables in braces may be nested to a depth. -/
def valueWithin (bound : Nat) : Nat → Reader Value
  | 0 => scalar bound
  | depth + 1 => do
    match ← next? with
    | some '[' => array bound (valueWithin bound depth)
    | some '\x7b' => braces bound (valueWithin bound depth)
    | _ => scalar bound

def value (bound : Nat) : Reader Value :=
  valueWithin bound (depthLimit - 1)

end NativeBoundary.Toml.Reader
