import NativeBoundary.Log.Pattern.Basic
import NativeBoundary.Text.Blank
import NativeBoundary.Word.Hexadecimal

/-!
# Readers of patterns

A reader takes characters from the front of a pattern and gives a value, or
refuses the pattern.  In a spaced pattern blank characters and comments between
its parts are passed over; a comment lasts from a number sign to the end of the
line.
-/

namespace NativeBoundary.Log.Pattern

/-- What is still to be read, and how. -/
structure Source where
  chars : List Char
  isSpaced : Bool := false
  names : List String := []

abbrev Reader (α : Type) := StateT Source Option α

namespace Reader

def refuse {α : Type} : Reader α := fun _ => none

def ensure (condition : Bool) : Reader Unit :=
  if condition then pure () else refuse

/-- The characters that are still to be read; they stay where they are. -/
def peek : Reader (List Char) := fun source => some (source.chars, source)

def goTo (chars : List Char) : Reader Unit := fun source => some ((), { source with chars })

def next : Reader Char := do
  match ← peek with
  | [] => refuse
  | char :: rest =>
    goTo rest
    pure char

def char (expected : Char) : Reader Unit := do
  ensure ((← next) == expected)

def isSpaced : Reader Bool := fun source => some (source.isSpaced, source)

/-- Read a spaced pattern, or one that is not, from here on. -/
def setSpaced (isSpaced : Bool) : Reader Unit := fun source =>
  some ((), { source with isSpaced })

/-- Give a group a name that no other group has. -/
def claim (name : String) : Reader Unit := fun source =>
  if source.names.contains name then none
  else some ((), { source with names := name :: source.names })

/-- The characters behind blank ones and comments. -/
def behindSpace (inComment : Bool) : List Char → List Char
  | [] => []
  | char :: rest =>
    if inComment then behindSpace (char != '\n') rest
    else if Text.isBlank char then behindSpace false rest
    else if char == '#' then behindSpace true rest
    else char :: rest

def space : Reader Unit := do
  if ← isSpaced then goTo (behindSpace false (← peek))

/-! ## Escapes -/

/-- Take digits of a number in base 16; space may stand behind each of them. -/
def hexDigits (number : Nat) : Nat → Reader Nat
  | 0 => pure number
  | count + 1 => do
    match Word.Hexadecimal.digitValue? (← next) with
    | none => refuse
    | some digit =>
      space
      hexDigits (16 * number + digit) count

def numbered (count : Nat) : Reader Char := do
  space
  let number ← hexDigits 0 count
  ensure number.isValidChar
  pure (Char.ofNat number)

/-- Whether a character stands for itself behind a backslash. -/
def isEscapable (char : Char) : Bool :=
  char.toNat < 128 && !char.isAlphanum && char != '<' && char != '>'

/-- Take what stands behind a backslash. -/
def escape : Reader Atom := do
  match ← next with
  | 'x' => return .literal ⟨← numbered 2, true⟩
  | 'u' => return .literal ⟨← numbered 4, false⟩
  | 'U' => return .literal ⟨← numbered 8, false⟩
  | 'd' => pure (.kind .digit false)
  | 'D' => pure (.kind .digit true)
  | 's' => pure (.kind .space false)
  | 'S' => pure (.kind .space true)
  | 'w' => pure (.kind .word false)
  | 'W' => pure (.kind .word true)
  | 'a' => pure (.literal ⟨'\x07', false⟩)
  | 'f' => pure (.literal ⟨'\x0c', false⟩)
  | 't' => pure (.literal ⟨'\t', false⟩)
  | 'n' => pure (.literal ⟨'\n', false⟩)
  | 'r' => pure (.literal ⟨'\r', false⟩)
  | 'v' => pure (.literal ⟨'\x0b', false⟩)
  | 'A' | 'z' => pure .lineEdge
  | 'b' | 'B' | '<' | '>' => pure .wordEdge
  | char => if isEscapable char then pure (.literal ⟨char, false⟩) else refuse

end Reader

end NativeBoundary.Log.Pattern
