/-!
# Readers

A reader takes characters from the front of a text and gives a value, or
refuses the text.  Loops are bounded by a number that the caller derives from
the length of the text.
-/

namespace NativeBoundary.Toml

abbrev Reader (α : Type) := StateT (List Char) Option α

namespace Reader

variable {α β : Type}

def refuse : Reader α := fun _ => none

/-- The next character, which stays where it is. -/
def next? : Reader (Option Char) := fun chars => some (chars.head?, chars)

def one (accepts : Char → Bool) : Reader Char
  | [] => none
  | char :: rest => if accepts char then some (char, rest) else none

def char (expected : Char) : Reader Unit
  | [] => none
  | char :: rest => if char = expected then some ((), rest) else none

def chars : List Char → Reader Unit
  | [] => pure ()
  | expected :: rest => do
    char expected
    chars rest

/-- Take all characters of a class that stand at the front. -/
def span (accepts : Char → Bool) : Reader (List Char) := fun chars =>
  some (chars.takeWhile accepts, chars.dropWhile accepts)

/-- Take at least one character of a class. -/
def span1 (accepts : Char → Bool) : Reader (List Char) := do
  let taken ← span accepts
  if taken.isEmpty then refuse else pure taken

def exactly (accepts : Char → Bool) : Nat → Reader (List Char)
  | 0 => pure []
  | count + 1 => do
    let first ← one accepts
    let rest ← exactly accepts count
    pure (first :: rest)

/-- Try a reader; nothing is taken where it refuses. -/
def optional (reader : Reader α) : Reader (Option α) := fun chars =>
  match reader chars with
  | some (value, rest) => some (some value, rest)
  | none => some (none, chars)

/-- Try a reader, and a second one where the first refuses. -/
def either (first second : Reader α) : Reader α := fun chars =>
  match first chars with
  | some result => some result
  | none => second chars

def ensure (test : Bool) : Reader Unit :=
  if test then pure () else refuse

/-- Read as often as the reader accepts, at most `bound` times; the values are given in reverse
order behind those that were read before. -/
def repeatedOnto (bound : Nat) (reader : Reader α) (read : List α) : Reader (List α) :=
  match bound with
  | 0 => pure read
  | bound + 1 => do
    match ← optional reader with
    | none => pure read
    | some value => repeatedOnto bound reader (value :: read)

/-- Read as often as the reader accepts, at most `bound` times. -/
def repeated (bound : Nat) (reader : Reader α) : Reader (List α) := do
  let read ← repeatedOnto bound reader []
  pure read.reverse

/-- Read one value and then more of them behind a separator each. -/
def separated (bound : Nat) (separator : Reader Unit) (reader : Reader α) :
    Reader (List α) := do
  let first ← reader
  let rest ← repeated bound do
    separator
    reader
  pure (first :: rest)

def finish : Reader Unit
  | [] => some ((), [])
  | _ :: _ => none

end Reader

end NativeBoundary.Toml
