import NativeBoundary.Toml.Line

/-!
# Texts and keys

A text stands in quotes, where a backslash begins an escape, or in apostrophes,
where nothing does.  Three marks on each side make a text of several lines: a
line end right behind the first marks is dropped, every other one counts as a
line feed, and up to two marks may stand right before the closing ones.
-/

namespace NativeBoundary.Toml.Reader

def hexValue? (char : Char) : Option Nat :=
  if '0' ≤ char && char ≤ '9' then some (char.toNat - '0'.toNat)
  else if 'a' ≤ char && char ≤ 'f' then some (char.toNat - 'a'.toNat + 10)
  else if 'A' ≤ char && char ≤ 'F' then some (char.toNat - 'A'.toNat + 10)
  else none

def isHex (char : Char) : Bool :=
  (hexValue? char).isSome

/-- The number that digits of a base make; characters that are no digits do not count. -/
def numberOf (base : Nat) (digits : List Char) : Nat :=
  digits.foldl
    (fun number char =>
      match hexValue? char with
      | some digit => number * base + digit
      | none => number)
    0

def numbered (count : Nat) : Reader Char := do
  let digits ← exactly isHex count
  let number := numberOf 16 digits
  ensure number.isValidChar
  pure (Char.ofNat number)

def escapeTail : Reader Char := do
  match ← one fun _ => true with
  | 'b' => pure '\x08'
  | 'f' => pure '\x0c'
  | 'n' => pure '\n'
  | 'r' => pure '\r'
  | 't' => pure '\t'
  | 'u' => numbered 4
  | 'U' => numbered 8
  | '\\' => pure '\\'
  | '"' => pure '"'
  | _ => refuse

/-- A character that stands for itself in quotes. -/
def isQuotable (char : Char) : Bool :=
  isPlain char && char != '"' && char != '\\'

/-- A character that stands for itself in apostrophes. -/
def isLiteral (char : Char) : Bool :=
  isPlain char && char != '\''

def quotedPart : Reader (List Char) := do
  match ← next? with
  | some '\\' =>
    char '\\'
    return [← escapeTail]
  | _ => span1 isQuotable

def quotedText (bound : Nat) : Reader (List Char) := do
  char '"'
  let parts ← repeated bound quotedPart
  char '"'
  pure parts.flatten

def literalText : Reader (List Char) := do
  char '\''
  let taken ← span isLiteral
  char '\''
  pure taken

/-- Take a backslash at the end of a line with the blanks and line ends behind it. -/
def continuation (bound : Nat) : Reader Unit := do
  char '\\'
  blanks
  newline
  let _ ← repeated bound do
    match ← next? with
    | some ' ' | some '\t' => blanks
    | _ => newline
  pure ()

def quotedBlockPart (bound : Nat) : Reader (List Char) := do
  match ← next? with
  | some '\\' =>
    either
      (do
        continuation bound
        pure [])
      (do
        char '\\'
        return [← escapeTail])
  | some '\n' | some '\r' =>
    newline
    pure ['\n']
  | _ => span1 isQuotable

def literalBlockPart : Reader (List Char) := do
  match ← next? with
  | some '\n' | some '\r' =>
    newline
    pure ['\n']
  | _ => span1 isLiteral

/-- Take the rest of a block behind its opening marks: parts with at most two marks between them,
then three to five marks, of which the last three close the block. -/
def blockRest (bound : Nat) (mark : Char) (part : Reader (List Char))
    (read : List (List Char)) : Reader (List Char) :=
  match bound with
  | 0 => refuse
  | bound + 1 => do
    let marks ← span (· == mark)
    if marks.length ≥ 3 then
      ensure (marks.length ≤ 5)
      pure ((marks.drop 3 :: read).reverse.flatten)
    else
      let content ← part
      blockRest bound mark part (content :: marks :: read)

def blockText (bound : Nat) (mark : Char) (part : Reader (List Char)) : Reader (List Char) := do
  chars [mark, mark, mark]
  let _ ← optional newline
  blockRest bound mark part []

def text (bound : Nat) : Reader String := do
  let taken ←
    either (blockText bound '"' (quotedBlockPart bound))
      (either (quotedText bound)
        (either (blockText bound '\'' literalBlockPart) literalText))
  pure (String.ofList taken)

/-- A character of a key without quotes. -/
def isBare (char : Char) : Bool :=
  ('A' ≤ char && char ≤ 'Z') || ('a' ≤ char && char ≤ 'z') || ('0' ≤ char && char ≤ '9') ||
    char == '_' || char == '-'

def simpleKey (bound : Nat) : Reader String := do
  match ← next? with
  | some '"' => return String.ofList (← quotedText bound)
  | some '\'' => return String.ofList (← literalText)
  | _ => return String.ofList (← span1 isBare)

/-- How many parts a key must stay below, and how deep values must stay nested below. -/
def depthLimit : Nat := 80

/-- Take a key: parts with dots between them and blanks around them. -/
def key (bound : Nat) : Reader (List String × String) := do
  let part := do
    blanks
    let taken ← simpleKey bound
    blanks
    pure taken
  let parts ← separated bound (char '.') part
  ensure (parts.length < depthLimit)
  pure (parts.dropLast, parts.getLastD "")

end NativeBoundary.Toml.Reader
