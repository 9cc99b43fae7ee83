import NativeBoundary.Text.Extender
import NativeBoundary.Text.Unprintable

/-!
# Quoted texts

A text is quoted so that every character of it can be told: quotes, backslashes
and common controls are written behind a backslash, and characters that are not
seen by themselves by their number in braces: unprintable ones, the fillers that
stand for a missing letter, and those that extend the one before them, except the
two sound marks of half width, which take a place of their own.
-/

namespace NativeBoundary.Text

def escapedNumber (char : Char) : List Char :=
  ['\\', 'u', '\x7b'] ++ Nat.toDigits 16 char.toNat ++ ['\x7d']

/-- Whether a letter only fills the place of a missing one and leaves it empty. -/
def isFiller (char : Char) : Bool :=
  char == '\u115f' || char == '\u1160' || char == '\u3164' || char == '\uffa0'

/-- Whether a character extends the one before it but is seen by itself. -/
def isSoundMark (char : Char) : Bool :=
  char == '\uff9e' || char == '\uff9f'

/-- Whether a character is not seen by itself. -/
def isUnseen (char : Char) : Bool :=
  isUnprintable char || isFiller char || (isExtending char && !isSoundMark char)

def quotedChar (char : Char) : List Char :=
  if char = '\x00' then ['\\', '0']
  else if char = '\t' then ['\\', 't']
  else if char = '\r' then ['\\', 'r']
  else if char = '\n' then ['\\', 'n']
  else if char = '"' then ['\\', '"']
  else if char = '\\' then ['\\', '\\']
  else if isUnseen char then escapedNumber char
  else [char]

def quoted (text : String) : String :=
  String.ofList ('"' :: text.toList.flatMap quotedChar ++ ['"'])

end NativeBoundary.Text
