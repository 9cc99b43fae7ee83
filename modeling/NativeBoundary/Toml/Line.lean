import NativeBoundary.Toml.Reader

/-!
# Blanks, comments and line ends

Blanks are spaces and tabs.  A line ends at a line feed, which a carriage return
may precede.  A comment runs to the end of its line and holds no control
characters but tabs.
-/

namespace NativeBoundary.Toml.Reader

def isBlank (char : Char) : Bool :=
  char == ' ' || char == '\t'

/-- A character that may stand anywhere in a comment or a text: a tab, or no control. -/
def isPlain (char : Char) : Bool :=
  char == '\t' || ('\x20' ≤ char && char != '\x7f')

def blanks : Reader Unit := do
  let _ ← span isBlank
  pure ()

def newline : Reader Unit
  | '\n' :: rest => some ((), rest)
  | '\r' :: '\n' :: rest => some ((), rest)
  | _ => none

def comment : Reader Unit := do
  char '#'
  let _ ← span isPlain
  pure ()

def lineEnd : Reader Unit :=
  either newline finish

/-- Take what may follow the content of a line. -/
def trailing : Reader Unit := do
  blanks
  let _ ← optional comment
  lineEnd

def gapPart : Reader Unit := do
  match ← next? with
  | some '#' =>
    comment
    newline
  | some ' ' | some '\t' => blanks
  | _ => newline

/-- Skip blanks, line ends and comments. -/
def gap (bound : Nat) : Reader Unit := do
  let _ ← repeated bound gapPart
  pure ()

end NativeBoundary.Toml.Reader
