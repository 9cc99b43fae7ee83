import NativeBoundary.Toml.Entry

/-!
# Documents

A document is a list of lines: blank ones, comments, headers and assignments.  A
header in single brackets opens a table and one in double brackets one more
table of a list; the assignments up to the next header belong to it.
-/

namespace NativeBoundary.Toml

/-- A line of a document. -/
inductive Line
  | empty
  | header (isRepeated : Bool) (path : List String) (key : String)
  | assignment (assignment : Assignment)

namespace Reader

def header (bound : Nat) : Reader Line := do
  char '['
  let isRepeated := (← optional (char '[')).isSome
  let (path, name) ← key bound
  char ']'
  if isRepeated then char ']' else pure ()
  trailing
  pure (.header isRepeated path name)

def line (bound : Nat) : Reader Line := do
  match ← next? with
  | none => refuse
  | some '#' =>
    comment
    lineEnd
    pure .empty
  | some '[' => header bound
  | some '\n' | some '\r' =>
    newline
    pure .empty
  | some _ =>
    let taken ← assignment bound (value bound)
    trailing
    pure (.assignment taken)

def lines (bound : Nat) : Reader (List Line) := do
  blanks
  let taken ← repeated bound do
    let taken ← line bound
    blanks
    pure taken
  finish
  pure taken

end Reader

/-- The assignments before the first header, and the headers with their bodies, each list in
reverse order. -/
structure Outline where
  root : List Assignment := []
  sections : List Draft.Section := []

namespace Outline

def add (outline : Outline) : Line → Outline
  | .empty => outline
  | .header isRepeated path key =>
    { outline with sections := ⟨isRepeated, path, key, []⟩ :: outline.sections }
  | .assignment assignment =>
    match outline.sections with
    | [] => { outline with root := assignment :: outline.root }
    | last :: earlier =>
      { outline with
        sections := { last with body := assignment :: last.body } :: earlier }

/-- The document that an outline describes, unless it defines a thing twice. -/
def build? (outline : Outline) : Option Entries := do
  let root ← Draft.applyAll [] outline.root.reverse
  let draft ← outline.sections.reverse.foldlM
    (fun draft header => Draft.addSection draft { header with body := header.body.reverse })
    root
  pure draft.finish

end Outline

/-- The mark that may stand at the front of a text to tell the order of its bytes. -/
def byteOrderMark : Char := '\ufeff'

/-- The characters of a document without the mark at their front. -/
def withoutMark : List Char → List Char
  | [] => []
  | first :: rest => if first = byteOrderMark then rest else first :: rest

def read? (text : String) : Option Entries :=
  let chars := withoutMark text.toList
  match Reader.lines (chars.length + 1) chars with
  | some (lines, _) => (lines.foldl Outline.add {}).build?
  | none => none

end NativeBoundary.Toml
