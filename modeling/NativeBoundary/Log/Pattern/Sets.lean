import NativeBoundary.Log.Pattern.Reader

/-!
# Reading sets of characters

A set stands in brackets.  It lists characters, ranges of them, kinds, named sets
and sets in brackets of their own; a doubled sign between two lists combines what
stands before it with the list behind it.
-/

namespace NativeBoundary.Log.Pattern.Reader

/-- Take hyphens at the begin of a set, where they stand for themselves; they are given onto those
that were read before. -/
def hyphens : Nat → List CharSet → Reader (List CharSet)
  | 0, read => pure read
  | bound + 1, read => do
    match ← peek with
    | '-' :: rest =>
      goTo rest
      space
      hyphens bound (.literal ⟨'-', false⟩ :: read)
    | _ => pure read

/-- Take the begin of a set behind its bracket: whether it is negated, and the members that stand
for themselves only here. -/
def setBegin : Reader (Bool × List CharSet) := do
  space
  let isNegated := (← peek).head? == some '^'
  if isNegated then
    char '^'
    space
  let read ← hyphens (← peek).length []
  match read, ← peek with
  | [], ']' :: rest =>
    goTo rest
    space
    pure (isNegated, [.literal ⟨']', false⟩])
  | _, _ => pure (isNegated, read)

def named? : List Char → Option (CharSet × List Char)
  | ':' :: inside => do
    let isNegated := inside.head? == some '^'
    let inside := if isNegated then inside.drop 1 else inside
    let name ← NamedSet.ofName? (String.ofList (inside.takeWhile (· != ':')))
    match inside.dropWhile (· != ':') with
    | ':' :: ']' :: rest => some (.named name isNegated, rest)
    | _ => none
  | _ => none

def setAtom : Reader Atom := do
  match ← next with
  | '\\' => escape
  | char => pure (.literal ⟨char, false⟩)

def single : Atom → Reader CharSet
  | .literal literal => pure (.literal literal)
  | .kind kind isNegated => pure (.kind kind isNegated)
  | .any | .lineEdge | .wordEdge => refuse

/-- The character that decides whether a hyphen makes a range: the next one, in a spaced pattern
the first that is neither blank nor the sign of a comment. -/
def decisive? (isSpaced : Bool) (behind : List Char) : Option Char :=
  if isSpaced then
    match behind.dropWhile Text.isBlank with
    | '#' :: comment => (comment.dropWhile Text.isBlank).head?
    | rest => rest.head?
  else behind.head?

/-- Take a member of a set: a range, or a single one. -/
def member : Reader CharSet := do
  let first ← setAtom
  space
  match ← peek with
  | [] => refuse
  | '-' :: behind =>
    let decisive := decisive? (← isSpaced) behind
    if decisive == some ']' || decisive == some '-' then single first
    else
      goTo behind
      space
      match first, ← setAtom with
      | .literal first, .literal last =>
        ensure (first.char ≤ last.char)
        pure (.range first last)
      | _, _ => refuse
  | _ :: _ => single first

/-- A list of members, in reverse order, combined with what stands before it. -/
def combine (before : Option (CharSet × SetOperator)) (read : List CharSet) : CharSet :=
  let list := CharSet.ofParts read.reverse
  match before with
  | none => list
  | some (left, operator) => .combined operator left list

/-- Take the members of a set and its closing bracket.  Every step takes a character at least, so
the bound is the number of characters and one more. -/
def members : Nat → Option (CharSet × SetOperator) → List CharSet → Reader CharSet
  | 0, _, _ => refuse
  | bound + 1, before, read => do
    space
    match ← peek with
    | ']' :: rest =>
      goTo rest
      pure (combine before read)
    | '&' :: '&' :: rest =>
      goTo rest
      members bound (some (combine before read, .intersection)) []
    | '-' :: '-' :: rest =>
      goTo rest
      members bound (some (combine before read, .difference)) []
    | '~' :: '~' :: rest =>
      goTo rest
      members bound (some (combine before read, .symmetricDifference)) []
    | '[' :: rest =>
      match named? rest with
      | some (set, rest) =>
        goTo rest
        members bound before (set :: read)
      | none =>
        goTo rest
        let (isNegated, first) ← setBegin
        let inner ← members bound none first
        members bound before (.bracketed isNegated inner :: read)
    | _ =>
      let taken ← member
      members bound before (taken :: read)

def bracketedSet : Reader Pattern := do
  let (isNegated, first) ← setBegin
  let inner ← members ((← peek).length + 1) none first
  pure (.oneOf isNegated inner)

end NativeBoundary.Log.Pattern.Reader
