import NativeBoundary.Log.Pattern.Sets
import NativeBoundary.Text.Alphanumeric

/-!
# Reading patterns

A pattern is read from left to right.  A mark of repetition repeats the part
before it, a bar parts options, and parentheses make a group or hold switches.
Braces, and groups that look ahead or behind, are refused.
-/

namespace NativeBoundary.Log.Pattern.Reader

/-! ## The begin of a group -/

/-- Switches behind a question mark, whether a group follows them, and what follows their end.
At most one hyphen turns the flags behind it off, and none comes up twice. -/
def switches? (isOn isDangling : Bool) (read : List Switch) :
    List Char → Option (List Switch × Bool × List Char)
  | [] => none
  | char :: rest =>
    if char = ':' ∨ char = ')' then
      if isDangling then none else some (read.reverse, char == ':', rest)
    else if char = '-' then
      if isOn then switches? false true read rest else none
    else do
      let flag ← Flag.ofLetter? char
      if read.any (·.flag == flag) then none
      else switches? isOn false (⟨flag, isOn⟩ :: read) rest

/-- Whether a text may be the name of a group. -/
def isGroupName : List Char → Bool
  | [] => false
  | first :: rest =>
    (first == '_' || Text.isAlphabetic first) &&
      rest.all fun char =>
        char == '_' || char == '.' || char == '[' || char == ']' || Text.isAlphanumeric char

def groupName : Reader Unit := do
  let chars ← peek
  let name := chars.takeWhile (· != '>')
  ensure (isGroupName name)
  claim (String.ofList name)
  goTo (chars.drop name.length)
  char '>'

/-- What a parenthesis begins. -/
inductive Opening
  | group (switches : List Switch)
  /-- Switches alone, which need no closing parenthesis any more. -/
  | switches (switches : List Switch)

/-- Take what stands behind a parenthesis before the body of the group. -/
def opening : Reader Opening := do
  space
  match ← peek with
  | '?' :: '=' :: _ | '?' :: '!' :: _ | '?' :: '<' :: '=' :: _ | '?' :: '<' :: '!' :: _ => refuse
  | '?' :: 'P' :: '<' :: rest | '?' :: '<' :: rest =>
    goTo rest
    groupName
    pure (.group [])
  | '?' :: rest =>
    match switches? true false [] rest with
    | none => refuse
    | some (switches, true, rest) =>
      goTo rest
      pure (.group switches)
    | some (switches, false, rest) =>
      ensure !switches.isEmpty
      goTo rest
      pure (.switches switches)
  | _ => pure (.group [])

/-! ## Whole patterns -/

/-- The last part repeated; there must be one, and it must not be switches. -/
def repeatLast? : List Pattern → Option (List Pattern)
  | [] | .switched _ :: _ => none
  | last :: before => some (.repeated last :: before)

/-- Options that were read, the last one in parts, each list in reverse order. -/
def finished (options parts : List Pattern) : Pattern :=
  .ofOptions (.ofParts parts.reverse :: options).reverse

/-- Take a pattern up to the parenthesis that closes its group, or to the end.  Every step takes a
character at least, so the bound is the number of characters and one more. -/
def body : Nat → List Pattern → List Pattern → Reader Pattern
  | 0, _, _ => refuse
  | bound + 1, options, parts => do
    space
    match ← peek with
    | [] | ')' :: _ => pure (finished options parts)
    | '|' :: rest =>
      goTo rest
      body bound (.ofParts parts.reverse :: options) []
    | '(' :: rest =>
      goTo rest
      match ← opening with
      | .switches switches =>
        setSpaced (Flag.isSpaced.after switches (← isSpaced))
        body bound options (.switched switches :: parts)
      | .group switches =>
        let outer ← isSpaced
        setSpaced (Flag.isSpaced.after switches outer)
        let inner ← body bound [] []
        char ')'
        setSpaced outer
        body bound options (.group switches inner :: parts)
    | '[' :: rest =>
      goTo rest
      let taken ← bracketedSet
      body bound options (taken :: parts)
    | '*' :: rest | '+' :: rest | '?' :: rest =>
      match repeatLast? parts with
      | none => refuse
      | some parts =>
        goTo (if rest.head? == some '?' then rest.drop 1 else rest)
        body bound options parts
    | '\x7b' :: _ => refuse
    | '\\' :: rest =>
      goTo rest
      let taken ← escape
      body bound options (.atom taken :: parts)
    | '.' :: rest =>
      goTo rest
      body bound options (.atom .any :: parts)
    | '^' :: rest | '$' :: rest =>
      goTo rest
      body bound options (.atom .lineEdge :: parts)
    | char :: rest =>
      goTo rest
      body bound options (.atom (.literal ⟨char, false⟩) :: parts)

def whole : Reader Pattern := do
  let pattern ← body ((← peek).length + 1) [] []
  ensure (← peek).isEmpty
  pure pattern

end NativeBoundary.Log.Pattern.Reader

namespace NativeBoundary.Log.Pattern

def ofText? (text : String) : Option Pattern :=
  (Reader.whole.run ⟨text.toList, false, []⟩).map Prod.fst

theorem ofText?_empty : ofText? "" = some .empty := rfl

end NativeBoundary.Log.Pattern
