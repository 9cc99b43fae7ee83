import NativeBoundary.Log.FieldPattern
import NativeBoundary.Log.Record
import NativeBoundary.Text.Piece

/-!
# Directives on records

A directive says from which severity on the records of a target are written.  It
is a level, or a target, or a target with a level behind an equals sign; brackets
before the equals sign narrow it to a span and to records with certain fields.
A directive without a level lets everything through.  Pieces of a directive are
found by positions, and one that would cut a character is a fault of its own.
-/

namespace NativeBoundary.Log

/-- The least severity that is written; `none` lets nothing through. -/
abbrev Threshold := Option Severity

namespace Threshold

def admits (threshold : Threshold) (severity : Severity) : Bool :=
  match threshold with
  | some least => least ≤ severity
  | none => false

/-- The threshold of a number from zero, which lets nothing through, to five. -/
def ofNumber? : Nat → Option Threshold
  | 0 => some none
  | 1 => some (some .error)
  | 2 => some (some .warn)
  | 3 => some (some .info)
  | 4 => some (some .debug)
  | 5 => some (some .trace)
  | _ => none

/-- The value of a text of decimal digits, before which a plus sign may stand. -/
def number? (text : String) : Option Nat :=
  let digits :=
    match text.toList with
    | '+' :: digits => digits
    | digits => digits
  if !digits.isEmpty && digits.all Char.isDigit then
    some (digits.foldl (fun value digit => 10 * value + (digit.toNat - 48)) 0)
  else none

/-- The threshold of a name in any case of its ASCII letters. -/
def ofName? (name : String) : Option Threshold :=
  let lower := String.ofList (name.toList.map Char.toLower)
  if lower == "off" then some none else (Severity.ofName? lower).map some

/-- Read a threshold, as a number or by its name. -/
def ofText? (text : String) : Option Threshold :=
  match (number? text).bind ofNumber? with
  | some threshold => some threshold
  | none => ofName? text

end Threshold

/-- Why a directive cannot be read. -/
inductive Misreading
  | malformed
  /-- A piece of it would begin or end inside a character. -/
  | cut (cut : Text.Cut)
deriving DecidableEq, Repr

/-- A directive on records. -/
structure Directive where
  threshold : Threshold := some .trace
  target : Option String := none
  span : Option String := none
  fields : List FieldPattern := []
deriving DecidableEq, Repr

namespace Directive

/-! ## Reading -/

/-- What is being read, and where it began. -/
inductive Progress
  | beginning
  | head (start : Nat)
  | span (start : Nat)
  | field (start : Nat)
  | fieldEnd
  | bracketEnd
  | level (start : Nat)
deriving DecidableEq, Repr

/-- A directive in the making. -/
structure Reading where
  directive : Directive := {}
  progress : Progress := .beginning

/-- The piece of a directive between two positions, which count bytes. -/
def piece (text : String) (start stop : Nat) : Except Misreading String :=
  (Text.piece text start stop).mapError .cut

/-- A part of a directive that is malformed if it is missing. -/
def needed {α : Type} : Option α → Except Misreading α
  | some part => .ok part
  | none => .error .malformed

/-- Whether a directive may begin with a character, unless it begins with a bracket. -/
def canBegin (char : Char) : Bool :=
  char == '-' || char == ':' || char == '_' || Text.isAlphanumeric char

/-- A directive that is nothing but a level or a target. -/
def ofHead (head : String) : Directive :=
  match Threshold.ofText? head with
  | some threshold => { threshold }
  | none => { target := some head }

/-- The threshold behind an equals sign; nothing at all lets everything through. -/
def levelOf? (text : String) : Option Threshold :=
  if text.isEmpty then some (some .trace) else Threshold.ofText? text

def readChar (text : String) (reading : Reading) (position : Nat) (char : Char) :
    Except Misreading Reading :=
  let directive := reading.directive
  match reading.progress with
  | .beginning =>
    if char = '[' then .ok { reading with progress := .span (position + 1) }
    else if canBegin char then .ok { reading with progress := .head position }
    else .error .malformed
  | .head start =>
    if char = '=' then do
      let target ← piece text start position
      pure ⟨{ directive with target := some target }, .level (position + 1)⟩
    else if char = '[' then do
      let target ← piece text start position
      pure ⟨{ directive with target := some target }, .span (position + 1)⟩
    else .ok reading
  | .span start =>
    if char = ']' then do
      let span ← piece text start position
      pure ⟨{ directive with span := some span }, .bracketEnd⟩
    else if char = '\x7b' then do
      let span ← piece text start position
      pure ⟨{ directive with span := if span.isEmpty then none else some span },
        .field (position + 1)⟩
    else .ok reading
  | .field start =>
    if char = '\x7d' then do
      let text ← piece text start position
      if text.isEmpty then .error .malformed
      else
        let field ← needed (FieldPattern.ofText? text)
        pure ⟨{ directive with fields := directive.fields ++ [field] }, .fieldEnd⟩
    else .ok reading
  | .fieldEnd =>
    if char = ']' then .ok { reading with progress := .bracketEnd } else .error .malformed
  | .bracketEnd =>
    if char = '=' then .ok { reading with progress := .level (position + 1) }
    else .error .malformed
  | .level _ => .ok reading

def readChars (text : String) : Reading → Nat → List Char → Except Misreading Reading
  | reading, _, [] => .ok reading
  | reading, position, char :: rest => do
    let after ← readChar text reading position char
    readChars text after (position + char.utf8Size) rest

/-- The directive that was read, if it may end where it does. -/
def finish (text : String) (reading : Reading) : Except Misreading Directive :=
  let length := text.utf8ByteSize
  match reading.progress with
  | .head start => (piece text start length).map ofHead
  | .level start => do
    let level ← piece text start length
    let threshold ← needed (levelOf? level)
    pure { reading.directive with threshold }
  | .bracketEnd => .ok reading.directive
  | _ => .error .malformed

/-- Read a directive.  Positions are found in the text without the blank characters at its ends
and used on the whole text. -/
def ofText (text : String) : Except Misreading Directive := do
  let reading ← readChars text {} 0 (Text.trimmed text)
  finish text reading

end Directive

end NativeBoundary.Log
