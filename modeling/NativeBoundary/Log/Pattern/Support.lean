import NativeBoundary.Log.Pattern.Basic

/-!
# Supported patterns

Not every pattern can be used.  The matcher holds no tables of characters, so in
the ordinary mode it knows neither kinds of characters nor words nor letters that
differ in case alone.  Where characters are bytes it knows those of ASCII only,
and no set may hold any other character.
-/

namespace NativeBoundary.Log

/-- How the characters of a pattern are understood. -/
structure Mode where
  ignoresCase : Bool := false
  isUnicode : Bool := true
deriving DecidableEq, Repr

namespace Mode

def after (mode : Mode) (switches : List Switch) : Mode where
  ignoresCase := Flag.ignoresCase.after switches mode.ignoresCase
  isUnicode := Flag.isUnicode.after switches mode.isUnicode

@[simp]
theorem after_nil (mode : Mode) : mode.after [] = mode := rfl

end Mode

def Literal.isAscii (literal : Literal) : Bool :=
  literal.char.toNat < 128

/-- Whether a part of a pattern can be used in a mode. -/
def Atom.isSupported (mode : Mode) : Atom → Bool
  | .literal given =>
    if mode.isUnicode then !mode.ignoresCase else given.isAscii || !given.isByte
  | .any => mode.isUnicode
  | .lineEdge => true
  | .wordEdge => !mode.isUnicode
  | .kind _ isNegated => !mode.isUnicode && !isNegated

mutual

def CharSet.isSupported (mode : Mode) : CharSet → Bool
  | .empty => true
  | .literal given => if mode.isUnicode then !mode.ignoresCase else given.isAscii
  | .range first last =>
    if mode.isUnicode then !mode.ignoresCase else first.isAscii && last.isAscii
  | .named _ isNegated => if mode.isUnicode then !mode.ignoresCase else !isNegated
  | .kind _ isNegated => !mode.isUnicode && !isNegated
  | .bracketed isNegated set => (mode.isUnicode || !isNegated) && set.isSupported mode
  | .union parts => CharSet.areSupported mode parts
  | .combined _ left right => left.isSupported mode && right.isSupported mode

def CharSet.areSupported (mode : Mode) : List CharSet → Bool
  | [] => true
  | set :: rest => set.isSupported mode && CharSet.areSupported mode rest

end

mutual

/-- The mode behind a pattern, if the pattern can be used in the mode before it. -/
def Pattern.modeBehind? (mode : Mode) : Pattern → Option Mode
  | .empty => some mode
  | .atom part => if part.isSupported mode then some mode else none
  | .oneOf isNegated set =>
    if (CharSet.bracketed isNegated set).isSupported mode then some mode else none
  | .switched switches => some (mode.after switches)
  | .repeated body => body.modeBehind? mode
  | .group switches body => (body.modeBehind? (mode.after switches)).map fun _ => mode
  | .sequence parts => Pattern.modeBehindAll? mode parts
  | .choice options => Pattern.modeBehindAll? mode options

/-- The mode behind patterns of which each begins in the mode behind the one before it. -/
def Pattern.modeBehindAll? (mode : Mode) : List Pattern → Option Mode
  | [] => some mode
  | pattern :: rest =>
    match pattern.modeBehind? mode with
    | none => none
    | some mode => Pattern.modeBehindAll? mode rest

end

namespace Pattern

/-- How deep a pattern may be nested. -/
def depthLimit : Nat := 250

def isSupported (pattern : Pattern) : Bool :=
  pattern.depth ≤ depthLimit && (pattern.modeBehind? {}).isSome

end Pattern

end NativeBoundary.Log
