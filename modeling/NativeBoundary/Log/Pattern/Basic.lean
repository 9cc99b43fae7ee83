/-!
# Patterns

A pattern describes texts: it is made of characters and of sets of characters, of
repetitions, groups, sequences and choices.  Switches change how the rest of a
group is read, or a single group.
-/

namespace NativeBoundary.Log

/-- A character that stands for itself. -/
structure Literal where
  char : Char
  /-- Whether it was given as a byte in two digits. -/
  isByte : Bool := false
deriving DecidableEq, Repr

/-- Kinds of characters that have a letter of their own. -/
inductive CharKind
  | digit
  | space
  | word
deriving DecidableEq, Repr

/-- The simplest parts of a pattern. -/
inductive Atom
  | literal (literal : Literal)
  | any
  /-- The begin or the end of a line or of the text. -/
  | lineEdge
  /-- The begin or the end of a word, or a place that is neither. -/
  | wordEdge
  /-- A character of a kind, or one that is not of it. -/
  | kind (kind : CharKind) (isNegated : Bool)
deriving DecidableEq, Repr

/-! ## Sets of characters -/

/-- Sets of characters that have a name. -/
inductive NamedSet
  | alnum
  | alpha
  | ascii
  | blank
  | cntrl
  | digit
  | graph
  | lower
  | print
  | punct
  | space
  | upper
  | word
  | xdigit
deriving DecidableEq, Repr

def NamedSet.ofName? : String → Option NamedSet
  | "alnum" => some .alnum
  | "alpha" => some .alpha
  | "ascii" => some .ascii
  | "blank" => some .blank
  | "cntrl" => some .cntrl
  | "digit" => some .digit
  | "graph" => some .graph
  | "lower" => some .lower
  | "print" => some .print
  | "punct" => some .punct
  | "space" => some .space
  | "upper" => some .upper
  | "word" => some .word
  | "xdigit" => some .xdigit
  | _ => none

/-- How two sets are combined. -/
inductive SetOperator
  | intersection
  | difference
  | symmetricDifference
deriving DecidableEq, Repr

/-- A set of characters. -/
inductive CharSet where
  | empty
  | literal (literal : Literal)
  | range (first last : Literal)
  | named (name : NamedSet) (isNegated : Bool)
  | kind (kind : CharKind) (isNegated : Bool)
  | bracketed (isNegated : Bool) (set : CharSet)
  | union (parts : List CharSet)
  | combined (operator : SetOperator) (left right : CharSet)

/-- The set of parts that stand side by side. -/
def CharSet.ofParts : List CharSet → CharSet
  | [] => .empty
  | [part] => part
  | parts => .union parts

/-! ## Switches -/

/-- What a switch governs. -/
inductive Flag
  | ignoresCase
  | isMultiline
  | dotMatchesLineFeed
  | swapsGreed
  | isUnicode
  | knowsReturns
  /-- Blank characters and comments do not count. -/
  | isSpaced
deriving DecidableEq, Repr

def Flag.ofLetter? : Char → Option Flag
  | 'i' => some .ignoresCase
  | 'm' => some .isMultiline
  | 's' => some .dotMatchesLineFeed
  | 'U' => some .swapsGreed
  | 'u' => some .isUnicode
  | 'R' => some .knowsReturns
  | 'x' => some .isSpaced
  | _ => none

/-- A flag that is turned on or off. -/
structure Switch where
  flag : Flag
  isOn : Bool
deriving DecidableEq, Repr

def Flag.after (flag : Flag) (switches : List Switch) (before : Bool) : Bool :=
  ((switches.find? (·.flag == flag)).map (·.isOn)).getD before

@[simp]
theorem Flag.after_nil (flag : Flag) (before : Bool) : flag.after [] before = before := rfl

/-! ## Whole patterns -/

/-- A pattern. -/
inductive Pattern where
  | empty
  | atom (atom : Atom)
  | oneOf (isNegated : Bool) (set : CharSet)
  | switched (switches : List Switch)
  | repeated (body : Pattern)
  | group (switches : List Switch) (body : Pattern)
  /-- At least two patterns one after the other. -/
  | sequence (parts : List Pattern)
  /-- At least two patterns of which one applies. -/
  | choice (options : List Pattern)

namespace Pattern

def ofParts : List Pattern → Pattern
  | [] => .empty
  | [part] => part
  | parts => .sequence parts

def ofOptions : List Pattern → Pattern
  | [] => .empty
  | [option] => option
  | options => .choice options

end Pattern

/-! ## Nesting -/

mutual

def CharSet.depth : CharSet → Nat
  | .bracketed _ set => set.depth + 1
  | .union parts => CharSet.depthOfAll parts + 1
  | .combined _ left right => max left.depth right.depth + 1
  | .empty | .literal _ | .range _ _ | .named _ _ | .kind _ _ => 0

def CharSet.depthOfAll : List CharSet → Nat
  | [] => 0
  | set :: rest => max set.depth (CharSet.depthOfAll rest)

end

mutual

def Pattern.depth : Pattern → Nat
  | .oneOf _ set => set.depth + 1
  | .repeated body => body.depth + 1
  | .group _ body => body.depth + 1
  | .sequence parts => Pattern.depthOfAll parts + 1
  | .choice options => Pattern.depthOfAll options + 1
  | .empty | .atom _ | .switched _ => 0

def Pattern.depthOfAll : List Pattern → Nat
  | [] => 0
  | pattern :: rest => max pattern.depth (Pattern.depthOfAll rest)

end

end NativeBoundary.Log
