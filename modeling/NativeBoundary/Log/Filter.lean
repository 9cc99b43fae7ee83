import NativeBoundary.Log.Directive

/-!
# Filters

A filter holds rules, the most specific first, and the first rule that applies to
a record decides whether it is written.  A rule with a longer target is the more
specific one, and of two with equally long targets the one that asks for more
fields.  Directives that name a span or the value of a field apply to spans, of
which there are none, so they let no record through.
-/

namespace NativeBoundary.Log

/-- The part of a directive that applies to records. -/
structure Rule where
  threshold : Threshold
  target : Option String := none
  fields : List String := []
deriving DecidableEq, Repr

namespace Rule

/-- The names of the fields of a record; its message is one of them. -/
def fieldNames (record : Record) : List String :=
  "message" :: record.fields.map Prod.fst

/-- Whether a rule applies to a record: the target of the record begins with that of the rule,
and the record has the fields that the rule asks for. -/
def applies (rule : Rule) (record : Record) : Bool :=
  (match rule.target with
    | some target => target.toList.isPrefixOf record.target.toList
    | none => true) &&
  rule.fields.all (fieldNames record).contains

/-- The order of rules by how specific they are, and by their texts among equally specific ones. -/
def order (first second : Rule) : Ordering :=
  (compare (first.target.map String.utf8ByteSize) (second.target.map String.utf8ByteSize)).then <|
    (compare first.fields.length second.fields.length).then <|
      (compare first.target second.target).then (compare first.fields second.fields)

/-- The rule of a directive that names neither a span nor the value of a field. -/
def ofDirective? (directive : Directive) : Option Rule :=
  if directive.span.isNone ∧ directive.fields.all (·.value.isNone) then
    some ⟨directive.threshold, directive.target, directive.fields.map (·.name)⟩
  else none

end Rule

/-- Rules, the most specific first. -/
structure Filter where
  rules : List Rule
deriving DecidableEq, Repr

namespace Filter

/-- Put a rule in its place; it replaces one for the same target and fields. -/
def insertRule (rule : Rule) : List Rule → List Rule
  | [] => [rule]
  | other :: rest =>
    match rule.order other with
    | .gt => rule :: other :: rest
    | .eq => rule :: rest
    | .lt => other :: insertRule rule rest

/-- The filter of directives, later ones replacing earlier ones; without any directive only
errors are written. -/
def ofDirectives (directives : List Directive) : Filter :=
  if directives.isEmpty then ⟨[⟨some .error, none, []⟩]⟩
  else
    ⟨(directives.filterMap Rule.ofDirective?).foldl
      (fun rules rule => insertRule rule rules) []⟩

/-- The directives of a text, which stand between commas; empty ones are left out. -/
def pieces (text : String) : List String :=
  (text.splitToList (· == ',')).filter fun piece => !piece.isEmpty

/-- Read a filter.  The first directive that cannot be read spoils it. -/
def ofText (text : String) : Except Misreading Filter := do
  let directives ← (pieces text).mapM Directive.ofText
  pure (ofDirectives directives)

/-- Read a filter and leave out the directives that cannot be read. -/
def ofReadable (text : String) : Filter :=
  ofDirectives ((pieces text).filterMap fun piece => (Directive.ofText piece).toOption)

/-- The target whose records a configured level governs. -/
def ownTarget : String := "ferrule_runtime"

/-- The text for a configured level: it governs the records of this library, and of all others
warnings and errors are written. -/
def levelText (level : Severity) : String :=
  "warn," ++ ownTarget ++ "=" ++ level.name

/-- The filter of a configured level. -/
def ofLevel (level : Severity) : Filter :=
  ofReadable (levelText level)

/-- Whether a record is written: the first rule that applies to it decides. -/
def admits (filter : Filter) (record : Record) : Bool :=
  match filter.rules.find? (·.applies record) with
  | some rule => rule.threshold.admits record.severity
  | none => false

end Filter

end NativeBoundary.Log
