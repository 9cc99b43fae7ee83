import NativeBoundary.Toml.Value

/-!
# Tables in the making

A table is built entry by entry.  A table that only came up on the way to
another one may still be written out once, and a table that dotted keys opened
may only be extended by dotted keys.  Whatever would define a thing twice is
refused.
-/

namespace NativeBoundary.Toml

/-- Where a table of a document came from. -/
inductive Origin
  /-- It was written out: by a header, in braces, or as the document itself. -/
  | written
  /-- It came up on the way to a header. -/
  | implied
  /-- It came up inside a dotted key. -/
  | dotted
deriving DecidableEq, Repr

/-- What a draft holds under a key. -/
inductive Node where
  /-- A complete value; nothing can be put into it any more. -/
  | value (value : Value)
  | table (origin : Origin) (entries : List (String × Node))
  /-- The tables under one repeated header, all but the last one, and the last one. -/
  | tables (earlier : List (List (String × Node))) (last : List (String × Node))

/-- The entries of a table in the making. -/
abbrev Draft := List (String × Node)

namespace Draft

def get? (draft : Draft) (key : String) : Option Node :=
  (List.find? (fun entry => entry.1 == key) draft).map fun entry => entry.2

/-- Put a node under a key: in its place if the key is there, and at the end otherwise. -/
def put (draft : Draft) (key : String) (node : Node) : Draft :=
  if draft.any fun entry => entry.1 == key then
    draft.map fun entry => if entry.1 == key then (key, node) else entry
  else draft ++ [(key, node)]

def erase (draft : Draft) (key : String) : Draft :=
  List.filter (fun entry => entry.1 != key) draft

/-- Work on the table that a path leads to.  Missing tables come up on the way.  A value on the
way refuses the work; a repeated header leads to its last table; and a dotted key does not go
through a table that was written out. -/
def within (isDotted : Bool) (origin : Origin) (work : Origin → Draft → Option Draft) :
    List String → Draft → Option Draft
  | [], draft => work origin draft
  | key :: path, draft =>
    match draft.get? key with
    | none =>
      let origin := if isDotted then Origin.dotted else Origin.implied
      (within isDotted origin work path []).map fun entries =>
        draft.put key (.table origin entries)
    | some (.value _) => none
    | some (.tables earlier last) =>
      (within isDotted .written work path last).map fun entries =>
        draft.put key (.tables earlier entries)
    | some (.table origin entries) =>
      if isDotted ∧ origin = .written then none
      else
        (within isDotted origin work path entries).map fun entries =>
          draft.put key (.table origin entries)

/-- Put a complete value under a key that is free.  A key with dots ends in a table that dotted
keys opened, and a plain key in one that they did not open. -/
def assign (isDotted : Bool) (key : String) (value : Value) (origin : Origin)
    (draft : Draft) : Option Draft :=
  if isDotted != (origin == .dotted) then none
  else
    match draft.get? key with
    | some _ => none
    | none => some (draft.put key (.value value))

end Draft

/-- A key with its value; the key may be reached by a path of dotted keys. -/
structure Assignment where
  path : List String
  key : String
  value : Value

namespace Draft

def apply (draft : Draft) (assignment : Assignment) : Option Draft :=
  let isDotted := !assignment.path.isEmpty
  within true .written (assign isDotted assignment.key assignment.value)
    assignment.path draft

def applyAll (draft : Draft) (assignments : List Assignment) : Option Draft :=
  assignments.foldlM apply draft

/-- What stands under one header: a table, or one more table of a repeated header. -/
structure Section where
  isRepeated : Bool
  path : List String
  key : String
  body : List Assignment

/-- Put the table of a header into its parent.  A plain header takes over a table that only came
up on the way to another header and moves it to the end; anything else under its key refuses it. -/
def placeSection (header : Section) (parent : Draft) : Option Draft :=
  match header.isRepeated, parent.get? header.key with
  | true, none =>
    (applyAll [] header.body).map fun entries =>
      parent.put header.key (.tables [] entries)
  | true, some (.tables earlier last) =>
    (applyAll [] header.body).map fun entries =>
      parent.put header.key (.tables (earlier ++ [last]) entries)
  | false, none =>
    (applyAll [] header.body).map fun entries =>
      parent.put header.key (.table .written entries)
  | false, some (.table .implied entries) =>
    (applyAll entries header.body).map fun entries =>
      (parent.erase header.key).put header.key (.table .written entries)
  | _, _ => none

def addSection (draft : Draft) (header : Section) : Option Draft :=
  within false .written (fun _ => placeSection header) header.path draft

end Draft

/-! ## Finished trees -/

mutual

def Node.finish : Node → Value
  | .value value => value
  | .table _ entries => .table (finishEntries entries)
  | .tables earlier last => .tables (finishTables earlier ++ [.table (finishEntries last)])

def finishEntries : List (String × Node) → List (String × Value)
  | [] => []
  | (key, node) :: rest => (key, node.finish) :: finishEntries rest

def finishTables : List (List (String × Node)) → List Value
  | [] => []
  | entries :: rest => .table (finishEntries entries) :: finishTables rest

end

def Draft.finish (draft : Draft) : Entries :=
  finishEntries draft

end NativeBoundary.Toml
