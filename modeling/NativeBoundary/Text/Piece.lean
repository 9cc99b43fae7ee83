import NativeBoundary.Text.Quoted

/-!
# Pieces of a text

A piece of a text is what stands between two positions, which count bytes.  There
is no piece that begins or ends inside a character.
-/

namespace NativeBoundary.Text

/-- A position inside a character, where a piece was to begin or to end. -/
structure Cut where
  isStart : Bool
  position : Nat
  char : Char
  charStart : Nat
deriving DecidableEq, Repr

def Cut.message (cut : Cut) : String :=
  (if cut.isStart then "start" else "end") ++ " byte index " ++ toString cut.position ++
    " is not a char boundary; it is inside '" ++ String.ofList (quotedChar cut.char) ++
    "' (bytes " ++ toString cut.charStart ++ ".." ++
    toString (cut.charStart + cut.char.utf8Size) ++ " of string)"

/-- The character that a position lies inside of, and where it begins; the characters stand from
the position `reached` on. -/
def charAround? (position reached : Nat) : List Char → Option (Char × Nat)
  | [] => none
  | char :: rest =>
    if position ≤ reached then none
    else if position < reached + char.utf8Size then some (char, reached)
    else charAround? position (reached + char.utf8Size) rest

/-- The cut that a position makes, unless it lies between two characters. -/
def cut? (isStart : Bool) (text : String) (position : Nat) : Option Cut :=
  (charAround? position 0 text.toList).map fun (char, charStart) =>
    ⟨isStart, position, char, charStart⟩

/-- The characters between two positions; the characters stand from the position `reached` on. -/
def charsBetween (start stop reached : Nat) : List Char → List Char
  | [] => []
  | char :: rest =>
    let behind := charsBetween start stop (reached + char.utf8Size) rest
    if start ≤ reached ∧ reached < stop then char :: behind else behind

def piece (text : String) (start stop : Nat) : Except Cut String :=
  match cut? true text start, cut? false text stop with
  | some cut, _ => .error cut
  | none, some cut => .error cut
  | none, none => .ok (String.ofList (charsBetween start stop 0 text.toList))

end NativeBoundary.Text
