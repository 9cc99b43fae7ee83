import NativeBoundary.Text.Cased
import NativeBoundary.Text.Ignorable
import NativeBoundary.Text.Lowering

/-!
# Lower case of texts

A text is put into lower case character by character, with two exceptions: the
capital I with a dot becomes two characters, and the capital sigma becomes the
final form at the end of a word.
-/

namespace NativeBoundary.Text

/-- Whether the first character that case rules do not pass over is cased. -/
def reachesCased (chars : List Char) : Bool :=
  match chars.dropWhile isIgnorable with
  | [] => false
  | first :: _ => isCased first

def capitalSigma : Char := 'Σ'

/-- The lower case of a sigma between the characters before it, in reverse order, and those
after it. -/
def lowerSigma (before after : List Char) : Char :=
  if reachesCased before && !reachesCased after then 'ς' else 'σ'

/-- The lower case of a character other than the sigma. -/
def lowerChar (char : Char) : List Char :=
  if char = 'İ' then ['i', '\u0307'] else [Char.ofNat (lowerPoint char.toNat)]

/-- Put characters into lower case; those before them are given in reverse order. -/
def lowerFrom (before : List Char) : List Char → List Char
  | [] => []
  | char :: rest =>
    (if char = capitalSigma then [lowerSigma before rest] else lowerChar char) ++
      lowerFrom (char :: before) rest

def lowercase (text : String) : String :=
  String.ofList (lowerFrom [] text.toList)

end NativeBoundary.Text
