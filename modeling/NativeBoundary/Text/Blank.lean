import NativeBoundary.Text.CodePointSet

/-!
# Blank characters

The characters that have the Unicode property White_Space.  A text is blank when
it holds no other characters, so that nothing is left of it once they are cut off.
-/

namespace NativeBoundary.Text

/-- The boundaries of the property White_Space. -/
def blankCharacters : CodePointSet := ⟨[
  0x9, 0xe, 0x20, 0x21, 0x85, 0x86, 0xa0, 0xa1, 0x1680, 0x1681, 0x2000, 0x200b, 0x2028, 0x202a,
  0x202f, 0x2030, 0x205f, 0x2060, 0x3000, 0x3001]⟩

def isBlank (char : Char) : Bool :=
  blankCharacters.contains char.toNat

/-- Whether a text holds nothing but blank characters. -/
def isBlankText (text : String) : Bool :=
  text.toList.all isBlank

def trimmed (text : String) : List Char :=
  ((text.toList.dropWhile isBlank).reverse.dropWhile isBlank).reverse

theorem isBlankText_iff (text : String) :
    isBlankText text = true ↔ ∀ char ∈ text.toList, isBlank char := by
  simp [isBlankText]

end NativeBoundary.Text
