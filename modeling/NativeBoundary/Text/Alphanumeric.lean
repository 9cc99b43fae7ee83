import NativeBoundary.Text.Alphabetic
import NativeBoundary.Text.Numeric

/-!
# Letters and numbers

Names are made of letters, numbers and a few marks.
-/

namespace NativeBoundary.Text

def isAlphanumeric (char : Char) : Bool :=
  isAlphabetic char || isNumeric char

theorem isAlphanumeric_of_isAlphabetic {char : Char} (letter : isAlphabetic char = true) :
    isAlphanumeric char = true := by
  simp [isAlphanumeric, letter]

theorem isAlphanumeric_of_isNumeric {char : Char} (number : isNumeric char = true) :
    isAlphanumeric char = true := by
  simp [isAlphanumeric, number]

end NativeBoundary.Text
