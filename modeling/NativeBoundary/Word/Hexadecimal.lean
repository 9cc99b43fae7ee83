/-!
# Hexadecimal text of words

A word is written as `0x` followed by lower-case digits, filled up with zeros
on the left to a fixed width.  Reading accepts any number of digits, in either
case, behind the same mark.
-/

namespace NativeBoundary.Word.Hexadecimal

/-- The lower-case digits of a number, at least one of them. -/
def digits (number : Nat) : List Char :=
  Nat.toDigits 16 number

/-- Fill digits up with zeros on the left until `width` of them are there. -/
def fill (width : Nat) (written : List Char) : List Char :=
  List.replicate (width - written.length) '0' ++ written

/-- The marked text of a number with at least `width` digits. -/
def render (width number : Nat) : String :=
  "0x" ++ String.ofList (fill width (digits number))

def digitValue? (char : Char) : Option Nat :=
  if '0' ≤ char ∧ char ≤ '9' then some (char.toNat - '0'.toNat)
  else if 'a' ≤ char ∧ char ≤ 'f' then some (char.toNat - 'a'.toNat + 10)
  else if 'A' ≤ char ∧ char ≤ 'F' then some (char.toNat - 'A'.toNat + 10)
  else none

/-- Continue a number with further digits; any other character refuses the text. -/
def readDigits? (number : Nat) : List Char → Option Nat
  | [] => some number
  | char :: rest =>
    (digitValue? char).bind fun digit => readDigits? (number * 16 + digit) rest

/-- Read a marked text with at least one digit. -/
def read? (text : String) : Option Nat :=
  match text.toList with
  | '0' :: 'x' :: first :: rest => readDigits? 0 (first :: rest)
  | _ => none

@[simp]
theorem length_fill (width : Nat) (written : List Char) :
    (fill width written).length = max width written.length := by
  simp [fill]
  omega

end NativeBoundary.Word.Hexadecimal
