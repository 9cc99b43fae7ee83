import NativeBoundary.Log.Pattern.Reading
import NativeBoundary.Log.Pattern.Support

/-!
# Patterns of fields

A directive may ask for a field by its name, and behind an equals sign for its
value: a number, or a pattern for the text of the value.
-/

namespace NativeBoundary.Log

/-! ## Numbers -/

/-- The characters behind a sign, if there is one. -/
def unsigned : List Char → List Char
  | '+' :: rest | '-' :: rest => rest
  | chars => chars

/-- Whether characters are nothing, or the exponent of a number. -/
def isExponent : List Char → Bool
  | [] => true
  | mark :: rest =>
    let digits := unsigned rest
    (mark == 'e' || mark == 'E') && !digits.isEmpty && digits.all Char.isDigit

/-- Whether characters are a number in digits, with or without a point and an exponent. -/
def isDecimal (chars : List Char) : Bool :=
  let whole := chars.takeWhile Char.isDigit
  match chars.dropWhile Char.isDigit with
  | '.' :: behind =>
    !(whole ++ behind.takeWhile Char.isDigit).isEmpty &&
      isExponent (behind.dropWhile Char.isDigit)
  | behind => !whole.isEmpty && isExponent behind

/-- Whether characters are the name of a number that has no digits, in any case. -/
def isNumberName (chars : List Char) : Bool :=
  let name := String.ofList (chars.map Char.toLower)
  name == "inf" || name == "infinity" || name == "nan"

def isNumber (text : String) : Bool :=
  let chars := unsigned text.toList
  isDecimal chars || isNumberName chars

/-! ## Fields -/

/-- A field that a directive asks for, and perhaps its value. -/
structure FieldPattern where
  name : String
  value : Option String
deriving DecidableEq, Repr

namespace FieldPattern

/-- Whether a text can be asked for as the value of a field. -/
def isValue (text : String) : Bool :=
  isNumber text || ((Pattern.ofText? text).map Pattern.isSupported).getD false

/-- Read a field: its name, and behind an equals sign its value.  What follows a second equals
sign does not count. -/
def ofText? (text : String) : Option FieldPattern :=
  match text.splitToList (· == '=') with
  | name :: value :: _ => if isValue value then some ⟨name, some value⟩ else none
  | _ => some ⟨text, none⟩

end FieldPattern

end NativeBoundary.Log
