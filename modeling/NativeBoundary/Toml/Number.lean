import NativeBoundary.Toml.Text
import NativeBoundary.Toml.Value

/-!
# Numbers

Digits may be parted by single underscores.  A decimal integer has no leading
zeros, and an integer of any base must fit into 64 bits with a sign.  A float
has a fraction, an exponent or both; a finite one must not round to the positive
infinity.
-/

namespace NativeBoundary.Toml.Reader

open NativeBoundary.Decimal

def isDigit (char : Char) : Bool :=
  '0' ≤ char && char ≤ '9'

/-- Take one more digit, which an underscore may precede. -/
def furtherDigit (accepts : Char → Bool) : Reader Char :=
  either (one accepts) do
    char '_'
    one accepts

/-- Take digits of a class, without their underscores. -/
def digits (bound : Nat) (accepts : Char → Bool) : Reader (List Char) := do
  let first ← one accepts
  let rest ← repeated bound (furtherDigit accepts)
  pure (first :: rest)

def sign : Reader Bool := do
  match ← next? with
  | some '+' =>
    char '+'
    pure false
  | some '-' =>
    char '-'
    pure true
  | _ => pure false

/-- Take decimal digits without leading zeros. -/
def decimalDigits (bound : Nat) : Reader (List Char) := do
  match ← next? with
  | some '0' =>
    char '0'
    pure ['0']
  | _ => digits bound isDigit

/-- Accept an integer of 64 bits. -/
def inRange (value : Int) : Reader Int := do
  ensure (Int64.minValue.toInt ≤ value && value ≤ Int64.maxValue.toInt)
  pure value

def based (bound : Nat) (mark : Char) (base : Nat) (accepts : Char → Bool) : Reader Int := do
  char '0'
  char mark
  let taken ← digits bound accepts
  inRange (numberOf base taken)

def decimalInteger (bound : Nat) : Reader Int := do
  let isNegative ← sign
  let taken ← decimalDigits bound
  let number : Int := numberOf 10 taken
  inRange (if isNegative then -number else number)

def integer (bound : Nat) : Reader Int :=
  either (based bound 'x' 16 isHex)
    (either (based bound 'o' 8 fun char => '0' ≤ char && char ≤ '7')
      (either (based bound 'b' 2 fun char => char == '0' || char == '1')
        (decimalInteger bound)))

def fraction (bound : Nat) : Reader (List Char) := do
  char '.'
  digits bound isDigit

/-- Take an exponent: its mark, a sign and digits. -/
def exponent (bound : Nat) : Reader Int := do
  let _ ← one fun char => char == 'e' || char == 'E'
  let isNegative ← sign
  let number : Int := numberOf 10 (← digits bound isDigit)
  pure (if isNegative then -number else number)

def digitFloat (bound : Nat) : Reader Binary64 := do
  let isNegative ← sign
  let whole ← decimalDigits bound
  let places ← optional (fraction bound)
  let power ← optional (exponent bound)
  ensure (places.isSome || power.isSome)
  let behind := places.getD []
  let value :=
    Binary64.ofDecimal isNegative (numberOf 10 (whole ++ behind))
      (power.getD 0 - behind.length)
  ensure (value != .infinite false)
  pure value

/-- Take an infinity or a not-a-number by name. -/
def namedFloat : Reader Binary64 := do
  let isNegative ← sign
  either
    (do
      chars ['i', 'n', 'f']
      pure (.infinite isNegative))
    (do
      chars ['n', 'a', 'n']
      pure .notANumber)

def float (bound : Nat) : Reader Binary64 :=
  either (digitFloat bound) namedFloat

end NativeBoundary.Toml.Reader
