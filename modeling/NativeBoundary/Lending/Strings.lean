import NativeBoundary.Status
import NativeBoundary.Text.Bytes

/-!
# Texts for the library

The library takes texts as bytes up to a zero byte.  A text that holds a zero
byte itself cannot be handed over; the error names its place.
-/

namespace NativeBoundary.Lending

/-- The bytes of a text before the terminator, or where its first zero byte stands. -/
def terminated (text : String) : Except Nat (List UInt8) :=
  let bytes := Text.bytes text
  match Text.firstZero? bytes with
  | some position => .error position
  | none => .ok bytes

def handOver (text : String) : CallResult (List UInt8) :=
  match terminated text with
  | .ok bytes => .ok bytes
  | .error position => .error (.zeroByte position)

end NativeBoundary.Lending
