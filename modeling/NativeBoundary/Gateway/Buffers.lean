import NativeBoundary.Gateway.Basic
import NativeBoundary.Lending.Pins
import NativeBoundary.Lending.Strings

/-!
# Calls with texts, buffers and optional values

Buffers are pinned for the length of one call.  A text that cannot be handed
over fails the call before the library is reached.
-/

namespace NativeBoundary.Gateway

open NativeBoundary.Lending
open NativeBoundary.Wire
open NativeBoundary.Word

variable {W : Type} (gateway : Gateway W)

/-- The length of a text, as the library measures it. -/
def asciiPointer1 (text : String) : Crossing W (CallResult UInt32) :=
  match handOver text with
  | .error error => pure (.error error)
  | .ok bytes => do
    let length ←
      Crossing.native .patternAsciiPointer1 none
        (gateway.exports.patternAsciiPointer1 (some bytes))
    pure (.ok length)

/-- The length of two texts together; the first one is handed over first. -/
def asciiPointerLen (first second : String) : Crossing W (CallResult UInt32) :=
  match handOver first, handOver second with
  | .error error, _ => pure (.error error)
  | .ok _, .error error => pure (.error error)
  | .ok firstBytes, .ok secondBytes => do
    let length ←
      Crossing.native .patternAsciiPointerLen none
        (gateway.exports.patternAsciiPointerLen (some firstBytes) (some secondBytes))
    pure (.ok length)

def ffiSlice1 (elements : List UInt32) : Crossing W UInt32 :=
  pinned [elements.length]
    (Crossing.native .patternFfiSlice1 none
      (gateway.exports.patternFfiSlice1 (.lent elements)))

def ffiSlice2 (elements : List Vector3) (index : Int32) : Crossing W Vector3 :=
  pinned [elements.length]
    (Crossing.native .patternFfiSlice2 none
      (gateway.exports.patternFfiSlice2 (.lent elements) index))

/-- Copy a source into a target; the answer is the target afterwards. -/
def ffiSlice4 (source target : List UInt8) : Crossing W (List UInt8) :=
  pinned [source.length, target.length] do
    let left ←
      Crossing.native .patternFfiSlice4 none
        (gateway.exports.patternFfiSlice4 (.lent source) (.lent target))
    pure left.elements

def ffiSlice5 (source target : List UInt8) : Crossing W (List UInt8) :=
  pinned [source.length, target.length] do
    let left ←
      Crossing.native .patternFfiSlice5 none
        (gateway.exports.patternFfiSlice5 (some (.lent source)) (some (.lent target)))
    pure ((left.map Descriptor.elements).getD target)

def option1 (value : Option Single) : Crossing W (Option Single) := do
  let wire ←
    Crossing.native .patternFfiOption1 none
      (gateway.exports.patternFfiOption1 (Optional.encode value))
  pure wire.decode

def option2 (value : Option Single) : Crossing W Single :=
  Crossing.native .patternFfiOption2 none
    (gateway.exports.patternFfiOption2 (Optional.encode value))

def ffiBool (value : Bool) : Crossing W Bool := do
  let flag ←
    Crossing.native .patternFfiBool none (gateway.exports.patternFfiBool (Flag.encode value))
  pure flag.decode

def apiGuard : Crossing W UInt64 :=
  Crossing.native .patternApiGuard none gateway.exports.patternApiGuard

end NativeBoundary.Gateway
