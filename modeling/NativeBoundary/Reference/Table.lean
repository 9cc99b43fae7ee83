import NativeBoundary.Reference.Objects
import NativeBoundary.Reference.Surface
import NativeBoundary.Wire.SignClass

/-!
# The table of the reference library

The scalar, buffer and callback exports of the reference library, and its
complete table.
-/

namespace NativeBoundary.Reference

open NativeBoundary.Callback
open NativeBoundary.Wire
open NativeBoundary.Word

/-! ## Scalars and records -/

def classify (number : Single) : SignClass :=
  if number.isNegative then .negative
  else if number.isPositive then .positive
  else .neutral

/-- The length of a text up to its terminator; the null pointer has none. -/
def textLength (text : TextPointer) : UInt32 :=
  match text with
  | none => 0
  | some bytes => bytes.length.toUInt32

/-! ## Buffers -/

/-- The element at a signed index, or three not-a-numbers outside the buffer. -/
def elementAt (buffer : Descriptor Vector3) (index : Int32) : Vector3 :=
  let missing := Vector3.splat .notANumber
  if index < 0 then missing
  else (buffer.elements[index.toInt.toNat]?).getD missing

/-- The first elements of a buffer; no range reaches beyond its end. -/
def front? {α : Type} (elements : List α) (count : Nat) : Option (List α) :=
  if count ≤ elements.length then some (elements.take count) else none

/-- Overwrite the first elements of a target with those of a source, one for one. -/
def overwrite? {α : Type} (source target : List α) (count : Nat) : Option (List α) := do
  let old ← front? target count
  let new ← front? source count
  if new.length = old.length then some (new ++ target.drop count) else none

/-- Overwrite as much of a target as both of them have. -/
def copyFront? {α : Type} (source target : List α) : Option (List α) :=
  overwrite? source target (min source.length target.length)

/-- Copy a source into a target; a target whose ranges do not fit would stay as it is. -/
def copy (source target : Descriptor UInt8) : Descriptor UInt8 :=
  target.write ((copyFront? source.elements target.elements).getD target.elements)

/-- Add one to the first byte, if there is one. -/
def bumpFirst : List UInt8 → List UInt8
  | [] => []
  | first :: rest => (first + 1) :: rest

/-! ## Callbacks -/

/-- Replace bytes one after the other, the finished ones in reverse order. -/
def replaceBytes (finished : List UInt8) : List UInt8 → Foreign .byte (List UInt8)
  | [] => .finish finished.reverse
  | byte :: rest => .call byte fun reply => replaceBytes (reply :: finished) rest

/-- The bytes that the library hands to a callback itself. -/
def ownBytes : List UInt8 :=
  (List.range 10).map Nat.toUInt8

/-- How many vectors the library hands to a callback. -/
def ownVectorCount : Nat := 100000

/-- The vectors that the library hands to a callback itself. -/
def ownVectors : List Vector3 :=
  (List.range ownVectorCount).map fun index => ⟨.ofNat index, .zero, .zero⟩

def callbackExports : CallbackExports where
  callback given value := if given then .call value .finish else .finish value
  patternCallback1 given value := if given then .call value .finish else .finish value
  patternFfiSlice3 buffer given :=
    let bumped := buffer.write (bumpFirst buffer.elements)
    if given then .call bumped fun left => .finish (bumped.write left)
    else .finish bumped
  patternFfiSlice6 buffer given :=
    match buffer, given with
    | some buffer, true =>
      (replaceBytes [] buffer.elements).map fun bytes => some (buffer.write bytes)
    | buffer, _ => .finish buffer
  patternFfiSliceDelegate given :=
    if given then .call (.lent ownBytes) .finish else .finish 0
  patternFfiSliceDelegateHuge given :=
    if given then .call (.lent ownVectors) .finish else .finish .zero

/-! ## The table -/

/-- The table of the reference library. -/
def table : Exports Heap where
  toCallbackExports := callbackExports
  primitiveVoid := pure ()
  primitiveBool value := pure !value
  primitiveU8 value := pure (255 - value)
  primitiveU16 value := pure (65535 - value)
  primitiveU32 value := pure (4294967295 - value)
  primitiveU64 value := pure (18446744073709551615 - value)
  primitiveI8 value := pure (-value)
  primitiveI16 value := pure (-value)
  primitiveI32 value := pure (-value)
  primitiveI64 value := pure (-value)
  manyArgs5 first second third fourth fifth :=
    pure (first + second + third + fourth + fifth)
  refOption value := pure value.isSome
  refMutOption value := pure (value.isSome, value.map (- ·))
  tupled value := pure (value * 2)
  array1 bytes := pure bytes[0]
  documented number := pure (classify number).discriminant
  complexArgs1 _ given := pure (if given then .ok else .null)
  panics := pure .panicked
  sleep _ := pure ()
  patternAsciiPointer1 text := pure (textLength text)
  patternAsciiPointerLen first second := pure (textLength first + textLength second)
  patternFfiSlice1 buffer := pure buffer.elements.length.toUInt32
  patternFfiSlice2 buffer index := pure (elementAt buffer index)
  patternFfiSlice4 source target := pure (copy source target)
  patternFfiSlice5 source target :=
    match source, target with
    | some source, some target => pure (some (copy source target))
    | _, target => pure target
  patternFfiOption1 value := pure value
  patternFfiOption2 value := pure ((decodeOptional value).getD .notANumber)
  patternFfiBool flag := pure (encodeFlag !(isSet flag))
  patternApiGuard := pure declaredHash
  surfaceGuard := pure declaredHash
  simpleServiceNewWith := Service.newWith
  simpleServiceNewWithout := Service.newWithout
  simpleServiceNewFailing := Service.newFailing
  simpleServiceDestroy := Service.destroy
  simpleServiceMethodResult := Service.methodResult
  simpleServiceMethodValue := Service.methodValue
  simpleServiceMethodVoid := Service.methodVoid
  simpleServiceStats := Service.stats
  simpleServiceMethodMutSelf := Service.methodMutSelf
  simpleServiceMethodMutSelfVoid := Service.methodMutSelfVoid
  simpleServiceTrueFlags := Service.setFlags
  simpleServiceMethodMutSelfRef := Service.methodMutSelfRef
  simpleServiceMethodMutSelfRefSlice handle source target _ :=
    Service.methodMutSelfRef handle source target
  simpleServiceMethodMutSelfRefSliceLimited handle source target _ _ :=
    Service.methodMutSelfRef handle source target
  simpleServiceMethodMutSelfFfiError := Service.methodMutSelfFfiError
  simpleServiceMethodMutSelfNoError := Service.methodMutSelfNoError
  simpleServiceMethodVoidFfiError := Service.methodVoidFfiError
  simpleClassCreate := Instance.create
  simpleClassDestroy := Instance.destroy
  simpleClassResult := Instance.result
  simpleClassValue := Instance.echo
  simpleClassMutSelf := Instance.mutSelf
  simpleClassExtraMethod := Instance.extraMethod

end NativeBoundary.Reference
