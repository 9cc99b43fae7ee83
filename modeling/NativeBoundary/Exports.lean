import NativeBoundary.Callback.Foreign
import NativeBoundary.Handle
import NativeBoundary.Status
import NativeBoundary.Wire.Presence

/-!
# The table of a library

A table holds one computation for each export.  Exports work on the private
state of their library.  A pointer that may be null is an optional argument, a
place that an export may write to is an argument and part of the answer, and an
export that takes a callback is told whether one was given.
-/

namespace NativeBoundary

open NativeBoundary.Callback
open NativeBoundary.Wire
open NativeBoundary.Word

/-- A pointer to bytes that end before the first zero byte; `none` is the null pointer. -/
abbrev TextPointer := Option (List UInt8)

/-- The exports that take a callback. -/
structure CallbackExports where
  /-- Hand one byte to the callback. -/
  callback : (given : Bool) → UInt8 → Foreign .byte UInt8
  /-- Hand one word to the callback. -/
  patternCallback1 : (given : Bool) → UInt32 → Foreign .word UInt32
  /-- Change a lent buffer and hand it to the callback. -/
  patternFfiSlice3 : Descriptor UInt8 → (given : Bool) → Foreign .sliceMut (Descriptor UInt8)
  /-- Replace the bytes of a lent buffer by way of the callback. -/
  patternFfiSlice6 :
    Option (Descriptor UInt8) → (given : Bool) → Foreign .byte (Option (Descriptor UInt8))
  /-- Hand bytes of the library to the callback. -/
  patternFfiSliceDelegate : (given : Bool) → Foreign .slice UInt8
  /-- Hand many vectors of the library to the callback. -/
  patternFfiSliceDelegateHuge : (given : Bool) → Foreign .vectors Vector3

/-- The exports of a library with the private state `W`. -/
structure Exports (W : Type) extends CallbackExports where
  primitiveVoid : StateM W Unit
  primitiveBool : Bool → StateM W Bool
  primitiveU8 : UInt8 → StateM W UInt8
  primitiveU16 : UInt16 → StateM W UInt16
  primitiveU32 : UInt32 → StateM W UInt32
  primitiveU64 : UInt64 → StateM W UInt64
  primitiveI8 : Int8 → StateM W Int8
  primitiveI16 : Int16 → StateM W Int16
  primitiveI32 : Int32 → StateM W Int32
  primitiveI64 : Int64 → StateM W Int64
  manyArgs5 : Int64 → Int64 → Int64 → Int64 → Int64 → StateM W Int64
  refOption : Option Int64 → StateM W Bool
  refMutOption : Option Int64 → StateM W (Bool × Option Int64)
  tupled : UInt8 → StateM W UInt8
  array1 : Vector UInt8 16 → StateM W UInt8
  documented : Single → StateM W UInt32
  complexArgs1 : Vector3 → (given : Bool) → StateM W Status
  panics : StateM W Status
  sleep : UInt64 → StateM W Unit
  patternAsciiPointer1 : TextPointer → StateM W UInt32
  patternAsciiPointerLen : TextPointer → TextPointer → StateM W UInt32
  patternFfiSlice1 : Descriptor UInt32 → StateM W UInt32
  patternFfiSlice2 : Descriptor Vector3 → Int32 → StateM W Vector3
  patternFfiSlice4 : Descriptor UInt8 → Descriptor UInt8 → StateM W (Descriptor UInt8)
  patternFfiSlice5 :
    Option (Descriptor UInt8) → Option (Descriptor UInt8) →
      StateM W (Option (Descriptor UInt8))
  patternFfiOption1 : Optional Single → StateM W (Optional Single)
  patternFfiOption2 : Optional Single → StateM W Single
  patternFfiBool : Flag → StateM W Flag
  patternApiGuard : StateM W UInt64
  surfaceGuard : StateM W UInt64
  simpleServiceNewWith : Slot → UInt32 → StateM W (Status × Slot)
  simpleServiceNewWithout : Slot → StateM W (Status × Slot)
  simpleServiceNewFailing : Slot → UInt8 → StateM W (Status × Slot)
  simpleServiceDestroy : Slot → StateM W (Status × Slot)
  simpleServiceMethodResult : Handle → UInt32 → StateM W Status
  simpleServiceMethodValue : Handle → UInt32 → StateM W UInt32
  simpleServiceMethodVoid : Handle → StateM W Unit
  simpleServiceStats : Handle → StateM W UInt32
  simpleServiceMethodMutSelf : Handle → Descriptor UInt8 → StateM W UInt8
  simpleServiceMethodMutSelfVoid : Handle → Descriptor Flag → StateM W Unit
  simpleServiceTrueFlags : Handle → StateM W UInt32
  simpleServiceMethodMutSelfRef :
    Handle → Option UInt8 → Option UInt8 → StateM W (UInt8 × Option UInt8)
  simpleServiceMethodMutSelfRefSlice :
    Handle → Option UInt8 → Option UInt8 → Descriptor UInt8 →
      StateM W (UInt8 × Option UInt8)
  simpleServiceMethodMutSelfRefSliceLimited :
    Handle → Option UInt8 → Option UInt8 → Descriptor UInt8 → Descriptor UInt8 →
      StateM W (UInt8 × Option UInt8)
  simpleServiceMethodMutSelfFfiError :
    Handle → Descriptor UInt8 → StateM W (Status × Descriptor UInt8)
  simpleServiceMethodMutSelfNoError :
    Handle → Descriptor UInt8 → StateM W (Status × Descriptor UInt8)
  simpleServiceMethodVoidFfiError : Handle → StateM W Status
  simpleClassCreate : Slot → StateM W (Status × Slot)
  simpleClassDestroy : Slot → StateM W (Status × Slot)
  simpleClassResult : Handle → UInt32 → StateM W Status
  simpleClassValue : Handle → UInt32 → StateM W UInt32
  simpleClassMutSelf : Handle → UInt32 → StateM W UInt32
  simpleClassExtraMethod : Handle → StateM W UInt32

end NativeBoundary
