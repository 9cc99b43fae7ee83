import NativeBoundary.Gateway.Buffers
import NativeBoundary.Gateway.Objects
import NativeBoundary.Gateway.Scalars

/-!
# Calls and their answers as values

The calls of a gateway as data, so that a run can be written down as a list of
them, and one type for all their answers.
-/

namespace NativeBoundary

open NativeBoundary.Wire
open NativeBoundary.Word

/-- A call that involves no object. -/
inductive Call
  | primitiveVoid
  | primitiveBool (value : Bool)
  | primitiveU8 (value : UInt8)
  | primitiveU16 (value : UInt16)
  | primitiveU32 (value : UInt32)
  | primitiveU64 (value : UInt64)
  | primitiveI8 (value : Int8)
  | primitiveI16 (value : Int16)
  | primitiveI32 (value : Int32)
  | primitiveI64 (value : Int64)
  | manyArgs5 (first second third fourth fifth : Int64)
  | refOption (value : Option Int64)
  | refMutOption (value : Option Int64)
  | tupled (value : UInt8)
  | array1 (bytes : Vector UInt8 16)
  | documented (number : Single)
  | complexArgs1 (vector : Vector3) (given : Bool)
  | panics
  | sleep (seconds : UInt64) (nanoseconds : UInt32)
  | asciiPointer1 (text : String)
  | asciiPointerLen (first second : String)
  | ffiSlice1 (elements : List UInt32)
  | ffiSlice2 (elements : List Vector3) (index : Int32)
  | ffiSlice4 (source target : List UInt8)
  | ffiSlice5 (source target : List UInt8)
  | option1 (value : Option Single)
  | option2 (value : Option Single)
  | ffiBool (value : Bool)
  | apiGuard
  | summaries

/-- A call on a service. -/
inductive ServiceCall
  | methodResult (argument : UInt32)
  | methodValue (argument : UInt32)
  | methodVoid
  | stats
  | methodMutSelf (buffer : List UInt8)
  | methodMutSelfVoid (values : List Bool)
  | trueFlags
  | methodMutSelfRef (source target : UInt8)
  | methodMutSelfRefSlice (source target : UInt8) (buffer : List UInt8)
  | methodMutSelfRefSliceLimited (source target : UInt8) (first second : List UInt8)
  | methodMutSelfFfiError (buffer : List UInt8)
  | methodMutSelfNoError (buffer : List UInt8)
  | methodVoidFfiError
deriving DecidableEq, Repr

/-- A call on a plain instance. -/
inductive PlainCall
  | result (argument : UInt32)
  | value (argument : UInt32)
  | mutSelf (argument : UInt32)
  | extraMethod
deriving DecidableEq, Repr

/-- The answer of a call that succeeded. -/
inductive Answer
  | unit
  | flag (value : Bool)
  | number (value : Int)
  | wide (value : Int)
  | hash (value : UInt64)
  | sign (value : SignClass)
  | single (value : Single)
  | optionalSingle (value : Option Single)
  | vector (value : Vector3)
  | bytes (value : List UInt8)
  /-- Whether a value was seen, and the value afterwards. -/
  | seen (present : Bool) (left : Option Int64)
  /-- What was returned, and the written byte afterwards. -/
  | copied (returned left : UInt8)
  /-- How a call ended, and the lent buffer afterwards. -/
  | filled (result : CallResult Unit) (left : List UInt8)
  | texts (value : List String)

/-- Why a step has no answer. -/
inductive Fault
  | call (error : CallError)
  | panic (message : String)
  /-- No object of the right kind has the name. -/
  | noSuchObject
deriving DecidableEq, Repr

/-- The answer of a step, or why it has none. -/
abbrev Reported := Except Fault Answer

namespace Reported

def ofResult {α : Type} (result : CallResult α) (answer : α → Answer) : Reported :=
  match result with
  | .ok value => .ok (answer value)
  | .error error => .error (.call error)

end Reported

namespace Gateway

variable {W : Type} (gateway : Gateway W)

def perform : Call → Crossing W Reported
  | .primitiveVoid => do
    gateway.primitiveVoid
    pure (.ok .unit)
  | .primitiveBool value => return .ok (.flag (← gateway.primitiveBool value))
  | .primitiveU8 value => return .ok (.number (← gateway.primitiveU8 value).toNat)
  | .primitiveU16 value => return .ok (.number (← gateway.primitiveU16 value).toNat)
  | .primitiveU32 value => return .ok (.number (← gateway.primitiveU32 value).toNat)
  | .primitiveU64 value => return .ok (.wide (← gateway.primitiveU64 value).toNat)
  | .primitiveI8 value => return .ok (.number (← gateway.primitiveI8 value).toInt)
  | .primitiveI16 value => return .ok (.number (← gateway.primitiveI16 value).toInt)
  | .primitiveI32 value => return .ok (.number (← gateway.primitiveI32 value).toInt)
  | .primitiveI64 value => return .ok (.wide (← gateway.primitiveI64 value).toInt)
  | .manyArgs5 first second third fourth fifth =>
    return .ok (.wide (← gateway.manyArgs5 first second third fourth fifth).toInt)
  | .refOption value => return .ok (.flag (← gateway.refOption value))
  | .refMutOption value => do
    let (present, left) ← gateway.refMutOption value
    pure (.ok (.seen present left))
  | .tupled value => return .ok (.number (← gateway.tupled value).toNat)
  | .array1 bytes => return .ok (.number (← gateway.array1 bytes).toNat)
  | .documented number => return .ofResult (← gateway.documented number) .sign
  | .complexArgs1 vector given =>
    return .ofResult (← gateway.complexArgs1 vector given) fun _ => .unit
  | .panics => return .ofResult (← gateway.panics) fun _ => .unit
  | .sleep seconds nanoseconds =>
    match Span.ofParts? seconds nanoseconds with
    | some span => return .ok (.wide (← gateway.sleep span).toNat)
    | none => Crossing.panic Span.overflowMessage
  | .asciiPointer1 text =>
    return .ofResult (← gateway.asciiPointer1 text) fun length => .number length.toNat
  | .asciiPointerLen first second =>
    return .ofResult (← gateway.asciiPointerLen first second) fun length =>
      .number length.toNat
  | .ffiSlice1 elements => return .ok (.number (← gateway.ffiSlice1 elements).toNat)
  | .ffiSlice2 elements index => return .ok (.vector (← gateway.ffiSlice2 elements index))
  | .ffiSlice4 source target => return .ok (.bytes (← gateway.ffiSlice4 source target))
  | .ffiSlice5 source target => return .ok (.bytes (← gateway.ffiSlice5 source target))
  | .option1 value => return .ok (.optionalSingle (← gateway.option1 value))
  | .option2 value => return .ok (.single (← gateway.option2 value))
  | .ffiBool value => return .ok (.flag (← gateway.ffiBool value))
  | .apiGuard => return .ok (.hash (← gateway.apiGuard))
  | .summaries => pure (.ok (.texts [gateway.summary, gateway.tableSummary]))

def performService (owner : Owner) : ServiceCall → Crossing W Reported
  | .methodResult argument =>
    return .ofResult (← Service.methodResult gateway owner argument) fun _ => .unit
  | .methodValue argument =>
    return .ok (.number (← Service.methodValue gateway owner argument).toNat)
  | .methodVoid => do
    Service.methodVoid gateway owner
    pure (.ok .unit)
  | .stats => return .ok (.number (← Service.stats gateway owner).toNat)
  | .methodMutSelf buffer =>
    return .ok (.number (← Service.methodMutSelf gateway owner buffer).toNat)
  | .methodMutSelfVoid values => do
    Service.methodMutSelfVoid gateway owner values
    pure (.ok .unit)
  | .trueFlags => return .ok (.number (← Service.trueFlags gateway owner).toNat)
  | .methodMutSelfRef source target => do
    let (returned, left) ← Service.methodMutSelfRef gateway owner source target
    pure (.ok (.copied returned left))
  | .methodMutSelfRefSlice source target buffer => do
    let (returned, left) ← Service.methodMutSelfRefSlice gateway owner source target buffer
    pure (.ok (.copied returned left))
  | .methodMutSelfRefSliceLimited source target first second => do
    let (returned, left) ←
      Service.methodMutSelfRefSliceLimited gateway owner source target first second
    pure (.ok (.copied returned left))
  | .methodMutSelfFfiError buffer => do
    let (result, left) ← Service.methodMutSelfFfiError gateway owner buffer
    pure (.ok (.filled result left))
  | .methodMutSelfNoError buffer => do
    let (result, left) ← Service.methodMutSelfNoError gateway owner buffer
    pure (.ok (.filled result left))
  | .methodVoidFfiError =>
    return .ofResult (← Service.methodVoidFfiError gateway owner) fun _ => .unit

def performPlain (owner : Owner) : PlainCall → Crossing W Reported
  | .result argument =>
    return .ofResult (← Plain.result gateway owner argument) fun _ => .unit
  | .value argument => return .ok (.number (← Plain.value gateway owner argument).toNat)
  | .mutSelf argument => return .ok (.number (← Plain.mutSelf gateway owner argument).toNat)
  | .extraMethod => return .ok (.number (← Plain.extraMethod gateway owner).toNat)

end Gateway

end NativeBoundary
