import NativeBoundary.Gateway.Call

/-!
# Direct calls

The exports of a table can be called without a gateway: on descriptors,
pointers that may be null, and handles that are held in named slots.  Every
slot is null at first.  A method without a slot, or on an empty one, is given
the null handle.
-/

namespace NativeBoundary.Direct

open NativeBoundary.Callback
open NativeBoundary.Wire
open NativeBoundary.Word

abbrev Slots := String → Handle

def Slots.empty : Slots := fun _ => .null

def Slots.set (slots : Slots) (name : String) (handle : Handle) : Slots :=
  fun other => if other = name then handle else slots other

/-- The pointer to a slot; no name is the null pointer. -/
def Slots.pointer (slots : Slots) (name : Option String) : Slot :=
  name.map slots

def Slots.handle (slots : Slots) (name : Option String) : Handle :=
  (slots.pointer name).getD .null

/-- The slots after an export wrote to one of them. -/
def Slots.written (slots : Slots) (name : Option String) (slot : Slot) : Slots :=
  match name, slot with
  | some name, some handle => slots.set name handle
  | _, _ => slots

/-- A direct call of a method of a service. -/
inductive ServiceCall
  | methodResult (argument : UInt32)
  | methodValue (argument : UInt32)
  | methodVoid
  | stats
  | methodMutSelf (buffer : Descriptor UInt8)
  | methodMutSelfVoid (flags : Descriptor Flag)
  | trueFlags
  | methodMutSelfRef (source target : Option UInt8)
  | methodMutSelfRefSlice (source target : Option UInt8) (buffer : Descriptor UInt8)
  | methodMutSelfRefSliceLimited (source target : Option UInt8)
      (first second : Descriptor UInt8)
  | methodMutSelfFfiError (buffer : Descriptor UInt8)
  | methodMutSelfNoError (buffer : Descriptor UInt8)
  | methodVoidFfiError

/-- A direct call that involves no object. -/
inductive FreeCall
  | primitiveVoid
  | primitiveBool (value : Bool)
  | primitiveU8 (value : UInt8)
  | primitiveU16 (value : UInt16)
  | primitiveU32 (value : UInt32)
  | primitiveU64 (value : UInt64)
  | primitiveI8 (value : Int8)
  | primitiveI16 (value : Int16)
  | primitiveI32 (value : Int32)
  | primitiveI64 (value : Int64)
  | manyArgs5 (first second third fourth fifth : Int64)
  | sleep (milliseconds : UInt64)
  | tupled (value : UInt8)
  | array1 (bytes : Vector UInt8 16)
  | documented (number : Single)
  | refOption (value : Option Int64)
  | refMutOption (value : Option Int64)
  | complexArgs1 (vector : Vector3) (given : Bool)
  | panics
  | callback (closure : Option (UInt8 → UInt8)) (value : UInt8)
  | patternCallback1 (closure : Option (UInt32 → UInt32)) (value : UInt32)
  | asciiPointer1 (text : TextPointer)
  | asciiPointerLen (first second : TextPointer)
  | slice1 (buffer : Descriptor UInt32)
  | slice2 (buffer : Descriptor Vector3) (index : Int32)
  | slice3 (buffer : Descriptor UInt8) (closure : Option (List UInt8 → List UInt8))
  | slice4 (source target : Descriptor UInt8)
  /-- Both descriptors go by reference, and either reference may be null. -/
  | slice5 (source target : Descriptor UInt8) (sourceGiven targetGiven : Bool)
  /-- The descriptor goes by reference, which may be null. -/
  | slice6 (buffer : Descriptor UInt8) (bufferGiven : Bool)
      (closure : Option (UInt8 → UInt8))
  | delegate (closure : Option (List UInt8 → UInt8))
  | delegateHuge (closure : Option (List Vector3 → Vector3))
  | option1 (value : Optional Single)
  | option2 (value : Optional Single)
  | flag (value : Flag)
  | patternApiGuard
  | surfaceGuard

/-- A step of a run of direct calls. -/
inductive Step
  | create (slot : Option String) (factory : Factory)
  | destroy (slot : Option String) (kind : ObjectKind)
  | service (slot : Option String) (call : ServiceCall)
  | plain (slot : Option String) (call : PlainCall)
  | free (call : FreeCall)

/-- The answer of a direct call. -/
inductive Answer
  | nothing
  | flag (value : Bool)
  | number (value : Int)
  | single (value : Single)
  | vector (value : Vector3)
  | hash (value : UInt64)
  | status (value : Status)
  /-- A status, and whether the slot holds a handle afterwards. -/
  | slotStatus (value : Status) (isHeld : Option Bool)
  /-- Whether a value was seen, and the value afterwards. -/
  | seen (present : Bool) (left : Option Int64)
  | buffer (left : List UInt8)
  /-- What was returned, and the written byte afterwards. -/
  | copied (returned : UInt8) (left : Option UInt8)
  /-- The status, and the lent buffer afterwards. -/
  | filled (value : Status) (left : List UInt8)
  | optional (value : Optional Single)

def replyBy {shape : Shape} (closure : shape.View → shape.Reply) (argument : shape.Argument) :
    shape.Reply :=
  closure (shape.view argument)

/-- Run code that may call back, with a closure or without one. -/
def runWith {shape : Shape} {ρ : Type} (code : (given : Bool) → Foreign shape ρ)
    (closure : Option (shape.View → shape.Reply)) : ρ :=
  match closure with
  | some closure => (code true).answeredBy (replyBy closure)
  | none => (code false).answeredBy fun argument => shape.defaultReply argument

def reference {α : Type} (given : Bool) (descriptor : Descriptor α) : Option (Descriptor α) :=
  if given then some descriptor else none

variable {W : Type} (table : Exports W)

def perform : FreeCall → StateM W Answer
  | .primitiveVoid => do
    table.primitiveVoid
    pure .nothing
  | .primitiveBool value => return .flag (← table.primitiveBool value)
  | .primitiveU8 value => return .number (← table.primitiveU8 value).toNat
  | .primitiveU16 value => return .number (← table.primitiveU16 value).toNat
  | .primitiveU32 value => return .number (← table.primitiveU32 value).toNat
  | .primitiveU64 value => return .number (← table.primitiveU64 value).toNat
  | .primitiveI8 value => return .number (← table.primitiveI8 value).toInt
  | .primitiveI16 value => return .number (← table.primitiveI16 value).toInt
  | .primitiveI32 value => return .number (← table.primitiveI32 value).toInt
  | .primitiveI64 value => return .number (← table.primitiveI64 value).toInt
  | .manyArgs5 first second third fourth fifth =>
    return .number (← table.manyArgs5 first second third fourth fifth).toInt
  | .sleep milliseconds => do
    table.sleep milliseconds
    pure .nothing
  | .tupled value => return .number (← table.tupled value).toNat
  | .array1 bytes => return .number (← table.array1 bytes).toNat
  | .documented number => return .number (← table.documented number).toNat
  | .refOption value => return .flag (← table.refOption value)
  | .refMutOption value => do
    let (present, left) ← table.refMutOption value
    pure (.seen present left)
  | .complexArgs1 vector given => return .status (← table.complexArgs1 vector given)
  | .panics => return .status (← table.panics)
  | .callback closure value =>
    pure (.number (runWith (table.callback · value) closure).toNat)
  | .patternCallback1 closure value =>
    pure (.number (runWith (table.patternCallback1 · value) closure).toNat)
  | .asciiPointer1 text => return .number (← table.patternAsciiPointer1 text).toNat
  | .asciiPointerLen first second =>
    return .number (← table.patternAsciiPointerLen first second).toNat
  | .slice1 buffer => return .number (← table.patternFfiSlice1 buffer).toNat
  | .slice2 buffer index => return .vector (← table.patternFfiSlice2 buffer index)
  | .slice3 buffer closure =>
    pure (.buffer (runWith (table.patternFfiSlice3 buffer ·) closure).elements)
  | .slice4 source target =>
    return .buffer (← table.patternFfiSlice4 source target).elements
  | .slice5 source target sourceGiven targetGiven => do
    let left ←
      table.patternFfiSlice5 (reference sourceGiven source) (reference targetGiven target)
    pure (.buffer (left.getD target).elements)
  | .slice6 buffer bufferGiven closure =>
    let left := runWith (table.patternFfiSlice6 (reference bufferGiven buffer) ·) closure
    pure (.buffer (left.getD buffer).elements)
  | .delegate closure =>
    pure (.number (runWith table.patternFfiSliceDelegate closure).toNat)
  | .delegateHuge closure =>
    pure (.vector (runWith table.patternFfiSliceDelegateHuge closure))
  | .option1 value => return .optional (← table.patternFfiOption1 value)
  | .option2 value => return .single (← table.patternFfiOption2 value)
  | .flag value => return .number (← table.patternFfiBool value).byte.toNat
  | .patternApiGuard => return .hash (← table.patternApiGuard)
  | .surfaceGuard => return .hash (← table.surfaceGuard)

def performService (handle : Handle) : ServiceCall → StateM W Answer
  | .methodResult argument =>
    return .status (← table.simpleServiceMethodResult handle argument)
  | .methodValue argument =>
    return .number (← table.simpleServiceMethodValue handle argument).toNat
  | .methodVoid => do
    table.simpleServiceMethodVoid handle
    pure .nothing
  | .stats => return .number (← table.simpleServiceStats handle).toNat
  | .methodMutSelf buffer =>
    return .number (← table.simpleServiceMethodMutSelf handle buffer).toNat
  | .methodMutSelfVoid flags => do
    table.simpleServiceMethodMutSelfVoid handle flags
    pure .nothing
  | .trueFlags => return .number (← table.simpleServiceTrueFlags handle).toNat
  | .methodMutSelfRef source target => do
    let (returned, left) ← table.simpleServiceMethodMutSelfRef handle source target
    pure (.copied returned left)
  | .methodMutSelfRefSlice source target buffer => do
    let (returned, left) ←
      table.simpleServiceMethodMutSelfRefSlice handle source target buffer
    pure (.copied returned left)
  | .methodMutSelfRefSliceLimited source target first second => do
    let (returned, left) ←
      table.simpleServiceMethodMutSelfRefSliceLimited handle source target first second
    pure (.copied returned left)
  | .methodMutSelfFfiError buffer => do
    let (status, left) ← table.simpleServiceMethodMutSelfFfiError handle buffer
    pure (.filled status left.elements)
  | .methodMutSelfNoError buffer => do
    let (status, left) ← table.simpleServiceMethodMutSelfNoError handle buffer
    pure (.filled status left.elements)
  | .methodVoidFfiError => return .status (← table.simpleServiceMethodVoidFfiError handle)

def performPlain (handle : Handle) : PlainCall → StateM W Answer
  | .result argument => return .status (← table.simpleClassResult handle argument)
  | .value argument => return .number (← table.simpleClassValue handle argument).toNat
  | .mutSelf argument => return .number (← table.simpleClassMutSelf handle argument).toNat
  | .extraMethod => return .number (← table.simpleClassExtraMethod handle).toNat

def runFactory (slot : Slot) : Factory → StateM W (Status × Slot)
  | .serviceWith value => table.simpleServiceNewWith slot value
  | .serviceWithout => table.simpleServiceNewWithout slot
  | .serviceFailing value => table.simpleServiceNewFailing slot value
  | .plain => table.simpleClassCreate slot

def runDestroy (slot : Slot) : ObjectKind → StateM W (Status × Slot)
  | .service => table.simpleServiceDestroy slot
  | .plain => table.simpleClassDestroy slot

/-- The answer of an export that may have written to a slot, and the slots afterwards. -/
def settle (slots : Slots) (name : Option String) (work : StateM W (Status × Slot)) :
    StateM W (Answer × Slots) := do
  let (status, slot) ← work
  let after := slots.written name slot
  pure (.slotStatus status (name.map fun name => !(after name).isNull), after)

def step (slots : Slots) : Step → StateM W (Answer × Slots)
  | .create name factory => settle slots name (runFactory table (slots.pointer name) factory)
  | .destroy name kind => settle slots name (runDestroy table (slots.pointer name) kind)
  | .service name call =>
    return (← performService table (slots.handle name) call, slots)
  | .plain name call => return (← performPlain table (slots.handle name) call, slots)
  | .free call => return (← perform table call, slots)

def steps (slots : Slots) : List Step → StateM W (List Answer × Slots)
  | [] => pure ([], slots)
  | first :: rest => do
    let (answer, after) ← step table slots first
    let (answers, last) ← steps after rest
    pure (answer :: answers, last)

end NativeBoundary.Direct
