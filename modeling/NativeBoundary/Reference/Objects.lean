import NativeBoundary.Exports
import NativeBoundary.Reference.Heap
import NativeBoundary.Reference.Wire

/-!
# The object exports of the reference library

Factories put an object on the heap and write its handle to the slot they are
given; destroy exports take it from the heap and clear the slot.  A method that
is handed the null handle changes nothing: it reports a null status if it has
one, and answers zero otherwise.
-/

namespace NativeBoundary.Reference

open NativeBoundary.Wire

/-! ## Services -/

namespace Service

def emplace (slot : Slot) (object : Service) : StateM Heap (Status × Slot) := fun heap =>
  match slot with
  | none => ((.null, none), heap)
  | some _ =>
    let (handle, after) := heap.allocateService object
    ((.ok, some handle), after)

def newWith (slot : Slot) (value : UInt32) : StateM Heap (Status × Slot) :=
  emplace slot { value }

def newWithout (slot : Slot) : StateM Heap (Status × Slot) :=
  emplace slot {}

/-- Make a service with a value that must not be zero; the slot is left alone if it is. -/
def newFailing (slot : Slot) (value : UInt8) : StateM Heap (Status × Slot) :=
  if value = 0 then pure (.failed, slot)
  else emplace slot { value := value.toUInt32 }

def destroy (slot : Slot) : StateM Heap (Status × Slot) := fun heap =>
  match slot with
  | none => ((.null, none), heap)
  | some handle =>
    if handle.isNull then ((.null, some handle), heap)
    else ((.ok, some .null), heap.setService handle none)

def reading {α : Type} (handle : Handle) (missing : α) (read : Service → α) :
    StateM Heap α := fun heap =>
  match heap.service? handle with
  | some object => (read object, heap)
  | none => (missing, heap)

def changing (handle : Handle) (change : Service → Service) : StateM Heap Unit := fun heap =>
  match heap.service? handle with
  | some object => ((), heap.setService handle (some (change object)))
  | none => ((), heap)

def accept (argument : UInt32) : Except String Unit :=
  if argument = 0 then .error "zero argument" else .ok ()

def methodResult (handle : Handle) (argument : UInt32) : StateM Heap Status :=
  reading handle .null fun _ => statusOf (accept argument)

def methodValue (handle : Handle) (argument : UInt32) : StateM Heap UInt32 :=
  reading handle 0 fun object => argument + object.value

def methodVoid (handle : Handle) : StateM Heap Unit :=
  changing handle fun object => { object with voidCalls := object.voidCalls + 1 }

def stats (handle : Handle) : StateM Heap UInt32 :=
  reading handle 0 (·.voidCalls)

/-- The first byte of a buffer, or zero for an empty one. -/
def methodMutSelf (handle : Handle) (buffer : Descriptor UInt8) : StateM Heap UInt8 :=
  reading handle 0 fun _ => buffer.elements.headD 0

def methodMutSelfVoid (handle : Handle) (flags : Descriptor Flag) : StateM Heap Unit :=
  changing handle fun object =>
    { object with trueFlags := (flags.elements.countP isSet).toUInt32 }

def setFlags (handle : Handle) : StateM Heap UInt32 :=
  reading handle 0 (·.trueFlags)

/-- Copy one byte to the place of another and answer it. -/
def methodMutSelfRef (handle : Handle) (source target : Option UInt8) :
    StateM Heap (UInt8 × Option UInt8) :=
  reading handle (0, target) fun _ =>
    match source, target with
    | some byte, some _ => (byte, some byte)
    | _, _ => (0, target)

/-- Fill a buffer with the low byte of the value. -/
def methodMutSelfFfiError (handle : Handle) (buffer : Descriptor UInt8) :
    StateM Heap (Status × Descriptor UInt8) :=
  reading handle (.null, buffer) fun object =>
    (.ok, buffer.write (buffer.elements.map fun _ => object.value.toUInt8))

/-- Accept a buffer and leave it as it is. -/
def methodMutSelfNoError (handle : Handle) (buffer : Descriptor UInt8) :
    StateM Heap (Status × Descriptor UInt8) :=
  reading handle (.null, buffer) fun _ => (.ok, buffer)

/-- Report success for every service. -/
def methodVoidFfiError (handle : Handle) : StateM Heap Status :=
  reading handle .null fun _ => .ok

end Service

/-! ## Plain instances -/

namespace Instance

def create (slot : Slot) : StateM Heap (Status × Slot) := fun heap =>
  match slot with
  | none => ((.null, none), heap)
  | some _ =>
    let (handle, after) := heap.allocateInstance {}
    ((.ok, some handle), after)

def destroy (slot : Slot) : StateM Heap (Status × Slot) := fun heap =>
  match slot with
  | none => ((.null, none), heap)
  | some handle =>
    if handle.isNull then ((.null, some handle), heap)
    else ((.ok, some .null), heap.setInstance handle none)

def reading {α : Type} (handle : Handle) (missing : α) (read : Instance → α) :
    StateM Heap α := fun heap =>
  match heap.instance? handle with
  | some object => (read object, heap)
  | none => (missing, heap)

/-- Report success for every instance and argument. -/
def result (handle : Handle) (_argument : UInt32) : StateM Heap Status :=
  reading handle .null fun _ => .ok

def echo (handle : Handle) (argument : UInt32) : StateM Heap UInt32 :=
  reading handle 0 fun _ => argument

def mutSelf (handle : Handle) (argument : UInt32) : StateM Heap UInt32 := fun heap =>
  match heap.instance? handle with
  | some _ => (argument, heap.setInstance handle (some ⟨argument⟩))
  | none => (0, heap)

def extraMethod (handle : Handle) : StateM Heap UInt32 :=
  reading handle 0 (·.value)

end Instance

end NativeBoundary.Reference
