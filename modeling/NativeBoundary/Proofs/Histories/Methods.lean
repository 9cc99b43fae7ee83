import NativeBoundary.Proofs.Run.Standing
import NativeBoundary.Proofs.Run.Yields
import NativeBoundary.Reference.Table

/-!
# Methods of the reference library as functions of an object

Over the reference library, a method of a live object reads the object that its
handle names, answers by a function of that object alone, and leaves the object
changed by a function of it.  Nothing else on the heap is read or changed.
-/

namespace NativeBoundary

open NativeBoundary.Reference
open NativeBoundary.Wire

/-! ## Objects as functions -/

namespace Reference

/-- What a service becomes by a call. -/
def Service.after (object : Service) : ServiceCall → Service
  | .methodVoid => { object with voidCalls := object.voidCalls + 1 }
  | .methodMutSelfVoid values => { object with trueFlags := (values.count true).toUInt32 }
  | _ => object

/-- What a service answers to a call. -/
def Service.answer (object : Service) : ServiceCall → Reported
  | .methodResult argument =>
    if argument = 0 then .error (.call (.callFailed .failed)) else .ok .unit
  | .methodValue argument => .ok (.number (argument + object.value).toNat)
  | .methodVoid => .ok .unit
  | .stats => .ok (.number object.voidCalls.toNat)
  | .methodMutSelf buffer => .ok (.number (buffer.headD 0).toNat)
  | .methodMutSelfVoid _ => .ok .unit
  | .trueFlags => .ok (.number object.trueFlags.toNat)
  | .methodMutSelfRef source _ => .ok (.copied source source)
  | .methodMutSelfRefSlice source _ _ => .ok (.copied source source)
  | .methodMutSelfRefSliceLimited source _ _ _ => .ok (.copied source source)
  | .methodMutSelfFfiError buffer =>
    .ok (.filled (.ok ()) (buffer.map fun _ => object.value.toUInt8))
  | .methodMutSelfNoError buffer => .ok (.filled (.ok ()) buffer)
  | .methodVoidFfiError => .ok .unit

/-- What a plain instance becomes by a call. -/
def Instance.after (object : Instance) : PlainCall → Instance
  | .mutSelf argument => ⟨argument⟩
  | _ => object

/-- What a plain instance answers to a call. -/
def Instance.answer (object : Instance) : PlainCall → Reported
  | .result _ => .ok .unit
  | .value argument => .ok (.number argument.toNat)
  | .mutSelf argument => .ok (.number argument.toNat)
  | .extraMethod => .ok (.number object.value.toNat)

/-! ## Reading and changing the heap -/

namespace Heap

variable {heap : Heap} {handle : Handle}

theorem services_of_service? {object : Service} (found : heap.service? handle = some object) :
    heap.services handle.address = some object := by
  unfold service? at found
  split at found
  · cases found
  · exact found

theorem instances_of_instance? {object : Instance}
    (found : heap.instance? handle = some object) :
    heap.instances handle.address = some object := by
  unfold instance? at found
  split at found
  · cases found
  · exact found

theorem update_eq_self {α : Type} {objects : Nat → Option α} {address : Nat}
    {object : Option α} (same : objects address = object) :
    update objects address object = objects := by
  funext other
  by_cases equal : other = address
  · rw [equal, update_same, same]
  · exact update_other objects object equal

/-- Nothing changes when a service is replaced by itself. -/
theorem setService_eq_self {object : Service} (found : heap.service? handle = some object) :
    heap.setService handle (some object) = heap := by
  rw [setService, update_eq_self (services_of_service? found)]

theorem setInstance_eq_self {object : Instance} (found : heap.instance? handle = some object) :
    heap.setInstance handle (some object) = heap := by
  rw [setInstance, update_eq_self (instances_of_instance? found)]

end Heap

theorem Service.run_reading {α : Type} {heap : Heap} {handle : Handle} {object : Service}
    {missing : α} {read : Service → α} (found : heap.service? handle = some object) :
    (Service.reading handle missing read).run heap =
      (read object, heap.setService handle (some object)) := by
  rw [Heap.setService_eq_self found]
  simp only [Service.reading, StateT.run, found]

theorem Service.run_changing {heap : Heap} {handle : Handle} {object : Service}
    {change : Service → Service} (found : heap.service? handle = some object) :
    (Service.changing handle change).run heap =
      ((), heap.setService handle (some (change object))) := by
  simp only [Service.changing, StateT.run, found]

theorem Instance.run_reading {α : Type} {heap : Heap} {handle : Handle} {object : Instance}
    {missing : α} {read : Instance → α} (found : heap.instance? handle = some object) :
    (Instance.reading handle missing read).run heap =
      (read object, heap.setInstance handle (some object)) := by
  rw [Heap.setInstance_eq_self found]
  simp only [Instance.reading, StateT.run, found]

theorem Instance.run_mutSelf {heap : Heap} {handle : Handle} {object : Instance}
    {argument : UInt32} (found : heap.instance? handle = some object) :
    (Instance.mutSelf handle argument).run heap =
      (argument, heap.setInstance handle (some ⟨argument⟩)) := by
  simp only [Instance.mutSelf, StateT.run, found]

/-- The library counts the flags that a caller has set. -/
theorem countP_isSet_encode (values : List Bool) :
    (values.map Flag.encode).countP isSet = values.count true := by
  rw [List.countP_map, List.count]
  refine List.countP_congr fun value _ => ?_
  cases value <;> decide

end Reference

/-! ## Methods through the gateway -/

namespace Gateway

open Crossing

def linked : Gateway Heap := ⟨Reference.table, false⟩

/-- A method of a live service answers and changes the service that the handle names. -/
theorem performService_yields {owner : Owner} {handle : Handle} {heap : Heap}
    {object : Reference.Service} (live : owner.state = .live handle)
    (found : heap.service? handle = some object) (call : ServiceCall) :
    Yields (linked.performService owner call) heap (object.answer call)
      (heap.setService handle (some (object.after call))) := by
  have reads {α : Type} {missing : α} {read : Reference.Service → α} :
      (Reference.Service.reading handle missing read).run heap =
        (read object, heap.setService handle (some object)) :=
    Reference.Service.run_reading found
  cases call with
  | methodResult argument =>
    have answered :
        Reported.ofResult (statusOf (Reference.Service.accept argument)).toResult
            (fun _ => .unit) = object.answer (.methodResult argument) := by
      by_cases zero : argument = 0
      · simp only [Reference.Service.accept, Reference.Service.answer, if_pos zero]
        rfl
      · simp only [Reference.Service.accept, Reference.Service.answer, if_neg zero]
        rfl
    rw [← answered]
    exact Yields.bind (Yields.bind (onHandle_yields live reads) (.pure _)) (.pure _)
  | methodVoidFfiError =>
    exact Yields.bind (Yields.bind (onHandle_yields live reads) (.pure _)) (.pure _)
  | methodVoid =>
    exact Yields.bind (onHandle_yields live (Reference.Service.run_changing found)) (.pure _)
  | methodMutSelfVoid values =>
    have counted : (linked.exports.simpleServiceMethodMutSelfVoid handle
        (.lent (values.map Flag.encode))).run heap =
          ((), heap.setService handle (some (object.after (.methodMutSelfVoid values)))) := by
      rw [Reference.Service.after, ← countP_isSet_encode values]
      exact Reference.Service.run_changing found
    exact Yields.bind (.pinned (onHandle_yields live counted)) (.pure _)
  | methodMutSelf buffer =>
    exact Yields.bind (.pinned (onHandle_yields live reads)) (.pure _)
  | methodMutSelfRef source target =>
    exact Yields.bind (Yields.bind (onHandle_yields live reads) (.pure _)) (.pure _)
  | methodMutSelfRefSlice source target buffer =>
    exact Yields.bind (.pinned (Yields.bind (onHandle_yields live reads) (.pure _))) (.pure _)
  | methodMutSelfRefSliceLimited source target first second =>
    exact Yields.bind (.pinned (Yields.bind (onHandle_yields live reads) (.pure _))) (.pure _)
  | methodMutSelfFfiError buffer =>
    exact Yields.bind (.pinned (Yields.bind (onHandle_yields live reads) (.pure _))) (.pure _)
  | methodMutSelfNoError buffer =>
    exact Yields.bind (.pinned (Yields.bind (onHandle_yields live reads) (.pure _))) (.pure _)
  | methodValue argument => exact Yields.bind (onHandle_yields live reads) (.pure _)
  | stats => exact Yields.bind (onHandle_yields live reads) (.pure _)
  | trueFlags => exact Yields.bind (onHandle_yields live reads) (.pure _)

/-- A method of a live plain instance answers and changes the instance that the handle names. -/
theorem performPlain_yields {owner : Owner} {handle : Handle} {heap : Heap}
    {object : Reference.Instance} (live : owner.state = .live handle)
    (found : heap.instance? handle = some object) (call : PlainCall) :
    Yields (linked.performPlain owner call) heap (object.answer call)
      (heap.setInstance handle (some (object.after call))) := by
  have reads {α : Type} {missing : α} {read : Reference.Instance → α} :
      (Reference.Instance.reading handle missing read).run heap =
        (read object, heap.setInstance handle (some object)) :=
    Reference.Instance.run_reading found
  cases call with
  | result argument => exact Yields.bind (Yields.bind (onHandle_yields live reads) (.pure _)) (.pure _)
  | value argument => exact Yields.bind (onHandle_yields live reads) (.pure _)
  | mutSelf argument =>
    exact Yields.bind (onHandle_yields live (Reference.Instance.run_mutSelf found)) (.pure _)
  | extraMethod => exact Yields.bind (onHandle_yields live reads) (.pure _)

/-- A method of a destroyed service changes nothing in the library. -/
theorem performService_world_of_destroyed {owner : Owner} (destroyed : owner.state = .destroyed)
    (call : ServiceCall) (session : Session Heap) :
    ∃ message left,
      (linked.performService owner call).run session =
        (.panicked message, ⟨session.world, left⟩) := by
  rcases owner with ⟨typeName, state⟩
  cases destroyed
  cases call <;> exact ⟨_, _, rfl⟩

theorem performPlain_world_of_destroyed {owner : Owner} (destroyed : owner.state = .destroyed)
    (call : PlainCall) (session : Session Heap) :
    ∃ message left,
      (linked.performPlain owner call).run session =
        (.panicked message, ⟨session.world, left⟩) := by
  rcases owner with ⟨typeName, state⟩
  cases destroyed
  cases call <;> exact ⟨_, _, rfl⟩

/-! ## Calls without an object -/

/-- No call without an object changes the heap. -/
theorem perform_world (call : Call) (session : Session Heap) :
    ((linked.perform call).run session).2.world = session.world := by
  cases call with
  | sleep seconds nanoseconds =>
    simp only [perform]
    cases Span.ofParts? seconds nanoseconds <;> rfl
  | asciiPointer1 text =>
    simp only [perform, asciiPointer1]
    cases Lending.handOver text <;> rfl
  | asciiPointerLen first second =>
    simp only [perform, asciiPointerLen]
    cases Lending.handOver first with
    | error error => rfl
    | ok bytes => cases Lending.handOver second <;> rfl
  | _ => rfl

end Gateway

end NativeBoundary
