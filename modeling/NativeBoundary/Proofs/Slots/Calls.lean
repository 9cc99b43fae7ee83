import NativeBoundary.Direct.Call
import NativeBoundary.Proofs.Histories.Making

/-!
# Direct calls of the reference library

The reference library is called through handles in named slots.  This module tells
what every direct call answers and what it leaves in the slots and on the heap: a
method of an object is a function of that object, a method of the null handle does
nothing, and factories and destroy exports write to no slot but their own.
-/

namespace NativeBoundary

open NativeBoundary.Reference
open NativeBoundary.Wire

namespace Handle

theorem address_ne {first second : Handle} (different : first ≠ second) :
    first.address ≠ second.address := by
  intro same
  cases first
  cases second
  cases same
  exact different rfl

end Handle

namespace Direct

/-! ## Runs of direct calls -/

/-- The slots of a caller and the heap of the library between two steps. -/
structure State where
  slots : Slots
  heap : Heap

/-- Slots that are all null, and a library without objects. -/
def State.start : State := ⟨.empty, .empty⟩

/-- What a step answers, and the state after it. -/
def advance (state : State) (step : Step) : Answer × State :=
  let ((answer, slots), heap) := (Direct.step Reference.table state.slots step).run state.heap
  (answer, ⟨slots, heap⟩)

/-- The state after some steps. -/
def reach (state : State) (steps : List Step) : State :=
  steps.foldl (fun reached step => (advance reached step).2) state

def answers (state : State) : List Step → List Answer
  | [] => []
  | step :: rest => (advance state step).1 :: answers (advance state step).2 rest

/-- Steps made in order give their answers and lead to the last state. -/
theorem run_steps (state : State) (steps : List Step) :
    (Direct.steps Reference.table state.slots steps).run state.heap =
      ((answers state steps, (reach state steps).slots), (reach state steps).heap) := by
  induction steps generalizing state with
  | nil => rfl
  | cons step rest hypothesis =>
    have further := hypothesis (advance state step).2
    exact congrArg (fun ran => (((advance state step).1 :: ran.1.1, ran.1.2), ran.2)) further

/-! ## What methods answer -/

/-- What a method answers that is handed the null handle. -/
def ServiceCall.unanswered : ServiceCall → Answer
  | .methodResult _ => .status .null
  | .methodValue _ => .number 0
  | .methodVoid => .nothing
  | .stats => .number 0
  | .methodMutSelf _ => .number 0
  | .methodMutSelfVoid _ => .nothing
  | .trueFlags => .number 0
  | .methodMutSelfRef _ target => .copied 0 target
  | .methodMutSelfRefSlice _ target _ => .copied 0 target
  | .methodMutSelfRefSliceLimited _ target _ _ => .copied 0 target
  | .methodMutSelfFfiError buffer => .filled .null buffer.elements
  | .methodMutSelfNoError buffer => .filled .null buffer.elements
  | .methodVoidFfiError => .status .null

/-- The answer about a byte that is copied if there are both a source and a target. -/
def copying (source target : Option UInt8) : Answer :=
  match source, target with
  | some byte, some _ => .copied byte (some byte)
  | _, _ => .copied 0 target

/-- What a service answers. -/
def ServiceCall.answer (object : Service) : ServiceCall → Answer
  | .methodResult argument => .status (if argument = 0 then .failed else .ok)
  | .methodValue argument => .number (argument + object.value).toNat
  | .methodVoid => .nothing
  | .stats => .number object.voidCalls.toNat
  | .methodMutSelf buffer => .number (buffer.elements.headD 0).toNat
  | .methodMutSelfVoid _ => .nothing
  | .trueFlags => .number object.trueFlags.toNat
  | .methodMutSelfRef source target => copying source target
  | .methodMutSelfRefSlice source target _ => copying source target
  | .methodMutSelfRefSliceLimited source target _ _ => copying source target
  | .methodMutSelfFfiError buffer =>
    .filled .ok (buffer.elements.map fun _ => object.value.toUInt8)
  | .methodMutSelfNoError buffer => .filled .ok buffer.elements
  | .methodVoidFfiError => .status .ok

/-- What a service becomes. -/
def ServiceCall.left (object : Service) : ServiceCall → Service
  | .methodVoid => { object with voidCalls := object.voidCalls + 1 }
  | .methodMutSelfVoid flags =>
    { object with trueFlags := (flags.elements.countP isSet).toUInt32 }
  | _ => object

/-- What a method of plain instances answers that is handed the null handle. -/
def plainUnanswered : PlainCall → Answer
  | .result _ => .status .null
  | .value _ => .number 0
  | .mutSelf _ => .number 0
  | .extraMethod => .number 0

def plainAnswer (object : Instance) : PlainCall → Answer
  | .result _ => .status .ok
  | .value argument => .number argument.toNat
  | .mutSelf argument => .number argument.toNat
  | .extraMethod => .number object.value.toNat

variable {heap : Heap} {handle : Handle}

theorem run_performService_null (call : ServiceCall) (heap : Heap) :
    (performService Reference.table .null call).run heap = (call.unanswered, heap) := by
  cases call <;> rfl

theorem run_performPlain_null (call : PlainCall) (heap : Heap) :
    (performPlain Reference.table .null call).run heap = (plainUnanswered call, heap) := by
  cases call <;> rfl

/-- An answer that is read off what an export has computed. -/
theorem run_answered {α : Type} {work : StateM Heap α} {read : α → Answer} {value : α}
    {after : Heap} (ran : work.run heap = (value, after)) :
    (work >>= fun computed => pure (read computed)).run heap = (read value, after) :=
  congrArg (fun ran : α × Heap => (read ran.1, ran.2)) ran

/-- A method of a service is a function of the service that its handle names. -/
theorem run_performService {object : Service} (found : heap.service? handle = some object)
    (call : ServiceCall) :
    (performService Reference.table handle call).run heap =
      (call.answer object, heap.setService handle (some (call.left object))) := by
  have reads {α : Type} {missing : α} {read : Service → α} :
      (Service.reading handle missing read).run heap =
        (read object, heap.setService handle (some object)) :=
    Service.run_reading found
  have copies (source target : Option UInt8) :
      (Service.methodMutSelfRef handle source target >>= fun computed =>
          pure (.copied computed.1 computed.2) : StateM Heap Answer).run heap =
        (copying source target, heap.setService handle (some object)) := by
    refine (run_answered reads).trans ?_
    cases source with
    | none => rfl
    | some byte => cases target <;> rfl
  cases call with
  | methodResult argument =>
    refine (run_answered reads).trans ?_
    by_cases zero : argument = 0
    · simp only [ServiceCall.answer, Service.accept, if_pos zero]
      rfl
    · simp only [ServiceCall.answer, Service.accept, if_neg zero]
      rfl
  | methodValue argument => exact run_answered reads
  | methodVoid => exact run_answered (Service.run_changing found)
  | stats => exact run_answered reads
  | methodMutSelf buffer => exact run_answered reads
  | methodMutSelfVoid flags => exact run_answered (Service.run_changing found)
  | trueFlags => exact run_answered reads
  | methodMutSelfRef source target => exact copies source target
  | methodMutSelfRefSlice source target buffer => exact copies source target
  | methodMutSelfRefSliceLimited source target first second => exact copies source target
  | methodMutSelfFfiError buffer =>
    refine (run_answered reads).trans ?_
    cases buffer <;> rfl
  | methodMutSelfNoError buffer => exact run_answered reads
  | methodVoidFfiError => exact run_answered reads

theorem run_performPlain {object : Instance} (found : heap.instance? handle = some object)
    (call : PlainCall) :
    (performPlain Reference.table handle call).run heap =
      (plainAnswer object call, heap.setInstance handle (some (object.after call))) := by
  have reads {α : Type} {missing : α} {read : Instance → α} :
      (Instance.reading handle missing read).run heap =
        (read object, heap.setInstance handle (some object)) :=
    Instance.run_reading found
  cases call with
  | result argument => exact run_answered reads
  | value argument => exact run_answered reads
  | mutSelf argument => exact run_answered (Instance.run_mutSelf found)
  | extraMethod => exact run_answered reads

/-- A call that involves no object leaves the heap as it is. -/
theorem perform_heap (call : FreeCall) (heap : Heap) :
    ((perform Reference.table call).run heap).2 = heap := by
  cases call with
  | slice5 source target sourceGiven targetGiven =>
    cases sourceGiven <;> cases targetGiven <;> rfl
  | _ => rfl

/-! ## Steps -/

namespace Slots

variable (slots : Slots)

@[simp]
theorem set_same (name : String) (handle : Handle) : slots.set name handle name = handle :=
  if_pos rfl

theorem set_other {name other : String} (handle : Handle) (different : other ≠ name) :
    slots.set name handle other = slots other :=
  if_neg different

/-- An export that leaves its slot alone leaves all slots alone. -/
theorem written_pointer (name : Option String) : slots.written name (slots.pointer name) = slots := by
  cases name with
  | none => rfl
  | some name =>
    funext other
    by_cases same : other = name
    · subst same
      exact slots.set_same other (slots other)
    · exact slots.set_other (slots name) same

end Slots

variable (state : State)

theorem advance_service (name : Option String) (call : ServiceCall) :
    advance state (.service name call) =
      let (answer, heap) :=
        (performService Reference.table (state.slots.handle name) call).run state.heap
      (answer, ⟨state.slots, heap⟩) := rfl

theorem advance_plain (name : Option String) (call : PlainCall) :
    advance state (.plain name call) =
      let (answer, heap) :=
        (performPlain Reference.table (state.slots.handle name) call).run state.heap
      (answer, ⟨state.slots, heap⟩) := rfl

/-- The answer about a slot, and the state after it was written. -/
def settled (name : Option String) (status : Status) (slot : Slot) (heap : Heap) :
    Answer × State :=
  let slots := state.slots.written name slot
  (.slotStatus status (name.map fun name => !(slots name).isNull), ⟨slots, heap⟩)

theorem advance_create {name : Option String} {factory : Factory} {status : Status} {slot : Slot}
    {heap : Heap}
    (ran :
      (runFactory Reference.table (state.slots.pointer name) factory).run state.heap =
        ((status, slot), heap)) :
    advance state (.create name factory) = settled state name status slot heap :=
  congrArg (fun ran : (Status × Slot) × Heap => settled state name ran.1.1 ran.1.2 ran.2) ran

theorem advance_destroy {name : Option String} {kind : ObjectKind} {status : Status} {slot : Slot}
    {heap : Heap}
    (ran :
      (runDestroy Reference.table (state.slots.pointer name) kind).run state.heap =
        ((status, slot), heap)) :
    advance state (.destroy name kind) = settled state name status slot heap :=
  congrArg (fun ran : (Status × Slot) × Heap => settled state name ran.1.1 ran.1.2 ran.2) ran

/-- An export that leaves its slot and the heap alone leaves the state alone. -/
theorem settled_pointer (name : Option String) (status : Status) :
    ∃ held, settled state name status (state.slots.pointer name) state.heap =
      (.slotStatus status held, state) := by
  refine ⟨name.map fun name => !(state.slots name).isNull, ?_⟩
  simp only [settled, Slots.written_pointer]

theorem advance_free (call : FreeCall) : (advance state (.free call)).2 = state := by
  have kept := perform_heap call state.heap
  exact congrArg (State.mk state.slots) kept

end Direct

end NativeBoundary
