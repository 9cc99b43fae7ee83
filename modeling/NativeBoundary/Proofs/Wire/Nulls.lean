import NativeBoundary.Callback.Thread
import NativeBoundary.Direct.Call
import NativeBoundary.Proofs.Wire.Copies

/-!
# Descriptors without memory

A descriptor without memory behind it claims a length, and nobody may trust it.  To ground
a descriptor is to put an empty buffer in the place of a missing one.  The main statement
is that nothing which the reference library does can tell runs apart that differ before
they are grounded and are the same afterwards: not by an answer, not by a slot, and not by
an object on the heap.  Callbacks cannot tell either.

A missing pointer to a descriptor is another matter than a missing buffer, and so is a
missing callback: with one of them the call ends at once.
-/

namespace NativeBoundary

open NativeBoundary.Callback
open NativeBoundary.Reference
open NativeBoundary.Wire

/-! ## Grounding -/

namespace Wire.Descriptor

variable {α : Type}

/-- The descriptor with an empty buffer in the place of a missing one. -/
def grounded : Descriptor α → Descriptor α
  | .null _ => .lent []
  | .lent elements => .lent elements

@[simp]
theorem elements_grounded (descriptor : Descriptor α) :
    descriptor.grounded.elements = descriptor.elements := by
  cases descriptor <;> rfl

end Wire.Descriptor

namespace Direct

def ServiceCall.grounded : ServiceCall → ServiceCall
  | .methodMutSelf buffer => .methodMutSelf buffer.grounded
  | .methodMutSelfVoid flags => .methodMutSelfVoid flags.grounded
  | .methodMutSelfRefSlice source target buffer =>
    .methodMutSelfRefSlice source target buffer.grounded
  | .methodMutSelfRefSliceLimited source target first second =>
    .methodMutSelfRefSliceLimited source target first.grounded second.grounded
  | .methodMutSelfFfiError buffer => .methodMutSelfFfiError buffer.grounded
  | .methodMutSelfNoError buffer => .methodMutSelfNoError buffer.grounded
  | call => call

def FreeCall.grounded : FreeCall → FreeCall
  | .slice1 buffer => .slice1 buffer.grounded
  | .slice2 buffer index => .slice2 buffer.grounded index
  | .slice3 buffer closure => .slice3 buffer.grounded closure
  | .slice4 source target => .slice4 source.grounded target.grounded
  | .slice5 source target sourceGiven targetGiven =>
    .slice5 source.grounded target.grounded sourceGiven targetGiven
  | .slice6 buffer bufferGiven closure => .slice6 buffer.grounded bufferGiven closure
  | call => call

def Step.grounded : Step → Step
  | .service slot call => .service slot call.grounded
  | .free call => .free call.grounded
  | step => step

/-- A closure on a lent buffer changes elements and never the length. -/
def FreeCall.KeepsLength : FreeCall → Prop
  | .slice3 _ (some closure) => ∀ bytes, (closure bytes).length = bytes.length
  | _ => True

def Step.KeepsLength : Step → Prop
  | .free call => call.KeepsLength
  | _ => True

end Direct

/-! ## Callbacks -/

/-- What the library hands over, with an empty buffer in the place of a missing one. -/
def Callback.Shape.grounded : (shape : Shape) → shape.Argument → shape.Argument
  | .byte, argument => argument
  | .word, argument => argument
  | .slice, argument => argument.grounded
  | .sliceMut, argument => argument.grounded
  | .vectors, argument => argument.grounded

namespace Callback

variable {W : Type}

@[simp]
theorem Shape.view_grounded (shape : Shape) (argument : shape.Argument) :
    shape.view (shape.grounded argument) = shape.view argument := by
  cases shape with
  | byte | word => rfl
  | slice | sliceMut | vectors => exact Descriptor.elements_grounded argument

@[simp]
theorem Shape.lent_grounded (shape : Shape) (argument : shape.Argument) :
    shape.lent (shape.grounded argument) = shape.lent argument := by
  cases shape with
  | sliceMut => exact Descriptor.elements_grounded argument
  | byte | word | slice | vectors => rfl

/-- Whatever a closure does, and whatever is parked on its thread, it sees a missing buffer as an
empty one. -/
theorem callBack_grounded (serve : Serve W) (shape : Shape) (argument : shape.Argument)
    (thread : Thread W) :
    callBack serve shape (shape.grounded argument) thread =
      callBack serve shape argument thread := by
  simp only [callBack, Shape.defaultReply, Shape.view_grounded, Shape.lent_grounded]

namespace Foreign

variable {shape : Shape} {ρ σ : Type}

/-- Run code whose calls are answered by a callee with a state of its own. -/
def answeredIn (callee : shape.View → StateM σ shape.Reply) : Foreign shape ρ → StateM σ ρ
  | .finish result => pure result
  | .call argument next => do
    let reply ← callee (shape.view argument)
    (next reply).answeredIn callee

end Foreign

end Callback

/-! ## Calls that involve no object -/

namespace Reference

/-- There is nothing to overwrite in an empty target. -/
theorem copyFront?_nil {α : Type} (source : List α) : copyFront? source [] = some [] :=
  FrontCopied.copyFront?_eq ⟨rfl, fun index inside => by simp at inside, fun _ _ => rfl⟩

theorem elements_copy_grounded (source target : Descriptor UInt8) :
    (copy source.grounded target.grounded).elements = (copy source target).elements := by
  cases target with
  | lent elements =>
    change (copy source.grounded (.lent elements)).elements = _
    rw [copy, copy, Descriptor.elements_grounded]
  | null claimed =>
    change (copyFront? source.grounded.elements []).getD [] = []
    rw [copyFront?_nil]
    rfl

variable {σ : Type}

/-- A callee with a state of its own leaves a missing buffer as it leaves an empty one. -/
theorem slice3_answeredIn_grounded (callee : List UInt8 → StateM σ (List UInt8))
    (keeps : ∀ bytes state, ((callee bytes).run state).1.length = bytes.length)
    (buffer : Descriptor UInt8) (given : Bool) :
    Descriptor.elements <$>
        (callbackExports.patternFfiSlice3 buffer.grounded given).answeredIn callee =
      Descriptor.elements <$>
        (callbackExports.patternFfiSlice3 buffer given).answeredIn callee := by
  cases buffer with
  | lent elements => rfl
  | null claimed =>
    cases given with
    | false => rfl
    | true =>
      funext state
      have empty : ((callee []).run state).1 = [] :=
        List.eq_nil_of_length_eq_zero (keeps [] state)
      exact congrArg (fun left => (left, ((callee []).run state).2)) empty

/-- No callee is called on a missing buffer. -/
theorem slice6_null (claimed : Nat) (given : Bool) :
    callbackExports.patternFfiSlice6 (some (.null claimed)) given =
      .finish (some (.null claimed)) := by
  cases given <;> rfl

end Reference

namespace Direct

/-- Grounding a call leaves its answer, and the state of the library. -/
theorem perform_grounded (call : FreeCall) (keeps : call.KeepsLength) :
    perform Reference.table call.grounded = perform Reference.table call := by
  have answers {first second : List UInt8} (same : first = second) :
      (pure (.buffer first) : StateM Heap Answer) = pure (.buffer second) :=
    congrArg (fun left => (pure (Answer.buffer left) : StateM Heap Answer)) same
  cases call with
  | slice1 buffer => cases buffer <;> rfl
  | slice2 buffer index => cases buffer <;> rfl
  | slice3 buffer closure =>
    cases buffer with
    | lent elements => rfl
    | null claimed =>
      cases closure with
      | none => rfl
      | some closure =>
        have empty : closure [] = [] := List.eq_nil_of_length_eq_zero (keeps [])
        exact answers empty
  | slice4 source target => exact answers (elements_copy_grounded source target)
  | slice5 source target sourceGiven targetGiven =>
    cases sourceGiven with
    | false => cases targetGiven <;> exact answers target.elements_grounded
    | true =>
      cases targetGiven with
      | false => exact answers target.elements_grounded
      | true => exact answers (elements_copy_grounded source target)
  | slice6 buffer bufferGiven closure =>
    cases buffer with
    | lent elements => rfl
    | null claimed => cases bufferGiven <;> cases closure <;> rfl
  | _ => rfl

/-! ## Missing pointers -/

theorem getD_reference {α : Type} (given : Bool) (descriptor : Descriptor α) :
    (reference given descriptor).getD descriptor = descriptor := by
  cases given <;> rfl

/-- Code that has ended calls nobody. -/
theorem runWith_of_finish {shape : Shape} {ρ : Type} {code : (given : Bool) → Foreign shape ρ}
    {closure : Option (shape.View → shape.Reply)} {result : ρ}
    (ended : code closure.isSome = .finish result) : runWith code closure = result := by
  cases closure with
  | none => exact congrArg (Foreign.answeredBy fun argument => shape.defaultReply argument) ended
  | some closure => exact congrArg (Foreign.answeredBy (replyBy closure)) ended

theorem slice5_of_missing {source target : Descriptor UInt8} {sourceGiven targetGiven : Bool}
    (missing : (sourceGiven && targetGiven) = false) :
    Reference.table.patternFfiSlice5 (reference sourceGiven source)
        (reference targetGiven target) =
      pure (reference targetGiven target) := by
  cases sourceGiven with
  | false => rfl
  | true =>
    obtain rfl : targetGiven = false := missing
    rfl

theorem slice6_of_missing {buffer : Descriptor UInt8} {bufferGiven given : Bool}
    (missing : (bufferGiven && given) = false) :
    callbackExports.patternFfiSlice6 (reference bufferGiven buffer) given =
      .finish (reference bufferGiven buffer) := by
  cases bufferGiven with
  | false => rfl
  | true =>
    obtain rfl : given = false := missing
    rfl

/-! ## Methods of services -/

/-- What is computed from what is read off a service. -/
theorem reading_bind {α β : Type} (handle : Handle) (missing : α) (read : Service → α)
    (next : α → β) :
    (Service.reading handle missing read >>= fun value => pure (next value)) =
      Service.reading handle (next missing) fun object => next (read object) := by
  funext heap
  change (next (Service.reading handle missing read heap).1,
    (Service.reading handle missing read heap).2) = _
  unfold Service.reading
  cases heap.service? handle <;> rfl

/-- What is told about a buffer that a method may have changed. -/
def filled (ended : Status × Descriptor UInt8) : Answer :=
  .filled ended.1 ended.2.elements

theorem performService_methodMutSelfFfiError (handle : Handle) (buffer : Descriptor UInt8) :
    performService Reference.table handle (.methodMutSelfFfiError buffer) =
      Service.reading handle (.filled .null buffer.elements) fun object =>
        .filled .ok
          (buffer.write (buffer.elements.map fun _ => object.value.toUInt8)).elements :=
  reading_bind handle _ _ filled

theorem performService_methodMutSelfNoError (handle : Handle) (buffer : Descriptor UInt8) :
    performService Reference.table handle (.methodMutSelfNoError buffer) =
      Service.reading handle (.filled .null buffer.elements) fun _ =>
        .filled .ok buffer.elements :=
  reading_bind handle _ _ filled

theorem performService_grounded (handle : Handle) (call : ServiceCall) :
    performService Reference.table handle call.grounded =
      performService Reference.table handle call := by
  cases call with
  | methodMutSelf buffer => cases buffer <;> rfl
  | methodMutSelfVoid flags => cases flags <;> rfl
  | methodMutSelfFfiError buffer =>
    rw [ServiceCall.grounded, performService_methodMutSelfFfiError,
      performService_methodMutSelfFfiError]
    cases buffer <;> rfl
  | methodMutSelfNoError buffer =>
    rw [ServiceCall.grounded, performService_methodMutSelfNoError,
      performService_methodMutSelfNoError, Descriptor.elements_grounded]
  | _ => rfl

/-! ## Runs -/

theorem step_grounded (slots : Slots) (made : Step) (keeps : made.KeepsLength) :
    step Reference.table slots made.grounded = step Reference.table slots made := by
  cases made with
  | service slot call =>
    simp only [Step.grounded, step, performService_grounded]
  | free call =>
    simp only [Step.grounded, step, perform_grounded call keeps]
  | create slot factory | destroy slot kind | plain slot call => rfl

/-- A run goes as the grounded one does. -/
theorem steps_grounded (slots : Slots) (made : List Step)
    (keeps : ∀ step ∈ made, step.KeepsLength) :
    steps Reference.table slots (made.map Step.grounded) = steps Reference.table slots made := by
  induction made generalizing slots with
  | nil => rfl
  | cons first rest hypothesis =>
    rw [List.map_cons, steps, steps, step_grounded slots first (keeps first List.mem_cons_self)]
    refine bind_congr fun advanced => ?_
    have further :=
      hypothesis advanced.2 fun later member => keeps later (List.mem_cons_of_mem first member)
    exact congrArg
      (fun run => run >>= fun ended => pure (advanced.1 :: ended.1, ended.2)) further

/-- Runs of direct calls that become the same when all their descriptors are grounded give the same
answers, and leave the same slots and the same objects, from every state: so a missing buffer reads
as an empty one, whatever length it claims, beside any other arguments, which may be missing or not.

A callback that is handed a missing buffer sees no elements and goes on as with an empty buffer,
whatever it does and wherever its thread stands.  A callee with a state of its own cannot tell the
buffers apart that the library lends it, and is not called for the bytes of a missing one.

Without the pointer to one of its descriptors, or without a callback, a call ends at once, and both
its buffers and the library stay as they are. -/
theorem nulls_read_as_empty :
    (∀ (slots : Slots) (first second : List Step) (heap : Heap),
      (∀ step ∈ first ++ second, step.KeepsLength) →
      first.map Step.grounded = second.map Step.grounded →
        (steps Reference.table slots first).run heap =
          (steps Reference.table slots second).run heap) ∧
    (∀ (W : Type) (serve : Serve W) (thread : Thread W) (claimed : Nat),
      Shape.view .slice (.null claimed) = [] ∧
      Shape.view .sliceMut (.null claimed) = [] ∧
      Shape.view .vectors (.null claimed) = [] ∧
      callBack serve .slice (.null claimed) thread = callBack serve .slice (.lent []) thread ∧
      callBack serve .sliceMut (.null claimed) thread =
        callBack serve .sliceMut (.lent []) thread ∧
      callBack serve .vectors (.null claimed) thread =
        callBack serve .vectors (.lent []) thread) ∧
    (∀ (σ : Type) (callee : List UInt8 → StateM σ (List UInt8)) (given : Bool) (claimed : Nat),
      (∀ bytes state, ((callee bytes).run state).1.length = bytes.length) →
        Descriptor.elements <$>
            (callbackExports.patternFfiSlice3 (.null claimed) given).answeredIn callee =
          Descriptor.elements <$>
            (callbackExports.patternFfiSlice3 (.lent []) given).answeredIn callee) ∧
    (∀ (given : Bool) (claimed : Nat),
      callbackExports.patternFfiSlice6 (some (.null claimed)) given =
          .finish (some (.null claimed)) ∧
        callbackExports.patternFfiSlice6 (some (.lent [])) given = .finish (some (.lent []))) ∧
    (∀ (source target : Descriptor UInt8) (sourceGiven targetGiven : Bool) (heap : Heap),
      (sourceGiven && targetGiven) = false →
        (perform Reference.table (.slice5 source target sourceGiven targetGiven)).run heap =
          (.buffer target.elements, heap)) ∧
    ∀ (buffer : Descriptor UInt8) (bufferGiven : Bool) (closure : Option (UInt8 → UInt8))
      (heap : Heap),
      (bufferGiven && closure.isSome) = false →
        (perform Reference.table (.slice6 buffer bufferGiven closure)).run heap =
            (.buffer buffer.elements, heap) ∧
          callbackExports.patternFfiSlice6 (reference bufferGiven buffer) closure.isSome =
            .finish (reference bufferGiven buffer) := by
  refine ⟨?_, ?_, ?_, ?_, ?_, ?_⟩
  · intro slots first second heap keeps same
    have firstKeeps := fun step member => keeps step (List.mem_append_left second member)
    have secondKeeps := fun step member => keeps step (List.mem_append_right first member)
    rw [← steps_grounded slots first firstKeeps, same, steps_grounded slots second secondKeeps]
  · intro W serve thread claimed
    exact
      ⟨rfl, rfl, rfl, (callBack_grounded serve .slice (.null claimed) thread).symm,
        (callBack_grounded serve .sliceMut (.null claimed) thread).symm,
        (callBack_grounded serve .vectors (.null claimed) thread).symm⟩
  · intro σ callee given claimed keeps
    exact (slice3_answeredIn_grounded callee keeps (.null claimed) given).symm
  · intro given claimed
    refine ⟨slice6_null claimed given, ?_⟩
    cases given <;> rfl
  · intro source target sourceGiven targetGiven heap missing
    rw [perform, slice5_of_missing missing, pure_bind, getD_reference]
    rfl
  · intro buffer bufferGiven closure heap missing
    have ended :
        callbackExports.patternFfiSlice6 (reference bufferGiven buffer) closure.isSome =
          .finish (reference bufferGiven buffer) := slice6_of_missing missing
    rw [perform, runWith_of_finish ended, getD_reference]
    exact ⟨rfl, ended⟩

/-- Buffers that claim lengths, beside the same run on empty ones. -/
theorem nulls_read_as_empty_claiming :
    let bump : List UInt8 → List UInt8 := List.map (· + 1)
    let steps (bytes : Descriptor UInt8) (flags : Descriptor Flag) : List Step :=
      [.create (some "first") (.serviceWith 5), .service (some "first") (.methodMutSelfVoid flags),
        .service (some "first") .trueFlags, .service (some "first") (.methodMutSelfFfiError bytes),
        .free (.slice3 bytes (some bump)), .free (.slice4 bytes (.lent [7, 8]))]
    let claiming := steps (.null 9) (.null 3)
    let empty := steps (.lent []) (.lent [])
    let counting : List UInt8 → StateM Nat (List UInt8) := fun bytes count => (bytes, count + 1)
    (∀ step ∈ claiming ++ empty, step.KeepsLength) ∧
      claiming.map Step.grounded = empty.map Step.grounded ∧
      ((Direct.steps Reference.table .empty claiming).run .empty).1.1 =
        [.slotStatus .ok (some true), .nothing, .number 0, .filled .ok [], .buffer [],
          .buffer [7, 8]] ∧
      (∀ bytes state, ((counting bytes).run state).1.length = bytes.length) ∧
      (Descriptor.elements <$>
          (callbackExports.patternFfiSlice3 (.null 9) true).answeredIn counting).run 0 = ([], 1) ∧
      (perform Reference.table (.slice5 (.null 9) (.lent [7, 8]) false true)).run .empty =
        (.buffer [7, 8], .empty) := by
  intro bump steps claiming empty counting
  have keeps : ∀ step ∈ claiming ++ empty, step.KeepsLength := by
    simp [claiming, empty, steps, bump, Step.KeepsLength, FreeCall.KeepsLength]
  have same : claiming.map Step.grounded = empty.map Step.grounded := rfl
  have fits : ∀ bytes state, ((counting bytes).run state).1.length = bytes.length :=
    fun _ _ => rfl
  rcases nulls_read_as_empty with ⟨runs, -, callees, -, pointers, -⟩
  have ran := runs .empty claiming empty .empty keeps same
  have called := callees Nat counting true 9 fits
  refine
    ⟨keeps, same, ?_, fits, ?_, pointers (.null 9) (.lent [7, 8]) false true .empty rfl⟩
  · rw [ran]
    rfl
  · rw [called]
    rfl

end Direct

end NativeBoundary
