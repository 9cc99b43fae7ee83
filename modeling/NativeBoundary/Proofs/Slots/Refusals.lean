import NativeBoundary.Proofs.Slots.Objects

/-!
# Direct calls change all that they say or nothing

A direct call that reports a failure has changed nothing: no slot, no object, and no
byte of its caller.  Neither has a method without a status that lacks its handle, or
one of the bytes that it copies; it answers zero.  A factory that succeeds fills its
slot with a new object in its first state, and a destroy export succeeds on every slot
that is not empty, and empties it.
-/

namespace NativeBoundary.Direct

open NativeBoundary.Reference

/-! ## What is read off steps and answers -/

/-- Steps that use every slot for one kind of object. -/
def Step.Fits (kinds : String → ObjectKind) : Step → Prop
  | .create name factory => ∀ slot ∈ name, factory.kind = kinds slot
  | .destroy name kind => ∀ slot ∈ name, kind = kinds slot
  | .service name _ => ∀ slot ∈ name, .service = kinds slot
  | .plain name _ => ∀ slot ∈ name, .plain = kinds slot
  | .free _ => True

/-- The status that an answer reports, if it reports one. -/
def Answer.status? : Answer → Option Status
  | .status value => some value
  | .slotStatus value _ => some value
  | .filled value _ => some value
  | _ => none

/-- The value that a method without a status answers. -/
def Answer.returned? : Answer → Option Int
  | .number value => some value
  | .copied returned _ => some returned.toNat
  | _ => none

/-- The bytes at the place that a method was allowed to write to, as it left them. -/
def Answer.left? : Answer → Option (List UInt8)
  | .copied _ left => some left.toList
  | .filled _ left => some left
  | _ => none

/-- The bytes at the place that a method is allowed to write to: a buffer, or the byte behind a
pointer. -/
def ServiceCall.lent? : ServiceCall → Option (List UInt8)
  | .methodMutSelfRef _ target => some target.toList
  | .methodMutSelfRefSlice _ target _ => some target.toList
  | .methodMutSelfRefSliceLimited _ target _ _ => some target.toList
  | .methodMutSelfFfiError buffer => some buffer.elements
  | .methodMutSelfNoError buffer => some buffer.elements
  | _ => none

def Step.lent? : Step → Option (List UInt8)
  | .service _ call => call.lent?
  | _ => none

def ServiceCall.hasStatus : ServiceCall → Bool
  | .methodResult _ => true
  | .methodMutSelfFfiError _ => true
  | .methodMutSelfNoError _ => true
  | .methodVoidFfiError => true
  | _ => false

/-- A method that copies a byte without a byte to read or without a place to write it to. -/
def ServiceCall.lacksByte : ServiceCall → Bool
  | .methodMutSelfRef source target => source.isNone || target.isNone
  | .methodMutSelfRefSlice source target _ => source.isNone || target.isNone
  | .methodMutSelfRefSliceLimited source target _ _ => source.isNone || target.isNone
  | _ => false

def ServiceCall.isVoid : ServiceCall → Bool
  | .methodVoid => true
  | .methodMutSelfVoid _ => true
  | _ => false

def Step.isVoid : Step → Bool
  | .service _ call => call.isVoid
  | _ => false

/-- A method without a status that cannot do its work: its handle is null, or it lacks a byte. -/
def Step.IsMuted (slots : Slots) : Step → Prop
  | .service name call =>
    call.hasStatus = false ∧ (slots.handle name = .null ∨ call.lacksByte = true)
  | .plain _ (.result _) => False
  | .plain name _ => slots.handle name = .null
  | _ => False

/-- The handles that a step destroys: that of its slot, if it is a destroy export and succeeds. -/
def destroyedBy (state : State) (step : Step) : List Handle :=
  match step with
  | .destroy name _ =>
    if (advance state step).1.status? = some .ok then [state.slots.handle name] else []
  | _ => []

/-- The handles that are destroyed in the course of some steps. -/
def destroyed (state : State) : List Step → List Handle
  | [] => []
  | step :: rest => destroyedBy state step ++ destroyed (advance state step).2 rest

/-! ## What a step keeps -/

/-- What every direct call keeps to. -/
structure Orderly (state : State) (step : Step) : Prop where
  /-- A failure changes nothing. -/
  refused : ∀ status, (advance state step).1.status? = some status → status ≠ .ok →
    (advance state step).2 = state ∧ (advance state step).1.left? = step.lent?
  /-- A method that cannot do its work and has no status changes nothing and answers zero. -/
  muted : step.IsMuted state.slots →
    (advance state step).2 = state ∧ (advance state step).1.left? = step.lent? ∧
      (advance state step).1.returned? = if step.isVoid then none else some 0
  /-- A factory that succeeds puts a new object in its first state into its slot. -/
  made : ∀ name factory, step = .create name factory →
    (advance state step).1.status? = some .ok →
      ∃ slot handle, name = some slot ∧ handle ≠ .null ∧
        (∀ kind, state.heap.object? kind handle = none) ∧
        (advance state step).2.slots = state.slots.set slot handle ∧
        (advance state step).2.heap.object? factory.kind handle = some factory.initial ∧
        ∀ kind other, other ≠ handle →
          (advance state step).2.heap.object? kind other = state.heap.object? kind other
  /-- A destroy export succeeds if and only if there is a handle in its slot. -/
  destroys : ∀ name kind, step = .destroy name kind →
    ((advance state step).1.status? = some .ok ↔
      ∃ slot, name = some slot ∧ state.slots slot ≠ .null)
  /-- It empties its slot and frees the object. -/
  freed : ∀ slot kind, step = .destroy (some slot) kind → state.slots slot ≠ .null →
    (advance state step).2.slots = state.slots.set slot .null ∧
      (∀ kind, (advance state step).2.heap.object? kind (state.slots slot) = none) ∧
      ∀ kind other, other ≠ state.slots slot →
        (advance state step).2.heap.object? kind other = state.heap.object? kind other

/-! ## The ends of each kind of step -/

variable {kinds : String → ObjectKind} {state : State}

/-- A factory either fails and changes nothing, or fills its slot. -/
theorem advance_create_cases (state : State) (name : Option String) (factory : Factory) :
    (∃ status held, status ≠ .ok ∧
        advance state (.create name factory) = (.slotStatus status held, state)) ∨
      ∃ slot held, name = some slot ∧
        advance state (.create name factory) =
          (.slotStatus .ok held,
            ⟨state.slots.set slot ⟨state.heap.next⟩, state.heap.created factory⟩) := by
  cases accepted : factory.isAccepted with
  | false =>
    have ran := run_runFactory_of_refused accepted (state.slots.pointer name) state.heap
    rcases settled_pointer state name .failed with ⟨held, kept⟩
    exact Or.inl ⟨.failed, held, by decide, (advance_create state ran).trans kept⟩
  | true =>
    cases name with
    | none =>
      have ran :
          (runFactory Reference.table (state.slots.pointer none) factory).run state.heap =
            ((.null, none), state.heap) := run_runFactory_none accepted state.heap
      rcases settled_pointer state none .null with ⟨held, kept⟩
      exact Or.inl ⟨.null, held, by decide, (advance_create state ran).trans kept⟩
    | some slot =>
      have ran :
          (runFactory Reference.table (state.slots.pointer (some slot)) factory).run state.heap =
            ((.ok, some ⟨state.heap.next⟩), state.heap.created factory) :=
        run_runFactory_some accepted (state.slots slot) state.heap
      exact Or.inr ⟨slot, _, rfl, advance_create state ran⟩

/-- A destroy export either finds no handle and changes nothing, or empties its slot. -/
theorem advance_destroy_cases (state : State) (name : Option String) (kind : ObjectKind) :
    (state.slots.handle name = .null ∧
        ∃ held, advance state (.destroy name kind) = (.slotStatus .null held, state)) ∨
      ∃ slot held, name = some slot ∧ state.slots slot ≠ .null ∧
        advance state (.destroy name kind) =
          (.slotStatus .ok held,
            ⟨state.slots.set slot .null, state.heap.freed kind (state.slots slot)⟩) := by
  by_cases empty : state.slots.handle name = .null
  · have ran := run_runDestroy_of_null empty kind state.heap
    rcases settled_pointer state name .null with ⟨held, kept⟩
    exact Or.inl ⟨empty, held, (advance_destroy state ran).trans kept⟩
  · cases name with
    | none => exact absurd rfl empty
    | some slot =>
      have named : (state.slots slot).isNull = false := Handle.isNull_eq_false_iff.mpr empty
      have ran :
          (runDestroy Reference.table (state.slots.pointer (some slot)) kind).run state.heap =
            ((.ok, some .null), state.heap.freed kind (state.slots slot)) :=
        run_runDestroy_some named kind state.heap
      exact Or.inr ⟨slot, _, rfl, empty, advance_destroy state ran⟩

/-- A handle that is not null stands in a slot and names an object. -/
theorem Sound.exists_object (sound : Sound kinds state.slots state.heap) {name : Option String}
    {kind : ObjectKind} (fits : ∀ slot ∈ name, kind = kinds slot)
    (named : state.slots.handle name ≠ .null) :
    ∃ object, state.heap.object? kind (state.slots.handle name) = some object := by
  cases name with
  | none => exact absurd rfl named
  | some slot =>
    have same : kind = kinds slot := fits slot rfl
    rw [same]
    exact Option.isSome_iff_exists.mp (sound.alive slot named)

/-- A method of a service finds the null handle and changes nothing, or it is a function of the
service that it finds. -/
theorem advance_service_cases (sound : Sound kinds state.slots state.heap) {name : Option String}
    {call : ServiceCall} (fits : (Step.service name call).Fits kinds) :
    (state.slots.handle name = .null ∧
        advance state (.service name call) = (call.unanswered, state)) ∨
      ∃ object, state.slots.handle name ≠ .null ∧
        state.heap.service? (state.slots.handle name) = some object ∧
        advance state (.service name call) =
          (call.answer object,
            ⟨state.slots,
              state.heap.setService (state.slots.handle name) (some (call.left object))⟩) := by
  by_cases empty : state.slots.handle name = .null
  · refine Or.inl ⟨empty, ?_⟩
    rw [advance_service, empty, run_performService_null]
  · rcases sound.exists_object fits empty with ⟨object, held⟩
    rcases Option.map_eq_some_iff.mp held with ⟨found, stands, -⟩
    refine Or.inr ⟨found, empty, stands, ?_⟩
    rw [advance_service, run_performService stands]

theorem advance_plain_cases (sound : Sound kinds state.slots state.heap) {name : Option String}
    {call : PlainCall} (fits : (Step.plain name call).Fits kinds) :
    (state.slots.handle name = .null ∧
        advance state (.plain name call) = (plainUnanswered call, state)) ∨
      ∃ object, state.slots.handle name ≠ .null ∧
        state.heap.instance? (state.slots.handle name) = some object ∧
        advance state (.plain name call) =
          (plainAnswer object call,
            ⟨state.slots,
              state.heap.setInstance (state.slots.handle name) (some (object.after call))⟩) := by
  by_cases empty : state.slots.handle name = .null
  · refine Or.inl ⟨empty, ?_⟩
    rw [advance_plain, empty, run_performPlain_null]
  · rcases sound.exists_object fits empty with ⟨object, held⟩
    rcases Option.map_eq_some_iff.mp held with ⟨found, stands, -⟩
    refine Or.inr ⟨found, empty, stands, ?_⟩
    rw [advance_plain, run_performPlain stands]

/-! ## Every step is one of the moves -/

/-- A step that destroys nothing and leaves slots and objects where they are. -/
theorem move_of_kept {step : Step} (kept : (advance state step).2 = state)
    (nothing : destroyedBy state step = []) :
    Move kinds state.slots state.heap (destroyedBy state step) (advance state step).2.slots
      (advance state step).2.heap := by
  rw [kept, nothing]
  exact .kept kinds state.slots state.heap

theorem Sound.advance_move (sound : Sound kinds state.slots state.heap) {step : Step}
    (fits : step.Fits kinds) :
    Move kinds state.slots state.heap (destroyedBy state step) (advance state step).2.slots
      (advance state step).2.heap := by
  cases step with
  | create name factory =>
    rcases advance_create_cases state name factory with
      ⟨status, held, -, ended⟩ | ⟨slot, held, rfl, ended⟩
    · exact move_of_kept (congrArg Prod.snd ended) rfl
    · rw [ended]
      exact .made slot factory (fits slot rfl)
  | destroy name kind =>
    rcases advance_destroy_cases state name kind with
      ⟨-, held, ended⟩ | ⟨slot, held, rfl, named, ended⟩
    · refine move_of_kept (congrArg Prod.snd ended) ?_
      rw [destroyedBy, ended]
      rfl
    · have only : destroyedBy state (.destroy (some slot) kind) = [state.slots slot] := by
        rw [destroyedBy, ended]
        rfl
      have same : kind = kinds slot := fits slot rfl
      rw [only, ended, same]
      exact .destroyed slot named
  | service name call =>
    rcases advance_service_cases sound fits with ⟨-, ended⟩ | ⟨object, -, found, ended⟩
    · exact move_of_kept (congrArg Prod.snd ended) rfl
    · rw [ended]
      exact .changed rfl (state.heap.isSome_object?_setService found (call.left object))
  | plain name call =>
    rcases advance_plain_cases sound fits with ⟨-, ended⟩ | ⟨object, -, found, ended⟩
    · exact move_of_kept (congrArg Prod.snd ended) rfl
    · rw [ended]
      exact .changed rfl (state.heap.isSome_object?_setInstance found (object.after call))
  | free call => exact move_of_kept (advance_free state call) rfl

/-! ## Every step is orderly -/

/-- A factory is orderly: what it makes is new, since it stands behind all that was made before. -/
theorem orderly_create (sound : Sound kinds state.slots state.heap) (name : Option String)
    (factory : Factory) : Orderly state (.create name factory) := by
  rcases advance_create_cases state name factory with
    ⟨status, held, failed, ended⟩ | ⟨slot, held, rfl, ended⟩
  · constructor
    · intro reported answered other
      rw [ended]
      exact ⟨rfl, rfl⟩
    · exact False.elim
    · intro _ _ _ succeeded
      rw [ended] at succeeded
      exact absurd (Option.some.inj succeeded) failed
    · intro _ _ same
      cases same
    · intro _ _ same
      cases same
  · constructor
    · intro status reported failed
      rw [ended] at reported
      exact absurd (Option.some.inj reported).symm failed
    · exact False.elim
    · intro _ _ same succeeded
      cases same
      rw [ended]
      refine ⟨slot, ⟨state.heap.next⟩, rfl, sound.next_ne_null, sound.fresh, rfl, ?_, ?_⟩
      · exact state.heap.object?_created_same factory sound.positive
      · intro kind other different
        exact state.heap.object?_created_other factory (Or.inr different)
    · intro _ _ same
      cases same
    · intro _ _ same
      cases same

theorem orderly_destroy (sound : Sound kinds state.slots state.heap) {name : Option String}
    {kind : ObjectKind} (fits : (Step.destroy name kind).Fits kinds) :
    Orderly state (.destroy name kind) := by
  rcases advance_destroy_cases state name kind with
    ⟨empty, held, ended⟩ | ⟨slot, held, rfl, named, ended⟩
  · constructor
    · intro status reported failed
      rw [ended]
      exact ⟨rfl, rfl⟩
    · exact False.elim
    · intro _ _ same
      cases same
    · intro _ _ same
      cases same
      rw [ended]
      constructor
      · intro succeeded
        cases succeeded
      · rintro ⟨slot, rfl, named⟩
        exact absurd empty named
    · intro slot _ same named
      cases same
      exact absurd empty named
  · have same : kind = kinds slot := fits slot rfl
    constructor
    · intro status reported failed
      rw [ended] at reported
      exact absurd (Option.some.inj reported).symm failed
    · exact False.elim
    · intro _ _ same
      cases same
    · intro _ _ same
      cases same
      rw [ended]
      exact ⟨fun _ => ⟨slot, rfl, named⟩, fun _ => rfl⟩
    · intro _ _ given _
      cases given
      rw [ended, same]
      refine ⟨rfl, (sound.gone_destroyed named).missing, ?_⟩
      intro other handle different
      exact state.heap.object?_freed_other (Or.inr different)

/-- A method is orderly if it is so when it fails and when it cannot do its work. -/
theorem orderly_of_method {step : Step} (creates : ∀ name factory, step ≠ .create name factory)
    (destroys : ∀ name kind, step ≠ .destroy name kind)
    (refused : ∀ status, (advance state step).1.status? = some status → status ≠ .ok →
      (advance state step).2 = state ∧ (advance state step).1.left? = step.lent?)
    (muted : step.IsMuted state.slots →
      (advance state step).2 = state ∧ (advance state step).1.left? = step.lent? ∧
        (advance state step).1.returned? = if step.isVoid then none else some 0) :
    Orderly state step where
  refused := refused
  muted := muted
  made := fun name factory same => absurd same (creates name factory)
  destroys := fun name kind same => absurd same (destroys name kind)
  freed := fun slot kind same => absurd same (destroys (some slot) kind)

namespace ServiceCall

variable {call : ServiceCall} {object : Service}

theorem left?_unanswered (call : ServiceCall) : call.unanswered.left? = call.lent? := by
  cases call <;> rfl

theorem returned?_unanswered (free : call.hasStatus = false) :
    call.unanswered.returned? = if call.isVoid then none else some 0 := by
  cases call <;> first | rfl | cases free

/-- A method of a service that fails has changed nothing. -/
theorem answer_refused {status : Status} (reported : (call.answer object).status? = some status)
    (failed : status ≠ .ok) :
    call.left object = object ∧ (call.answer object).left? = call.lent? := by
  cases call with
  | methodMutSelfFfiError buffer => exact absurd (Option.some.inj reported).symm failed
  | methodMutSelfNoError buffer => exact absurd (Option.some.inj reported).symm failed
  | methodResult argument => exact ⟨rfl, rfl⟩
  | methodVoidFfiError => exact ⟨rfl, rfl⟩
  | methodMutSelfRef source target => cases source <;> cases target <;> cases reported
  | methodMutSelfRefSlice source target buffer =>
    cases source <;> cases target <;> cases reported
  | methodMutSelfRefSliceLimited source target first second =>
    cases source <;> cases target <;> cases reported
  | methodValue argument => cases reported
  | methodVoid => cases reported
  | stats => cases reported
  | methodMutSelf buffer => cases reported
  | methodMutSelfVoid flags => cases reported
  | trueFlags => cases reported

/-- A byte that cannot be copied stays as it is, and zero is answered. -/
theorem copying_of_lacking {source target : Option UInt8}
    (lacks : (source.isNone || target.isNone) = true) :
    copying source target = .copied 0 target := by
  cases source with
  | none => rfl
  | some byte =>
    cases target with
    | none => rfl
    | some place => cases lacks

/-- A method of a service that lacks a byte has changed nothing. -/
theorem answer_of_lacksByte (lacks : call.lacksByte = true) :
    call.left object = object ∧ (call.answer object).left? = call.lent? ∧
      (call.answer object).returned? = if call.isVoid then none else some 0 := by
  cases call with
  | methodMutSelfRef source target =>
    rw [answer, copying_of_lacking lacks]
    exact ⟨rfl, rfl, rfl⟩
  | methodMutSelfRefSlice source target buffer =>
    rw [answer, copying_of_lacking lacks]
    exact ⟨rfl, rfl, rfl⟩
  | methodMutSelfRefSliceLimited source target first second =>
    rw [answer, copying_of_lacking lacks]
    exact ⟨rfl, rfl, rfl⟩
  | _ => cases lacks

end ServiceCall

theorem orderly_service (sound : Sound kinds state.slots state.heap) {name : Option String}
    {call : ServiceCall} (fits : (Step.service name call).Fits kinds) :
    Orderly state (.service name call) := by
  have creates : ∀ other factory, Step.service name call ≠ .create other factory :=
    fun _ _ => Step.noConfusion
  have destroys : ∀ other kind, Step.service name call ≠ .destroy other kind :=
    fun _ _ => Step.noConfusion
  rcases advance_service_cases sound fits with ⟨empty, ended⟩ | ⟨object, named, found, ended⟩
  · refine orderly_of_method creates destroys ?_ ?_
    · intro status reported failed
      rw [ended]
      exact ⟨rfl, call.left?_unanswered⟩
    · rintro ⟨free, -⟩
      rw [ended]
      exact ⟨rfl, call.left?_unanswered, call.returned?_unanswered free⟩
  · have unchanged (same : call.left object = object) :
        (advance state (.service name call)).2 = state := by
      rw [ended, same, Heap.setService_eq_self found]
    refine orderly_of_method creates destroys ?_ ?_
    · intro status reported failed
      rw [ended] at reported
      rcases call.answer_refused reported failed with ⟨same, left⟩
      refine ⟨unchanged same, ?_⟩
      rw [ended]
      exact left
    · rintro ⟨-, empty | lacks⟩
      · exact absurd empty named
      · rcases call.answer_of_lacksByte lacks with ⟨same, left, returned⟩
        refine ⟨unchanged same, ?_⟩
        rw [ended]
        exact ⟨left, returned⟩

theorem orderly_plain (sound : Sound kinds state.slots state.heap) {name : Option String}
    {call : PlainCall} (fits : (Step.plain name call).Fits kinds) :
    Orderly state (.plain name call) := by
  have creates : ∀ other factory, Step.plain name call ≠ .create other factory :=
    fun _ _ => Step.noConfusion
  have destroys : ∀ other kind, Step.plain name call ≠ .destroy other kind :=
    fun _ _ => Step.noConfusion
  rcases advance_plain_cases sound fits with ⟨empty, ended⟩ | ⟨object, named, found, ended⟩
  · refine orderly_of_method creates destroys ?_ ?_
    · intro status reported failed
      rw [ended]
      refine ⟨rfl, ?_⟩
      cases call <;> rfl
    · intro muted
      rw [ended]
      cases call with
      | result argument => exact muted.elim
      | value argument => exact ⟨rfl, rfl, rfl⟩
      | mutSelf argument => exact ⟨rfl, rfl, rfl⟩
      | extraMethod => exact ⟨rfl, rfl, rfl⟩
  · refine orderly_of_method creates destroys ?_ ?_
    · intro status reported failed
      rw [ended] at reported
      cases call with
      | result argument => exact absurd (Option.some.inj reported).symm failed
      | value argument => cases reported
      | mutSelf argument => cases reported
      | extraMethod => cases reported
    · intro muted
      cases call with
      | result argument => exact muted.elim
      | value argument => exact absurd muted named
      | mutSelf argument => exact absurd muted named
      | extraMethod => exact absurd muted named

/-- No call without an object tells of a place that a method may write to. -/
theorem left?_free (call : FreeCall) : (advance state (.free call)).1.left? = none := by
  cases call <;> rfl

theorem orderly_free (call : FreeCall) : Orderly state (.free call) := by
  refine orderly_of_method (fun _ _ => Step.noConfusion) (fun _ _ => Step.noConfusion) ?_ ?_
  · intro status reported failed
    exact ⟨advance_free state call, left?_free call⟩
  · exact False.elim

/-- In a state in which slots and objects are in order, every step that fits is orderly. -/
theorem Sound.orderly (sound : Sound kinds state.slots state.heap) {step : Step}
    (fits : step.Fits kinds) : Orderly state step := by
  cases step with
  | create name factory => exact orderly_create sound name factory
  | destroy name kind => exact orderly_destroy sound fits
  | service name call => exact orderly_service sound fits
  | plain name call => exact orderly_plain sound fits
  | free call => exact orderly_free call

/-! ## Runs -/

/-- Steps that fit keep slots and objects in order; what they destroy was there before, is gone
afterwards, and is destroyed once. -/
theorem Sound.run (sound : Sound kinds state.slots state.heap) {steps : List Step}
    (fits : ∀ step ∈ steps, step.Fits kinds) :
    Sound kinds (reach state steps).slots (reach state steps).heap ∧
      (destroyed state steps).Nodup ∧
      (∀ handle ∈ destroyed state steps,
        ¬ Gone state.heap handle ∧ Gone (reach state steps).heap handle) ∧
      ∀ handle, Gone state.heap handle → Gone (reach state steps).heap handle := by
  induction steps generalizing state with
  | nil =>
    refine ⟨sound, List.nodup_nil, ?_, fun _ before => before⟩
    intro handle member
    cases member
  | cons step rest hypothesis =>
    have move := sound.advance_move (fits step List.mem_cons_self)
    have fitsRest : ∀ later ∈ rest, later.Fits kinds :=
      fun later member => fits later (List.mem_cons_of_mem _ member)
    rcases sound.gone_move move with ⟨once, first⟩
    rcases hypothesis (sound.move move) fitsRest with ⟨last, onceLater, later, stays⟩
    refine ⟨last, List.nodup_append.mpr ⟨once, onceLater, ?_⟩, ?_, ?_⟩
    · intro handle member other memberLater same
      subst same
      exact (later handle memberLater).1 (first handle member).2
    · intro handle member
      rcases List.mem_append.mp member with now | afterwards
      · exact ⟨(first handle now).1, stays handle (first handle now).2⟩
      · rcases later handle afterwards with ⟨present, ended⟩
        exact ⟨fun before => present (before.move move), ended⟩
    · intro handle before
      exact stays handle (before.move move)

/-- Along every run of direct calls that uses each slot for one kind of object, every call is
orderly: it does all that it says or nothing.  No two slots hold the same handle, every slot that
is not null holds the handle of an object of its kind, no slot holds the handle of an object that
was destroyed, and none is destroyed twice. -/
theorem no_call_changes_half (kinds : String → ObjectKind) (steps : List Step)
    (fits : ∀ step ∈ steps, step.Fits kinds) :
    (Direct.steps Reference.table .empty steps).run .empty =
        ((answers .start steps, (reach .start steps).slots), (reach .start steps).heap) ∧
      (∀ before step rest, steps = before ++ step :: rest →
        Orderly (reach .start before) step) ∧
      (∀ before rest, steps = before ++ rest →
        (∀ name other, (reach .start before).slots name = (reach .start before).slots other →
          (reach .start before).slots name ≠ .null → name = other) ∧
        (∀ name, (reach .start before).slots name ≠ .null →
          ∃ object,
            (reach .start before).heap.object? (kinds name) ((reach .start before).slots name) =
              some object) ∧
        ∀ name, (reach .start before).slots name ∉ destroyed .start before) ∧
      (destroyed .start steps).Nodup := by
  have prefixes {before rest : List Step} (split : steps = before ++ rest) :
      ∀ step ∈ before, step.Fits kinds :=
    fun step member => fits step (split ▸ List.mem_append_left rest member)
  have started : Sound kinds State.start.slots State.start.heap := sound_start kinds
  refine ⟨run_steps .start steps, ?_, ?_, (started.run fits).2.1⟩
  · intro before step rest split
    have sound := (started.run (prefixes split)).1
    exact sound.orderly (fits step (split ▸ List.mem_append_right before List.mem_cons_self))
  · intro before rest split
    rcases started.run (prefixes split) with ⟨sound, -, ended, -⟩
    refine ⟨sound.distinct, ?_, ?_⟩
    · intro name named
      exact Option.isSome_iff_exists.mp (sound.alive name named)
    · intro name member
      exact sound.not_gone name (ended _ member).2

/-- A slot that is filled twice, so that its first object stays behind, is emptied once although it
is asked for twice; a method of the empty slot fails, as does a factory without a slot. -/
def overwriting : List Step :=
  [.create (some "first") (.serviceWith 3), .create (some "first") (.serviceFailing 5),
    .create (some "second") .plain, .destroy (some "first") .service,
    .destroy (some "first") .service, .service (some "first") .stats,
    .plain (some "second") (.mutSelf 9), .create none .serviceWithout,
    .destroy (some "second") .plain]

theorem no_call_changes_half_overwriting :
    (∀ step ∈ overwriting,
      step.Fits fun name => if name = "second" then .plain else .service) ∧
      (∀ before step rest, overwriting = before ++ step :: rest →
        Orderly (reach .start before) step) ∧
      destroyed .start overwriting = [⟨2⟩, ⟨3⟩] := by
  have fits :
      ∀ step ∈ overwriting,
        step.Fits fun name => if name = "second" then .plain else .service := by
    simp [overwriting, Step.Fits, Factory.kind]
  exact ⟨fits, (no_call_changes_half _ overwriting fits).2.1, rfl⟩

end NativeBoundary.Direct
