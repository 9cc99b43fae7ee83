import NativeBoundary.Direct.Call
import NativeBoundary.Proofs.Lending.Texts
import NativeBoundary.Proofs.Ownership.ExactlyOnce

/-!
# Statuses decide the results of calls

A fallible export reports a word of 32 bits, and nothing else decides whether the call
succeeds: zero does, and any other word comes back in the error as it was reported,
whether or not it has a name.  A factory must write a handle besides.  What fails before or
behind a status, a text that is refused or a discriminant that names no case, carries no
status at all.  A handle that was written with success is the one that every later call is
given, until the object is destroyed.
-/

namespace NativeBoundary

open NativeBoundary.Word

variable {W α β : Type}

/-- A result succeeds under one condition, and otherwise its error carries one code. -/
structure Decided (result : CallResult α) (succeeds : Prop) (code : Int32) : Prop where
  ok_iff : (∃ value, result = .ok value) ↔ succeeds
  carries : ∀ error, result = .error error →
    error = .callFailed ⟨code⟩ ∧ error.status? = some ⟨code⟩

/-- A result fails under one condition, and its error carries no status. -/
structure FailsUntold (result : CallResult α) (fails : Prop) : Prop where
  error_iff : (∃ error, result = .error error) ↔ fails
  untold : ∀ error, result = .error error → error.status? = none

namespace Decided

variable {succeeds : Prop} {code : Int32}

theorem ok (value : α) (condition : succeeds) : Decided (.ok value) succeeds code :=
  ⟨iff_of_true ⟨value, rfl⟩ condition, nofun⟩

theorem callFailed (condition : ¬ succeeds) :
    Decided (.error (.callFailed ⟨code⟩) : CallResult α) succeeds code := by
  refine ⟨iff_of_false (by simp) condition, ?_⟩
  rintro error ⟨⟩
  exact ⟨rfl, rfl⟩

theorem eq_error {result : CallResult α} (decided : Decided result succeeds code)
    (condition : ¬ succeeds) : result = .error (.callFailed ⟨code⟩) := by
  cases result with
  | ok value => exact absurd (decided.ok_iff.mp ⟨value, rfl⟩) condition
  | error error => exact congrArg Except.error (decided.carries error rfl).1

/-- What is made of the value plays no part. -/
theorem map {result : CallResult α} (decided : Decided result succeeds code) (make : α → β) :
    Decided (result.map make) succeeds code := by
  by_cases condition : succeeds
  · rcases decided.ok_iff.mpr condition with ⟨value, rfl⟩
    exact ok (make value) condition
  · rw [decided.eq_error condition]
    exact callFailed condition

end Decided

namespace FailsUntold

variable {fails : Prop}

theorem ok (value : α) (condition : ¬ fails) : FailsUntold (.ok value) fails :=
  ⟨iff_of_false (by simp) condition, nofun⟩

theorem error {error : CallError} (untold : error.status? = none) (condition : fails) :
    FailsUntold (.error error : CallResult α) fails := by
  refine ⟨iff_of_true ⟨error, rfl⟩ condition, ?_⟩
  rintro error ⟨⟩
  exact untold

end FailsUntold

/-! ## What a status decides -/

theorem Status.isOk_iff (code : Int32) : (⟨code⟩ : Status).isOk = true ↔ code = 0 := by
  simp [Status.isOk, Status.ok]

/-- A status is translated without loss. -/
theorem Status.toResult_decided (code : Int32) :
    Decided (⟨code⟩ : Status).toResult (code = 0) code := by
  by_cases zero : code = 0
  · rw [Status.toResult, if_pos ((Status.isOk_iff code).mpr zero)]
    exact .ok () zero
  · rw [Status.toResult, if_neg (mt (Status.isOk_iff code).mp zero)]
    exact .callFailed zero

/-- A factory makes an owner if it reports zero and writes a handle; zero without a handle counts as
a null pointer. -/
theorem Owner.ofFactory_decided (typeName : String) (code : Int32) (written : Handle) :
    Decided (Owner.ofFactory typeName ⟨code⟩ written) (code = 0 ∧ written ≠ .null)
      (if code = 0 then Status.null.code else code) := by
  by_cases zero : code = 0
  · have success : (⟨code⟩ : Status).toResult = .ok () :=
      (Status.toResult_eq_ok_iff ⟨code⟩).mpr (congrArg Status.mk zero)
    rw [Owner.ofFactory, success, if_pos zero]
    by_cases null : written = .null
    · subst null
      exact .callFailed fun condition => condition.2 rfl
    · have held : written.isNull = false := Handle.isNull_eq_false_iff.mpr null
      simp only [held]
      exact .ok _ ⟨zero, null⟩
  · have failure : (⟨code⟩ : Status).toResult = .error (.callFailed ⟨code⟩) :=
      if_neg (mt (Status.isOk_iff code).mp zero)
    rw [Owner.ofFactory, failure, if_neg zero]
    exact .callFailed fun condition => zero condition.1

/-- A discriminant is known up to two. -/
theorem Wire.SignClass.ofDiscriminant_failsUntold (value : UInt32) :
    FailsUntold (Wire.SignClass.ofDiscriminant value) (2 < value) := by
  fun_cases Wire.SignClass.ofDiscriminant value with
  | case1 zero | case2 _ one | case3 _ _ two =>
    subst value
    exact .ok _ (by decide)
  | case4 notZero notOne notTwo =>
    refine .error rfl ?_
    grind

/-- A text is handed over unless it holds a zero character. -/
theorem Lending.handOver_cases (text : String) :
    ('\x00' ∈ text.toList ∧ ∃ error, handOver text = .error error ∧ error.status? = none) ∨
      ('\x00' ∉ text.toList ∧ ∃ bytes, handOver text = .ok bytes) := by
  by_cases member : '\x00' ∈ text.toList
  · rcases Text.exists_firstZeroAt member with ⟨position, first⟩
    exact .inl ⟨member, _, handOver_of_firstZeroAt first, rfl⟩
  · exact .inr ⟨member, _, handOver_of_absent member⟩

/-! ## Calls that answer with a status -/

/-- The calls whose whole result is a status, apart from the factories. -/
inductive StatusCall
  | methodResult (argument : UInt32)
  | methodVoidFfiError
  | methodMutSelfFfiError (buffer : List UInt8)
  | methodMutSelfNoError (buffer : List UInt8)
  | result (argument : UInt32)
  | destroy (kind : ObjectKind)
  | complexArgs1 (vector : Vector3) (given : Bool)
  | panics

namespace StatusCall

/-- Whether a call is made on an object. -/
def asksHandle : StatusCall → Bool
  | .complexArgs1 _ _ => false
  | .panics => false
  | _ => true

/-- What the export behind a call reports. -/
def reported (exports : Exports W) (handle : Handle) : StatusCall → StateM W Status
  | .methodResult argument => exports.simpleServiceMethodResult handle argument
  | .methodVoidFfiError => exports.simpleServiceMethodVoidFfiError handle
  | .methodMutSelfFfiError buffer =>
    Prod.fst <$> exports.simpleServiceMethodMutSelfFfiError handle (.lent buffer)
  | .methodMutSelfNoError buffer =>
    Prod.fst <$> exports.simpleServiceMethodMutSelfNoError handle (.lent buffer)
  | .result argument => exports.simpleClassResult handle argument
  | .destroy kind => Prod.fst <$> Direct.runDestroy exports (some handle) kind
  | .complexArgs1 vector given => exports.complexArgs1 vector given
  | .panics => exports.panics

/-- What the caller is answered. -/
def answered (gateway : Gateway W) (owner : Owner) : StatusCall → Crossing W (CallResult Unit)
  | .methodResult argument => Gateway.Service.methodResult gateway owner argument
  | .methodVoidFfiError => Gateway.Service.methodVoidFfiError gateway owner
  | .methodMutSelfFfiError buffer =>
    Prod.fst <$> Gateway.Service.methodMutSelfFfiError gateway owner buffer
  | .methodMutSelfNoError buffer =>
    Prod.fst <$> Gateway.Service.methodMutSelfNoError gateway owner buffer
  | .result argument => Gateway.Plain.result gateway owner argument
  | .destroy kind => Prod.fst <$> gateway.destroy ⟨kind, owner⟩
  | .complexArgs1 vector given => gateway.complexArgs1 vector given
  | .panics => gateway.panics

end StatusCall

namespace Gateway

open Crossing

variable (gateway : Gateway W) {world after : W}

/-- Work that reports a status beside something else, told from the status alone. -/
theorem exists_run_of_fst {work : StateM W (Status × β)} {status : Status}
    (ran : (Prod.fst <$> work).run world = (status, after)) :
    ∃ rest, work.run world = ((status, rest), after) := by
  rcases computed : work.run world with ⟨⟨own, rest⟩, left⟩
  have agree : (own, left) = (status, after) := by
    rw [← ran, StateT.run_map, computed]
    rfl
  cases agree
  exact ⟨rest, rfl⟩

theorem statusOnHandle_yields {owner : Owner} {handle : Handle} {symbol : Symbol}
    {work : Handle → StateM W Status} {status : Status} (live : owner.state = .live handle)
    (ran : (work handle).run world = (status, after)) :
    Yields (statusOnHandle owner symbol work) world status.toResult after :=
  (onHandle_yields live ran).bind (.pure _)

/-- A call that may change a buffer, told from its status alone. -/
theorem statusBesideBuffer_yields {owner : Owner} {handle : Handle} {symbol : Symbol}
    {work : Handle → StateM W (Status × Wire.Descriptor UInt8)} {status : Status}
    (lengths : List Nat) (live : owner.state = .live handle)
    (ran : (Prod.fst <$> work handle).run world = (status, after)) :
    Yields
      (Prod.fst <$> Lending.pinned lengths do
        let (status, left) ← onHandle owner symbol work
        pure (status.toResult, left.elements))
      world status.toResult after := by
  rcases exists_run_of_fst ran with ⟨left, computed⟩
  have called : Yields (onHandle owner symbol work) world (status, left) after :=
    onHandle_yields live computed
  have whole :
      Yields
        (onHandle owner symbol work >>= fun ended => pure (ended.1.toResult, ended.2.elements))
        world (status.toResult, left.elements) after := called.bind (.pure _)
  exact whole.pinned.map Prod.fst

/-- Every call answers the status that its export reports. -/
theorem answered_yields (call : StatusCall) {owner : Owner} {handle : Handle} {status : Status}
    (live : call.asksHandle = true → owner.state = .live handle)
    (ran : (call.reported gateway.exports handle).run world = (status, after)) :
    Yields (call.answered gateway owner) world status.toResult after := by
  cases call with
  | methodResult argument => exact statusOnHandle_yields (live rfl) ran
  | methodVoidFfiError => exact statusOnHandle_yields (live rfl) ran
  | methodMutSelfFfiError buffer => exact statusBesideBuffer_yields [buffer.length] (live rfl) ran
  | methodMutSelfNoError buffer => exact statusBesideBuffer_yields [buffer.length] (live rfl) ran
  | result argument => exact statusOnHandle_yields (live rfl) ran
  | destroy kind =>
    rcases exists_run_of_fst ran with ⟨slot, computed⟩
    have whole :
        Yields (gateway.destroy ⟨kind, owner⟩) world
          (status.toResult, ⟨kind, { owner with state := .destroyed }⟩) after :=
      (gateway.ownerDestroy_yields (live rfl) computed).bind (.pure _)
    exact whole.map Prod.fst
  | complexArgs1 vector given => exact (Yields.native ran).bind (.pure _)
  | panics => exact (Yields.native ran).bind (.pure _)

theorem delivered?_eq {factory : Factory} {session : Session W} {status : Status} {slot : Slot}
    (ran :
      (Direct.runFactory gateway.exports (some .null) factory).run session.world =
        ((status, slot), after)) :
    gateway.delivered? factory session = Owner.delivered? status slot := by
  rcases gateway.runFactory_yields ran session.journal with ⟨left, returned⟩
  simp only [delivered?]
  rw [returned]

theorem documented_yields (number : Single) (world : W) :
    ∃ result after,
      Yields (gateway.documented number) world result after ∧
        FailsUntold result (2 < ((gateway.exports.documented number).run world).1) := by
  rcases computed : (gateway.exports.documented number).run world with ⟨discriminant, after⟩
  exact
    ⟨Wire.SignClass.ofDiscriminant discriminant, after, (Yields.native computed).bind (.pure _),
      Wire.SignClass.ofDiscriminant_failsUntold discriminant⟩

theorem asciiPointer1_yields (text : String) (world : W) :
    ∃ result after,
      Yields (gateway.asciiPointer1 text) world result after ∧
        FailsUntold result ('\x00' ∈ text.toList) := by
  rcases Lending.handOver_cases text with
    ⟨member, error, refused, untold⟩ | ⟨absent, bytes, crossed⟩
  · refine ⟨.error error, world, ?_, .error untold member⟩
    rw [asciiPointer1, refused]
    exact .pure _
  · rcases computed :
      (gateway.exports.patternAsciiPointer1 (some bytes)).run world with ⟨length, after⟩
    refine ⟨.ok length, after, ?_, .ok length absent⟩
    rw [asciiPointer1, crossed]
    exact (Yields.native computed).bind (.pure _)

theorem asciiPointerLen_yields (first second : String) (world : W) :
    ∃ result after,
      Yields (gateway.asciiPointerLen first second) world result after ∧
        FailsUntold result ('\x00' ∈ first.toList ∨ '\x00' ∈ second.toList) := by
  rcases Lending.handOver_cases first with
    ⟨member, error, refused, untold⟩ | ⟨firstAbsent, firstBytes, firstCrossed⟩
  · refine ⟨.error error, world, ?_, .error untold (.inl member)⟩
    rw [asciiPointerLen, refused]
    exact .pure _
  · rcases Lending.handOver_cases second with
      ⟨member, error, refused, untold⟩ | ⟨absent, bytes, crossed⟩
    · refine ⟨.error error, world, ?_, .error untold (.inr member)⟩
      rw [asciiPointerLen, firstCrossed, refused]
      exact .pure _
    · rcases computed :
        (gateway.exports.patternAsciiPointerLen (some firstBytes) (some bytes)).run world with
        ⟨length, after⟩
      refine ⟨.ok length, after, ?_, .ok length (not_or.mpr ⟨firstAbsent, absent⟩)⟩
      rw [asciiPointerLen, firstCrossed, crossed]
      exact (Yields.native computed).bind (.pure _)

/-! ## The main statement -/

/-- Over every table and from every state of its library, the word that an export reports decides
the result of the call alone: it succeeds exactly if the word is zero, and otherwise the error
carries the very word.  A factory must have written a handle as well, and one that reports zero
without a handle fails with the code of a null pointer.  Errors of other origin carry no status.

In every run, a handle that a factory wrote with the word zero is what a call on the object is
given, after any later steps, until one of them destroys the object. -/
theorem statuses_decide_results (gateway : Gateway W) :
    (∀ (call : StatusCall) (owner : Owner) (handle : Handle) (code : Int32) (world after : W),
      (call.asksHandle = true → owner.state = .live handle) →
      (call.reported gateway.exports handle).run world = (⟨code⟩, after) →
        ∃ result,
          Yields (call.answered gateway owner) world result after ∧
            Decided result (code = 0) code) ∧
    (∀ (factory : Factory) (code : Int32) (slot : Slot) (world after : W),
      (Direct.runFactory gateway.exports (some .null) factory).run world =
          ((⟨code⟩, slot), after) →
        ∃ result,
          Yields (gateway.create factory) world result after ∧
            Decided result (code = 0 ∧ slot.getD .null ≠ .null)
              (if code = 0 then Status.null.code else code)) ∧
    (∀ (first second : String) (number : Single) (world : W),
      (∃ result after,
        Yields (gateway.asciiPointer1 first) world result after ∧
          FailsUntold result ('\x00' ∈ first.toList)) ∧
      (∃ result after,
        Yields (gateway.asciiPointerLen first second) world result after ∧
          FailsUntold result ('\x00' ∈ first.toList ∨ '\x00' ∈ second.toList)) ∧
      ∃ result after,
        Yields (gateway.documented number) world result after ∧
          FailsUntold result (2 < ((gateway.exports.documented number).run world).1)) ∧
    ∀ (session : Session W) (earlier later : List Step) (name : String) (factory : Factory)
      (handle : Handle) (after : W),
      let reached := gateway.reach ⟨[], session⟩ earlier
      (Direct.runFactory gateway.exports (some .null) factory).run reached.session.world =
          ((⟨0⟩, some handle), after) →
      handle ≠ .null →
      (∀ step ∈ later, step.givesAway name = false) →
        ∃ object,
          (gateway.reach reached (.create name factory :: later)).objects.get? name =
              some object ∧
            object.kind = factory.kind ∧
            ∀ asking : Session W,
              object.owner.handle.run asking =
                (if later.any (·.destroys name factory.kind) then
                    .panicked (Owner.usedAfterDestroy factory.kind.typeName)
                  else .returned handle, asking) := by
  refine ⟨?_, ?_, ?_, ?_⟩
  · intro call owner handle code world after live ran
    exact ⟨_, gateway.answered_yields call live ran, Status.toResult_decided code⟩
  · intro factory code slot world after ran
    exact ⟨_, gateway.create_yields ran, (Owner.ofFactory_decided _ code _).map _⟩
  · intro first second number world
    exact
      ⟨gateway.asciiPointer1_yields first world, gateway.asciiPointerLen_yields first second world,
        gateway.documented_yields number world⟩
  · intro session earlier later name factory handle after reached ran held leaves
    have distinct : reached.objects.Distinct :=
      gateway.reach_distinct Objects.distinct_nil earlier
    have delivered : gateway.delivered? factory reached.session = some handle := by
      rw [gateway.delivered?_eq ran, Owner.delivered?]
      have named : handle.isNull = false := Handle.isNull_eq_false_iff.mpr held
      simp [Option.filter, Status.isOk, Status.ok, named]
    rcases gateway.advance_create_delivered delivered with
      ⟨made, advanced, -⟩
    have found :
        (gateway.advance reached (.create name factory)).2.objects.get? name =
          some ⟨factory.kind, factory.kind.typeName, .live handle⟩ := by
      rw [advanced]
      exact distinct.get?_insert_same
    refine
      ⟨_, gateway.reach_get?_live (gateway.advance_distinct _ distinct) found later leaves, rfl,
        fun asking => ?_⟩
    cases later.any (·.destroys name factory.kind) <;> rfl

/-- The reference library with a status that has no name, which two factories report besides
writing a handle. -/
def unnamed : Gateway Reference.Heap :=
  ⟨Overrides.apply { status := some ⟨-7⟩, factoryWithHandle := some ⟨-7⟩ } Reference.table, false⟩

/-- Two calls that fail with that status, and a handle that stays until its object is destroyed. -/
theorem statuses_decide_results_unnamed :
    let owner : Owner := ⟨"SimpleService", .live ⟨1⟩⟩
    let earlier : List Step := [.create "first" .serviceWithout]
    let later : List Step := [.service "second" .methodVoidFfiError, .destroy "first" .service]
    let asking : Session Reference.Heap := ⟨.empty, []⟩
    ((StatusCall.methodResult 3).asksHandle = true → owner.state = .live ⟨1⟩) ∧
      Yields (Service.methodResult unnamed owner 3) .empty (.error (.callFailed ⟨-7⟩)) .empty ∧
      (∃ after,
        Yields (unnamed.create (.serviceWith 5)) .empty (.error (.callFailed ⟨-7⟩)) after) ∧
      (∀ step ∈ later, step.givesAway "second" = false) ∧
      ∃ object,
        (unnamed.reach (unnamed.reach ⟨[], asking⟩ earlier)
            (.create "second" .serviceWithout :: later)).objects.get? "second" = some object ∧
          object.owner.handle.run asking = (.returned ⟨2⟩, asking) := by
  intro owner earlier later asking
  have leaves : ∀ step ∈ later, step.givesAway "second" = false := by decide
  rcases statuses_decide_results unnamed with ⟨calls, factories, -, live⟩
  rcases calls (.methodResult 3) owner ⟨1⟩ (-7) .empty .empty (fun _ => rfl) rfl with
    ⟨result, called, decided⟩
  rcases factories (.serviceWith 5) (-7) (some ⟨1⟩) .empty _ rfl with
    ⟨made, created, refused⟩
  rcases live asking earlier later "second" .serviceWithout ⟨2⟩ _ rfl (by decide) leaves with
    ⟨object, found, -, asked⟩
  have failed : result = .error (.callFailed ⟨-7⟩) := decided.eq_error (by decide)
  have fails : made = .error (.callFailed ⟨-7⟩) := refused.eq_error (by decide)
  subst failed
  subst fails
  exact ⟨fun _ => rfl, called, ⟨_, created⟩, leaves, object, found, asked asking⟩

end Gateway

end NativeBoundary
