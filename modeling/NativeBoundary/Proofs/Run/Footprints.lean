import NativeBoundary.Gateway.Loaded
import NativeBoundary.Gateway.Run
import NativeBoundary.Host

/-!
# What computations add to the journal

A computation at the boundary does not look into the journal.  What it answers and how
it changes the state of the library are the same under every journal, and so are the
entries that it puts in front.  A computation stays within some exports if these entries
call no others, raise records under the targets of this library alone, and set nothing
up.

The main statements say this of everything that is done through a gateway: of plain
calls and methods, of objects that are made, destroyed and let go, of whole steps, and
of gateways that are established and libraries that are loaded.  The guard, the
factories and the destroy exports are reserved: no plain call and no method of an object
reaches one of them.
-/

namespace NativeBoundary

/-- The exports that only the life of an object and the guard are about. -/
def Symbol.isReserved : Symbol → Bool
  | .surfaceGuard => true
  | .simpleServiceNewWith => true
  | .simpleServiceNewWithout => true
  | .simpleServiceNewFailing => true
  | .simpleServiceDestroy => true
  | .simpleClassCreate => true
  | .simpleClassDestroy => true
  | _ => false

/-- An export that a plain call or a method may reach. -/
abbrev Symbol.IsFree (symbol : Symbol) : Prop :=
  symbol.isReserved = false

/-- The guard is not free. -/
theorem Symbol.IsFree.ne_guard {symbol : Symbol} (free : symbol.IsFree) :
    symbol ≠ .surfaceGuard := by
  rintro rfl
  cases free

theorem Symbol.not_isFree_of_isReserved {symbol : Symbol} (reserved : symbol.isReserved = true) :
    ¬ symbol.IsFree :=
  fun free => Bool.false_ne_true (free.symm.trans reserved)

theorem ObjectKind.isReserved_destroySymbol (kind : ObjectKind) :
    kind.destroySymbol.isReserved = true := by
  cases kind <;> rfl

/-- Whether a record was raised under a target of this library. -/
def Log.Record.IsOwn (record : Log.Record) : Prop :=
  ∃ source : Log.Source, record.target = source.target

/-- An entry that calls some exports at most: its record is one of this library, and it sets
nothing up. -/
def Entry.IsWithin (calls : Symbol → Prop) : Entry → Prop
  | .called symbol _ => calls symbol
  | .looked _ => True
  | .raised record => record.IsOwn
  | .configured _ => False

theorem Entry.IsWithin.imp {first second : Symbol → Prop} {entry : Entry}
    (within : entry.IsWithin first) (further : ∀ symbol, first symbol → second symbol) :
    entry.IsWithin second := by
  cases entry with
  | called symbol handle => exact further symbol within
  | looked symbol => trivial
  | raised record => exact within
  | configured part => exact within

variable {W α β : Type} {calls : Symbol → Prop}

namespace Crossing

/-- A computation that does the same under every journal and adds entries within some exports. -/
def Within (calls : Symbol → Prop) (body : Crossing W α) : Prop :=
  ∀ world, ∃ outcome after added, (∀ entry ∈ added, Entry.IsWithin calls entry) ∧
    ∀ journal, body.run ⟨world, journal⟩ = (outcome, ⟨after, added ++ journal⟩)

namespace Within

theorem resume (outcome : Outcome α) : Within calls (Crossing.resume outcome : Crossing W α) :=
  fun world => ⟨outcome, world, [], List.forall_mem_nil _, fun _ => rfl⟩

theorem pure (value : α) : Within calls (Pure.pure value : Crossing W α) :=
  resume (.returned value)

theorem panic (message : String) : Within calls (Crossing.panic message : Crossing W α) :=
  resume (.panicked message)

theorem note {entry : Entry} (within : entry.IsWithin calls) :
    Within calls (Crossing.note entry : Crossing W Unit) := by
  intro world
  refine ⟨.returned (), world, [entry], ?_, fun _ => rfl⟩
  intro added member
  rwa [List.mem_singleton.mp member]

theorem raise {record : Log.Record} (own : record.IsOwn) :
    Within calls (Crossing.raise record : Crossing W Unit) :=
  note own

theorem inside (work : StateM W α) : Within calls (Crossing.inside work) :=
  fun world =>
    ⟨.returned (work.run world).1, (work.run world).2, [], List.forall_mem_nil _, fun _ => rfl⟩

theorem bind {first : Crossing W α} {next : α → Crossing W β} (within : Within calls first)
    (rest : ∀ value, Within calls (next value)) : Within calls (first >>= next) := by
  intro world
  rcases within world with ⟨outcome, between, added, fits, ran⟩
  cases outcome with
  | panicked message =>
    refine ⟨.panicked message, between, added, fits, fun journal => ?_⟩
    rw [run_bind, ran]
  | returned value =>
    rcases rest value between with ⟨ended, after, further, fitsToo, ranOn⟩
    refine ⟨ended, after, further ++ added, ?_, fun journal => ?_⟩
    · exact List.forall_mem_append.mpr ⟨fitsToo, fits⟩
    · rw [run_bind, ran, List.append_assoc]
      exact ranOn (added ++ journal)

/-- A call of one of the exports. -/
theorem native {symbol : Symbol} {handle : Option Handle} {work : StateM W α}
    (allowed : calls symbol) : Within calls (Crossing.native symbol handle work) :=
  bind (note allowed) fun _ => inside work

/-- A call of an export that is not reserved. -/
theorem free {symbol : Symbol} {handle : Option Handle} {work : StateM W α}
    (free : symbol.isReserved = false) :
    Within Symbol.IsFree (Crossing.native symbol handle work) :=
  native free

theorem attempt {body : Crossing W α} (within : Within calls body) :
    Within calls (Crossing.attempt body) := by
  intro world
  rcases within world with ⟨outcome, after, added, fits, ran⟩
  refine ⟨.returned outcome, after, added, fits, fun journal => ?_⟩
  rw [run_attempt, ran]

/-- A walk over a list stays within what each of its steps stays within. -/
theorem foldlM {σ : Type} {step : σ → β → Crossing W σ}
    (within : ∀ state item, Within calls (step state item)) (items : List β) (first : σ) :
    Within calls (items.foldlM step first) := by
  induction items generalizing first with
  | nil => exact pure first
  | cons item rest hypothesis => exact bind (within first item) fun next => hypothesis next

/-- Pins are a matter of records alone. -/
theorem pinned {lengths : List Nat} {body : Crossing W α} (within : Within calls body) :
    Within calls (Lending.pinned lengths body) := by
  refine bind (bind ?_ fun held => bind within.attempt fun outcome => bind ?_ fun left => pure _)
    fun ended => resume ended.1
  · exact foldlM (fun pins length => bind (raise ⟨.lending, rfl⟩) fun _ => pure _) lengths
      Lending.Pins.none
  · exact foldlM (fun pins _ => bind (raise ⟨.lending, rfl⟩) fun _ => pure _) lengths held

/-- What works on one component of a state stays within the same exports on the whole of it. -/
theorem focus {V : Type} {get : V → W} {set : W → V → V} {body : Crossing W α}
    (within : Within calls body) : Within calls (Crossing.focus get set body) := by
  intro state
  rcases within (get state) with ⟨outcome, after, added, fits, ran⟩
  refine ⟨outcome, set after state, added, fits, fun journal => ?_⟩
  simp only [Crossing.focus, ran]

theorem imp {body : Crossing W α} {wider : Symbol → Prop} (within : Within calls body)
    (further : ∀ symbol, calls symbol → wider symbol) : Within wider body := by
  intro world
  rcases within world with ⟨outcome, after, added, fits, ran⟩
  exact ⟨outcome, after, added, fun entry member => (fits entry member).imp further, ran⟩

end Within

end Crossing

namespace Gateway

open Crossing

variable (gateway : Gateway W)

/-! ## Calls and methods -/

theorem onHandle_within {owner : Owner} {called : Symbol} {work : Handle → StateM W α}
    (free : called.isReserved = false) : Within Symbol.IsFree (onHandle owner called work) := by
  refine Within.bind ?_ fun handle => Within.free free
  unfold Owner.handle
  cases owner.state with
  | live handle => exact Within.pure handle
  | destroyed => exact Within.panic _

/-- No call without an object reaches a reserved export. -/
theorem perform_within (call : Call) :
    Within Symbol.IsFree (gateway.perform call) := by
  cases call with
  | sleep seconds nanoseconds =>
    simp only [perform]
    split
    · exact ((Within.free rfl).bind fun _ => Within.pure _).bind fun _ => Within.pure _
    · exact Within.panic _
  | asciiPointer1 text =>
    refine Within.bind ?_ fun _ => Within.pure _
    unfold asciiPointer1
    cases Lending.handOver text with
    | error error => exact Within.pure _
    | ok bytes => exact (Within.free rfl).bind fun _ => Within.pure _
  | asciiPointerLen first second =>
    refine Within.bind ?_ fun _ => Within.pure _
    unfold asciiPointerLen
    cases Lending.handOver first with
    | error error => exact Within.pure _
    | ok firstBytes =>
      cases Lending.handOver second with
      | error error => exact Within.pure _
      | ok secondBytes => exact (Within.free rfl).bind fun _ => Within.pure _
  | ffiSlice1 elements =>
    exact (Within.pinned (Within.free rfl)).bind fun _ => Within.pure _
  | ffiSlice2 elements index =>
    exact (Within.pinned (Within.free rfl)).bind fun _ => Within.pure _
  | ffiSlice4 source target | ffiSlice5 source target =>
    exact
      (Within.pinned ((Within.free rfl).bind fun _ => Within.pure _)).bind
        fun _ => Within.pure _
  | documented _ | complexArgs1 _ _ | panics | option1 _ | ffiBool _ =>
    exact ((Within.free rfl).bind fun _ => Within.pure _).bind fun _ => Within.pure _
  | summaries => exact Within.pure _
  | _ => exact (Within.free rfl).bind fun _ => Within.pure _

/-- No method of a service reaches a reserved export. -/
theorem performService_within (owner : Owner) (call : ServiceCall) :
    Within Symbol.IsFree (gateway.performService owner call) := by
  cases call with
  | methodResult _ | methodVoidFfiError | methodMutSelfRef _ _ =>
    exact ((onHandle_within rfl).bind fun _ => Within.pure _).bind fun _ => Within.pure _
  | methodMutSelf _ | methodMutSelfVoid _ =>
    exact (Within.pinned (onHandle_within rfl)).bind fun _ => Within.pure _
  | methodMutSelfRefSlice _ _ _ | methodMutSelfRefSliceLimited _ _ _ _
  | methodMutSelfFfiError _ | methodMutSelfNoError _ =>
    exact
      (Within.pinned ((onHandle_within rfl).bind fun _ => Within.pure _)).bind
        fun _ => Within.pure _
  | methodValue _ | methodVoid | stats | trueFlags =>
    exact (onHandle_within rfl).bind fun _ => Within.pure _

/-- No method of a plain instance reaches a reserved export. -/
theorem performPlain_within (owner : Owner) (call : PlainCall) :
    Within Symbol.IsFree (gateway.performPlain owner call) := by
  cases call with
  | result _ =>
    exact ((onHandle_within rfl).bind fun _ => Within.pure _).bind fun _ => Within.pure _
  | value _ | mutSelf _ | extraMethod =>
    exact (onHandle_within rfl).bind fun _ => Within.pure _

/-! ## Objects -/

theorem runFactory_within (factory : Factory) (slot : Slot) :
    Within (· ≠ .surfaceGuard) (gateway.runFactory factory slot) := by
  cases factory <;> exact Within.native Symbol.noConfusion

theorem runDestroy_within (kind : ObjectKind) (handle : Handle) :
    Within (· ≠ .surfaceGuard) (gateway.runDestroy kind handle) := by
  cases kind <;> exact Within.native Symbol.noConfusion

theorem isOwn_factoryRecord (typeName : String) (status : Status) (written : Handle) :
    (Owner.factoryRecord typeName status written).IsOwn := by
  refine ⟨.handles, ?_⟩
  unfold Owner.factoryRecord
  cases status.isOk with
  | true => cases written.isNull <;> rfl
  | false => rfl

theorem create_within (factory : Factory) :
    Within (· ≠ .surfaceGuard) (gateway.create factory) := by
  refine Within.bind ?_ fun _ => Within.pure _
  refine Within.bind (gateway.runFactory_within factory _) fun _ => ?_
  exact Within.bind (Within.raise (isOwn_factoryRecord _ _ _)) fun _ => Within.pure _

/-- An owner that is destroyed calls nothing but the destroy export. -/
theorem ownerDestroy_within (owner : Owner) (kind : ObjectKind) :
    Within (· ≠ .surfaceGuard) (owner.destroy (gateway.runDestroy kind)) := by
  unfold Owner.destroy
  cases owner.state with
  | destroyed => exact Within.pure _
  | live handle =>
    refine Within.bind (gateway.runDestroy_within kind handle) fun _ => ?_
    exact Within.bind (Within.raise ⟨.handles, rfl⟩) fun _ => Within.pure _

theorem destroy_within (object : OwnedObject) :
    Within (· ≠ .surfaceGuard) (gateway.destroy object) :=
  Within.bind (gateway.ownerDestroy_within object.owner object.kind) fun _ => Within.pure _

theorem drop_within (object : OwnedObject) :
    Within (· ≠ .surfaceGuard) (gateway.drop object) := by
  refine Within.bind (gateway.ownerDestroy_within object.owner object.kind) fun ended => ?_
  rcases ended with ⟨result, owner⟩
  cases result with
  | ok value => exact Within.pure _
  | error error => exact Within.raise ⟨.handles, rfl⟩

/-! ## Steps -/

theorem onObject_within {objects : Objects} {name : String} {kind : ObjectKind}
    {work : OwnedObject → Crossing W (Reported × Objects)}
    (within : ∀ object, Within calls (work object)) :
    Within calls (onObject objects name kind work) := by
  unfold onObject
  cases objects.get? name with
  | none => exact Within.pure _
  | some object =>
    by_cases same : object.kind = kind
    · simp only [same, if_true]
      exact within object
    · simp only [same, if_false]
      exact Within.pure _

theorem replace_within (objects : Objects) (name : String) (factory : Factory) :
    Within (· ≠ .surfaceGuard) (gateway.replace objects name factory) := by
  refine Within.bind (gateway.create_within factory) fun result => ?_
  cases result with
  | error error => exact Within.pure _
  | ok object =>
    cases objects.get? name with
    | none =>
      simp only
      exact Within.pure _
    | some old =>
      simp only
      exact Within.bind (gateway.drop_within old) fun _ => Within.pure _

/-- No step calls the guard. -/
theorem step_within (objects : Objects) (step : Step) :
    Within (· ≠ .surfaceGuard) (gateway.step objects step) := by
  cases step with
  | call call =>
    exact Within.bind ((gateway.perform_within call).imp fun _ => Symbol.IsFree.ne_guard) fun _ =>
      Within.pure _
  | create name factory => exact gateway.replace_within objects name factory
  | service name call =>
    exact onObject_within fun object =>
      Within.bind
        ((gateway.performService_within object.owner call).imp fun _ => Symbol.IsFree.ne_guard)
        fun _ => Within.pure _
  | plain name call =>
    exact onObject_within fun object =>
      Within.bind
        ((gateway.performPlain_within object.owner call).imp fun _ => Symbol.IsFree.ne_guard)
        fun _ => Within.pure _
  | isLive name kind => exact onObject_within fun object => Within.pure _
  | destroy name kind =>
    exact onObject_within fun object =>
      Within.bind (gateway.destroy_within object) fun _ => Within.pure _
  | drop name =>
    rw [step]
    cases objects.get? name with
    | none => exact Within.pure _
    | some object => exact Within.bind (gateway.drop_within object) fun _ => Within.pure _

/-! ## Gateways -/

theorem verify_within (actual : UInt64) :
    Within calls (Guard.verify actual : Crossing W (Except InitError Unit)) := by
  refine Within.bind (Within.raise ⟨.guard, ?_⟩) fun _ => Within.pure _
  unfold Guard.record
  by_cases same : actual = Surface.expectedHash
  · rw [if_pos same]
    rfl
  · rw [if_neg same]
    rfl

/-- A gateway is established by a call of the guard. -/
theorem establish_within (exports : Exports W) :
    Within (· = .surfaceGuard) (establish exports) := by
  refine Within.bind (Within.native rfl) fun actual => ?_
  exact (verify_within actual).bind fun _ => Within.pure _

theorem lookUp_within (image : Image) (symbol : Symbol) :
    Within calls (image.lookUp symbol : Crossing W (Except LoadError Unit)) :=
  Within.bind (Within.note trivial) fun _ => Within.pure _

theorem lookUpAll_within (image : Image) (symbols : List Symbol) :
    Within calls (image.lookUpAll symbols : Crossing W (Except LoadError Unit)) := by
  induction symbols with
  | nil => exact Within.pure _
  | cons symbol rest hypothesis =>
    refine Within.bind (lookUp_within image symbol) fun found => ?_
    cases found with
    | error error => exact Within.pure _
    | ok value => exact hypothesis

theorem askGuard_within (image : Image) :
    Within (· = .surfaceGuard) (image.askGuard : Crossing W (Except InitError Unit)) := by
  refine Within.bind (lookUp_within image .surfaceGuard) fun found => ?_
  cases found with
  | error error => exact Within.pure _
  | ok value => exact Within.bind (Within.native rfl) fun actual => verify_within actual

theorem ofImage_within {V : Type} (code : Exports W) (image : Image) :
    Within (· = .surfaceGuard)
      (ofImage code image : Crossing V (Except InitError (Gateway W))) := by
  refine Within.bind (askGuard_within image) fun asked => ?_
  cases asked with
  | error error => exact Within.pure _
  | ok value =>
    refine Within.bind (lookUpAll_within image Symbol.all) fun found => ?_
    cases found with
    | error error => exact Within.pure _
    | ok value => exact Within.pure _

/-- Opening a library calls nothing. -/
theorem searchPath_load_within (searchPath : SearchPath) (surroundings : Surroundings)
    (name : String) : Within calls (searchPath.load surroundings name) := by
  unfold SearchPath.load
  cases searchPath.resolve? surroundings name with
  | none => exact Within.pure _
  | some path =>
    refine Within.bind (Within.inside get) fun opened => ?_
    cases opened.find? path with
    | some library => exact Within.bind (Within.raise ⟨.loader, rfl⟩) fun _ => Within.pure _
    | none =>
      cases surroundings.image? path with
      | none => exact Within.pure _
      | some image =>
        exact Within.bind (Within.raise ⟨.loader, rfl⟩) fun _ =>
          Within.bind (Within.inside _) fun _ => Within.pure _

/-- A library is taken into use by a call of its guard. -/
theorem load_within (code : Exports W) (surroundings : Surroundings) (name : String)
    (extra : List Path) :
    Within (· = .surfaceGuard) (load code surroundings name extra) := by
  refine Within.bind (searchPath_load_within _ surroundings name) fun loaded => ?_
  cases loaded with
  | error error => exact Within.pure _
  | ok library =>
    refine Within.bind (ofImage_within code library.image) fun verified => ?_
    cases verified with
    | error error => exact Within.pure _
    | ok gateway => exact Within.bind (Within.raise ⟨.gateway, rfl⟩) fun _ => Within.pure _

end Gateway

end NativeBoundary
