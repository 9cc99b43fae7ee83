import NativeBoundary.Proofs.Lending.Counters
import NativeBoundary.Proofs.Ownership.ExactlyOnce

/-!
# Methods of destroyed objects

A method asks the owner of its object for the handle before it calls the library, so
a method of a destroyed object ends there: it panics, and all that it leaves behind
are the records of the pins that it took and gave back on its way out.  The main
statement says this for every method, wherever a run over any table stands, and that
an object counts as destroyed from the first attempt to destroy it, whatever status
was reported.
-/

namespace NativeBoundary

open NativeBoundary.Lending

variable {W α β : Type}

/-! ## Methods of both kinds of objects -/

/-- A method of an object, with its arguments. -/
inductive ObjectCall
  | service (call : ServiceCall)
  | plain (call : PlainCall)

/-- The lengths of the buffers that are pinned for a method of a service. -/
def ServiceCall.lengths : ServiceCall → List Nat
  | .methodMutSelf buffer => [buffer.length]
  | .methodMutSelfVoid values => [values.length]
  | .methodMutSelfRefSlice _ _ buffer => [buffer.length]
  | .methodMutSelfRefSliceLimited _ _ first second => [first.length, second.length]
  | .methodMutSelfFfiError buffer => [buffer.length]
  | .methodMutSelfNoError buffer => [buffer.length]
  | .methodResult _ => []
  | .methodValue _ => []
  | .methodVoid => []
  | .stats => []
  | .trueFlags => []
  | .methodMutSelfRef _ _ => []
  | .methodVoidFfiError => []

/-- What the caller's places hold that a method of a service may write to: the byte behind a
reference, or a buffer. -/
def ServiceCall.places : ServiceCall → List UInt8
  | .methodMutSelfRef _ target => [target]
  | .methodMutSelfRefSlice _ target _ => [target]
  | .methodMutSelfRefSliceLimited _ target _ _ => [target]
  | .methodMutSelfFfiError buffer => buffer
  | .methodMutSelfNoError buffer => buffer
  | _ => []

/-- What an answer tells of the caller's places. -/
def Answer.written? : Answer → Option (List UInt8)
  | .copied _ left => some [left]
  | .filled _ left => some left
  | _ => none

namespace ObjectCall

def kind : ObjectCall → ObjectKind
  | .service _ => .service
  | .plain _ => .plain

def lengths : ObjectCall → List Nat
  | .service call => call.lengths
  | .plain _ => []

def places : ObjectCall → List UInt8
  | .service call => call.places
  | .plain _ => []

/-- What the caller's places hold when a method is over: what the answer tells of them, and
without an answer what they held before. -/
def placesAfter (call : ObjectCall) : Reported → List UInt8
  | .ok answer => answer.written?.getD call.places
  | .error _ => call.places

/-- The step of a run that calls a method of the object under a name. -/
def step (name : String) : ObjectCall → Step
  | .service call => .service name call
  | .plain call => .plain name call

end ObjectCall

def Gateway.performMethod (gateway : Gateway W) (owner : Owner) :
    ObjectCall → Crossing W Reported
  | .service call => gateway.performService owner call
  | .plain call => gateway.performPlain owner call

/-! ## Computations that end in a panic -/

/-- Records are no calls. -/
theorem Session.callCount_told (session : Session W) (records : List Log.Record)
    (symbol : Symbol) :
    (session.told records).journal.callCount symbol = session.journal.callCount symbol := by
  have none : Journal.callCount (records.map Entry.raised).reverse symbol = 0 := by
    simp [Journal.callCount, List.countP_eq_zero]
  rw [told, Journal.callCount, List.countP_append]
  exact (congrArg (· + _) none).trans (Nat.zero_add _)

namespace Crossing

/-- Wherever it is started, a computation panics and leaves nothing behind but some records. -/
def Refuses (body : Crossing W α) (message : String) (records : List Log.Record) : Prop :=
  ∀ session, body.run session = (.panicked message, session.told records)

namespace Refuses

variable {message : String} {records : List Log.Record}

theorem panic (message : String) : Refuses (Crossing.panic message : Crossing W α) message [] :=
  fun _ => rfl

/-- What would come after a panic does not come. -/
theorem bind {first : Crossing W α} (refuses : Refuses first message records)
    (next : α → Crossing W β) : Refuses (first >>= next) message records := by
  intro session
  rw [run_bind, refuses session]

/-- Pins that are taken for a part that panics are given back on its way out. -/
theorem pinned {body : Crossing W α} (refuses : Refuses body message []) (lengths : List Nat) :
    Refuses (pinned lengths body) message
      (Guards.none.records (Guards.none.passing lengths)) := by
  intro session
  have ended := refuses (session.told (Guards.none.records (Guards.makings lengths)))
  have ran := Guards.run_pinnedOver Guards.none lengths body session
  simp only [ended, Session.told_told, List.append_nil] at ran
  rw [← Guards.records_append] at ran
  exact run_bind_of_returned ran

end Refuses

end Crossing

/-- After a part of a call, each of its pins was taken and given back once. -/
theorem Lending.Guards.pins_passing (lengths : List Nat) :
    (none.afterAll (none.passing lengths)).pins = ⟨0, lengths.length, lengths.length⟩ := by
  rcases none.allows_passing lengths with ⟨allowed, alive⟩
  have sound := sound_none.afterAll allowed
  have gone : (none.afterAll (none.passing lengths)).alive = [] := alive.eq_nil
  have made : (none.afterAll (none.passing lengths)).made = lengths.length := by
    have kept (guards : Guards) (chosen : List Nat) :
        (guards.afterAll (droppings chosen)).made = guards.made := by
      induction chosen generalizing guards with
      | nil => rfl
      | cons guard rest hypothesis => exact hypothesis (guards.after (.dropped guard))
    rw [passing, afterAll_append, ending, kept, afterAll_makings]
    exact Nat.zero_add _
  have balanced := sound.made_eq
  rw [gone, made, List.length_nil, Nat.zero_add] at balanced
  rw [pins, gone, made, ← balanced]
  rfl

namespace Gateway

variable (gateway : Gateway W) {owner : Owner}

/-! ## Methods of a destroyed owner -/

theorem onHandle_refuses (destroyed : owner.state = .destroyed) (symbol : Symbol)
    (work : Handle → StateM W α) :
    Crossing.Refuses (onHandle owner symbol work) (Owner.usedAfterDestroy owner.typeName) [] := by
  have asked :
      Crossing.Refuses (W := W) owner.handle (Owner.usedAfterDestroy owner.typeName) [] := by
    rw [Owner.handle, destroyed]
    exact .panic _
  exact asked.bind _

/-- A method of a destroyed service ends before the library is called. -/
theorem performService_refuses (destroyed : owner.state = .destroyed) (call : ServiceCall) :
    Crossing.Refuses (gateway.performService owner call)
      (Owner.usedAfterDestroy owner.typeName)
      (Guards.none.records (Guards.none.passing call.lengths)) := by
  cases call with
  | methodResult argument | methodVoidFfiError | methodMutSelfRef source target =>
    exact ((onHandle_refuses destroyed _ _).bind _).bind _
  | methodValue argument | methodVoid | stats | trueFlags =>
    exact (onHandle_refuses destroyed _ _).bind _
  | methodMutSelf buffer | methodMutSelfVoid values =>
    exact ((onHandle_refuses destroyed _ _).pinned _).bind _
  | methodMutSelfRefSlice source target buffer
  | methodMutSelfRefSliceLimited source target first second
  | methodMutSelfFfiError buffer | methodMutSelfNoError buffer =>
    exact (((onHandle_refuses destroyed _ _).bind _).pinned _).bind _

/-- A method of a destroyed plain instance does so without any pins. -/
theorem performPlain_refuses (destroyed : owner.state = .destroyed) (call : PlainCall) :
    Crossing.Refuses (gateway.performPlain owner call)
      (Owner.usedAfterDestroy owner.typeName) [] := by
  cases call with
  | result argument => exact ((onHandle_refuses destroyed _ _).bind _).bind _
  | value argument | mutSelf argument | extraMethod =>
    exact (onHandle_refuses destroyed _ _).bind _

theorem performMethod_refuses (destroyed : owner.state = .destroyed) (call : ObjectCall) :
    Crossing.Refuses (gateway.performMethod owner call)
      (Owner.usedAfterDestroy owner.typeName)
      (Guards.none.records (Guards.none.passing call.lengths)) := by
  cases call with
  | service call => exact gateway.performService_refuses destroyed call
  | plain call => exact gateway.performPlain_refuses destroyed call

/-- A step that calls a method of a destroyed object reports the panic, and the standing is the
same after it but for the records of the pins. -/
theorem advance_method_of_destroyed {standing : Standing W} {name : String}
    {object : OwnedObject} (found : standing.objects.get? name = some object)
    (destroyed : object.owner.state = .destroyed) (call : ObjectCall)
    (fits : call.kind = object.kind) :
    (gateway.advance standing (call.step name)).1.reported =
        .error (.panic (Owner.usedAfterDestroy object.owner.typeName)) ∧
      (gateway.advance standing (call.step name)).2 =
        ⟨standing.objects,
          standing.session.told (Guards.none.records (Guards.none.passing call.lengths))⟩ := by
  have does :
      gateway.step standing.objects (call.step name) =
        gateway.performMethod object.owner call >>= fun reported =>
          pure (reported, standing.objects) := by
    cases call with
    | service call =>
      have kind : object.kind = .service := fits.symm
      rw [ObjectCall.step, step, ← kind, onObject_found found]
      rfl
    | plain call =>
      have kind : object.kind = .plain := fits.symm
      rw [ObjectCall.step, step, ← kind, onObject_found found]
      rfl
  have ran :=
    ((gateway.performMethod_refuses destroyed call).bind fun reported =>
      pure (reported, standing.objects)) standing.session
  rw [advance, does, ran]
  exact ⟨rfl, rfl⟩

end Gateway

/-! ## Names of the types of objects -/

/-- Every object goes by the name of its kind. -/
def Objects.Titled (objects : Objects) : Prop :=
  ∀ name object, objects.get? name = some object → object.owner.typeName = object.kind.typeName

namespace Gateway

variable {gateway : Gateway W} {standing after : Standing W} {step : Step}

theorem Moves.titled (moves : gateway.Moves standing step after)
    (distinct : standing.objects.Distinct) (titled : standing.objects.Titled) :
    after.objects.Titled := by
  intro name object found
  cases moves with
  | kept nothing calls => exact titled name object found
  | @made other factory handle after delivered calls =>
    by_cases same : name = other
    · subst same
      rw [distinct.get?_insert_same] at found
      cases found
      rfl
    · rw [distinct.get?_insert_other same] at found
      exact titled name object found
  | @destroyed other destroyed after foundOther calls =>
    by_cases same : name = other
    · subst same
      rw [distinct.get?_insert_same] at found
      cases found
      exact titled name destroyed foundOther
    · rw [distinct.get?_insert_other same] at found
      exact titled name object found
  | @dropped other dropped after foundOther calls =>
    by_cases same : name = other
    · subst same
      rw [Objects.get?_erase_same] at found
      cases found
    · rw [distinct.get?_erase_other same] at found
      exact titled name object found

theorem reach_titled (gateway : Gateway W) (session : Session W) (steps : List Step) :
    (gateway.reach ⟨[], session⟩ steps).objects.Titled := by
  have none : Objects.Titled [] := by
    intro name object found
    cases found
  refine
    (gateway.reach_induction
      (motive := fun reached => reached.objects.Distinct ∧ reached.objects.Titled)
      ⟨Objects.distinct_nil, none⟩ ?_ steps).2
  rintro reached step ⟨distinct, titled⟩
  exact
    ⟨gateway.advance_distinct step distinct,
      (gateway.advance_moves reached step).titled distinct titled⟩

/-! ## The main statement -/

/-- In every run over every table, whatever its exports do: an object that was to be destroyed is
destroyed from then on, whatever status was reported, until its name is given away.  And a method
of an object that is not live any more panics, under the name of its type, before the library is
called.  No export is called, the world that the exports work on, the objects and the caller's
places are what they were, every pin that was taken for the call was given back, and the object
stays destroyed. -/
theorem destroyed_object_is_out_of_reach (gateway : Gateway W) (session : Session W)
    (steps : List Step) (name : String) (object : OwnedObject)
    (found : (gateway.reach ⟨[], session⟩ steps).objects.get? name = some object) :
    let reached := gateway.reach ⟨[], session⟩ steps
    (∀ later : List Step, (∀ step ∈ later, step.givesAway name = false) →
      (gateway.reach ⟨[], session⟩
          (steps ++ .destroy name object.kind :: later)).objects.get? name =
        some object.ended) ∧
    (object.owner.isLive = false → ∀ call : ObjectCall, call.kind = object.kind →
      let report := (gateway.advance reached (call.step name)).1
      let after := (gateway.advance reached (call.step name)).2
      report.reported = .error (.panic (object.kind.typeName ++ " used after destroy")) ∧
        (∀ symbol,
          after.session.journal.callCount symbol = reached.session.journal.callCount symbol) ∧
        after.session.world = reached.session.world ∧
        call.placesAfter report.reported = call.places ∧
        after.session.journal.records =
          reached.session.journal.records ++
            Guards.none.records (Guards.none.passing call.lengths) ∧
        (Guards.none.afterAll (Guards.none.passing call.lengths)).pins =
          ⟨0, call.lengths.length, call.lengths.length⟩ ∧
        after.objects = reached.objects ∧
        after.objects.get? name = some object) := by
  intro reached
  have distinct : reached.objects.Distinct := gateway.reach_distinct Objects.distinct_nil steps
  refine ⟨?_, ?_⟩
  · intro later leaves
    rw [reach_append, reach_cons]
    rcases gateway.advance_destroy found with ⟨result, after, advanced, -⟩
    have ended :
        (gateway.advance reached (.destroy name object.kind)).2.objects.get? name =
          some object.ended := by
      rw [advanced]
      exact distinct.get?_insert_same
    exact gateway.reach_get?_ended (gateway.advance_distinct _ distinct) ended rfl later leaves
  · intro notLive call fits report after
    have destroyed : object.owner.state = .destroyed := by
      cases state : object.owner.state with
      | live handle => simp [Owner.isLive, state] at notLive
      | destroyed => rfl
    rcases gateway.advance_method_of_destroyed found destroyed call fits with ⟨panics, left⟩
    rw [gateway.reach_titled session steps name object found] at panics
    have same : after = ⟨reached.objects, _⟩ := left
    have text : report.reported = _ := panics
    refine ⟨text, ?_, ?_, ?_, ?_, Guards.pins_passing call.lengths, ?_, ?_⟩
    · intro symbol
      rw [same]
      exact Session.callCount_told _ _ symbol
    · rw [same]
      rfl
    · rw [text]
      rfl
    · rw [same]
      exact Session.records_told _ _
    · rw [same]
    · rw [same]
      exact found

end Gateway

/-- A service whose destroy export has reported a failure takes no more calls. -/
theorem destroyed_object_is_out_of_reach_grudging :
    let before : List Step := [.create "first" (.serviceWith 7), .create "second" .plain]
    let later : List Step := [.create "second" (.serviceFailing 3), .create "third" .serviceWithout]
    let call : ObjectCall := .service (.methodMutSelfRefSliceLimited 5 6 [1, 2, 3] [4])
    let advanced := Gateway.grudging.advance Standing.mixed (call.step "first")
    (Gateway.grudging.reach ⟨[], ⟨.empty, []⟩⟩ before).objects.get? "first" =
        some ⟨.service, "SimpleService", .live ⟨1⟩⟩ ∧
      (∀ step ∈ later, step.givesAway "first" = false) ∧
      Standing.mixed.objects.get? "first" = some ⟨.service, "SimpleService", .destroyed⟩ ∧
      advanced.1.reported = .error (.panic "SimpleService used after destroy") ∧
      advanced.2.session.journal.callCount .simpleServiceMethodMutSelfRefSliceLimited = 0 ∧
      call.placesAfter advanced.1.reported = [6] ∧
      advanced.2.objects = Standing.mixed.objects := by
  intro before later call advanced
  have live :
      (Gateway.grudging.reach ⟨[], ⟨.empty, []⟩⟩ before).objects.get? "first" =
        some ⟨.service, "SimpleService", .live ⟨1⟩⟩ := by decide
  have leaves : ∀ step ∈ later, step.givesAway "first" = false := by decide
  rcases Gateway.grudging.destroyed_object_is_out_of_reach ⟨.empty, []⟩ before "first" _ live with
    ⟨stays, -⟩
  have ended :
      Standing.mixed.objects.get? "first" = some ⟨.service, "SimpleService", .destroyed⟩ :=
    stays later leaves
  rcases Gateway.grudging.destroyed_object_is_out_of_reach ⟨.empty, []⟩ Step.mixed "first" _ ended
    with ⟨-, refuses⟩
  rcases refuses rfl call rfl with ⟨panics, uncalled, -, places, -, -, same, -⟩
  have never :
      Standing.mixed.session.journal.callCount .simpleServiceMethodMutSelfRefSliceLimited = 0 := by
    decide
  exact ⟨live, leaves, ended, panics, (uncalled _).trans never, places, same⟩

end NativeBoundary
