import NativeBoundary.Proofs.Histories.Methods

/-!
# The lives of objects

The life of an object is what its own steps have made of it: how it was made,
which calls it has answered, and whether it was destroyed.  Steps under other
names leave a life alone.  What an object answers to a call is told from its life
without any heap.
-/

namespace NativeBoundary

open NativeBoundary.Reference

/-! ## How objects are made -/

namespace Factory

/-- The argument that an object is made with. -/
def argument : Factory → UInt32
  | .serviceWith value => value
  | .serviceWithout => 0
  | .serviceFailing value => value.toUInt32
  | .plain => 0

/-- Whether the reference library makes an object for a factory. -/
def isAccepted : Factory → Bool
  | .serviceFailing value => value != 0
  | .serviceWith _ => true
  | .serviceWithout => true
  | .plain => true

end Factory

/-! ## Lives -/

/-- What has become of an object. -/
structure Life where
  factory : Factory
  /-- The calls that it has answered as a service, the first one first. -/
  serviceCalls : List ServiceCall
  /-- The calls that it has answered as a plain instance, the first one first. -/
  plainCalls : List PlainCall
  isLive : Bool

namespace Life

def begun (factory : Factory) : Life := ⟨factory, [], [], true⟩

/-- A life after a call of a method of services. -/
def served (call : ServiceCall) (life : Life) : Life :=
  if life.isLive = true ∧ life.factory.kind = .service then
    { life with serviceCalls := life.serviceCalls ++ [call] }
  else life

/-- A life after a call of a method of plain instances. -/
def handled (call : PlainCall) (life : Life) : Life :=
  if life.isLive = true ∧ life.factory.kind = .plain then
    { life with plainCalls := life.plainCalls ++ [call] }
  else life

/-- A life after objects of a kind were destroyed. -/
def ended (kind : ObjectKind) (life : Life) : Life :=
  if life.factory.kind = kind then { life with isLive := false } else life

/-- What a step makes of the life under a name. -/
def follow (name : String) (life : Option Life) : Step → Option Life
  | .call _ => life
  | .create other factory =>
    if other = name ∧ factory.isAccepted = true then some (begun factory) else life
  | .service other call => if other = name then life.map (served call) else life
  | .plain other call => if other = name then life.map (handled call) else life
  | .isLive _ _ => life
  | .destroy other kind => if other = name then life.map (ended kind) else life
  | .drop other => if other = name then none else life

/-- The life under a name after some steps. -/
def under (name : String) (steps : List Step) : Option Life :=
  steps.foldl (follow name) none

end Life

def Step.name? : Step → Option String
  | .call _ => none
  | .create name _ => some name
  | .service name _ => some name
  | .plain name _ => some name
  | .isLive name _ => some name
  | .destroy name _ => some name
  | .drop name => some name

/-- A step under another name leaves a life alone. -/
theorem Life.follow_other {name : String} {step : Step} (other : step.name? ≠ some name)
    (life : Option Life) : follow name life step = life := by
  cases step <;> simp_all [follow, Step.name?]

/-! ## What is answered in the course of a life -/

/-- The last value that some calls have given; before any call has given one it is the first. -/
def lastGiven {α β : Type} (given : α → Option β) (first : β) (calls : List α) : β :=
  (calls.filterMap given).getLastD first

/-- The list of truth values that a call hands over as flags. -/
def ServiceCall.flags? : ServiceCall → Option (List Bool)
  | .methodMutSelfVoid values => some values
  | _ => none

def PlainCall.stored? : PlainCall → Option UInt32
  | .mutSelf argument => some argument
  | _ => none

def lastFlags : List ServiceCall → List Bool := lastGiven ServiceCall.flags? []

def lastStored : List PlainCall → UInt32 := lastGiven PlainCall.stored? 0

/-- What a service that was made with a value reports to a call after earlier ones.  Counts are
told as long as they fit into 32 bits. -/
def ServiceCall.AnsweredBy (value : UInt32) (earlier : List ServiceCall) (reported : Reported) :
    ServiceCall → Prop
  | .methodResult argument =>
    reported = if argument = 0 then .error (.call (.callFailed .failed)) else .ok .unit
  | .methodValue argument =>
    reported = .ok (.number (((argument.toNat + value.toNat) % UInt32.size : Nat)))
  | .methodVoid => reported = .ok .unit
  | .stats =>
    earlier.count .methodVoid < UInt32.size →
      reported = .ok (.number (earlier.count .methodVoid : Nat))
  | .methodMutSelf buffer => reported = .ok (.number (buffer.headD 0).toNat)
  | .methodMutSelfVoid _ => reported = .ok .unit
  | .trueFlags =>
    (lastFlags earlier).length < UInt32.size →
      reported = .ok (.number ((lastFlags earlier).count true : Nat))
  | .methodMutSelfRef source _ => reported = .ok (.copied source source)
  | .methodMutSelfRefSlice source _ _ => reported = .ok (.copied source source)
  | .methodMutSelfRefSliceLimited source _ _ _ => reported = .ok (.copied source source)
  | .methodMutSelfFfiError buffer =>
    ∃ left : List UInt8, reported = .ok (.filled (.ok ()) left) ∧ left.length = buffer.length ∧
      ∀ byte ∈ left, byte.toNat = value.toNat % UInt8.size
  | .methodMutSelfNoError buffer => reported = .ok (.filled (.ok ()) buffer)
  | .methodVoidFfiError => reported = .ok .unit

/-- What a plain instance reports to a call after earlier ones. -/
def PlainCall.AnsweredBy (earlier : List PlainCall) (reported : Reported) : PlainCall → Prop
  | .result _ => reported = .ok .unit
  | .value argument => reported = .ok (.number argument.toNat)
  | .mutSelf argument => reported = .ok (.number argument.toNat)
  | .extraMethod => reported = .ok (.number (lastStored earlier).toNat)

/-! ## Objects in the course of a life -/

namespace Life

def service (life : Life) : Reference.Service :=
  life.serviceCalls.foldl Reference.Service.after { value := life.factory.argument }

def plain (life : Life) : Reference.Instance :=
  life.plainCalls.foldl Reference.Instance.after {}

end Life

theorem lastGiven_cons {α β : Type} (given : α → Option β) (first : β) (call : α)
    (rest : List α) :
    lastGiven given first (call :: rest) = lastGiven given ((given call).getD first) rest := by
  unfold lastGiven
  cases told : given call with
  | none => rw [List.filterMap_cons_none told, Option.getD_none]
  | some value => rw [List.filterMap_cons_some told, List.getLastD_cons, Option.getD_some]

/-- What is kept of the last value that was given. -/
theorem foldl_eq_lastGiven {σ α β γ : Type} {after : σ → α → σ} (kept : σ → γ)
    (given : α → Option β) (shown : β → γ)
    (keeps : ∀ object call,
      kept (after object call) = ((given call).map shown).getD (kept object))
    (calls : List α) {object : σ} {first : β} (start : kept object = shown first) :
    kept (calls.foldl after object) = shown (lastGiven given first calls) := by
  induction calls generalizing object first with
  | nil => exact start
  | cons call rest hypothesis =>
    rw [List.foldl_cons, lastGiven_cons]
    refine hypothesis ?_
    rw [keeps, start]
    cases given call <;> rfl

namespace Reference

theorem Service.value_foldl_after (calls : List ServiceCall) (object : Service) :
    (calls.foldl Service.after object).value = object.value := by
  induction calls generalizing object with
  | nil => rfl
  | cons call rest hypothesis =>
    rw [List.foldl_cons, hypothesis]
    cases call <;> rfl

/-- A service counts the calls of its empty method in 32 bits. -/
theorem Service.voidCalls_foldl_after (calls : List ServiceCall) (object : Service) :
    (calls.foldl Service.after object).voidCalls.toNat =
      (object.voidCalls.toNat + calls.count .methodVoid) % UInt32.size := by
  induction calls generalizing object with
  | nil =>
    rw [List.foldl_nil, List.count_nil, Nat.add_zero]
    exact (Nat.mod_eq_of_lt object.voidCalls.toNat_lt_size).symm
  | cons call rest hypothesis =>
    rw [List.foldl_cons, hypothesis]
    by_cases counted : call = .methodVoid
    · subst counted
      have grown :
          (Service.after object .methodVoid).voidCalls.toNat =
            (object.voidCalls.toNat + 1) % UInt32.size := by
        simp [Service.after]
      rw [grown, List.count_cons_self, Nat.mod_add_mod]
      congr 1
      omega
    · have kept : (Service.after object call).voidCalls = object.voidCalls := by
        cases call <;> first | rfl | exact absurd rfl counted
      rw [kept, List.count_cons_of_ne counted]

/-- A service remembers how many flags of the last list were set. -/
theorem Service.trueFlags_foldl_after (calls : List ServiceCall) (value : UInt32) :
    (calls.foldl Service.after { value }).trueFlags =
      ((lastFlags calls).count true).toUInt32 := by
  refine foldl_eq_lastGiven Service.trueFlags ServiceCall.flags?
    (fun values : List Bool => (values.count true).toUInt32) ?_ calls rfl
  intro object call
  cases call <;> rfl

theorem Instance.value_foldl_after (calls : List PlainCall) :
    (calls.foldl Instance.after {}).value = lastStored calls := by
  refine foldl_eq_lastGiven Instance.value PlainCall.stored? id ?_ calls rfl
  intro object call
  cases call <;> rfl

end Reference

namespace Life

/-- A service answers as its life tells. -/
theorem service_answer (life : Life) (call : ServiceCall) :
    call.AnsweredBy life.factory.argument life.serviceCalls (life.service.answer call) := by
  have value : life.service.value = life.factory.argument :=
    Reference.Service.value_foldl_after _ _
  cases call with
  | methodValue argument =>
    simp only [ServiceCall.AnsweredBy, Reference.Service.answer, value, UInt32.toNat_add]
  | stats =>
    intro fits
    have counted : life.service.voidCalls.toNat = life.serviceCalls.count .methodVoid := by
      rw [service, Reference.Service.voidCalls_foldl_after]
      simpa using Nat.mod_eq_of_lt fits
    simp only [Reference.Service.answer, counted]
  | trueFlags =>
    intro fits
    have most : (lastFlags life.serviceCalls).count true < UInt32.size :=
      Nat.lt_of_le_of_lt List.count_le_length fits
    have counted :
        life.service.trueFlags.toNat = (lastFlags life.serviceCalls).count true := by
      rw [service, Reference.Service.trueFlags_foldl_after]
      simpa using Nat.mod_eq_of_lt most
    simp only [Reference.Service.answer, counted]
  | methodMutSelfFfiError buffer =>
    refine ⟨buffer.map fun _ => life.service.value.toUInt8, rfl, List.length_map _, ?_⟩
    intro byte member
    rcases List.mem_map.mp member with ⟨old, _, rfl⟩
    rw [value, UInt32.toNat_toUInt8]
  | _ => rfl

/-- A plain instance answers as its life tells. -/
theorem plain_answer (life : Life) (call : PlainCall) :
    call.AnsweredBy life.plainCalls (life.plain.answer call) := by
  cases call with
  | extraMethod =>
    have stored : life.plain.value = lastStored life.plainCalls :=
      Reference.Instance.value_foldl_after _
    simp only [PlainCall.AnsweredBy, Reference.Instance.answer, stored]
  | _ => rfl

end Life

end NativeBoundary
