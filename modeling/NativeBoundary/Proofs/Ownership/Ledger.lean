import NativeBoundary.Proofs.Run.Avoidance
import NativeBoundary.Proofs.Run.Standing

/-!
# The ledger of a run

A factory delivers an object if it reports success and writes a handle that is
not null.  The ledger of a run compares three lists of handles for each kind of
object: what was delivered, what is still held by live owners, and what was given
to the destroy export.  Every step keeps the ledger even: what is delivered is
held, and a handle leaves the hands of its owner exactly when the destroy export
is called with it.
-/

namespace NativeBoundary

variable {W : Type}

/-- The handle that an object of a kind holds, as long as it was not destroyed. -/
def OwnedObject.held (object : OwnedObject) (kind : ObjectKind) : List Handle :=
  if object.kind = kind then
    match object.owner.state with
    | .live handle => [handle]
    | .destroyed => []
  else []

/-- The handles that the live objects of a kind hold. -/
def Objects.held (objects : Objects) (kind : ObjectKind) : List Handle :=
  List.flatMap (fun entry => entry.2.held kind) objects

/-- The handle that a factory delivers: the one that it wrote, if it reported success and the
handle is not null. -/
def Owner.delivered? (status : Status) (slot : Slot) : Option Handle :=
  slot.filter fun handle => status.isOk && !handle.isNull

namespace Gateway

variable (gateway : Gateway W)

/-- What a factory delivers when it is called next. -/
def delivered? (factory : Factory) (session : Session W) : Option Handle :=
  match (gateway.runFactory factory (some .null)).run session with
  | (.returned (status, slot), _) => Owner.delivered? status slot
  | (.panicked _, _) => none

/-- The handles of a kind that a step has delivered to it. -/
def stepDeliveries (kind : ObjectKind) (standing : Standing W) : Step → List Handle
  | .create _ factory =>
    if factory.kind = kind then (gateway.delivered? factory standing.session).toList else []
  | _ => []

end Gateway

/-! ## Handles in the hands of owners -/

namespace OwnedObject

@[simp]
theorem held_ended (object : OwnedObject) (kind : ObjectKind) : object.ended.held kind = [] :=
  ite_self []

theorem held_live (object : OwnedObject) {handle : Handle}
    (live : object.owner.state = .live handle) (kind : ObjectKind) :
    object.held kind = if object.kind = kind then [handle] else [] := by
  simp [held, live]

theorem held_destroyed (object : OwnedObject) (destroyed : object.owner.state = .destroyed)
    (kind : ObjectKind) : object.held kind = [] := by
  simp [held, destroyed]

end OwnedObject

namespace Objects

variable {objects : Objects} {name : String} {object : OwnedObject}

end Objects

/-! ## What factories and destroy exports do to the ledger -/

/-- A factory makes an owner exactly when it delivers a handle, and the owner is live and holds
that handle. -/
theorem Owner.ofFactory_eq (typeName : String) (status : Status) (slot : Slot) :
    Owner.ofFactory typeName status (slot.getD .null) =
      match Owner.delivered? status slot with
      | some handle => .ok ⟨typeName, .live handle⟩
      | none => .error (.callFailed (if status.isOk then .null else status)) := by
  by_cases success : status.isOk
  · cases slot with
    | none =>
      simp [Owner.ofFactory, Owner.delivered?, Status.toResult, success, Handle.isNull]
    | some handle =>
      by_cases null : handle.isNull <;>
        simp [Owner.ofFactory, Owner.delivered?, Status.toResult, Option.filter, success, null]
  · cases slot <;>
      simp [Owner.ofFactory, Owner.delivered?, Status.toResult, Option.filter, success]

namespace Gateway

variable (gateway : Gateway W)

/-- What comes of a factory, told from what it delivers. -/
theorem run_create (factory : Factory) (session : Session W) :
    ∃ status after,
      (gateway.create factory).run session =
        (.returned
          (match gateway.delivered? factory session with
            | some handle => .ok ⟨factory.kind, factory.kind.typeName, .live handle⟩
            | none => .error (.callFailed status)), after) ∧
      ∀ kind : ObjectKind,
        after.journal.handles kind.destroySymbol =
          session.journal.handles kind.destroySymbol := by
  have returns :
      ∃ status slot after,
        (gateway.runFactory factory (some .null)).run session =
            (.returned (status, slot), after) ∧
          ∀ kind : ObjectKind,
            after.journal.handles kind.destroySymbol =
              session.journal.handles kind.destroySymbol := by
    cases factory <;>
      refine ⟨_, _, _, rfl, fun kind => ?_⟩ <;>
      cases kind <;> rfl
  rcases returns with ⟨status, slot, after, ran, kept⟩
  refine
    ⟨if status.isOk then .null else status,
      { after with
        journal :=
          .raised (Owner.factoryRecord factory.kind.typeName status (slot.getD .null)) ::
            after.journal }, ?_, fun kind => kept kind⟩
  simp only [create, Owner.create, Crossing.run_bind, ran, delivered?, Owner.ofFactory_eq]
  cases Owner.delivered? status slot <;> rfl

/-- Destroying gives the handle to the destroy export if it is still held, and leaves the owner
without it, whatever status is reported. -/
theorem run_ownerDestroy (object : OwnedObject) (session : Session W) :
    ∃ result after,
      (object.owner.destroy (gateway.runDestroy object.kind)).run session =
        (.returned (result, object.ended.owner), after) ∧
      ∀ kind : ObjectKind,
        after.journal.handles kind.destroySymbol =
          (object.held kind).map some ++ session.journal.handles kind.destroySymbol := by
  rcases object with ⟨own, typeName, state⟩
  cases state with
  | destroyed =>
    exact ⟨.ok (), session, rfl, fun kind => by simp [OwnedObject.held]⟩
  | live handle =>
    refine ⟨_, _, rfl, fun kind => ?_⟩
    cases own <;> cases kind <;> rfl

/-- Destroying an object ends it. -/
theorem run_destroy (object : OwnedObject) (session : Session W) :
    ∃ result after,
      (gateway.destroy object).run session = (.returned (result, object.ended), after) ∧
      ∀ kind : ObjectKind,
        after.journal.handles kind.destroySymbol =
          (object.held kind).map some ++ session.journal.handles kind.destroySymbol := by
  rcases gateway.run_ownerDestroy object session with ⟨result, after, ran, given⟩
  refine ⟨result, after, ?_, given⟩
  simp only [destroy, Crossing.run_bind, ran]
  rfl

/-- Letting an object go gives its handle to the destroy export if it is still held. -/
theorem run_drop (object : OwnedObject) (session : Session W) :
    ∃ after,
      (gateway.drop object).run session = (.returned (), after) ∧
      ∀ kind : ObjectKind,
        after.journal.handles kind.destroySymbol =
          (object.held kind).map some ++ session.journal.handles kind.destroySymbol := by
  rcases gateway.run_ownerDestroy object session with ⟨result, after, ran, given⟩
  simp only [drop, Owner.drop, Crossing.run_bind, ran]
  cases result with
  | ok value => exact ⟨after, rfl, given⟩
  | error error =>
    exact
      ⟨{ after with
          journal := .raised (Owner.dropFailed object.owner.typeName error) :: after.journal },
        rfl, given⟩

end Gateway

end NativeBoundary
