import NativeBoundary.Direct.Call
import NativeBoundary.Proofs.Run.Standing

/-!
# Computations that return whatever was recorded before

What a library computes depends on its own state and never on the journal.  A
computation yields a value from a state if it returns that value, and leaves one
state behind, under every journal.
-/

namespace NativeBoundary

variable {W α β : Type} {world middle after : W}

namespace Crossing

/-- From a state of the library and under every journal, a computation returns a value and leaves
another state. -/
def Yields (body : Crossing W α) (world : W) (value : α) (after : W) : Prop :=
  ∀ journal, ∃ left, body.run ⟨world, journal⟩ = (.returned value, ⟨after, left⟩)

namespace Yields

theorem pure (value : α) : Yields (Pure.pure value : Crossing W α) world value world :=
  fun journal => ⟨journal, rfl⟩

theorem raise (record : Log.Record) : Yields (Crossing.raise record) world () world :=
  fun journal => ⟨.raised record :: journal, rfl⟩

theorem native {symbol : Symbol} {handle : Option Handle} {work : StateM W α} {value : α}
    (computed : work.run world = (value, after)) :
    Yields (Crossing.native symbol handle work) world value after := by
  intro journal
  refine ⟨.called symbol handle :: journal, ?_⟩
  rw [run_native, computed]

theorem bind {first : Crossing W α} {next : α → Crossing W β} {value : α} {result : β}
    (yields : Yields first world value middle) (rest : Yields (next value) middle result after) :
    Yields (first >>= next) world result after := by
  intro journal
  rcases yields journal with ⟨between, ran⟩
  rcases rest between with ⟨left, finished⟩
  refine ⟨left, ?_⟩
  rw [run_bind, ran]
  exact finished

/-- What is read off a returned value. -/
theorem map {body : Crossing W α} {value : α} (yields : Yields body world value after)
    (read : α → β) : Yields (read <$> body) world (read value) after := by
  rw [map_eq_pure_bind]
  exact yields.bind (pure (read value))

theorem attempt {body : Crossing W α} {value : α} (yields : Yields body world value after) :
    Yields (Crossing.attempt body) world (.returned value) after := by
  intro journal
  rcases yields journal with ⟨left, ran⟩
  refine ⟨left, ?_⟩
  rw [run_attempt, ran]

/-- A walk over a list of records leaves the state of the library alone. -/
theorem exists_foldlM {σ : Type} {step : σ → β → Crossing W σ}
    (records : ∀ state item, ∃ next, Yields (step state item) world next world)
    (items : List β) (first : σ) :
    ∃ last, Yields (items.foldlM step first) world last world := by
  induction items generalizing first with
  | nil => exact ⟨first, pure first⟩
  | cons item rest hypothesis =>
    rcases records first item with ⟨next, yields⟩
    rcases hypothesis next with ⟨last, further⟩
    exact ⟨last, bind yields further⟩

theorem exists_acquired (lengths : List Nat) (pins : Lending.Pins) (world : W) :
    ∃ held, Yields (lengths.foldlM Lending.acquire pins) world held world := by
  refine exists_foldlM (fun pins length => ?_) lengths pins
  exact ⟨pins.acquire, bind (raise (pins.acquire.acquiredRecord length)) (pure _)⟩

theorem exists_released (lengths : List Nat) (pins : Lending.Pins) (world : W) :
    ∃ left,
      Yields (lengths.foldlM (fun pins _ => Lending.release pins) pins) world left world := by
  refine exists_foldlM (fun pins length => ?_) lengths pins
  exact ⟨pins.release, bind (raise pins.release.releasedRecord) (pure _)⟩

/-- Pins are a matter of records alone. -/
theorem pinned {lengths : List Nat} {body : Crossing W α} {value : α}
    (yields : Yields body world value after) :
    Yields (Lending.pinned lengths body) world value after := by
  rcases exists_acquired lengths Lending.Pins.none world with ⟨held, taken⟩
  rcases exists_released lengths held after with ⟨left, given⟩
  have resumed : Yields (Crossing.resume (.returned value)) after value after := pure value
  exact bind (bind taken (bind (attempt yields) (bind given (pure _)))) resumed

end Yields

/-- A part of a call that runs over pins ends as it would end without them. -/
theorem exists_run_pinnedOver (pins : Lending.Pins) (lengths : List Nat) (body : Crossing W α)
    (session : Session W) :
    ∃ between left after,
      (Lending.pinnedOver pins lengths body).run session =
        (.returned ((body.run between).1, left), after) := by
  rcases Yields.exists_acquired lengths pins session.world with ⟨held, acquires⟩
  rcases acquires session.journal with ⟨journal, taken⟩
  let ended := body.run ⟨session.world, journal⟩
  rcases Yields.exists_released lengths held ended.2.world with ⟨left, releases⟩
  rcases releases ended.2.journal with ⟨last, given⟩
  refine ⟨⟨session.world, journal⟩, left, ⟨ended.2.world, last⟩, ?_⟩
  rw [Lending.pinnedOver, run_bind_of_returned taken, run_bind_of_returned (run_attempt body _)]
  exact run_bind_of_returned given

end Crossing

namespace Gateway

open Crossing

/-- A call on the handle of a live owner. -/
theorem onHandle_yields {owner : Owner} {handle : Handle} {symbol : Symbol}
    {work : Handle → StateM W α} {value : α} (live : owner.state = .live handle)
    (computed : (work handle).run world = (value, after)) :
    Yields (onHandle owner symbol work) world value after := by
  have asked : Yields owner.handle world handle world := by
    rw [Owner.handle, live]
    exact .pure handle
  exact asked.bind (.native computed)

variable (gateway : Gateway W)

theorem runFactory_yields {factory : Factory} {old slot : Slot} {status : Status}
    (computed :
      (Direct.runFactory gateway.exports old factory).run world = ((status, slot), after)) :
    Yields (gateway.runFactory factory old) world (status, slot) after := by
  cases factory <;> exact .native computed

theorem runDestroy_yields {kind : ObjectKind} {handle : Handle} {status : Status} {slot : Slot}
    (computed :
      (Direct.runDestroy gateway.exports (some handle) kind).run world =
        ((status, slot), after)) :
    Yields (gateway.runDestroy kind handle) world (status, slot) after := by
  cases kind <;> exact .native computed

/-- A factory answers what its status and its handle come to. -/
theorem create_yields {factory : Factory} {status : Status} {slot : Slot}
    (computed :
      (Direct.runFactory gateway.exports (some .null) factory).run world =
        ((status, slot), after)) :
    Yields (gateway.create factory) world
      ((Owner.ofFactory factory.kind.typeName status (slot.getD .null)).map
        fun owner => ⟨factory.kind, owner⟩) after := by
  have owned :
      Yields (Owner.create factory.kind.typeName (gateway.runFactory factory)) world
        (Owner.ofFactory factory.kind.typeName status (slot.getD .null)) after :=
    (gateway.runFactory_yields computed).bind ((Yields.raise _).bind (.pure _))
  exact owned.bind (.pure _)

/-- A live owner gives its handle away, and is told the status of that. -/
theorem ownerDestroy_yields {kind : ObjectKind} {owner : Owner} {handle : Handle}
    {status : Status} {slot : Slot} (live : owner.state = .live handle)
    (computed :
      (Direct.runDestroy gateway.exports (some handle) kind).run world =
        ((status, slot), after)) :
    Yields (owner.destroy (gateway.runDestroy kind)) world
      (status.toResult, { owner with state := .destroyed }) after := by
  rw [Owner.destroy, live]
  exact (gateway.runDestroy_yields computed).bind ((Yields.raise _).bind (.pure _))

variable {gateway} {standing : Standing W} {step : Step}

/-- A step that yields reports what it yields and leaves the objects and the state that go with
it. -/
theorem advance_of_yields {reported : Reported} {left : Objects}
    (yields :
      Yields (gateway.step standing.objects step) standing.session.world (reported, left) after) :
    (gateway.advance standing step).1.reported = reported ∧
      (gateway.advance standing step).2.objects = left ∧
      (gateway.advance standing step).2.session.world = after := by
  rcases yields standing.session.journal with ⟨journal, ran⟩
  have whole :
      (gateway.step standing.objects step).run standing.session =
        (.returned (reported, left), ⟨after, journal⟩) := ran
  rw [advance, whole]
  exact ⟨rfl, rfl, rfl⟩

/-- A step that panics keeps the objects. -/
theorem advance_of_panicked {message : String} {last : Session W}
    (panics :
      (gateway.step standing.objects step).run standing.session = (.panicked message, last)) :
    (gateway.advance standing step).2.objects = standing.objects ∧
      (gateway.advance standing step).2.session.world = last.world := by
  rw [advance, panics]
  exact ⟨rfl, rfl⟩

end Gateway

end NativeBoundary
