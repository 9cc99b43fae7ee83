import NativeBoundary.Proofs.Histories.Lives

/-!
# Making and freeing objects of the reference library

A factory of the reference library puts a new object at the next address, and a
destroy export frees the object of one handle.  Either way every other object
that is on the heap stays where it is.  What the exports do by themselves comes
first, and what owners make of it through the gateway follows from that.
-/

namespace NativeBoundary

open NativeBoundary.Reference

namespace Reference.Heap

/-! ## Heaps that differ in one object -/

/-- The heap with the object that a factory makes. -/
def created (heap : Heap) (factory : Factory) : Heap :=
  match factory.kind with
  | .service => (heap.allocateService { value := factory.argument }).2
  | .plain => (heap.allocateInstance {}).2

/-- The heap without the object of a kind that a handle names. -/
def freed (heap : Heap) (kind : ObjectKind) (handle : Handle) : Heap :=
  match kind with
  | .service => heap.setService handle none
  | .plain => heap.setInstance handle none

/-- The heap after an owner was let go. -/
def without (heap : Heap) (object : OwnedObject) : Heap :=
  match object.owner.state with
  | .live handle => heap.freed object.kind handle
  | .destroyed => heap

/-- The second heap holds what the first one holds, except perhaps at one address of their own. -/
structure Beside (own : Option Nat) (before after : Heap) : Prop where
  next_le : before.next ≤ after.next
  services : ∀ address, address < before.next → own ≠ some address →
    after.services address = before.services address
  instances : ∀ address, address < before.next → own ≠ some address →
    after.instances address = before.instances address

namespace Beside

variable {own : Option Nat} {before middle after : Heap}

theorem refl (own : Option Nat) (heap : Heap) : Beside own heap heap :=
  ⟨Nat.le_refl _, fun _ _ _ => rfl, fun _ _ _ => rfl⟩

theorem trans (first : Beside own before middle) (second : Beside own middle after) :
    Beside own before after := by
  refine ⟨Nat.le_trans first.next_le second.next_le, ?_, ?_⟩
  · intro address below other
    have still := Nat.lt_of_lt_of_le below first.next_le
    rw [second.services address still other, first.services address below other]
  · intro address below other
    have still := Nat.lt_of_lt_of_le below first.next_le
    rw [second.instances address still other, first.instances address below other]

end Beside

theorem beside_setService (heap : Heap) (handle : Handle) (object : Option Service) :
    Beside (some handle.address) heap (heap.setService handle object) := by
  refine ⟨Nat.le_refl _, ?_, fun _ _ _ => rfl⟩
  intro address below other
  have different : address ≠ handle.address := fun same => other (congrArg some same.symm)
  exact update_other heap.services object different

theorem beside_setInstance (heap : Heap) (handle : Handle) (object : Option Instance) :
    Beside (some handle.address) heap (heap.setInstance handle object) := by
  refine ⟨Nat.le_refl _, fun _ _ _ => rfl, ?_⟩
  intro address below other
  have different : address ≠ handle.address := fun same => other (congrArg some same.symm)
  exact update_other heap.instances object different

/-- A new object stands at an address where none was. -/
theorem beside_created (own : Option Nat) (heap : Heap) (factory : Factory) :
    Beside own heap (heap.created factory) := by
  unfold created
  cases factory.kind with
  | service =>
    refine ⟨Nat.le_succ _, ?_, fun _ _ _ => rfl⟩
    intro address below other
    exact update_other heap.services _ (Nat.ne_of_lt below)
  | plain =>
    refine ⟨Nat.le_succ _, fun _ _ _ => rfl, ?_⟩
    intro address below other
    exact update_other heap.instances _ (Nat.ne_of_lt below)

theorem beside_freed (heap : Heap) (kind : ObjectKind) (handle : Handle) :
    Beside (some handle.address) heap (heap.freed kind handle) := by
  cases kind with
  | service => exact heap.beside_setService handle none
  | plain => exact heap.beside_setInstance handle none

@[simp]
theorem freed_next (heap : Heap) (kind : ObjectKind) (handle : Handle) :
    (heap.freed kind handle).next = heap.next := by
  cases kind <;> rfl

@[simp]
theorem without_next (heap : Heap) (object : OwnedObject) :
    (heap.without object).next = heap.next := by
  unfold without
  cases object.owner.state with
  | live handle => exact heap.freed_next object.kind handle
  | destroyed => rfl

@[simp]
theorem created_next (heap : Heap) (factory : Factory) :
    (heap.created factory).next = heap.next + 1 := by
  unfold created
  cases factory.kind <;> rfl

end Reference.Heap

namespace Direct

/-! ## What factories and destroy exports do -/

/-- A factory that is given an argument that it refuses leaves the slot alone. -/
theorem run_runFactory_of_refused {factory : Factory} (refused : factory.isAccepted = false)
    (slot : Slot) (heap : Heap) :
    (runFactory Reference.table slot factory).run heap = ((.failed, slot), heap) := by
  cases factory with
  | serviceFailing value =>
    have zero : value = 0 := by simpa [Factory.isAccepted] using refused
    subst zero
    rfl
  | serviceWith value => cases refused
  | serviceWithout => cases refused
  | plain => cases refused

/-- Without a slot nothing is made. -/
theorem run_runFactory_none {factory : Factory} (accepted : factory.isAccepted = true)
    (heap : Heap) :
    (runFactory Reference.table none factory).run heap = ((.null, none), heap) := by
  cases factory with
  | serviceFailing value =>
    have nonzero : value ≠ 0 := bne_iff_ne.mp accepted
    change (Service.newFailing none value).run heap = _
    rw [Service.newFailing, if_neg nonzero]
    rfl
  | serviceWith value => rfl
  | serviceWithout => rfl
  | plain => rfl

/-- A new object stands at the next address, and its handle in the slot. -/
theorem run_runFactory_some {factory : Factory} (accepted : factory.isAccepted = true)
    (old : Handle) (heap : Heap) :
    (runFactory Reference.table (some old) factory).run heap =
      ((.ok, some ⟨heap.next⟩), heap.created factory) := by
  cases factory with
  | serviceFailing value =>
    have nonzero : value ≠ 0 := bne_iff_ne.mp accepted
    change (Service.newFailing (some old) value).run heap = _
    rw [Service.newFailing, if_neg nonzero]
    rfl
  | serviceWith value => rfl
  | serviceWithout => rfl
  | plain => rfl

/-- Nothing is destroyed without a slot, or without a handle in it. -/
theorem run_runDestroy_of_null {slot : Slot} (empty : slot.getD .null = .null)
    (kind : ObjectKind) (heap : Heap) :
    (runDestroy Reference.table slot kind).run heap = ((.null, slot), heap) := by
  cases slot with
  | none => cases kind <;> rfl
  | some handle =>
    have null : handle = .null := empty
    subst null
    cases kind <;> rfl

/-- The object of the handle is freed, and the slot is empty. -/
theorem run_runDestroy_some {handle : Handle} (named : handle.isNull = false)
    (kind : ObjectKind) (heap : Heap) :
    (runDestroy Reference.table (some handle) kind).run heap =
      ((.ok, some .null), heap.freed kind handle) := by
  cases kind with
  | service =>
    change (Service.destroy (some handle)).run heap = _
    simp only [Service.destroy, StateT.run, named]
    rfl
  | plain =>
    change (Instance.destroy (some handle)).run heap = _
    simp only [Instance.destroy, StateT.run, named]
    rfl

end Direct

/-! ## Factories and destroy exports through the gateway -/

/-- The object that a factory makes: it lives at the next address. -/
def Factory.product (factory : Factory) (heap : Heap) : OwnedObject :=
  ⟨factory.kind, factory.kind.typeName, .live ⟨heap.next⟩⟩

theorem Handle.isNull_of_pos {address : Nat} (positive : 0 < address) :
    Handle.isNull ⟨address⟩ = false := by
  simpa [Handle.isNull, Handle.null] using Nat.ne_of_gt positive

namespace Gateway

open Crossing

/-- An accepted factory makes a live object whose handle is the next address. -/
theorem create_yields_product {factory : Factory} {heap : Heap}
    (accepted : factory.isAccepted = true) (positive : 0 < heap.next) :
    Yields (linked.create factory) heap (.ok (factory.product heap)) (heap.created factory) := by
  have owned :
      Owner.ofFactory factory.kind.typeName .ok ⟨heap.next⟩ =
        .ok ⟨factory.kind.typeName, .live ⟨heap.next⟩⟩ := by
    simp only [Owner.ofFactory, Status.toResult_ok, Handle.isNull_of_pos positive]
    rfl
  have created := linked.create_yields (Direct.run_runFactory_some accepted .null heap)
  rwa [Option.getD_some, owned] at created

/-- A factory that is not accepted reports a failure and makes nothing. -/
theorem create_yields_of_refused {factory : Factory} {heap : Heap}
    (refused : factory.isAccepted = false) :
    Yields (linked.create factory) heap (.error (.callFailed .failed)) heap :=
  linked.create_yields (Direct.run_runFactory_of_refused refused (some .null) heap)

theorem ownerDestroy_yields_ended {object : OwnedObject} {heap : Heap}
    (named : ∀ handle, object.owner.state = .live handle → handle.isNull = false) :
    Yields (object.owner.destroy (linked.runDestroy object.kind)) heap
      (.ok (), object.ended.owner) (heap.without object) := by
  rcases object with ⟨kind, typeName, state⟩
  cases state with
  | live handle =>
    exact linked.ownerDestroy_yields rfl (Direct.run_runDestroy_some (named handle rfl) kind heap)
  | destroyed => exact .pure _

/-- Destroying an object reports success and ends it. -/
theorem destroy_yields {object : OwnedObject} {heap : Heap}
    (named : ∀ handle, object.owner.state = .live handle → handle.isNull = false) :
    Yields (linked.destroy object) heap (.ok (), object.ended) (heap.without object) :=
  Yields.bind (ownerDestroy_yields_ended named) (.pure _)

theorem drop_yields {object : OwnedObject} {heap : Heap}
    (named : ∀ handle, object.owner.state = .live handle → handle.isNull = false) :
    Yields (linked.drop object) heap () (heap.without object) :=
  Yields.bind (ownerDestroy_yields_ended named) (.pure _)

end Gateway

end NativeBoundary
