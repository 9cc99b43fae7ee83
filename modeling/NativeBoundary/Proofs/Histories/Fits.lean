import NativeBoundary.Proofs.Histories.Making

/-!
# Objects that fit their lives

An object in a run fits its life if it is of the right kind, lives if the life has
not ended, and stands on the heap as what its life has led to.  Making, calling
and destroying the object carries the fit from one life to the next one, and
changes of the heap elsewhere do not touch it.
-/

namespace NativeBoundary

open NativeBoundary.Reference

/-! ## Objects at their addresses -/

def OwnedObject.address? (object : OwnedObject) : Option Nat :=
  match object.owner.state with
  | .live handle => some handle.address
  | .destroyed => none

def Objects.address? (objects : Objects) (name : String) : Option Nat :=
  (objects.get? name).bind OwnedObject.address?

theorem OwnedObject.address?_eq_some_iff {object : OwnedObject} {address : Nat} :
    object.address? = some address ↔ object.owner.state = .live ⟨address⟩ := by
  unfold OwnedObject.address?
  cases object.owner.state with
  | live handle =>
    rcases handle with ⟨own⟩
    simp
  | destroyed => simp

theorem Objects.address?_of_get? {objects : Objects} {name : String} {object : OwnedObject}
    (found : objects.get? name = some object) : objects.address? name = object.address? := by
  rw [Objects.address?, found]
  rfl

namespace Reference.Heap

theorem beside_without (heap : Heap) (object : OwnedObject) :
    Beside object.address? heap (heap.without object) := by
  unfold without OwnedObject.address?
  cases object.owner.state with
  | live handle => exact heap.beside_freed object.kind handle
  | destroyed => exact .refl none heap

end Reference.Heap

namespace Life

/-- The heap holds behind a handle what a life has led to. -/
def HeldBy (life : Life) (heap : Heap) (handle : Handle) : Prop :=
  match life.factory.kind with
  | .service => heap.service? handle = some life.service
  | .plain => heap.instance? handle = some life.plain

/-- An object is what its life tells: of its kind, live or not, and on the heap while it lives. -/
structure Fits (life : Life) (heap : Heap) (object : OwnedObject) : Prop where
  kind : object.kind = life.factory.kind
  isLive : object.owner.isLive = life.isLive
  below : ∀ handle, object.owner.state = .live handle → handle.address < heap.next
  held : ∀ handle, object.owner.state = .live handle → life.HeldBy heap handle

theorem HeldBy.isNull {life : Life} {heap : Heap} {handle : Handle}
    (held : life.HeldBy heap handle) : handle.isNull = false := by
  rcases null : handle.isNull with _ | _
  · rfl
  · unfold HeldBy at held
    cases kind : life.factory.kind with
    | service => simp [kind, Heap.service?, null] at held
    | plain => simp [kind, Heap.instance?, null] at held

/-- A heap that differs elsewhere holds the same object. -/
theorem HeldBy.beside {life : Life} {before after : Heap} {handle : Handle} {own : Option Nat}
    (held : life.HeldBy before handle) (beside : Heap.Beside own before after)
    (below : handle.address < before.next) (other : own ≠ some handle.address) :
    life.HeldBy after handle := by
  unfold HeldBy at held ⊢
  cases kind : life.factory.kind with
  | service =>
    simp only [kind, Heap.service?] at held ⊢
    rw [beside.services _ below other]
    exact held
  | plain =>
    simp only [kind, Heap.instance?] at held ⊢
    rw [beside.instances _ below other]
    exact held

theorem Fits.beside {life : Life} {before after : Heap} {object : OwnedObject}
    {own : Option Nat} (fits : life.Fits before object)
    (beside : Heap.Beside own before after)
    (other : ∀ address, object.address? = some address → own ≠ some address) :
    life.Fits after object := by
  refine ⟨fits.kind, fits.isLive, ?_, ?_⟩
  · intro handle live
    exact Nat.lt_of_lt_of_le (fits.below handle live) beside.next_le
  · intro handle live
    have elsewhere := other _ (OwnedObject.address?_eq_some_iff.mpr live)
    exact (fits.held handle live).beside beside (fits.below handle live) elsewhere

end Life

/-! ## Changes of one life -/

namespace Life

variable {life : Life} {heap : Heap} {object : OwnedObject} {handle : Handle}

/-- A method of a live service answers by its life. -/
theorem Fits.performService_yields (fits : life.Fits heap object) (kind : object.kind = .service)
    (live : object.owner.state = .live handle) (call : ServiceCall) :
    Crossing.Yields (Gateway.linked.performService object.owner call) heap
      (life.service.answer call) (heap.setService handle (some (life.service.after call))) := by
  have held := fits.held handle live
  rw [HeldBy, ← fits.kind, kind] at held
  exact Gateway.performService_yields live held call

theorem Fits.performPlain_yields (fits : life.Fits heap object) (kind : object.kind = .plain)
    (live : object.owner.state = .live handle) (call : PlainCall) :
    Crossing.Yields (Gateway.linked.performPlain object.owner call) heap
      (life.plain.answer call) (heap.setInstance handle (some (life.plain.after call))) := by
  have held := fits.held handle live
  rw [HeldBy, ← fits.kind, kind] at held
  exact Gateway.performPlain_yields live held call

/-- The life of a service goes on with a call as the service on the heap does. -/
theorem Fits.served (fits : life.Fits heap object) (kind : object.kind = .service)
    (live : object.owner.state = .live handle) (call : ServiceCall) :
    (life.served call).Fits (heap.setService handle (some (life.service.after call))) object := by
  have named := (fits.held handle live).isNull
  have goes : life.isLive = true ∧ life.factory.kind = .service := by
    refine ⟨?_, fits.kind.symm.trans kind⟩
    rw [← fits.isLive, Owner.isLive, live]
  rw [Life.served, if_pos goes]
  refine ⟨fits.kind, fits.isLive, fits.below, ?_⟩
  intro other stillLive
  rw [live] at stillLive
  cases stillLive
  simp [HeldBy, goes.2, Heap.service?, named, Heap.setService, service]

theorem Fits.handled (fits : life.Fits heap object) (kind : object.kind = .plain)
    (live : object.owner.state = .live handle) (call : PlainCall) :
    (life.handled call).Fits (heap.setInstance handle (some (life.plain.after call))) object := by
  have named := (fits.held handle live).isNull
  have goes : life.isLive = true ∧ life.factory.kind = .plain := by
    refine ⟨?_, fits.kind.symm.trans kind⟩
    rw [← fits.isLive, Owner.isLive, live]
  rw [Life.handled, if_pos goes]
  refine ⟨fits.kind, fits.isLive, fits.below, ?_⟩
  intro other stillLive
  rw [live] at stillLive
  cases stillLive
  simp [HeldBy, goes.2, Heap.instance?, named, Heap.setInstance, plain]

/-- An object that was destroyed fits its ended life on every heap. -/
theorem Fits.ended (fits : life.Fits heap object) (after : Heap) :
    (life.ended object.kind).Fits after object.ended := by
  rw [Life.ended, if_pos fits.kind.symm]
  refine ⟨fits.kind, rfl, ?_, ?_⟩
  · intro handle live
    cases live
  · intro handle live
    cases live

/-- A new object fits the beginning of a life. -/
theorem fits_begun (factory : Factory) (positive : 0 < heap.next) :
    (begun factory).Fits (heap.created factory) (factory.product heap) := by
  refine ⟨rfl, rfl, ?_, ?_⟩
  · intro handle live
    cases live
    rw [Heap.created_next]
    exact Nat.lt_succ_self _
  · intro handle live
    cases live
    have named := Handle.isNull_of_pos positive
    unfold HeldBy Heap.created
    cases kind : factory.kind with
    | service =>
      simp [begun, kind, Heap.service?, named, Heap.allocateService, service]
    | plain =>
      simp [begun, kind, Heap.instance?, named, Heap.allocateInstance, plain]

/-- The owner of an object that fits a life holds no null handle. -/
theorem Fits.named (fits : life.Fits heap object) :
    ∀ handle, object.owner.state = .live handle → handle.isNull = false :=
  fun handle live => (fits.held handle live).isNull

end Life

end NativeBoundary
