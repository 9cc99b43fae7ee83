import NativeBoundary.Proofs.Slots.Calls

/-!
# Slots and the objects behind them

Every slot is used for one kind of object.  In every state that direct calls lead to,
a slot that is not null holds a handle of an object of its kind, no two slots hold the
same handle, and no slot holds the handle of an object that was destroyed.  So no run
destroys an object twice.
-/

namespace NativeBoundary

open NativeBoundary.Reference

theorem ObjectKind.eq_plain {kind : ObjectKind} (different : kind ≠ .service) : kind = .plain := by
  cases kind with
  | service => exact absurd rfl different
  | plain => rfl

theorem ObjectKind.eq_service {kind : ObjectKind} (different : kind ≠ .plain) :
    kind = .service := by
  cases kind with
  | service => rfl
  | plain => exact absurd rfl different

namespace Reference

/-- The state of an object of either kind. -/
inductive Object
  | service (state : Service)
  | plain (state : Instance)
deriving DecidableEq, Repr

namespace Heap

/-- The object of a kind that a handle names. -/
def object? (heap : Heap) (kind : ObjectKind) (handle : Handle) : Option Object :=
  match kind with
  | .service => (heap.service? handle).map .service
  | .plain => (heap.instance? handle).map .plain

variable (heap : Heap) {kind other : ObjectKind} {handle named : Handle}

/-- Services under other handles, and instances, are not concerned by a change of a service. -/
theorem object?_setService (object : Option Service)
    (apart : other = .plain ∨ handle ≠ named) :
    (heap.setService named object).object? other handle = heap.object? other handle := by
  cases other with
  | plain => rfl
  | service =>
    have different : handle ≠ named := apart.resolve_left ObjectKind.noConfusion
    have same := update_other heap.services object (Handle.address_ne different)
    simp only [object?, service?, setService, same]

theorem object?_setInstance (object : Option Instance)
    (apart : other = .service ∨ handle ≠ named) :
    (heap.setInstance named object).object? other handle = heap.object? other handle := by
  cases other with
  | service => rfl
  | plain =>
    have different : handle ≠ named := apart.resolve_left ObjectKind.noConfusion
    have same := update_other heap.instances object (Handle.address_ne different)
    simp only [object?, instance?, setInstance, same]

theorem object?_freed_same (kind : ObjectKind) (handle : Handle) :
    (heap.freed kind handle).object? kind handle = none := by
  cases kind with
  | service => simp [object?, freed, service?, setService]
  | plain => simp [object?, freed, instance?, setInstance]

theorem object?_freed_other (apart : other ≠ kind ∨ handle ≠ named) :
    (heap.freed kind named).object? other handle = heap.object? other handle := by
  cases kind with
  | service => exact heap.object?_setService none (apart.imp_left ObjectKind.eq_plain)
  | plain => exact heap.object?_setInstance none (apart.imp_left ObjectKind.eq_service)

/-- The null handle names nothing. -/
theorem isNull_of_object? (held : (heap.object? kind handle).isSome) : handle.isNull = false := by
  refine Bool.eq_false_iff.mpr fun null => ?_
  cases kind with
  | service => simp [object?, service?, null] at held
  | plain => simp [object?, instance?, null] at held

end Heap

end Reference

/-- The state that a factory makes an object in. -/
def Factory.initial : Factory → Object
  | .serviceWith value => .service { value }
  | .serviceWithout => .service {}
  | .serviceFailing value => .service { value := value.toUInt32 }
  | .plain => .plain {}

namespace Reference.Heap

variable (heap : Heap) {kind : ObjectKind} {handle : Handle}

theorem object?_created_same (factory : Factory) (positive : 0 < heap.next) :
    (heap.created factory).object? factory.kind ⟨heap.next⟩ = some factory.initial := by
  have named := Handle.isNull_of_pos positive
  cases factory <;>
    simp [created, Factory.kind, object?, service?, instance?, named, allocateService,
      allocateInstance, Factory.initial, Factory.argument]

theorem object?_created_other (factory : Factory)
    (apart : kind ≠ factory.kind ∨ handle ≠ ⟨heap.next⟩) :
    (heap.created factory).object? kind handle = heap.object? kind handle := by
  unfold created
  cases made : factory.kind with
  | service =>
    rw [made] at apart
    exact heap.object?_setService _ (apart.imp_left ObjectKind.eq_plain)
  | plain =>
    rw [made] at apart
    exact heap.object?_setInstance _ (apart.imp_left ObjectKind.eq_service)

/-- A change of a service makes nothing come or go. -/
theorem isSome_object?_setService {named : Handle} {old : Service}
    (found : heap.service? named = some old) (new : Service) (kind : ObjectKind)
    (handle : Handle) :
    ((heap.setService named (some new)).object? kind handle).isSome =
      (heap.object? kind handle).isSome := by
  by_cases apart : kind = .plain ∨ handle ≠ named
  · rw [object?_setService heap (some new) apart]
  · rcases not_or.mp apart with ⟨service, same⟩
    have filled : handle = named := Decidable.not_not.mp same
    subst filled
    cases kind with
    | plain => exact absurd rfl service
    | service =>
      have held : (heap.object? .service handle).isSome := by
        rw [object?, found]
        rfl
      have stands := heap.isNull_of_object? held
      have before := services_of_service? found
      simp [object?, service?, setService, stands, before]

theorem isSome_object?_setInstance {named : Handle} {old : Instance}
    (found : heap.instance? named = some old) (new : Instance) (kind : ObjectKind)
    (handle : Handle) :
    ((heap.setInstance named (some new)).object? kind handle).isSome =
      (heap.object? kind handle).isSome := by
  by_cases apart : kind = .service ∨ handle ≠ named
  · rw [object?_setInstance heap (some new) apart]
  · rcases not_or.mp apart with ⟨plain, same⟩
    have filled : handle = named := Decidable.not_not.mp same
    subst filled
    cases kind with
    | service => exact absurd rfl plain
    | plain =>
      have held : (heap.object? .plain handle).isSome := by
        rw [object?, found]
        rfl
      have stands := heap.isNull_of_object? held
      have before := instances_of_instance? found
      simp [object?, instance?, setInstance, stands, before]

/-- Freeing brings no object. -/
theorem isSome_object?_of_freed {other : ObjectKind} {named : Handle}
    (held : ((heap.freed kind named).object? other handle).isSome) :
    (heap.object? other handle).isSome := by
  by_cases same : other = kind ∧ handle = named
  · rcases same with ⟨rfl, rfl⟩
    rw [object?_freed_same] at held
    cases held
  · rwa [object?_freed_other heap (Decidable.not_and_iff_not_or_not.mp same)] at held

/-- A factory brings no object but its own. -/
theorem isSome_object?_of_created {factory : Factory}
    (held : ((heap.created factory).object? kind handle).isSome) :
    kind = factory.kind ∧ handle = ⟨heap.next⟩ ∨ (heap.object? kind handle).isSome := by
  by_cases new : kind = factory.kind ∧ handle = ⟨heap.next⟩
  · exact Or.inl new
  · rw [object?_created_other heap factory (Decidable.not_and_iff_not_or_not.mp new)] at held
    exact Or.inr held

end Reference.Heap

namespace Direct

/-! ## What is known of slots and objects -/

/-- Slots that hold each a handle of its own to an object of its kind, over a heap on which no
handle was given twice. -/
structure Sound (kinds : String → ObjectKind) (slots : Slots) (heap : Heap) : Prop where
  distinct : ∀ name other, slots name = slots other → slots name ≠ .null → name = other
  alive : ∀ name, slots name ≠ .null → (heap.object? (kinds name) (slots name)).isSome
  /-- Handles that will be given to new objects name nothing yet. -/
  below : ∀ kind handle, (heap.object? kind handle).isSome → handle.address < heap.next
  exclusive : ∀ kind other handle, (heap.object? kind handle).isSome →
    (heap.object? other handle).isSome → kind = other
  positive : 0 < heap.next

/-- A handle that named an object once and will never do so again. -/
structure Gone (heap : Heap) (handle : Handle) : Prop where
  named : handle ≠ .null
  below : handle.address < heap.next
  missing : ∀ kind, heap.object? kind handle = none

variable {kinds : String → ObjectKind} {slots after : Slots} {heap left : Heap} {handle : Handle}
  {gone : List Handle}

theorem sound_start (kinds : String → ObjectKind) : Sound kinds .empty .empty where
  distinct := fun name other same named => absurd rfl named
  alive := fun name named => absurd rfl named
  below := by
    intro kind handle held
    cases kind <;> simp [Heap.object?, Heap.service?, Heap.instance?, Heap.empty] at held
  exclusive := by
    intro kind other handle held
    cases kind <;> simp [Heap.object?, Heap.service?, Heap.instance?, Heap.empty] at held
  positive := Nat.one_pos

/-- No slot holds a handle that is gone. -/
theorem Sound.not_gone (sound : Sound kinds slots heap) (name : String) :
    ¬ Gone heap (slots name) := by
  intro ended
  have held := sound.alive name ended.named
  rw [ended.missing] at held
  cases held

/-- The handle of the next object names nothing yet. -/
theorem Sound.fresh (sound : Sound kinds slots heap) (kind : ObjectKind) :
    heap.object? kind ⟨heap.next⟩ = none := by
  refine Option.not_isSome_iff_eq_none.mp fun held => ?_
  exact absurd (sound.below kind ⟨heap.next⟩ held) (Nat.lt_irrefl _)

theorem Sound.next_ne_null (sound : Sound kinds slots heap) : (⟨heap.next⟩ : Handle) ≠ .null :=
  Handle.isNull_eq_false_iff.mp (Handle.isNull_of_pos sound.positive)

/-- And it stands in no slot. -/
theorem Sound.slot_ne_next (sound : Sound kinds slots heap) (name : String) :
    slots name ≠ ⟨heap.next⟩ := by
  intro same
  have named : slots name ≠ .null := by
    rw [same]
    exact sound.next_ne_null
  have held := sound.alive name named
  rw [same, sound.fresh] at held
  cases held

/-! ## What a step may do to slots and objects -/

/-- A new object comes to the heap and its handle to a slot, and nothing else is concerned. -/
theorem Sound.filled (sound : Sound kinds slots heap) (name : String) {factory : Factory}
    (fits : factory.kind = kinds name) :
    Sound kinds (slots.set name ⟨heap.next⟩) (heap.created factory) where
  distinct := by
    intro first second same named
    by_cases left : first = name
    · by_cases right : second = name
      · exact left.trans right.symm
      · subst left
        rw [Slots.set_same, Slots.set_other _ _ right] at same
        exact absurd same.symm (sound.slot_ne_next second)
    · rw [Slots.set_other _ _ left] at same named
      by_cases right : second = name
      · subst right
        rw [Slots.set_same] at same
        exact absurd same (sound.slot_ne_next first)
      · rw [Slots.set_other _ _ right] at same
        exact sound.distinct first second same named
  alive := by
    intro other named
    by_cases same : other = name
    · subst same
      rw [Slots.set_same, ← fits, Heap.object?_created_same _ _ sound.positive]
      rfl
    · rw [Slots.set_other _ _ same] at named ⊢
      rw [Heap.object?_created_other _ _ (Or.inr (sound.slot_ne_next other))]
      exact sound.alive other named
  below := by
    intro kind handle held
    rw [Heap.created_next]
    rcases heap.isSome_object?_of_created held with ⟨-, rfl⟩ | older
    · exact Nat.lt_succ_self _
    · exact Nat.lt_succ_of_lt (sound.below kind handle older)
  exclusive := by
    intro kind other handle first second
    have unnamed {kind : ObjectKind} (held : (heap.object? kind ⟨heap.next⟩).isSome) : False := by
      rw [sound.fresh] at held
      cases held
    rcases heap.isSome_object?_of_created first with ⟨rfl, rfl⟩ | firstOlder
    · rcases heap.isSome_object?_of_created second with ⟨rfl, -⟩ | secondOlder
      · rfl
      · exact (unnamed secondOlder).elim
    · rcases heap.isSome_object?_of_created second with ⟨rfl, rfl⟩ | secondOlder
      · exact (unnamed firstOlder).elim
      · exact sound.exclusive kind other handle firstOlder secondOlder
  positive := by
    rw [Heap.created_next]
    exact Nat.succ_pos _

/-- The object of a slot goes, the slot is empty, and nothing else is concerned. -/
theorem Sound.emptied (sound : Sound kinds slots heap) (name : String) :
    Sound kinds (slots.set name .null) (heap.freed (kinds name) (slots name)) where
  distinct := by
    intro first second same filled
    by_cases left : first = name
    · subst left
      exact absurd (Slots.set_same _ _ _) filled
    · by_cases right : second = name
      · subst right
        rw [Slots.set_same] at same
        exact absurd same filled
      · rw [Slots.set_other _ _ left] at same filled
        rw [Slots.set_other _ _ right] at same
        exact sound.distinct first second same filled
  alive := by
    intro other filled
    by_cases same : other = name
    · subst same
      exact absurd (Slots.set_same _ _ _) filled
    · rw [Slots.set_other _ _ same] at filled ⊢
      have apart : slots other ≠ slots name :=
        fun equal => same (sound.distinct other name equal filled)
      rw [Heap.object?_freed_other _ (Or.inr apart)]
      exact sound.alive other filled
  below := by
    intro kind handle held
    rw [Heap.freed_next]
    exact sound.below kind handle (heap.isSome_object?_of_freed held)
  exclusive := by
    intro kind other handle first second
    exact sound.exclusive kind other handle (heap.isSome_object?_of_freed first)
      (heap.isSome_object?_of_freed second)
  positive := by
    rw [Heap.freed_next]
    exact sound.positive

/-- Nothing is left under the handle that stood in the slot. -/
theorem Sound.gone_destroyed (sound : Sound kinds slots heap) {name : String}
    (named : slots name ≠ .null) : Gone (heap.freed (kinds name) (slots name)) (slots name) where
  named := named
  below := by
    rw [Heap.freed_next]
    exact sound.below _ _ (sound.alive name named)
  missing := by
    intro kind
    by_cases same : kind = kinds name
    · rw [same, Heap.object?_freed_same]
    · rw [Heap.object?_freed_other _ (Or.inl same)]
      refine Option.not_isSome_iff_eq_none.mp fun held => same ?_
      exact sound.exclusive kind (kinds name) (slots name) held (sound.alive name named)

/-- What becomes of the slots and the objects, and the handles that are destroyed with it. -/
inductive Move (kinds : String → ObjectKind) (slots : Slots) (heap : Heap) :
    List Handle → Slots → Heap → Prop
  /-- Objects may change, but none comes or goes. -/
  | changed {left : Heap} (next : left.next = heap.next)
      (same : ∀ kind handle,
        (left.object? kind handle).isSome = (heap.object? kind handle).isSome) :
      Move kinds slots heap [] slots left
  | made (name : String) (factory : Factory) (fits : factory.kind = kinds name) :
      Move kinds slots heap [] (slots.set name ⟨heap.next⟩) (heap.created factory)
  | destroyed (name : String) (named : slots name ≠ .null) :
      Move kinds slots heap [slots name] (slots.set name .null)
        (heap.freed (kinds name) (slots name))

theorem Move.kept (kinds : String → ObjectKind) (slots : Slots) (heap : Heap) :
    Move kinds slots heap [] slots heap :=
  .changed rfl fun _ _ => rfl

/-- Every move keeps what is known of slots and objects. -/
theorem Sound.move (sound : Sound kinds slots heap) (move : Move kinds slots heap gone after left) :
    Sound kinds after left := by
  cases move with
  | changed next same =>
    exact
      { distinct := sound.distinct
        alive := fun name named => by
          rw [same]
          exact sound.alive name named
        below := fun kind handle held => by
          rw [same] at held
          rw [next]
          exact sound.below kind handle held
        exclusive := fun kind other handle first second => by
          rw [same] at first second
          exact sound.exclusive kind other handle first second
        positive := by
          rw [next]
          exact sound.positive }
  | made name factory fits => exact sound.filled name fits
  | destroyed name named => exact sound.emptied name

/-- What is gone stays gone. -/
theorem Gone.move (ended : Gone heap handle) (move : Move kinds slots heap gone after left) :
    Gone left handle where
  named := ended.named
  below := by
    cases move with
    | changed next same =>
      rw [next]
      exact ended.below
    | made name factory fits =>
      rw [Heap.created_next]
      exact Nat.lt_succ_of_lt ended.below
    | destroyed name named =>
      rw [Heap.freed_next]
      exact ended.below
  missing := by
    intro kind
    refine Option.not_isSome_iff_eq_none.mp fun held => ?_
    have before : (heap.object? kind handle).isSome := by
      cases move with
      | changed next same => rwa [same] at held
      | made name factory fits =>
        refine (heap.isSome_object?_of_created held).resolve_left fun new => ?_
        have below := ended.below
        rw [new.2] at below
        exact Nat.lt_irrefl _ below
      | destroyed name named => exact heap.isSome_object?_of_freed held
    rw [ended.missing] at before
    cases before

/-- What a move destroys was there before, is gone afterwards, and is destroyed once. -/
theorem Sound.gone_move (sound : Sound kinds slots heap)
    (move : Move kinds slots heap gone after left) :
    gone.Nodup ∧ ∀ handle ∈ gone, ¬ Gone heap handle ∧ Gone left handle := by
  cases move with
  | changed next same => exact ⟨List.nodup_nil, fun _ member => nomatch member⟩
  | made name factory fits => exact ⟨List.nodup_nil, fun _ member => nomatch member⟩
  | destroyed name named =>
    refine ⟨List.nodup_cons.mpr ⟨List.not_mem_nil, List.nodup_nil⟩, fun handle member => ?_⟩
    rw [List.mem_singleton.mp member]
    exact ⟨sound.not_gone name, sound.gone_destroyed named⟩

end Direct

end NativeBoundary
