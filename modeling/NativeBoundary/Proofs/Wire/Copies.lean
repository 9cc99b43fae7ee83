import NativeBoundary.Gateway.Buffers
import NativeBoundary.Lending.Context
import NativeBoundary.Overrides
import NativeBoundary.Proofs.Run.Yields
import NativeBoundary.Reference.Table

/-!
# Copies of the front of a buffer

Two exports copy as much of a source into a target as both of them have room for; one
takes the descriptors themselves and the other one pointers to them.  The ranges that
they copy never reach beyond either end.  What a copy leaves is determined by the two
buffers place by place, so that both exports leave the same, and copying once more
changes nothing.  In an exchange all other buffers stay as they are, the source among
them.
-/

namespace NativeBoundary

namespace Reference

open NativeBoundary.Wire

variable {α : Type} {source target left other : List α} {count : Nat}

/-! ## Ranges -/

theorem isSome_front?_iff (elements : List α) (count : Nat) :
    (front? elements count).isSome ↔ count ≤ elements.length := by
  unfold front?
  split <;> simp_all

theorem front?_of_le {elements : List α} (fits : count ≤ elements.length) :
    front? elements count = some (elements.take count) :=
  if_pos fits

/-- Ranges that both buffers have are of one length, so that the copy is made. -/
theorem overwrite?_of_le (reads : count ≤ source.length) (writes : count ≤ target.length) :
    overwrite? source target count = some (source.take count ++ target.drop count) := by
  have sameLength : (source.take count).length = (target.take count).length := by
    rw [List.length_take_of_le reads, List.length_take_of_le writes]
  simp [overwrite?, front?_of_le reads, front?_of_le writes, sameLength]

/-- A copy is made of exactly those ranges that both buffers have. -/
theorem isSome_overwrite?_iff (source target : List α) (count : Nat) :
    (overwrite? source target count).isSome ↔ count ≤ min source.length target.length := by
  rw [Nat.le_min]
  by_cases reads : count ≤ source.length
  · by_cases writes : count ≤ target.length
    · simp [overwrite?_of_le reads writes, reads, writes]
    · simp [overwrite?, front?, writes]
  · by_cases writes : count ≤ target.length <;> simp [overwrite?, front?, reads, writes]

/-! ## What a copy leaves -/

/-- A target was overwritten with a source as far as both of them reach, and nowhere else. -/
structure FrontCopied (source target left : List α) : Prop where
  length_eq : left.length = target.length
  front : ∀ index < min source.length target.length, left[index]? = source[index]?
  rest : ∀ index ≥ min source.length target.length, left[index]? = target[index]?

namespace FrontCopied

theorem unique (first : FrontCopied source target left)
    (second : FrontCopied source target other) : left = other := by
  refine List.ext_getElem? fun index => ?_
  by_cases inside : index < min source.length target.length
  · rw [first.front index inside, second.front index inside]
  · rw [first.rest index (Nat.not_lt.mp inside), second.rest index (Nat.not_lt.mp inside)]

/-- What was copied already is not changed by copying it again. -/
theorem again (copied : FrontCopied source target left) : FrontCopied source left left where
  length_eq := rfl
  front index inside := copied.front index (copied.length_eq ▸ inside)
  rest _ _ := rfl

end FrontCopied

/-- There is always a copy of the common front. -/
theorem exists_copyFront? (source target : List α) :
    ∃ left, copyFront? source target = some left ∧ FrontCopied source target left := by
  have reads := Nat.min_le_left source.length target.length
  have writes := Nat.min_le_right source.length target.length
  have length :
      (source.take (min source.length target.length)).length =
        min source.length target.length :=
    List.length_take_of_le reads
  refine ⟨_, overwrite?_of_le reads writes, ?_, fun index inside => ?_, fun index beyond => ?_⟩
  · rw [List.length_append, length, List.length_drop, Nat.add_sub_cancel' writes]
  · rw [List.getElem?_append_left (length.symm ▸ inside), List.getElem?_take_of_lt inside]
  · rw [List.getElem?_append_right (length.symm ▸ beyond), length, List.getElem?_drop,
      Nat.add_sub_cancel' beyond]

theorem FrontCopied.copyFront?_eq (copied : FrontCopied source target left) :
    copyFront? source target = some left := by
  rcases exists_copyFront? source target with ⟨made, computed, madeCopied⟩
  rw [computed, madeCopied.unique copied]

section Exports

variable {source target left : List UInt8}

theorem FrontCopied.copy_eq (copied : FrontCopied source target left) :
    copy (.lent source) (.lent target) = .lent left :=
  congrArg (fun made : Option (List UInt8) => Descriptor.lent (made.getD target))
    copied.copyFront?_eq

theorem FrontCopied.run_slice4 (copied : FrontCopied source target left) (heap : Heap) :
    (table.patternFfiSlice4 (.lent source) (.lent target)).run heap = (.lent left, heap) :=
  congrArg (fun made => (made, heap)) copied.copy_eq

theorem FrontCopied.run_slice5 (copied : FrontCopied source target left) (heap : Heap) :
    (table.patternFfiSlice5 (some (.lent source)) (some (.lent target))).run heap =
      (some (.lent left), heap) :=
  congrArg (fun made => (some made, heap)) copied.copy_eq

end Exports

end Reference

namespace Lending.Context

/-! ## Buffers that are held by name -/

/-- The context in which another buffer is held under a name that holds one. -/
def renewed (context : Context) (target : String) (pin : HeldPin) : Context :=
  { context with
    held := context.held.map fun entry => if entry.1 = target then (entry.1, pin) else entry }

theorem held?_renewed (context : Context) (target name : String) (pin : HeldPin) :
    (context.renewed target pin).held? name =
      if name = target then (context.held? name).map fun _ => pin else context.held? name := by
  have sameNames :
      ((fun entry : String × HeldPin => entry.1 == name) ∘ fun entry : String × HeldPin =>
          if entry.1 = target then (entry.1, pin) else entry) =
        fun entry => entry.1 == name := by
    funext entry
    simp only [Function.comp_apply]
    split <;> rfl
  simp only [held?, renewed, List.find?_map, sameNames]
  cases found : context.held.find? fun entry => entry.1 == name with
  | none => simp
  | some entry =>
    have named : entry.1 = name := by simpa using List.find?_some found
    by_cases chosen : name = target <;> simp [named, chosen]

end Lending.Context

namespace Gateway

open Crossing Lending Reference Wire

variable {W : Type} (changes : Overrides) (isDynamic : Bool)
variable {source target left : List UInt8} (world : Heap)

/-! ## Both exports -/

theorem ffiSlice4_yields (copied : FrontCopied source target left) :
    Yields (ffiSlice4 ⟨changes.apply Reference.table, isDynamic⟩ source target) world left
      world := by
  have called :
      Yields
        (Crossing.native .patternFfiSlice4 none
          (Reference.table.patternFfiSlice4 (.lent source) (.lent target)))
        world (.lent left) world := .native (copied.run_slice4 world)
  exact .pinned (called.bind (.pure left))

theorem ffiSlice5_yields (copied : FrontCopied source target left) :
    Yields (ffiSlice5 ⟨changes.apply Reference.table, isDynamic⟩ source target) world left
      world := by
  have called :
      Yields
        (Crossing.native .patternFfiSlice5 none
          (Reference.table.patternFfiSlice5 (some (.lent source)) (some (.lent target))))
        world (some (.lent left)) world := .native (copied.run_slice5 world)
  exact .pinned (called.bind (.pure left))

/-- Copying between two held buffers changes the target alone. -/
theorem run_copy {context : Context} {sourceName targetName : String}
    (sourceHeld : context.held? sourceName = some ⟨.bytes source, false⟩)
    (targetHeld : context.held? targetName = some ⟨.bytes target, true⟩)
    (copied : FrontCopied source target left) (session : Session Heap) :
    (context.step (changes.apply Reference.table) (.copy sourceName targetName)).run session =
      (.returned (.bytes left, context.renewed targetName ⟨.bytes left, true⟩),
        ⟨session.world, .called .patternFfiSlice4 none :: session.journal⟩) := by
  have called :
      (Crossing.native .patternFfiSlice4 none
          (Reference.table.patternFfiSlice4 (.lent source) (.lent target))).run session =
        (.returned (.lent left),
          ⟨session.world, .called .patternFfiSlice4 none :: session.journal⟩) := by
    rw [Crossing.run_native, copied.run_slice4]
  rw [Context.step, Context.copy, sourceHeld, targetHeld]
  exact Crossing.run_bind_of_returned called

/-- For a source and a target of any lengths there is one buffer that both exports leave in the
target, from every state of the library, and without a change to that state.  It has the length of
the target; the shorter one of both lengths tells how many of its bytes are those of the source,
and the later ones are those of the target.  This is the longest range that both have, and no
other one is read or written.  Copying once more, by either export, leaves the same again.

Between two buffers of an exchange the copy changes the target alone, and not the source. -/
theorem copies_fill_common_front (changes : Overrides) (isDynamic : Bool)
    (source target : List UInt8) :
    let gateway : Gateway Heap := ⟨changes.apply Reference.table, isDynamic⟩
    let common := min source.length target.length
    (front? source common).isSome ∧ (front? target common).isSome ∧
    (∀ count, (overwrite? source target count).isSome ↔ count ≤ common) ∧
    ∃ left,
      copyFront? source target = some left ∧
      left.length = target.length ∧
      (∀ index < common, left[index]? = source[index]?) ∧
      (∀ index ≥ common, left[index]? = target[index]?) ∧
      (∀ world,
        Yields (gateway.ffiSlice4 source target) world left world ∧
        Yields (gateway.ffiSlice5 source target) world left world ∧
        Yields (gateway.ffiSlice4 source left) world left world ∧
        Yields (gateway.ffiSlice5 source left) world left world) ∧
      ∀ (context : Context) (sourceName targetName : String) (session : Session Heap),
        context.held? sourceName = some ⟨.bytes source, false⟩ →
        context.held? targetName = some ⟨.bytes target, true⟩ →
          ∃ after last,
            (context.step gateway.exports (.copy sourceName targetName)).run session =
                (.returned (.bytes left, after), last) ∧
              after.held? sourceName = some ⟨.bytes source, false⟩ ∧
              after.held? targetName = some ⟨.bytes left, true⟩ ∧
              ∀ name ≠ targetName, after.held? name = context.held? name := by
  intro gateway common
  rcases exists_copyFront? source target with ⟨left, computed, copied⟩
  refine
    ⟨(isSome_front?_iff source common).mpr (Nat.min_le_left _ _),
      (isSome_front?_iff target common).mpr (Nat.min_le_right _ _),
      isSome_overwrite?_iff source target, left, computed, copied.length_eq, copied.front,
      copied.rest, fun world => ?_, ?_⟩
  · exact
      ⟨ffiSlice4_yields changes isDynamic world copied,
        ffiSlice5_yields changes isDynamic world copied,
        ffiSlice4_yields changes isDynamic world copied.again,
        ffiSlice5_yields changes isDynamic world copied.again⟩
  · intro context sourceName targetName session sourceHeld targetHeld
    have different : sourceName ≠ targetName := by
      rintro rfl
      simp [sourceHeld] at targetHeld
    refine
      ⟨_, _, run_copy changes sourceHeld targetHeld copied session, ?_, ?_, fun name other => ?_⟩
    · rw [Context.held?_renewed, if_neg different, sourceHeld]
    · rw [Context.held?_renewed, if_pos rfl, targetHeld]
      rfl
    · rw [Context.held?_renewed, if_neg other]

/-- A source that is longer than its target, and one that is shorter. -/
theorem copies_fill_common_front_uneven :
    let context : Context :=
      { held := [("source", ⟨.bytes [1, 2, 3], false⟩), ("target", ⟨.bytes [7, 8], true⟩)] }
    let start : Session Heap := ⟨.empty, []⟩
    context.held? "source" = some ⟨.bytes [1, 2, 3], false⟩ ∧
      context.held? "target" = some ⟨.bytes [7, 8], true⟩ ∧
      (∃ after last,
        (context.step Reference.table (.copy "source" "target")).run start =
            (.returned (.bytes [1, 2], after), last) ∧
          after.held? "source" = some ⟨.bytes [1, 2, 3], false⟩) ∧
      Yields (ffiSlice5 ⟨Reference.table, true⟩ [1, 2] [7, 8, 9]) .empty [1, 2, 9] .empty := by
  intro context start
  have sourceHeld : context.held? "source" = some ⟨.bytes [1, 2, 3], false⟩ := by decide
  have targetHeld : context.held? "target" = some ⟨.bytes [7, 8], true⟩ := by decide
  rcases copies_fill_common_front {} true [1, 2, 3] [7, 8] with
    ⟨-, -, -, left, computed, -, -, -, -, held⟩
  rcases held context "source" "target" start sourceHeld targetHeld with
    ⟨after, last, ran, kept, -⟩
  rcases copies_fill_common_front {} true [1, 2] [7, 8, 9] with
    ⟨-, -, -, filled, written, -, -, -, yields, -⟩
  cases computed
  cases written
  exact ⟨sourceHeld, targetHeld, ⟨after, last, ran, kept⟩, (yields .empty).2.1⟩

end Gateway

end NativeBoundary
