import NativeBoundary.Proofs.Histories.Fits

/-!
# Objects keep to themselves

In a run over the reference library, every live object stands on the heap at an
address of its own and is what its life has led to.  A step changes the heap at
the address of the object it is about and at addresses that were never used, so
it leaves the other objects and their lives alone.
-/

namespace NativeBoundary

open NativeBoundary.Reference

/-! ## What a run keeps -/

/-- Every name has the life that it stands for, and no two names stand for one address. -/
structure Tracks (lives : String → Option Life) (objects : Objects) (heap : Heap) : Prop where
  distinct : objects.Distinct
  positive : 0 < heap.next
  missing : ∀ name, objects.get? name = none → lives name = none
  fits : ∀ name object, objects.get? name = some object →
    ∃ life, lives name = some life ∧ life.Fits heap object
  apart : ∀ name other address, objects.address? name = some address →
    objects.address? other = some address → name = other

namespace Tracks

variable {lives livesAfter : String → Option Life} {objects left : Objects}
  {heap after : Heap}

theorem address_lt (tracks : Tracks lives objects heap) {name : String} {address : Nat}
    (stands : objects.address? name = some address) : address < heap.next := by
  rcases Option.bind_eq_some_iff.mp stands with ⟨object, found, own⟩
  rcases tracks.fits name object found with ⟨life, _, fits⟩
  exact fits.below ⟨address⟩ (OwnedObject.address?_eq_some_iff.mp own)

/-- A change under one name, at its address or at new ones, keeps track of everything if it keeps
track of that name. -/
theorem of_beside (tracks : Tracks lives objects heap) {name : String}
    (beside : Heap.Beside (objects.address? name) heap after) (distinct : left.Distinct)
    (others : ∀ other, other ≠ name → left.get? other = objects.get? other)
    (otherLives : ∀ other, other ≠ name → livesAfter other = lives other)
    (missing : left.get? name = none → livesAfter name = none)
    (fits : ∀ object, left.get? name = some object →
      ∃ life, livesAfter name = some life ∧ life.Fits after object)
    (fresh : ∀ address, left.address? name = some address →
      objects.address? name = some address ∨ heap.next ≤ address) :
    Tracks livesAfter left after := by
  have otherAddress : ∀ other, other ≠ name → left.address? other = objects.address? other := by
    intro other different
    rw [Objects.address?, Objects.address?, others other different]
  -- The address under the name is its old one or a new one, and so is no other name's.
  have ownAlone : ∀ other address, other ≠ name → left.address? name = some address →
      left.address? other ≠ some address := by
    intro other address different own stands
    rw [otherAddress other different] at stands
    rcases fresh address own with same | new
    · exact different (tracks.apart other name address stands same)
    · exact Nat.not_lt.mpr new (tracks.address_lt stands)
  refine ⟨distinct, Nat.lt_of_lt_of_le tracks.positive beside.next_le, ?_, ?_, ?_⟩
  · intro other absent
    by_cases same : other = name
    · subst same
      exact missing absent
    · rw [otherLives other same]
      exact tracks.missing other (others other same ▸ absent)
  · intro other object found
    by_cases same : other = name
    · subst same
      exact fits object found
    · rw [others other same] at found
      rcases tracks.fits other object found with ⟨life, known, fitted⟩
      refine ⟨life, (otherLives other same).trans known, fitted.beside beside ?_⟩
      intro address stands own
      rw [← Objects.address?_of_get? found] at stands
      exact same (tracks.apart other name address stands own)
  · intro first second address firstStands secondStands
    by_cases firstSame : first = name
    · by_cases secondSame : second = name
      · rw [firstSame, secondSame]
      · rw [firstSame] at firstStands
        exact absurd secondStands (ownAlone second address secondSame firstStands)
    · by_cases secondSame : second = name
      · rw [secondSame] at secondStands
        exact absurd firstStands (ownAlone first address firstSame secondStands)
      · rw [otherAddress first firstSame] at firstStands
        rw [otherAddress second secondSame] at secondStands
        exact tracks.apart first second address firstStands secondStands

theorem of_same (tracks : Tracks lives objects heap)
    (same : ∀ name, livesAfter name = lives name) : Tracks livesAfter objects heap := by
  rw [funext same]
  exact tracks

/-- A change of the heap at the address of one object keeps track of everything if the object
still fits its life. -/
theorem of_object (tracks : Tracks lives objects heap) {name : String} {object : OwnedObject}
    {life : Life} (found : objects.get? name = some object)
    (beside : Heap.Beside object.address? heap after)
    (otherLives : ∀ other, other ≠ name → livesAfter other = lives other)
    (followed : livesAfter name = some life) (fits : life.Fits after object) :
    Tracks livesAfter objects after := by
  rw [← Objects.address?_of_get? found] at beside
  refine tracks.of_beside beside tracks.distinct (fun _ _ => rfl) otherLives ?_ ?_ ?_
  · intro absent
    rw [found] at absent
    cases absent
  · intro other alsoFound
    rw [found] at alsoFound
    cases alsoFound
    exact ⟨life, followed, fits⟩
  · intro address stands
    exact .inl stands

/-- Before the first step there are no lives. -/
theorem nil {heap : Heap} (positive : 0 < heap.next) : Tracks (fun _ => none) [] heap := by
  refine ⟨Objects.distinct_nil, positive, fun _ _ => rfl, ?_, ?_⟩
  · intro name object found
    cases found
  · intro name other address stands
    cases stands

end Tracks

end NativeBoundary
