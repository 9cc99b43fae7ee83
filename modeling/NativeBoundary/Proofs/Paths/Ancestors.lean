import NativeBoundary.Proofs.Paths.Parents

/-!
# The way up from a path

Above a path stand its parent, the parent of its parent, and so on.  The way up ends:
every step takes away at least one of the segments that lead somewhere, so there are
no more steps than segments.  The ancestors of a path are the stations of this way,
in the order in which they are reached.
-/

namespace NativeBoundary

namespace Path

/-! ## One step up -/

/-- What the segments of the parent of a path are.  The trimmed segments lose the last one and are
trimmed again; where nothing is left of them stands the root or the empty path. -/
inductive IsAbove : List String → List String → Prop
  | belowRoot {body : List String} (kept : trimEnd body ≠ [])
      (single : trimEnd (trimEnd body).dropLast = []) : IsAbove ("" :: body) ["", ""]
  | absolute {body : List String} (kept : trimEnd body ≠ [])
      (several : trimEnd (trimEnd body).dropLast ≠ []) :
      IsAbove ("" :: body) ("" :: trimEnd (trimEnd body).dropLast)
  | single {first : String} {rest : List String} (named : first ≠ "")
      (trimmed : trimEnd rest = []) : IsAbove (first :: rest) [""]
  | relative {first : String} {rest : List String} (named : first ≠ "")
      (kept : trimEnd rest ≠ []) :
      IsAbove (first :: rest) (first :: trimEnd (trimEnd rest).dropLast)

theorem trimRelative_cons {first : String} (named : first ≠ "") (rest : List String) :
    trimRelative (first :: rest) = first :: trimEnd rest := by
  unfold trimRelative
  split
  · rename_i empty
    cases empty
  · rename_i blank
    exact absurd (List.cons.inj blank).1 named
  · rename_i written
    obtain ⟨rfl, rfl⟩ := List.cons.inj written
    rfl

theorem isAbove_of_parent?_eq_some {path parent : Path} (above : path.parent? = some parent) :
    IsAbove path.segments parent.segments := by
  rw [parent?_eq_some_iff] at above
  generalize path.segments = segments, parent.segments = upper at above ⊢
  unfold segmentsAbove? at above
  split at above
  · rename_i first body
    split at above
    · cases above
    · rename_i something
      have kept : trimEnd (first :: body) ≠ [] := something
      split at above
      · rename_i single
        obtain rfl := Option.some.inj above
        exact .belowRoot kept single
      · rename_i several
        obtain rfl := Option.some.inj above
        exact .absolute kept several
  · rename_i notAbsolute
    rcases segments with - | ⟨first, rest⟩
    · cases above
    · have named : first ≠ "" := by
        rintro rfl
        rcases rest with - | ⟨second, body⟩
        · cases above
        · exact notAbsolute second body rfl
      simp only [trimRelative_cons named] at above
      by_cases trimmed : trimEnd rest = []
      · rw [trimmed] at above
        obtain rfl := Option.some.inj above
        exact .single named trimmed
      · rw [List.dropLast_cons_of_ne_nil trimmed, trimRelative_cons named] at above
        obtain rfl := Option.some.inj above
        exact .relative named trimmed

/-! ## The way up ends -/

/-- How many segments are left when they are trimmed. -/
def lengthTrimmed : List String → Nat
  | "" :: first :: body => (trimEnd (first :: body)).length
  | segments => (trimRelative segments).length

def height (path : Path) : Nat :=
  lengthTrimmed path.segments

theorem height_le_length (path : Path) : path.height ≤ path.segments.length := by
  unfold height lengthTrimmed
  split
  · rename_i first body written
    rw [written]
    exact Nat.le_succ_of_le (length_trimEnd_le (first :: body))
  · exact length_trimRelative_le path.segments

theorem lengthTrimmed_absolute {body : List String} (kept : trimEnd body ≠ []) :
    lengthTrimmed ("" :: body) = (trimEnd body).length := by
  rcases body with - | ⟨first, rest⟩
  · exact absurd rfl kept
  · rfl

theorem lengthTrimmed_absolute_le (body : List String) :
    lengthTrimmed ("" :: body) ≤ body.length := by
  rcases body with - | ⟨first, rest⟩
  · exact Nat.le_refl 0
  · exact length_trimEnd_le (first :: rest)

theorem lengthTrimmed_relative {first : String} (named : first ≠ "") (rest : List String) :
    lengthTrimmed (first :: rest) = (trimEnd rest).length + 1 := by
  unfold lengthTrimmed
  split
  · rename_i absolute
    exact absurd (List.cons.inj absolute).1 named
  · rw [trimRelative_cons named, List.length_cons]

/-- Trimming what is left without the last segment takes away at least one. -/
theorem length_trimEnd_dropLast_lt {segments : List String} (kept : segments ≠ []) :
    (trimEnd segments.dropLast).length < segments.length := by
  have positive := List.length_pos_iff.mpr kept
  have trimmed := length_trimEnd_le segments.dropLast
  rw [List.length_dropLast] at trimmed
  omega

theorem height_lt_of_parent? {path parent : Path} (above : path.parent? = some parent) :
    parent.height < path.height := by
  have step := isAbove_of_parent?_eq_some above
  unfold height
  generalize path.segments = segments, parent.segments = upper at step ⊢
  cases step with
  | belowRoot kept single =>
    rw [lengthTrimmed_absolute kept]
    exact List.length_pos_iff.mpr kept
  | absolute kept several =>
    rw [lengthTrimmed_absolute kept]
    exact Nat.lt_of_le_of_lt (lengthTrimmed_absolute_le _) (length_trimEnd_dropLast_lt kept)
  | single named trimmed =>
    rw [lengthTrimmed_relative named]
    exact Nat.succ_pos _
  | relative named kept =>
    rw [lengthTrimmed_relative named, lengthTrimmed_relative named]
    exact Nat.succ_lt_succ
      (Nat.lt_of_le_of_lt (length_trimEnd_le _) (length_trimEnd_dropLast_lt kept))

/-! ## The stations of the way -/

/-- The path so many steps above a path. -/
def ancestor? (path : Path) : Nat → Option Path
  | 0 => some path
  | steps + 1 => (path.ancestor? steps).bind parent?

@[simp]
theorem ancestor?_zero (path : Path) : path.ancestor? 0 = some path := rfl

/-- A step further up from a path is as many steps up from its parent. -/
theorem ancestor?_succ (path : Path) (steps : Nat) :
    path.ancestor? (steps + 1) = path.parent?.bind fun parent => parent.ancestor? steps := by
  induction steps with
  | zero => cases above : path.parent? <;> simp [ancestor?, above]
  | succ steps hypothesis =>
    rw [ancestor?, hypothesis, Option.bind_assoc]
    rfl

/-- With a bound that the height allows for, no station is left out. -/
theorem getElem?_ancestorsWithin {bound : Nat} {path : Path} (within : path.height ≤ bound)
    (steps : Nat) : (ancestorsWithin bound path)[steps]? = path.ancestor? steps := by
  induction bound generalizing path steps with
  | zero =>
    have orphan : path.parent? = none := by
      cases above : path.parent? with
      | none => rfl
      | some parent =>
        have lower := height_lt_of_parent? above
        omega
    cases steps with
    | zero => rfl
    | succ steps => simp [ancestorsWithin, ancestor?_succ, orphan]
  | succ bound hypothesis =>
    unfold ancestorsWithin
    cases above : path.parent? with
    | none =>
      cases steps with
      | zero => rfl
      | succ steps => simp [ancestor?_succ, above]
    | some parent =>
      have lower := height_lt_of_parent? above
      cases steps with
      | zero => rfl
      | succ steps =>
        rw [List.getElem?_cons_succ, ancestor?_succ, above, Option.bind_some]
        exact hypothesis (by omega) steps

theorem getElem?_ancestors (path : Path) (steps : Nat) :
    path.ancestors[steps]? = path.ancestor? steps :=
  getElem?_ancestorsWithin path.height_le_length steps

/-- The way up ends. -/
theorem exists_ancestor?_eq_none (path : Path) : ∃ steps, path.ancestor? steps = none := by
  refine ⟨path.ancestors.length, ?_⟩
  rw [← getElem?_ancestors]
  exact List.getElem?_eq_none (Nat.le_refl _)

/-- A path is its own first station, and the others are those of its parent. -/
theorem ancestors_eq_cons (path : Path) :
    path.ancestors = path :: path.parent?.elim [] ancestors := by
  apply List.ext_getElem?
  intro steps
  rw [getElem?_ancestors]
  cases steps with
  | zero => rfl
  | succ steps =>
    rw [List.getElem?_cons_succ, ancestor?_succ]
    cases path.parent? with
    | none => rfl
    | some parent => exact (getElem?_ancestors parent steps).symm

/-- The first station that passes a test is reached after the fewest steps. -/
theorem find?_ancestors_eq_some_iff {path station : Path} {test : Path → Bool} :
    path.ancestors.find? test = some station ↔
      ∃ steps, path.ancestor? steps = some station ∧ test station = true ∧
        ∀ fewer < steps, ∀ nearer, path.ancestor? fewer = some nearer → test nearer = false := by
  rw [List.find?_eq_some_iff_getElem]
  constructor
  · rintro ⟨passed, steps, inside, rfl, failed⟩
    refine ⟨steps, ?_, passed, ?_⟩
    · rw [← getElem?_ancestors, List.getElem?_eq_getElem inside]
    · intro fewer less nearer reached
      rw [← getElem?_ancestors] at reached
      obtain ⟨within, rfl⟩ := List.getElem?_eq_some_iff.mp reached
      simpa using failed fewer less
  · rintro ⟨steps, reached, passed, failed⟩
    rw [← getElem?_ancestors] at reached
    obtain ⟨inside, rfl⟩ := List.getElem?_eq_some_iff.mp reached
    refine ⟨passed, steps, inside, rfl, ?_⟩
    intro fewer less
    have within := Nat.lt_trans less inside
    have nearer := failed fewer less path.ancestors[fewer]
      (by rw [← getElem?_ancestors, List.getElem?_eq_getElem within])
    simp [nearer]

end Path

end NativeBoundary
