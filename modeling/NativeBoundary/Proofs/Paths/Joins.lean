import NativeBoundary.Proofs.Paths.Components

/-!
# Paths put behind one another

The components of a joined path are told by those of its two parts: the names of both,
behind the front of the first one, or of the second one if the first part is empty.  So
it does not matter how the first part is spelled.  Behind a path that is absolute every
path becomes absolute, and a name that is put behind a path is taken away again by the
step up: what is left has the components of the path, though it need not be spelled like it.
-/

namespace NativeBoundary

namespace Path

/-! ## Nothing in front -/

theorem front_eq_nil_iff {path : Path} : path.front = [] ↔ path = empty := by
  refine ⟨fun nothing => Decidable.byContradiction fun something => ?_, by rintro rfl; rfl⟩
  obtain ⟨first, kept, -, -, stays, -⟩ := exists_front_eq_cons something
  rw [stays] at nothing
  cases nothing

/-- Only the empty path has no components. -/
theorem components_eq_nil_iff {path : Path} : path.components = [] ↔ path = empty := by
  constructor
  · intro unmarked
    obtain ⟨first, more, split⟩ := List.exists_cons_of_ne_nil path.isWritten.1
    rw [components_eq, split, List.append_eq_nil_iff] at unmarked
    obtain ⟨unmarked, unnamed⟩ := unmarked
    have plain : isSignificant first = false := by
      refine eq_false_of_ne_true fun significant => ?_
      rw [bodyComponents, List.filter_cons_of_pos significant] at unnamed
      cases unnamed
    refine Path.ext ?_
    rcases eq_or_eq_of_not_significant plain with rfl | rfl
    · cases more with
      | nil => exact split
      | cons second more => cases unmarked
    · cases unmarked
  · rintro rfl
    rfl

/-! ## The parts of a joined path -/

/-- Where something follows it, the first segment alone decides on the marker. -/
theorem marker_cons {first : String} {rest : List String} (further : rest ≠ []) :
    marker (first :: rest) =
      if first = "" then [.root] else if first = "." then [.current] else [] := by
  obtain ⟨second, more, rfl⟩ := List.exists_cons_of_ne_nil further
  by_cases blank : first = ""
  · subst blank
    rfl
  · by_cases dot : first = "."
    · subst dot
      rfl
    · simp [marker, blank, dot]

theorem marker_single (first : String) :
    marker [first] = if first = "." then [.current] else [] := by
  by_cases dot : first = "."
  · subst dot
    rfl
  · simp [marker, dot]

theorem names_join {path other : Path} (relative : other.isAbsolute = false) :
    (path.join other).names = path.names ++ other.names := by
  rw [names, path.segments_join relative, List.filter_append, filter_front]
  rfl

/-- With something in front a joined path begins as this does. -/
theorem marker_join {path other : Path} (relative : other.isAbsolute = false)
    (something : path ≠ empty) : marker (path.join other).segments = marker path.segments := by
  obtain ⟨first, kept, rest, split, stays, named⟩ := exists_front_eq_cons something
  have further : kept ++ other.segments ≠ [] :=
    List.append_ne_nil_of_right_ne_nil _ other.isWritten.1
  rw [path.segments_join relative, stays, List.cons_append, marker_cons further, split]
  by_cases several : rest = []
  · rw [several, marker_single, if_neg (named several)]
  · rw [marker_cons several]

/-- It does not matter how the path in front is spelled. -/
theorem components_join_congr {first second path : Path}
    (same : first.components = second.components) (relative : path.isAbsolute = false) :
    (first.join path).components = (second.join path).components := by
  have empty : first = empty ↔ second = empty := by
    rw [← components_eq_nil_iff, ← components_eq_nil_iff, same]
  by_cases nothing : first = Path.empty
  · rw [nothing, empty.mp nothing]
  · obtain ⟨markers, names⟩ := marker_and_names_of_components same
    have bodies : (first.join path).names = (second.join path).names := by
      rw [names_join relative, names_join relative, names]
    rw [components_eq, components_eq, marker_join relative nothing,
      marker_join relative (empty.not.mp nothing), markers]
    exact congrArg (marker second.segments ++ List.map Component.ofSegment ·) bodies

/-! ## A step up from a joined path -/

/-- A step up keeps the marker if something is left behind the first segment. -/
theorem marker_of_parent? {path parent : Path} (above : path.parent? = some parent)
    (something : trimEnd path.segments.tail ≠ []) :
    marker parent.segments = marker path.segments := by
  have step := isAbove_of_parent?_eq_some above
  generalize path.segments = segments, parent.segments = upper at step something ⊢
  cases step with
  | belowRoot kept single =>
    rw [marker_cons (ne_nil_of_trimEnd_ne_nil kept)]
    rfl
  | absolute kept several =>
    rw [marker_cons several, marker_cons (ne_nil_of_trimEnd_ne_nil kept)]
  | single named trimmed => exact absurd trimmed something
  | relative named kept =>
    rename_i first rest
    rw [marker_cons (ne_nil_of_trimEnd_ne_nil kept), if_neg named]
    cases left : trimEnd (trimEnd rest).dropLast with
    | nil => rw [marker_single]
    | cons next more => rw [marker_cons (List.cons_ne_nil next more), if_neg named]

variable {name : String} {plain : '/' ∉ name.toList}

/-- The step up from a single name leads to the empty path. -/
theorem parent?_single (named : name ≠ "") : (single name plain).parent? = some empty := by
  rw [parent?_eq_some_iff]
  unfold single segmentsAbove?
  simp only [trimRelative_cons named]
  rfl

/-- The step up from a name behind a path leads to a path with the same components. -/
theorem parent?_join_single (path : Path) (significant : isSignificant name = true) :
    ∃ parent, (path.join (single name plain)).parent? = some parent ∧
      parent.components = path.components := by
  have named : (path.join (single name plain)).names = path.names ++ [name] := by
    rw [names_join isAbsolute_single]
    exact congrArg _ (List.filter_cons_of_pos significant)
  cases above : (path.join (single name plain)).parent? with
  | none =>
    have unnamed := names_of_parent?_eq_none above
    rw [named] at unnamed
    exact absurd unnamed (List.append_ne_nil_of_right_ne_nil _ (List.cons_ne_nil name []))
  | some parent =>
    have names : parent.names = path.names := by
      rw [names_of_parent? above, named, List.dropLast_concat]
    refine ⟨parent, rfl, ?_⟩
    by_cases nothing : path = empty
    · -- Then the name stands alone, and the step up from it leads back to the empty path.
      rw [nothing, empty_join isAbsolute_single,
        parent?_single (by rintro rfl; cases significant)] at above
      rw [nothing, ← Option.some.inj above]
    · have something : trimEnd (path.join (single name plain)).segments.tail ≠ [] := by
        rw [segments_join_single, List.tail_append_of_ne_nil (front_eq_nil_iff.not.mpr nothing),
          Ne, trimEnd_eq_nil_iff]
        intro insignificant
        rw [insignificant name (by simp)] at significant
        cases significant
      have markers : marker parent.segments = marker path.segments := by
        rw [marker_of_parent? above something, marker_join isAbsolute_single nothing]
      rw [components_eq, components_eq, markers]
      exact congrArg (marker path.segments ++ List.map Component.ofSegment ·) names

end Path

end NativeBoundary
