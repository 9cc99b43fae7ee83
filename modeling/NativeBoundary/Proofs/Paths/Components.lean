import NativeBoundary.Proofs.Paths.Names

/-!
# Paths with the same components

Two spellings of a path with the same components agree on all that is significant in
them: on whether they are absolute, on a dot at the front, and on their names.  They
lead to the same file as far as they lead to one, and a path that leads to a file ends
in a name.  So a library that can be loaded under one spelling can be loaded under any
other one that leads anywhere.
-/

namespace NativeBoundary

namespace Path

/-! ## The parts of the components -/

/-- What the components of a path tell of its front. -/
def marker : List String → List Component
  | "" :: _ :: _ => [.root]
  | "." :: _ => [.current]
  | _ => []

/-- Whether a component stands for a name or for the directory above. -/
def Component.isBody : Component → Bool
  | .root => false
  | .current => false
  | .parent => true
  | .normal _ => true

theorem components_eq (path : Path) :
    path.components = marker path.segments ++ bodyComponents path.segments := by
  unfold components
  rcases path.segments with - | ⟨first, body⟩
  · rfl
  · by_cases blank : first = ""
    · subst blank
      cases body with
      | nil => rfl
      | cons next rest => rfl
    · by_cases dot : first = "."
      · subst dot
        rfl
      · have unmarked : marker (first :: body) = [] := by
          simp [marker, blank, dot]
        simp [unmarked, blank]

theorem isAbsolute_eq (path : Path) : path.isAbsolute = (marker path.segments == [.root]) := by
  unfold isAbsolute
  rcases path.segments with - | ⟨first, body⟩
  · rfl
  · by_cases blank : first = ""
    · subst blank
      cases body with
      | nil => rfl
      | cons next rest => rfl
    · by_cases dot : first = "."
      · subst dot
        rfl
      · simp [marker, blank, dot]

theorem isBody_ofSegment (segment : String) : (Component.ofSegment segment).isBody = true := by
  unfold Component.ofSegment
  split <;> rfl

theorem ofSegment_injective (first second : String)
    (same : Component.ofSegment first = Component.ofSegment second) : first = second := by
  unfold Component.ofSegment at same
  split at same
  · rename_i up
    split at same
    · rename_i upToo
      rw [beq_iff_eq.mp up, beq_iff_eq.mp upToo]
    · cases same
  · split at same
    · cases same
    · exact Component.normal.inj same

theorem filter_isBody_components (path : Path) :
    path.components.filter Component.isBody = path.names.map Component.ofSegment := by
  have front : (marker path.segments).filter Component.isBody = [] := by
    unfold marker
    split <;> rfl
  have body :
      (bodyComponents path.segments).filter Component.isBody = bodyComponents path.segments := by
    refine List.filter_eq_self.mpr fun component member => ?_
    rcases List.mem_map.mp member with ⟨segment, -, rfl⟩
    exact isBody_ofSegment segment
  rw [components_eq, List.filter_append, front, body]
  rfl

/-- Paths with the same components have the same front and the same names. -/
theorem marker_and_names_of_components {first second : Path}
    (same : first.components = second.components) :
    marker first.segments = marker second.segments ∧ first.names = second.names := by
  have bodies := congrArg (List.filter Component.isBody) same
  rw [filter_isBody_components, filter_isBody_components,
    List.map_inj_right ofSegment_injective] at bodies
  refine ⟨?_, bodies⟩
  have whole : marker first.segments ++ bodyComponents first.segments =
      marker second.segments ++ bodyComponents second.segments := by
    rw [← components_eq, ← components_eq, same]
  have alike : bodyComponents first.segments = bodyComponents second.segments :=
    congrArg (List.map Component.ofSegment) bodies
  rw [alike] at whole
  exact List.append_cancel_right whole

end Path

namespace Storage

variable {C : Type} {storage : Storage C} {current place reached : List String}

/-! ## Where paths with the same components lead -/

/-- A walk that comes to an end comes to the same one over the segments that lead somewhere. -/
theorem foldlM_follow_filter {segments : List String}
    (walked : segments.foldlM storage.follow place = .ok reached) :
    (segments.filter Path.isSignificant).foldlM storage.follow place = .ok reached := by
  induction segments generalizing place with
  | nil => exact walked
  | cons segment rest hypothesis =>
    rw [List.foldlM_cons] at walked
    cases followed : storage.follow place segment with
    | error fault =>
      rw [followed] at walked
      cases walked
    | ok between =>
      rw [followed] at walked
      cases significant : Path.isSignificant segment with
      | true =>
        rw [List.filter_cons_of_pos significant, List.foldlM_cons, followed]
        exact hypothesis walked
      | false =>
        rcases follow_eq_ok_of_not_significant significant followed with ⟨rfl, -⟩
        rw [List.filter_cons_of_neg (by simp [significant])]
        exact hypothesis walked

/-- Paths with the same components lead to the same place if both lead anywhere. -/
theorem locate_eq_of_components {first second : Path}
    (same : first.components = second.components)
    (located : storage.locate current first = .ok place)
    (locatedToo : storage.locate current second = .ok reached) : reached = place := by
  rcases Path.marker_and_names_of_components same with ⟨markers, names⟩
  have walked := foldlM_follow_filter (followed_of_locate_eq_ok located).2
  have walkedToo := foldlM_follow_filter (followed_of_locate_eq_ok locatedToo).2
  change first.names.foldlM _ _ = _ at walked
  change second.names.foldlM _ _ = _ at walkedToo
  rw [Path.isAbsolute_eq, ← markers, ← names, ← Path.isAbsolute_eq, walked] at walkedToo
  exact (Except.ok.inj walkedToo).symm

/-- What is read under one spelling is read under every other one that leads anywhere. -/
theorem content_of_components {first second : Path} {content : C}
    (same : first.components = second.components)
    (read : storage.content current first = .ok content)
    (exist : storage.pathExists current second = true) :
    storage.content current second = .ok content := by
  rcases exists_place_of_content_eq_ok read with ⟨place, located, stored⟩
  unfold pathExists at exist
  cases locatedToo : storage.locate current second with
  | error fault =>
    rw [locatedToo] at exist
    cases exist
  | ok reached =>
    obtain rfl := locate_eq_of_components same located locatedToo
    simp only [Storage.content, locatedToo, stored]

/-- A path that leads to a file ends in a name. -/
theorem exists_last_of_content_eq_ok {path : Path} {content : C}
    (read : storage.content current path = .ok content) :
    ∃ front last, path.segments = front ++ [last] ∧ Path.isSignificant last = true := by
  rcases exists_place_of_content_eq_ok read with ⟨place, located, stored⟩
  obtain ⟨somewhere, followed⟩ := followed_of_locate_eq_ok located
  rcases List.eq_nil_or_concat' path.segments with none | ⟨front, last, written⟩
  · exact absurd (by simp [none, Path.isAbsolute]) somewhere
  · refine ⟨front, last, written, eq_true_of_ne_false fun plain => ?_⟩
    rw [written, List.foldlM_append] at followed
    cases between : front.foldlM storage.follow (if path.isAbsolute then [] else current) with
    | error fault =>
      rw [between] at followed
      cases followed
    | ok reached =>
      rw [between] at followed
      have only : ∀ segment ∈ [last], Path.isSignificant segment = false := by simpa using plain
      rcases foldlM_follow_eq_ok_of_not_significant only followed with ⟨rfl, directory⟩
      rw [directory (List.cons_ne_nil last [])] at stored
      cases stored

end Storage

namespace Path

/-- A path of several segments that ends in a name has several components. -/
theorem one_lt_length_components {path : Path} {front : List String} {last : String}
    (written : path.segments = front ++ [last]) (named : isSignificant last = true)
    (several : 1 < path.segments.length) : 1 < path.components.length := by
  rw [components_eq, List.length_append]
  cases front with
  | nil =>
    rw [written] at several
    exact absurd several (Nat.lt_irrefl 1)
  | cons first middle =>
    rw [written, List.cons_append]
    have body : 0 < (bodyComponents (middle ++ [last])).length := by
      simp [bodyComponents, named]
    cases significant : isSignificant first with
    | true =>
      have split :
          bodyComponents (first :: (middle ++ [last])) =
            Component.ofSegment first :: bodyComponents (middle ++ [last]) := by
        rw [bodyComponents, List.filter_cons_of_pos significant]
        rfl
      rw [split, List.length_cons]
      omega
    | false =>
      have rest :
          bodyComponents (first :: (middle ++ [last])) = bodyComponents (middle ++ [last]) := by
        rw [bodyComponents, List.filter_cons_of_neg (by simp [significant])]
        rfl
      have marked : (marker (first :: (middle ++ [last]))).length = 1 := by
        rcases eq_or_eq_of_not_significant significant with rfl | rfl
        · cases middle <;> rfl
        · rfl
      rw [rest, marked]
      omega

theorem exists_segments_eq_singleton {path : Path} (short : path.segments.length ≤ 1) :
    ∃ segment, path.segments = [segment] := by
  obtain ⟨segment, more, split⟩ := List.exists_cons_of_ne_nil path.isWritten.1
  rw [split] at short
  obtain rfl : more = [] := List.eq_nil_of_length_eq_zero (by simpa using short)
  exact ⟨segment, split⟩

/-- A single segment has at most one component. -/
theorem length_components_le {path : Path} (short : path.segments.length ≤ 1) :
    path.components.length ≤ 1 := by
  obtain ⟨segment, split⟩ := exists_segments_eq_singleton short
  rw [components_eq, split]
  by_cases dot : segment = "."
  · subst dot
    exact Nat.le_refl 1
  · have unmarked : marker [segment] = [] := by simp [marker, dot]
    rw [unmarked, List.nil_append, bodyComponents, List.length_map]
    exact List.length_filter_le isSignificant [segment]

/-! ## Spellings without a slash -/

/-- No other spelling of a path is a file name alone. -/
def IsPlainest (path : Path) : Prop :=
  ∀ other : Path, other.components = path.components → other.segments.length ≤ 1 → other = path

theorem isPlainest_of_one_lt_length {path : Path} (several : 1 < path.components.length) :
    path.IsPlainest := by
  intro other same short
  have few := length_components_le short
  rw [same] at few
  exact absurd several (Nat.not_lt.mpr few)

theorem isPlainest_of_isAbsolute {path : Path} (absolute : path.isAbsolute = true) :
    path.IsPlainest := by
  intro other same short
  obtain ⟨markers, -⟩ := marker_and_names_of_components same
  rw [isAbsolute_eq, ← markers, ← isAbsolute_eq] at absolute
  obtain ⟨first, split⟩ := exists_segments_eq_singleton short
  by_cases blank : first = ""
  · rw [isAbsolute, split, blank] at absolute
    cases absolute
  · rw [isAbsolute_of_cons split blank] at absolute
    cases absolute

theorem isPlainest_of_concat {path : Path} {front : List String} {last : String}
    (written : path.segments = front ++ [last]) (named : isSignificant last = true) :
    path.IsPlainest := by
  by_cases several : 1 < path.segments.length
  · exact isPlainest_of_one_lt_length (one_lt_length_components written named several)
  · intro other same short
    obtain rfl : front = [] := by
      rw [written, List.length_append, List.length_singleton] at several
      exact List.eq_nil_of_length_eq_zero (by omega)
    obtain ⟨first, split⟩ := exists_segments_eq_singleton short
    have inside : last ∈ other.names := by
      rw [(marker_and_names_of_components same).2, names, written]
      exact List.mem_filter.mpr ⟨List.mem_singleton_self last, named⟩
    rw [names, split] at inside
    rw [Path.ext_iff, split, written, List.mem_singleton.mp (List.mem_filter.mp inside).1]
    rfl

end Path

end NativeBoundary
