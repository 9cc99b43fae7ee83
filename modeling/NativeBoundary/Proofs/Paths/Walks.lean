import NativeBoundary.Proofs.Paths.Parents

/-!
# Walks through a storage

A path is walked segment by segment, and what every step keeps holds where the walk
ends.  In front of a further segment, one that leads nowhere makes no difference: both
ask for a directory at the place where they are followed.  In a storage that is a tree
every walk ends where something is stored.
-/

namespace NativeBoundary

namespace Storage

variable {C : Type} {storage : Storage C} {current place reached : List String}

/-! ## Steps -/

/-- A step leaves a directory: it stays there, goes up, or goes on to a name under which something
is stored. -/
theorem cases_of_follow {segment : String}
    (followed : storage.follow place segment = .ok reached) :
    storage place = some .directory ∧
      (reached = place ∨ reached = place.dropLast ∨
        Path.isSignificant segment = true ∧ reached = place ++ [segment] ∧
          storage reached ≠ none) := by
  unfold follow at followed
  split at followed
  · rename_i directory
    refine ⟨directory, ?_⟩
    split at followed
    · exact .inl (Except.ok.inj followed).symm
    · rename_i named
      split at followed
      · exact .inr (.inl (Except.ok.inj followed).symm)
      · split at followed
        · cases followed
        · split at followed
          · rename_i node stored
            obtain rfl := Except.ok.inj followed
            have significant : Path.isSignificant segment = true :=
              eq_true_of_ne_false fun plain =>
                named (Path.eq_or_eq_of_not_significant plain)
            exact .inr (.inr ⟨significant, rfl, by simp [stored]⟩)
          · cases followed
  · cases followed
  · cases followed

/-- What every step of a walk keeps holds where the walk ends. -/
theorem holds_of_walk {holds : List String → Prop} {segments : List String}
    (kept : ∀ segment ∈ segments, ∀ place reached, holds place →
      storage.follow place segment = .ok reached → holds reached)
    (walked : segments.foldlM storage.follow place = .ok reached) (start : holds place) :
    holds reached := by
  induction segments generalizing place with
  | nil =>
    obtain rfl := Except.ok.inj walked
    exact start
  | cons segment rest hypothesis =>
    rw [List.foldlM_cons] at walked
    cases followed : storage.follow place segment with
    | error fault =>
      rw [followed] at walked
      cases walked
    | ok between =>
      rw [followed] at walked
      obtain ⟨first, others⟩ := List.forall_mem_cons.mp kept
      exact hypothesis others walked (first place between start followed)

/-! ## Segments that lead nowhere -/

/-- A segment that leads nowhere does not matter in front of another one. -/
theorem follow_bind_follow {blank : String} (plain : Path.isSignificant blank = false)
    (segment : String) :
    (storage.follow place blank >>= fun place => storage.follow place segment) =
      storage.follow place segment := by
  have either : blank = "" ∨ blank = "." := Path.eq_or_eq_of_not_significant plain
  cases node : storage place with
  | none => simp only [follow, node, bind, Except.bind]
  | some stored =>
    cases stored with
    | file content => simp only [follow, node, bind, Except.bind]
    | directory =>
      have stays : storage.follow place blank = .ok place := by
        simp only [follow, node, either, if_true]
      rw [stays]
      rfl

/-- A walk that goes on to a last name is one over the segments that lead somewhere. -/
theorem foldlM_follow_significant (segments : List String) (last place : List String)
    (goesOn : last ≠ []) :
    (segments ++ last).foldlM storage.follow place =
      (segments.filter Path.isSignificant ++ last).foldlM storage.follow place := by
  induction segments generalizing place with
  | nil => rfl
  | cons segment rest hypothesis =>
    cases significant : Path.isSignificant segment with
    | true =>
      rw [List.filter_cons_of_pos significant, List.cons_append, List.cons_append,
        List.foldlM_cons, List.foldlM_cons]
      exact bind_congr fun between => hypothesis between
    | false =>
      rw [List.filter_cons_of_neg (by simp [significant]), List.cons_append, List.foldlM_cons,
        ← hypothesis place]
      obtain ⟨next, further, written⟩ : ∃ next further, rest ++ last = next :: further := by
        cases whole : rest ++ last with
        | nil => exact absurd (List.append_eq_nil_iff.mp whole).2 goesOn
        | cons next further => exact ⟨next, further, rfl⟩
      simp only [written, List.foldlM_cons]
      rw [← bind_assoc, follow_bind_follow significant]

/-! ## Trees -/

/-- Whatever is stored stands in a directory. -/
def IsTree (storage : Storage C) : Prop :=
  ∀ place, storage place ≠ none → storage place.dropLast = some .directory

theorem isTree_empty : (empty : Storage C).IsTree := by
  intro place stored
  cases place with
  | nil => rfl
  | cons name rest => exact absurd rfl stored

/-- A segment of a walk through a tree leads to something. -/
theorem IsTree.stored_of_follow (tree : storage.IsTree) {segment : String}
    (followed : storage.follow place segment = .ok reached) : storage reached ≠ none := by
  obtain ⟨directory, here | above | ⟨-, -, stored⟩⟩ := cases_of_follow followed
  · rw [here, directory]
    exact Option.some_ne_none _
  · rw [above, tree place (by simp [directory])]
    exact Option.some_ne_none _
  · exact stored

/-- So does a whole walk that has a segment. -/
theorem IsTree.stored_of_walk (tree : storage.IsTree) {segments : List String}
    (goes : segments ≠ []) (walked : segments.foldlM storage.follow place = .ok reached) :
    storage reached ≠ none := by
  cases segments with
  | nil => exact absurd rfl goes
  | cons segment rest =>
    rw [List.foldlM_cons] at walked
    cases followed : storage.follow place segment with
    | error fault =>
      rw [followed] at walked
      cases walked
    | ok between =>
      rw [followed] at walked
      exact holds_of_walk (fun _ _ _ _ _ => tree.stored_of_follow) walked
        (tree.stored_of_follow followed)

/-- In a tree something is missing only where no path leads. -/
theorem IsTree.content_ne_missing (tree : storage.IsTree) {path : Path}
    (exist : storage.pathExists current path = true) :
    storage.content current path ≠ .error (.path .missing) := by
  intro missing
  unfold pathExists at exist
  cases located : storage.locate current path with
  | error fault =>
    rw [located] at exist
    cases exist
  | ok place =>
    have followed := (followed_of_locate_eq_ok located).2
    have stored := tree.stored_of_walk path.isWritten.1 followed
    simp only [Storage.content, located] at missing
    split at missing
    · cases missing
    · cases missing
    · rename_i nothing
      exact stored nothing

end Storage

end NativeBoundary
