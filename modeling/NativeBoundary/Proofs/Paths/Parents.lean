import NativeBoundary.Surroundings

/-!
# Paths without a parent

The paths without a parent are those that lead to the root and the empty one.
None of them leads to a file: the root is a directory if it is anything, and the
empty path leads nowhere.  So whatever was read from a file has a directory that
the file stands in.
-/

namespace NativeBoundary

namespace Path

/-- Only the empty segment and a dot lead nowhere. -/
theorem eq_or_eq_of_not_significant {segment : String}
    (plain : isSignificant segment = false) : segment = "" ∨ segment = "." := by
  rw [isSignificant, Bool.and_eq_false_iff, bne_eq_false_iff_eq, bne_eq_false_iff_eq] at plain
  exact plain

theorem trimEnd_eq_nil_iff (segments : List String) :
    trimEnd segments = [] ↔ ∀ segment ∈ segments, isSignificant segment = false := by
  induction segments with
  | nil => simp [trimEnd]
  | cons segment rest hypothesis =>
    rw [trimEnd, List.forall_mem_cons]
    cases trimmed : trimEnd rest with
    | nil =>
      have plain := hypothesis.mp trimmed
      cases significant : isSignificant segment with
      | true => simp
      | false => simpa using plain
    | cons kept more =>
      constructor
      · intro impossible
        cases impossible
      · rintro ⟨-, plain⟩
        rw [hypothesis.mpr plain] at trimmed
        cases trimmed

theorem eq_nil_or_eq_of_trimRelative_eq_nil {segments : List String}
    (trimmed : trimRelative segments = []) : segments = [] ∨ segments = [""] := by
  unfold trimRelative at trimmed
  split at trimmed
  · exact Or.inl rfl
  · exact Or.inr rfl
  · cases trimmed

/-- A path without a parent is empty, or absolute and without a significant segment. -/
theorem cases_of_parent?_eq_none {path : Path} (orphan : path.parent? = none) :
    path.segments = [""] ∨
      path.isAbsolute = true ∧ ∀ segment ∈ path.segments, isSignificant segment = false := by
  rw [parent?_eq_none_iff] at orphan
  unfold segmentsAbove? at orphan
  split at orphan
  · rename_i first body written
    right
    have trimmed : trimEnd (first :: body) = [] := by
      split at orphan
      · assumption
      · split at orphan <;> cases orphan
    have plain := (trimEnd_eq_nil_iff (first :: body)).mp trimmed
    refine ⟨by simp [isAbsolute, written], ?_⟩
    rw [written]
    exact List.forall_mem_cons.mpr ⟨rfl, plain⟩
  · left
    split at orphan
    · rename_i trimmed
      exact (eq_nil_or_eq_of_trimRelative_eq_nil trimmed).resolve_left path.isWritten.1
    · split at orphan <;> cases orphan

end Path

namespace Storage

variable {C : Type} {storage : Storage C} {current place reached : List String}

/-- A segment without significance stays in the directory. -/
theorem follow_eq_ok_of_not_significant {segment : String}
    (plain : Path.isSignificant segment = false)
    (followed : storage.follow place segment = .ok reached) :
    reached = place ∧ storage place = some .directory := by
  have blank : segment = "" ∨ segment = "." := Path.eq_or_eq_of_not_significant plain
  unfold follow at followed
  cases node : storage place with
  | none =>
    rw [node] at followed
    cases followed
  | some stored =>
    rw [node] at followed
    cases stored with
    | file content => cases followed
    | directory =>
      simp only [blank, if_true] at followed
      exact ⟨(Except.ok.inj followed).symm, rfl⟩

/-- Nor do several of them leave it. -/
theorem foldlM_follow_eq_ok_of_not_significant {segments : List String}
    (plain : ∀ segment ∈ segments, Path.isSignificant segment = false)
    (followed : segments.foldlM storage.follow place = .ok reached) :
    reached = place ∧ (segments ≠ [] → storage place = some .directory) := by
  induction segments with
  | nil => exact ⟨(Except.ok.inj followed).symm, fun impossible => absurd rfl impossible⟩
  | cons segment rest hypothesis =>
    rw [List.foldlM_cons] at followed
    cases first : storage.follow place segment with
    | error fault =>
      rw [first] at followed
      cases followed
    | ok between =>
      rw [first] at followed
      rcases List.forall_mem_cons.mp plain with ⟨plainFirst, plainRest⟩
      rcases follow_eq_ok_of_not_significant plainFirst first with ⟨rfl, entered⟩
      exact ⟨(hypothesis plainRest followed).1, fun _ => entered⟩

/-- A path that leads to a place leads somewhere by itself, and segment by segment. -/
theorem followed_of_locate_eq_ok {path : Path} (located : storage.locate current path = .ok place) :
    ¬ (path.segments.all (· == "") ∧ ¬ path.isAbsolute) ∧
      path.segments.foldlM storage.follow (if path.isAbsolute then [] else current) =
        .ok place := by
  unfold locate at located
  split at located
  · cases located
  · split at located
    · cases located
    · split at located
      · cases located
      · exact ⟨by assumption, located⟩

/-- What is read from a file stands at the place that the path leads to. -/
theorem exists_place_of_content_eq_ok {path : Path} {content : C}
    (read : storage.content current path = .ok content) :
    ∃ place, storage.locate current path = .ok place ∧ storage place = some (.file content) := by
  unfold Storage.content at read
  cases located : storage.locate current path with
  | error fault =>
    rw [located] at read
    cases read
  | ok place =>
    rw [located] at read
    refine ⟨place, rfl, ?_⟩
    cases node : storage place with
    | none =>
      simp only [node, reduceCtorEq] at read
    | some stored =>
      cases stored with
      | directory => simp only [node, reduceCtorEq] at read
      | file stored =>
        simp only [node] at read
        rw [Except.ok.inj read]

theorem content_of_file {path : Path} {content : C}
    (located : storage.locate current path = .ok place)
    (stored : storage place = some (.file content)) :
    storage.content current path = .ok content := by
  rw [Storage.content, located]
  simp only [stored]

/-- A directory is not read as a file. -/
theorem content_of_directory {path : Path} (located : storage.locate current path = .ok place)
    (stored : storage place = some .directory) :
    storage.content current path = .error .isDirectory := by
  rw [Storage.content, located]
  simp only [stored]

/-- No file is read behind a path without a parent. -/
theorem content_ne_ok_of_parent?_eq_none {path : Path} (orphan : path.parent? = none)
    (content : C) : storage.content current path ≠ .ok content := by
  intro read
  obtain ⟨place, located, stored⟩ := exists_place_of_content_eq_ok read
  obtain ⟨somewhere, followed⟩ := followed_of_locate_eq_ok located
  rcases Path.cases_of_parent?_eq_none orphan with blank | ⟨absolute, plain⟩
  · apply somewhere
    simp [Path.isAbsolute, blank]
  · rcases foldlM_follow_eq_ok_of_not_significant plain followed with ⟨staying, entered⟩
    have directory := entered path.isWritten.1
    rw [← staying, stored] at directory
    cases directory

end Storage

end NativeBoundary
