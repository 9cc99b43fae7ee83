import NativeBoundary.Proofs.Paths.Names
import NativeBoundary.Settings.Loader

/-!
# Relative starts are searched up to the current directory

A start that is not absolute may also be spelled with the current directory in front.  From
both spellings the way up passes the same directories as long as it stays below the
current directory, so the first file of a project found there is the same.  But the way
up from a relative start ends at the current directory, and only the way from the absolute
spelling goes on to what stands above it.
-/

namespace NativeBoundary

/-- A name under which something can be stored: it leads somewhere, and holds no slash. -/
structure Path.IsName (name : String) : Prop where
  isSignificant : Path.isSignificant name = true
  plain : '/' ∉ name.toList

namespace Storage

variable {C : Type} {storage : Storage C} {place reached : List String}

/-- A step of a walk adds nothing but its own segment, and that only if it leads somewhere. -/
theorem forall_mem_of_follow {holds : String → Prop} {segment : String}
    (holdsHere : ∀ name ∈ place, holds name)
    (holdsBehind : Path.isSignificant segment = true → holds segment)
    (followed : storage.follow place segment = .ok reached) : ∀ name ∈ reached, holds name := by
  obtain ⟨-, here | above | ⟨named, on, -⟩⟩ := cases_of_follow followed
  · rw [here]
    exact holdsHere
  · rw [above]
    exact fun name inside => holdsHere name (List.dropLast_subset place inside)
  · rw [on]
    exact List.forall_mem_append.mpr
      ⟨holdsHere, List.forall_mem_singleton.mpr (holdsBehind named)⟩

/-- So from the root a path leads over names that stand in it. -/
theorem isName_of_locate_eq_ok {current : List String} {path : Path}
    (absolute : path.isAbsolute = true) (located : storage.locate current path = .ok place) :
    ∀ name ∈ place, Path.IsName name := by
  have walked := (followed_of_locate_eq_ok located).2
  rw [if_pos absolute] at walked
  have kept : ∀ segment ∈ path.segments, ∀ here there,
      (∀ name ∈ here, Path.IsName name) → storage.follow here segment = .ok there →
        ∀ name ∈ there, Path.IsName name := by
    intro segment inside here there names followed
    exact forall_mem_of_follow names
      (fun significant => ⟨significant, path.isWritten.2 segment inside⟩) followed
  exact holds_of_walk kept walked (List.forall_mem_nil _)

end Storage

namespace Path

variable {current : List String} {relative absolute upper : Path}

/-- A relative path is spelled absolutely with the names of the current directory in front, and
after them with the same names. -/
structure SpelledFrom (current : List String) (relative absolute : Path) : Prop where
  isRelative : relative.isAbsolute = false
  spelled : ∃ tail, current ++ tail ≠ [] ∧ absolute.segments = "" :: (current ++ tail) ∧
    tail.filter isSignificant = relative.names

theorem isAbsolute_absolute (names : List String) : (Path.absolute names).isAbsolute = true :=
  isAbsolute_of_cons_blank (segments_ofText_slash _) (ofText _).isWritten.1

section

variable (named : ∀ name ∈ current, IsName name)

include named

theorem segments_absolute (several : current ≠ []) :
    (Path.absolute current).segments = "" :: current := by
  have written : IsWritten ("" :: current) :=
    ⟨List.cons_ne_nil _ _, List.forall_mem_cons.mpr ⟨List.not_mem_nil, fun name inside =>
      (named name inside).plain⟩⟩
  have whole : "/" ++ "/".intercalate current = text ⟨"" :: current, written⟩ := by
    rw [Path.text, String.intercalate_cons_of_ne_nil several, String.empty_append]
  rw [Path.absolute, whole, ofText_text]

theorem front_absolute : (Path.absolute current).front = "" :: current := by
  by_cases several : current = []
  · subst several
    decide +kernel
  · have last : ("" :: current).getLast? ≠ some "" := by
      rw [List.getLast?_cons_of_ne_nil several]
      intro blank
      have significant := (named "" (List.mem_of_getLast? blank)).isSignificant
      cases significant
    rw [front, segments_absolute named several, if_neg last]

theorem names_absolute : (Path.absolute current).names = current := by
  have significant : current.filter isSignificant = current :=
    List.filter_eq_self.mpr fun name inside => (named name inside).isSignificant
  rw [← filter_front, front_absolute named, List.filter_cons_of_neg (by decide), significant]

theorem spelledFrom_join (isRelative : relative.isAbsolute = false) :
    SpelledFrom current relative ((Path.absolute current).join relative) := by
  refine ⟨isRelative, relative.segments, ?_, ?_, rfl⟩
  · exact List.append_ne_nil_of_right_ne_nil _ relative.isWritten.1
  · rw [segments_join _ isRelative, front_absolute named, List.cons_append]

end

namespace SpelledFrom

theorem isAbsolute (spelled : SpelledFrom current relative absolute) :
    absolute.isAbsolute = true := by
  obtain ⟨-, tail, several, written, -⟩ := spelled
  exact isAbsolute_of_cons_blank written several

section

variable (named : ∀ name ∈ current, IsName name)

include named

theorem names (spelled : SpelledFrom current relative absolute) :
    absolute.names = current ++ relative.names := by
  obtain ⟨-, tail, -, written, same⟩ := spelled
  rw [names_of_cons_blank written, List.filter_append, same,
    List.filter_eq_self.mpr fun name inside => (named name inside).isSignificant]

/-- A step up that takes a name away is made in both spellings. -/
theorem parent? (spelled : SpelledFrom current relative absolute)
    (above : relative.parent? = some upper) (further : relative.names ≠ []) :
    ∃ parent, absolute.parent? = some parent ∧ SpelledFrom current upper parent := by
  obtain ⟨isRelative, tail, several, written, same⟩ := spelled
  have below : upper.isAbsolute = false := (isAbsolute_of_parent? above).trans isRelative
  have significant : ∀ name ∈ current, isSignificant name = true :=
    fun name inside => (named name inside).isSignificant
  have kept : trimEnd tail ≠ [] := by
    intro plain
    rw [← same, ← filter_trimEnd, plain] at further
    exact further rfl
  have fewer : (trimEnd (trimEnd tail).dropLast).filter isSignificant = upper.names := by
    rw [filter_trimEnd, filter_trimEnd_dropLast, same, names_of_parent? above]
  -- The names of the current directory lead somewhere, so only what follows them is trimmed.
  have trimmed : trimEnd (current ++ tail) = current ++ trimEnd tail :=
    trimEnd_append tail significant
  have left :
      trimEnd (trimEnd (current ++ tail)).dropLast =
        current ++ trimEnd (trimEnd tail).dropLast := by
    rw [trimmed, List.dropLast_append_of_ne_nil kept, trimEnd_append _ significant]
  have something : trimEnd (current ++ tail) ≠ [] := by
    rw [trimmed]
    exact List.append_ne_nil_of_right_ne_nil current kept
  by_cases none : trimEnd (trimEnd (current ++ tail)).dropLast = []
  · obtain ⟨here, nothing⟩ := List.append_eq_nil_iff.mp (left.symm.trans none)
    refine ⟨root, parent?_eq_root written something none, below, [""], by simp, ?_, ?_⟩
    · rw [here]
      rfl
    · rw [← fewer, nothing]
      decide
  · obtain ⟨parent, aboveAbsolute, split⟩ := exists_parent?_absolute written something none
    rw [left] at none split
    exact ⟨parent, aboveAbsolute, below, _, none, split, fewer⟩

/-- Without a name, the way goes on above the current directory. -/
theorem parent?_of_unnamed (spelled : SpelledFrom current relative absolute)
    (unnamed : relative.names = []) : absolute.parent? = (Path.absolute current).parent? := by
  obtain ⟨-, tail, -, written, same⟩ := spelled
  have plain : trimEnd tail = [] := by
    rw [trimEnd_eq_nil_iff]
    intro segment inside
    simpa using List.filter_eq_nil_iff.mp (same.trans unnamed) segment inside
  have significant : ∀ name ∈ current, isSignificant name = true :=
    fun name inside => (named name inside).isSignificant
  have trimmed : trimEnd (current ++ tail) = trimEnd current := by
    have alone := trimEnd_append [] significant
    rw [List.append_nil] at alone
    rw [trimEnd_append tail significant, plain, alone]
    rfl
  obtain ⟨body, split, alike⟩ :
      ∃ body, (Path.absolute current).segments = "" :: body ∧ trimEnd body = trimEnd current := by
    by_cases several : current = []
    · subst several
      exact ⟨[""], by decide +kernel, rfl⟩
    · exact ⟨current, segments_absolute named several, rfl⟩
  refine parent?_congr ?_
  rw [written, split, segmentsAbove?_cons, segmentsAbove?_cons, trimmed, alike]

end

/-- A step up that takes no name away leaves the absolute spelling as it is. -/
theorem stays (spelled : SpelledFrom current relative absolute)
    (above : relative.parent? = some upper) (unnamed : relative.names = []) :
    SpelledFrom current upper absolute := by
  obtain ⟨isRelative, tail, several, written, same⟩ := spelled
  refine ⟨(isAbsolute_of_parent? above).trans isRelative, tail, several, written, ?_⟩
  rw [same, names_of_parent? above, unnamed]
  rfl

end SpelledFrom

end Path

namespace SettingsLoader

variable {surroundings : Surroundings} {relative absolute : Path}

/-- The file of a project in a directory has a path that is short enough. -/
def Fits (directory : Path) : Prop :=
  (projectFile directory).text.utf8ByteSize < Storage.pathLimit

theorem slash_notMem_fileName : '/' ∉ Settings.fileName.toList := by
  decide +kernel

theorem projectFile_eq_join (directory : Path) :
    projectFile directory = directory.join (.single Settings.fileName slash_notMem_fileName) := by
  have single : Path.ofText Settings.fileName =
      .single Settings.fileName slash_notMem_fileName := by
    decide +kernel
  rw [projectFile, Path.joinName, single]

theorem Fits.of_sublist {directory other : Path} (fits : Fits other)
    (less : directory.front.Sublist other.front) : Fits directory := by
  have shorter :
      (projectFile directory).text.utf8ByteSize ≤ (projectFile other).text.utf8ByteSize := by
    rw [projectFile_eq_join, projectFile_eq_join, Path.text, Path.text,
      Path.segments_join_single, Path.segments_join_single]
    exact Path.utf8ByteSize_intercalate_le (less.append_right _)
  exact Nat.lt_of_le_of_lt shorter fits

/-- Two spellings of a directory lead to the same file of a project. -/
theorem locate_projectFile_of_spelledFrom
    (placed : surroundings.storage.locate surroundings.current surroundings.currentPath =
      .ok surroundings.current)
    (named : ∀ name ∈ surroundings.current, Path.IsName name)
    (spelled : Path.SpelledFrom surroundings.current relative absolute)
    (short : Fits relative) (shortAbsolute : Fits absolute) :
    surroundings.storage.locate surroundings.current (projectFile absolute) =
      surroundings.storage.locate surroundings.current (projectFile relative) := by
  have significant : Path.isSignificant Settings.fileName = true := by
    decide
  rw [Fits, projectFile_eq_join] at short shortAbsolute
  rw [projectFile_eq_join, projectFile_eq_join, Storage.locate_join_single _ _ significant short,
    Storage.locate_join_single _ _ significant shortAbsolute, spelled.isAbsolute,
    spelled.isRelative, spelled.names named, List.append_assoc]
  have walked :=
    Storage.foldlM_follow_names placed (List.append_ne_nil_of_right_ne_nil relative.names
      (List.cons_ne_nil Settings.fileName []))
  have here : surroundings.currentPath.names = surroundings.current := Path.names_absolute named
  rw [here, Surroundings.currentPath, Path.isAbsolute_absolute, if_pos rfl] at walked
  have zero :
      (∃ name ∈ surroundings.current ++ (relative.names ++ [Settings.fileName]),
        '\x00' ∈ name.toList) ↔
        ∃ name ∈ relative.names ++ [Settings.fileName], '\x00' ∈ name.toList := by
    constructor
    · rintro ⟨name, inside, zero⟩
      rcases List.mem_append.mp inside with before | behind
      · rw [← here] at before
        exact absurd zero (Storage.zero_notMem_of_locate_eq_ok placed name before)
      · exact ⟨name, behind, zero⟩
    · rintro ⟨name, behind, zero⟩
      exact ⟨name, List.mem_append_right _ behind, zero⟩
  simp only [zero, walked, if_true, Bool.false_eq_true, if_false]

/-- The search takes a directory with a file of a project, or goes on from its parent. -/
theorem findProject?_eq (start : Path) :
    findProject? surroundings start =
      if surroundings.pathExists (projectFile start) then some start
      else start.parent?.bind (findProject? surroundings) := by
  rw [findProject?, Path.ancestors_eq_cons, List.find?_cons]
  cases surroundings.pathExists (projectFile start) with
  | true => rfl
  | false =>
    cases start.parent? <;> rfl

/-- Below the current directory the search finds the same for both spellings.  If it finds
nothing there, it goes on from the directory above for the absolute one alone. -/
theorem findProject?_of_spelledFrom
    (placed : surroundings.storage.locate surroundings.current surroundings.currentPath =
      .ok surroundings.current)
    (named : ∀ name ∈ surroundings.current, Path.IsName name)
    (spelled : Path.SpelledFrom surroundings.current relative absolute)
    (short : Fits relative) (shortAbsolute : Fits absolute) :
    (∀ directory, findProject? surroundings relative = some directory →
      ∃ same, findProject? surroundings absolute = some same ∧
        Path.SpelledFrom surroundings.current directory same ∧
        surroundings.storage.locate surroundings.current (projectFile same) =
          surroundings.storage.locate surroundings.current (projectFile directory)) ∧
    (findProject? surroundings relative = none →
      findProject? surroundings absolute =
        surroundings.currentPath.parent?.bind (findProject? surroundings)) := by
  -- A step up that takes no name away is made from the relative spelling alone, so the induction
  -- is on what is left of this one.
  induction rank : relative.height using Nat.strongRecOn generalizing relative absolute with
  | ind rank hypothesis =>
    subst rank
    have located := locate_projectFile_of_spelledFrom placed named spelled short shortAbsolute
    have exist :
        surroundings.pathExists (projectFile absolute) =
          surroundings.pathExists (projectFile relative) := by
      simp only [Surroundings.pathExists, Storage.pathExists, located]
    by_cases present : surroundings.pathExists (projectFile relative) = true
    · -- Here both end.
      have found : findProject? surroundings relative = some relative := by
        rw [findProject?_eq, if_pos present]
      have foundAbsolute : findProject? surroundings absolute = some absolute := by
        rw [findProject?_eq, if_pos (exist.trans present)]
      rw [found]
      refine ⟨?_, fun impossible => nomatch impossible⟩
      rintro directory ⟨⟩
      exact ⟨absolute, foundAbsolute, spelled, located⟩
    · have further :
          findProject? surroundings relative =
            relative.parent?.bind (findProject? surroundings) := by
        rw [findProject?_eq, if_neg present]
      have furtherAbsolute :
          findProject? surroundings absolute =
            absolute.parent?.bind (findProject? surroundings) := by
        rw [findProject?_eq, if_neg (exist ▸ present)]
      cases above : relative.parent? with
      | none =>
        have unnamed : relative.names = [] := Path.names_of_parent?_eq_none above
        rw [further, above, furtherAbsolute, spelled.parent?_of_unnamed named unnamed]
        exact ⟨fun _ impossible => (nomatch impossible), fun _ => rfl⟩
      | some upper =>
        have lower := Path.height_lt_of_parent? above
        have shorter : Fits upper := short.of_sublist (Path.front_prefix_of_parent? above).sublist
        by_cases unnamed : relative.names = []
        · rw [further, above]
          exact hypothesis _ lower (spelled.stays above unnamed) shorter shortAbsolute rfl
        · obtain ⟨parent, aboveAbsolute, spelledAbove⟩ :=
            spelled.parent? named above unnamed
          have shorterAbsolute : Fits parent :=
            shortAbsolute.of_sublist (Path.front_prefix_of_parent? aboveAbsolute).sublist
          rw [further, above, furtherAbsolute, aboveAbsolute]
          exact hypothesis _ lower spelledAbove shorter shorterAbsolute rfl

/-- From a relative start the search finds the same directory as from its absolute spelling, and
the same file in it, if this directory is not above the current one.  If it finds none, the search
from the absolute spelling is still left with the directory above the current one, and with all
that stands above that. -/
theorem relative_search_ends_at_current (surroundings : Surroundings) (text : String)
    (relative : (Path.ofText text).isRelative = true)
    (placed : surroundings.storage.locate surroundings.current surroundings.currentPath =
      .ok surroundings.current)
    (short : Fits (surroundings.currentPath.join (Path.ofText text))) :
    (∀ directory, findProject? surroundings (Path.ofText text) = some directory →
      ∃ same,
        findProject? surroundings (surroundings.currentPath.join (Path.ofText text)) = some same ∧
        Path.SpelledFrom surroundings.current directory same ∧
        surroundings.storage.locate surroundings.current (projectFile same) =
          surroundings.storage.locate surroundings.current (projectFile directory)) ∧
    (findProject? surroundings (Path.ofText text) = none →
      findProject? surroundings (surroundings.currentPath.join (Path.ofText text)) =
        surroundings.currentPath.parent?.bind (findProject? surroundings)) := by
  have notAbsolute : (Path.ofText text).isAbsolute = false := by
    simpa [Path.isRelative] using relative
  have named : ∀ name ∈ surroundings.current, Path.IsName name :=
    Storage.isName_of_locate_eq_ok (Path.isAbsolute_absolute surroundings.current) placed
  have spelled := Path.spelledFrom_join named notAbsolute
  have shorter : Fits (Path.ofText text) := by
    refine short.of_sublist ?_
    rw [Path.front_join notAbsolute]
    exact List.sublist_append_right _ _
  exact findProject?_of_spelledFrom placed named spelled shorter short

/-- A project at the root, another one below the current directory, and nothing in this one. -/
def betweenProjects : Surroundings where
  storage := Storage.empty
    |>.addFile ["ferrule.toml"] (.bytes [])
    |>.addFile ["work", "part", "ferrule.toml"] (.bytes [])
    |>.addDirectory ["work", "part", "deep"]
  current := ["work"]
  environment _ := none
  home := Path.ofText "/home"

theorem relative_search_ends_at_current_between_projects :
    (∃ same, findProject? betweenProjects (Path.ofText "/work/part/./deep/") = some same ∧
      Path.SpelledFrom ["work"] (Path.ofText "part") same) ∧
    findProject? betweenProjects (Path.ofText "/work/.") =
      (Path.ofText "/work").parent?.bind (findProject? betweenProjects) := by
  have placed :
      betweenProjects.storage.locate betweenProjects.current betweenProjects.currentPath =
        .ok betweenProjects.current := by
    decide +kernel
  obtain ⟨below, -⟩ :=
    relative_search_ends_at_current betweenProjects "part/./deep/" (by decide +kernel) placed
      (by unfold Fits; decide +kernel)
  obtain ⟨-, above⟩ :=
    relative_search_ends_at_current betweenProjects "." (by decide +kernel) placed
      (by unfold Fits; decide +kernel)
  have part :
      findProject? betweenProjects (Path.ofText "part/./deep/") = some (Path.ofText "part") := by
    decide +kernel
  have nowhere : findProject? betweenProjects (Path.ofText ".") = none := by
    decide +kernel
  have deep :
      betweenProjects.currentPath.join (Path.ofText "part/./deep/") =
        Path.ofText "/work/part/./deep/" := by
    decide +kernel
  have here : betweenProjects.currentPath.join (Path.ofText ".") = Path.ofText "/work/." := by
    decide +kernel
  have work : betweenProjects.currentPath = Path.ofText "/work" := by
    decide +kernel
  rw [deep] at below
  rw [here, work] at above
  obtain ⟨same, found, spelled, -⟩ := below _ part
  exact ⟨⟨same, found, spelled⟩, above nowhere⟩

/-- The search depends on how its start is written: it is not so that a relative start is in a
project just when its absolute spelling is. -/
theorem not_forall_spellings_agree :
    ¬ ∀ (surroundings : Surroundings) (text : String),
      (Path.ofText text).isRelative = true → ".." ∉ (Path.ofText text).segments →
        surroundings.storage.locate surroundings.current surroundings.currentPath =
          .ok surroundings.current →
          ((findProject? surroundings (Path.ofText text)).isSome ↔
            (findProject? surroundings
              (surroundings.currentPath.join (Path.ofText text))).isSome) := by
  intro agree
  have alike := agree betweenProjects "." (by decide +kernel) (by decide +kernel)
    (by decide +kernel)
  have different :
      ¬ ((findProject? betweenProjects (Path.ofText ".")).isSome ↔
        (findProject? betweenProjects
          (betweenProjects.currentPath.join (Path.ofText "."))).isSome) := by
    decide +kernel
  exact different alike

end SettingsLoader

end NativeBoundary
