import Mathlib.Data.String.Basic
import NativeBoundary.Proofs.Paths.Ancestors
import NativeBoundary.Proofs.Paths.Walks

/-!
# The names of a path

Where a path leads depends on its names alone, that is on the segments that lead
somewhere: a step up takes the last of them away, and a further name behind the path is
walked to over them.  What else is written in a path matters only to its length.
-/

namespace NativeBoundary

namespace Path

/-- The segments of a path that lead somewhere. -/
def names (path : Path) : List String :=
  path.segments.filter isSignificant

/-! ## Trimmed segments -/

theorem filter_trimEnd (segments : List String) :
    (trimEnd segments).filter isSignificant = segments.filter isSignificant := by
  induction segments with
  | nil => rfl
  | cons segment rest hypothesis =>
    unfold trimEnd
    cases trimmed : trimEnd rest with
    | nil =>
      rw [trimmed] at hypothesis
      cases significant : isSignificant segment with
      | true => simp [significant, ← hypothesis]
      | false => simp [significant, ← hypothesis]
    | cons kept more =>
      rw [trimmed] at hypothesis
      simp only [List.filter_cons, ← hypothesis]

/-- The last one of the segments that are left leads somewhere. -/
theorem isSignificant_of_getLast?_trimEnd {segments : List String} {last : String}
    (left : (trimEnd segments).getLast? = some last) : isSignificant last = true := by
  induction segments with
  | nil => cases left
  | cons segment rest hypothesis =>
    unfold trimEnd at left
    split at left
    · split at left
      · rename_i significant
        rw [List.getLast?_singleton] at left
        rw [← Option.some.inj left]
        exact significant
      · cases left
    · rename_i several
      rw [List.getLast?_cons_of_ne_nil several] at left
      exact hypothesis left

/-- So without it there is one name less. -/
theorem filter_trimEnd_dropLast (segments : List String) :
    (trimEnd segments).dropLast.filter isSignificant =
      (segments.filter isSignificant).dropLast := by
  rw [← filter_trimEnd segments]
  cases last : (trimEnd segments).getLast? with
  | none =>
    rw [List.getLast?_eq_none_iff.mp last]
    rfl
  | some name =>
    obtain ⟨before, written⟩ := List.getLast?_eq_some_iff.mp last
    rw [written, List.filter_append,
      List.filter_cons_of_pos (isSignificant_of_getLast?_trimEnd last)]
    simp

theorem trimEnd_append {front : List String} (rest : List String)
    (significant : ∀ name ∈ front, isSignificant name = true) :
    trimEnd (front ++ rest) = front ++ trimEnd rest := by
  induction front with
  | nil => rfl
  | cons name further hypothesis =>
    obtain ⟨first, others⟩ := List.forall_mem_cons.mp significant
    rw [List.cons_append, trimEnd, hypothesis others]
    cases whole : further ++ trimEnd rest with
    | nil =>
      rw [List.cons_append, whole]
      simp only [first, if_true]
    | cons kept more => rw [List.cons_append, whole]

/-! ## Steps up -/

theorem segmentsAbove?_cons (body : List String) :
    segmentsAbove? ("" :: body) =
      match trimEnd body with
      | [] => none
      | kept =>
        match trimEnd kept.dropLast with
        | [] => some ["", ""]
        | left => some ("" :: left) := by
  cases body <;> rfl

theorem parent?_eq_root {path : Path} {body : List String} (split : path.segments = "" :: body)
    (kept : trimEnd body ≠ []) (single : trimEnd (trimEnd body).dropLast = []) :
    path.parent? = some root := by
  rw [parent?_eq_some_iff, split, segmentsAbove?_cons]
  split
  · rename_i plain
    exact absurd plain kept
  · rw [single]
    rfl

theorem exists_parent?_absolute {path : Path} {body : List String}
    (split : path.segments = "" :: body) (kept : trimEnd body ≠ [])
    (several : trimEnd (trimEnd body).dropLast ≠ []) :
    ∃ parent, path.parent? = some parent ∧
      parent.segments = "" :: trimEnd (trimEnd body).dropLast := by
  refine exists_parent?_of_segmentsAbove? ?_
  rw [split, segmentsAbove?_cons]
  split
  · rename_i plain
    exact absurd plain kept
  · split
    · rename_i single
      exact absurd single several
    · rfl

theorem names_of_cons_blank {path : Path} {body : List String}
    (split : path.segments = "" :: body) : path.names = body.filter isSignificant := by
  rw [names, split]
  exact List.filter_cons_of_neg (by decide)

theorem ne_nil_of_trimEnd_ne_nil {segments : List String} (kept : trimEnd segments ≠ []) :
    segments ≠ [] := by
  rintro rfl
  exact kept rfl

theorem filter_ne_nil_of_trimEnd_ne_nil {segments : List String} (kept : trimEnd segments ≠ []) :
    segments.filter isSignificant ≠ [] := by
  intro plain
  refine kept ((trimEnd_eq_nil_iff segments).mpr fun segment inside => ?_)
  simpa using List.filter_eq_nil_iff.mp plain segment inside

/-- A step up takes the last name away. -/
theorem names_of_parent? {path parent : Path} (above : path.parent? = some parent) :
    parent.names = path.names.dropLast := by
  have step := isAbove_of_parent?_eq_some above
  unfold names
  generalize path.segments = segments, parent.segments = upper at step ⊢
  have blank (body : List String) :
      ("" :: body).filter isSignificant = body.filter isSignificant :=
    List.filter_cons_of_neg (by decide)
  cases step with
  | belowRoot kept single =>
    rename_i body
    rw [blank body, ← filter_trimEnd_dropLast, ← filter_trimEnd (trimEnd body).dropLast, single]
    rfl
  | absolute kept several =>
    rw [blank, blank, filter_trimEnd, filter_trimEnd_dropLast]
  | single named trimmed =>
    rename_i first rest
    rw [blank, List.filter_cons, ← filter_trimEnd rest, trimmed]
    split <;> rfl
  | relative named kept =>
    rename_i first rest
    have several := filter_ne_nil_of_trimEnd_ne_nil kept
    rw [List.filter_cons, List.filter_cons, filter_trimEnd, filter_trimEnd_dropLast]
    split
    · exact (List.dropLast_cons_of_ne_nil several).symm
    · rfl

/-- A path that no step up leads from has no name. -/
theorem names_of_parent?_eq_none {path : Path} (orphan : path.parent? = none) :
    path.names = [] := by
  unfold names
  rcases cases_of_parent?_eq_none orphan with blank | ⟨-, plain⟩
  · rw [blank]
    decide
  · refine List.filter_eq_nil_iff.mpr fun segment inside => ?_
    simp [plain segment inside]

theorem isAbsolute_of_cons_blank {path : Path} {body : List String}
    (split : path.segments = "" :: body) (further : body ≠ []) : path.isAbsolute = true := by
  obtain ⟨second, more, rfl⟩ := List.exists_cons_of_ne_nil further
  unfold isAbsolute
  simp only [split]

theorem isAbsolute_of_cons {path : Path} {first : String} {rest : List String}
    (split : path.segments = first :: rest) (named : first ≠ "") : path.isAbsolute = false := by
  unfold isAbsolute
  split
  · rename_i written
    exact absurd (List.cons.inj (split.symm.trans written)).1 named
  · rfl

theorem isAbsolute_of_parent? {path parent : Path} (above : path.parent? = some parent) :
    parent.isAbsolute = path.isAbsolute := by
  have step := isAbove_of_parent?_eq_some above
  generalize split : path.segments = segments, splitAbove : parent.segments = upper at step
  cases step with
  | belowRoot kept single =>
    rw [isAbsolute_of_cons_blank split (ne_nil_of_trimEnd_ne_nil kept),
      isAbsolute_of_cons_blank splitAbove (List.cons_ne_nil "" [])]
  | absolute kept several =>
    rw [isAbsolute_of_cons_blank split (ne_nil_of_trimEnd_ne_nil kept),
      isAbsolute_of_cons_blank splitAbove several]
  | single named trimmed =>
    rw [isAbsolute_of_cons split named]
    unfold isAbsolute
    simp only [splitAbove]
  | relative named kept =>
    rw [isAbsolute_of_cons split named, isAbsolute_of_cons splitAbove named]

/-! ## What stays in front -/

theorem dropLast_prefix_front (path : Path) : path.segments.dropLast <+: path.front := by
  unfold front
  split
  · exact List.prefix_rfl
  · exact List.dropLast_prefix _

theorem filter_front (path : Path) : path.front.filter isSignificant = path.names := by
  unfold front names
  split
  · rename_i last
    obtain ⟨before, written⟩ := List.getLast?_eq_some_iff.mp last
    rw [written, List.dropLast_concat, List.filter_append, List.filter_cons_of_neg (by decide)]
    simp
  · rfl

theorem dropLast_prefix_dropLast {less segments : List String} (first : less <+: segments) :
    less.dropLast <+: segments.dropLast := by
  obtain ⟨rest, rfl⟩ := first
  by_cases none : rest = []
  · exact ⟨[], by rw [none, List.append_nil, List.append_nil]⟩
  · rw [List.dropLast_append_of_ne_nil none]
    exact (List.dropLast_prefix less).trans (List.prefix_append _ _)

/-- Less stays in front above a path than in front of the path itself. -/
theorem front_prefix_of_parent? {path parent : Path} (above : path.parent? = some parent) :
    parent.front <+: path.front := by
  refine List.IsPrefix.trans ?_ path.dropLast_prefix_front
  have shorter (body : List String) : trimEnd (trimEnd body).dropLast <+: body.dropLast :=
    (trimEnd_prefix_self _).trans (dropLast_prefix_dropLast (trimEnd_prefix_self body))
  have within := parent.front_prefix_segments
  have step := isAbove_of_parent?_eq_some above
  unfold front at within ⊢
  generalize path.segments = segments, parent.segments = upper at step within ⊢
  cases step with
  | belowRoot kept single =>
    rename_i body
    rw [List.dropLast_cons_of_ne_nil (ne_nil_of_trimEnd_ne_nil kept)]
    exact List.cons_prefix_cons.mpr ⟨rfl, List.nil_prefix⟩
  | absolute kept several =>
    rename_i body
    refine within.trans ?_
    rw [List.dropLast_cons_of_ne_nil (ne_nil_of_trimEnd_ne_nil kept)]
    exact List.cons_prefix_cons.mpr ⟨rfl, shorter body⟩
  | single named trimmed => exact List.nil_prefix
  | relative named kept =>
    rename_i first rest
    refine within.trans ?_
    rw [List.dropLast_cons_of_ne_nil (ne_nil_of_trimEnd_ne_nil kept)]
    exact List.cons_prefix_cons.mpr ⟨rfl, shorter rest⟩

/-- What stays in front of something behind a path begins as the path does. -/
theorem exists_front_eq_cons {path : Path} (something : path ≠ empty) :
    ∃ first kept rest, path.segments = first :: rest ∧ path.front = first :: kept ∧
      (rest = [] → first ≠ "") := by
  obtain ⟨first, rest, split⟩ := List.exists_cons_of_ne_nil path.isWritten.1
  by_cases further : rest = []
  · subst further
    have named : first ≠ "" := fun blank => something (Path.ext (by rw [split, blank]; rfl))
    refine ⟨first, [], [], split, ?_, fun _ => named⟩
    rw [front, split, List.getLast?_singleton, if_neg fun last => named (Option.some.inj last)]
  · have before := path.dropLast_prefix_front
    rw [split, List.dropLast_cons_of_ne_nil further] at before
    obtain ⟨more, kept⟩ := before
    refine ⟨first, rest.dropLast ++ more, rest, split, kept.symm, ?_⟩
    exact fun single => absurd single further

/-! ## The text of a path -/

/-- With fewer segments a text is no longer. -/
theorem utf8ByteSize_intercalate_le {fewer segments : List String}
    (within : fewer.Sublist segments) :
    ("/".intercalate fewer).utf8ByteSize ≤ ("/".intercalate segments).utf8ByteSize := by
  have longer (segment : String) {segments : List String} (several : segments ≠ []) :
      ("/".intercalate (segment :: segments)).utf8ByteSize =
        segment.utf8ByteSize + 1 + ("/".intercalate segments).utf8ByteSize := by
    rw [String.intercalate_cons_of_ne_nil several, String.utf8ByteSize_append,
      String.utf8ByteSize_append]
    rfl
  induction within with
  | slnil => exact Nat.le_refl _
  | @cons fewer segments segment within hypothesis =>
    by_cases several : segments = []
    · subst several
      rw [List.sublist_nil.mp within]
      exact Nat.zero_le _
    · rw [longer segment several]
      omega
  | @cons_cons fewer segments segment within hypothesis =>
    by_cases several : segments = []
    · subst several
      rw [List.sublist_nil.mp within]
    · by_cases single : fewer = []
      · rw [single, longer segment several, String.intercalate_singleton]
        omega
      · rw [longer segment several, longer segment single]
        omega

/-- A zero byte in a text stands in one of its segments. -/
theorem zero_mem_intercalate_iff (segments : List String) :
    '\x00' ∈ ("/".intercalate segments).toList ↔
      ∃ segment ∈ segments, '\x00' ∈ segment.toList := by
  induction segments with
  | nil => simp
  | cons segment rest hypothesis =>
    by_cases several : rest = []
    · subst several
      simp
    · rw [String.intercalate_cons_of_ne_nil several, List.exists_mem_cons_iff, ← hypothesis]
      simp

/-! ## A name behind a path -/

/-- A path of a single segment. -/
def single (name : String) (plain : '/' ∉ name.toList) : Path :=
  ⟨[name], List.cons_ne_nil name [], List.forall_mem_singleton.mpr plain⟩

theorem segments_join (path : Path) {other : Path} (relative : other.isAbsolute = false) :
    (path.join other).segments = path.front ++ other.segments := by
  rw [join, relative]
  rfl

theorem front_join {path other : Path} (relative : other.isAbsolute = false) :
    (path.join other).front = path.front ++ other.front := by
  have written := other.isWritten.1
  have last : (path.join other).segments.getLast? = other.segments.getLast? := by
    rw [path.segments_join relative, List.getLast?_append_of_ne_nil _ written]
  rw [front, last, path.segments_join relative, List.dropLast_append_of_ne_nil written]
  unfold front
  split <;> rfl

/-- Behind the empty path a relative one stands alone. -/
theorem empty_join {other : Path} (relative : other.isAbsolute = false) :
    empty.join other = other :=
  Path.ext (empty.segments_join relative)

/-- A path is absolute with something relative behind it just where it is by itself. -/
theorem isAbsolute_join {path other : Path} (relative : other.isAbsolute = false) :
    (path.join other).isAbsolute = path.isAbsolute := by
  by_cases nothing : path = empty
  · rw [nothing, empty_join relative, relative]
    rfl
  · obtain ⟨first, kept, rest, split, stays, named⟩ := exists_front_eq_cons nothing
    have joined := path.segments_join relative
    rw [stays, List.cons_append] at joined
    by_cases blank : first = ""
    · subst blank
      rw [isAbsolute_of_cons_blank split fun single => named single rfl,
        isAbsolute_of_cons_blank joined (List.append_ne_nil_of_right_ne_nil _ other.isWritten.1)]
    · rw [isAbsolute_of_cons split blank, isAbsolute_of_cons joined blank]

variable {name : String} {plain : '/' ∉ name.toList}

theorem isAbsolute_single : (single name plain).isAbsolute = false := by
  by_cases blank : name = ""
  · subst blank
    rfl
  · exact isAbsolute_of_cons rfl blank

theorem segments_join_single (path : Path) :
    (path.join (single name plain)).segments = path.front ++ [name] :=
  path.segments_join isAbsolute_single

/-- A zero byte is in the text of a path with a name behind it where it is in one of the names. -/
theorem zero_mem_text_join_single_iff (path : Path) :
    '\x00' ∈ (path.join (single name plain)).text.toList ↔
      ∃ segment ∈ path.names ++ [name], '\x00' ∈ segment.toList := by
  rw [text, zero_mem_intercalate_iff, segments_join_single]
  constructor
  · rintro ⟨segment, inside, zero⟩
    refine ⟨segment, ?_, zero⟩
    rcases List.mem_append.mp inside with before | last
    · refine List.mem_append_left _ ?_
      rw [← filter_front, List.mem_filter]
      refine ⟨before, ?_⟩
      cases significant : isSignificant segment with
      | true => rfl
      | false =>
        rcases eq_or_eq_of_not_significant significant with rfl | rfl
        · simp at zero
        · simp at zero
    · exact List.mem_append_right _ last
  · rintro ⟨segment, inside, zero⟩
    refine ⟨segment, ?_, zero⟩
    rcases List.mem_append.mp inside with before | last
    · rw [← filter_front] at before
      exact List.mem_append_left _ (List.mem_filter.mp before).1
    · exact List.mem_append_right _ last

end Path

namespace Storage

variable {C : Type}

/-- A path that leads to a place has no zero byte in a name. -/
theorem zero_notMem_of_locate_eq_ok {storage : Storage C} {current place : List String}
    {path : Path} (located : storage.locate current path = .ok place) :
    ∀ name ∈ path.names, '\x00' ∉ name.toList := by
  intro name inside zero
  have text : '\x00' ∈ path.text.toList :=
    (Path.zero_mem_intercalate_iff path.segments).mpr ⟨name, (List.mem_filter.mp inside).1, zero⟩
  rw [locate, if_pos (List.contains_iff_mem.mpr text)] at located
  cases located

/-- A walk over the names of a path goes on where the path leads to. -/
theorem foldlM_follow_names {storage : Storage C} {current place : List String} {path : Path}
    (located : storage.locate current path = .ok place) {last : List String}
    (goesOn : last ≠ []) :
    (path.names ++ last).foldlM storage.follow (if path.isAbsolute then [] else current) =
      last.foldlM storage.follow place := by
  rw [Path.names, ← foldlM_follow_significant _ _ _ goesOn, List.foldlM_append,
    (followed_of_locate_eq_ok located).2]
  rfl

/-- A name behind a path is walked to over the names of the path. -/
theorem locate_join_single (storage : Storage C) (current : List String) {path : Path}
    {name : String} {plain : '/' ∉ name.toList} (significant : Path.isSignificant name = true)
    (short : (path.join (.single name plain)).text.utf8ByteSize < pathLimit) :
    storage.locate current (path.join (.single name plain)) =
      if ∃ segment ∈ path.names ++ [name], '\x00' ∈ segment.toList then .error .zeroByte
      else
        (path.names ++ [name]).foldlM storage.follow (if path.isAbsolute then [] else current) := by
  have named : ¬ ((path.join (.single name plain)).segments.all (· == "") = true ∧
      ¬ (path.join (.single name plain)).isAbsolute = true) := by
    rintro ⟨blank, -⟩
    rw [Path.segments_join_single, List.all_eq_true] at blank
    have empty : name = "" := by simpa using blank name (by simp)
    subst empty
    cases significant
  unfold locate
  rw [if_neg named, if_neg (Nat.not_le.mpr short), Path.isAbsolute_join Path.isAbsolute_single]
  simp only [List.contains_iff_mem, Path.zero_mem_text_join_single_iff]
  rw [Path.segments_join_single, foldlM_follow_significant _ _ _ (List.cons_ne_nil _ _),
    Path.filter_front]

end Storage

end NativeBoundary
