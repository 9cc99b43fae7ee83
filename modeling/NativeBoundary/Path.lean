/-!
# Paths

A path is its text, split at the slashes, so that it is shown exactly as it was
written or built.  Empty segments and dots inside a path do not matter to where
it leads; `components` leaves them out, and two paths are the same when their
components are.  The first segment alone decides whether a path is absolute.
-/

namespace NativeBoundary

/-- Segments that some text is split into at its slashes: there is one at least, and none of them
holds a slash. -/
def Path.IsWritten (segments : List String) : Prop :=
  segments ≠ [] ∧ ∀ segment ∈ segments, '/' ∉ segment.toList

instance (segments : List String) : Decidable (Path.IsWritten segments) :=
  inferInstanceAs (Decidable (_ ∧ _))

/-- A path, split at its slashes. -/
@[ext]
structure Path where
  segments : List String
  isWritten : Path.IsWritten segments
deriving DecidableEq, Repr

namespace Path

variable {segments : List String}

/-- No slash is left in what is split off at the slashes. -/
theorem slash_notMem_of_mem_splitOn {chars piece : List Char} (inside : piece ∈ chars.splitOn '/') :
    '/' ∉ piece := by
  induction chars generalizing piece with
  | nil =>
    rw [List.splitOn_nil, List.mem_singleton] at inside
    simp [inside]
  | cons char rest hypothesis =>
    rw [List.splitOn_cons_eq_if_modifyHead] at inside
    split at inside
    · rcases List.mem_cons.mp inside with rfl | further
      · exact List.not_mem_nil
      · exact hypothesis further
    · rename_i other
      cases pieces : rest.splitOn '/' with
      | nil => exact absurd pieces (List.splitOn_ne_nil '/' rest)
      | cons first others =>
        rw [pieces, List.modifyHead_cons, List.mem_cons] at inside
        rcases inside with rfl | further
        · have plain := hypothesis (pieces ▸ List.mem_cons_self)
          rw [List.mem_cons, not_or]
          exact ⟨fun same => other (beq_iff_eq.mpr same.symm), plain⟩
        · exact hypothesis (pieces ▸ List.mem_cons_of_mem first further)

theorem isWritten_splitOn (chars : List Char) :
    IsWritten ((chars.splitOn '/').map String.ofList) := by
  refine ⟨by simp, ?_⟩
  intro segment inside
  obtain ⟨piece, split, rfl⟩ := List.mem_map.mp inside
  rw [String.toList_ofList]
  exact slash_notMem_of_mem_splitOn split

def ofText (text : String) : Path :=
  ⟨(text.toList.splitOn '/').map String.ofList, isWritten_splitOn text.toList⟩

def text (path : Path) : String :=
  "/".intercalate path.segments

/-- A path is split into its segments again from its text. -/
theorem ofText_text (path : Path) : ofText path.text = path := by
  obtain ⟨segments, something, plain⟩ := path
  have whole : (("/".intercalate segments).toList.splitOn '/').map String.ofList = segments := by
    rw [String.toList_intercalate]
    have pieces : ['/'].intercalate (segments.map String.toList) =
        "/".toList.intercalate (segments.map String.toList) := rfl
    have several : segments.map String.toList ≠ [] := (not_congr List.map_eq_nil_iff).mpr something
    rw [← pieces, List.splitOn_intercalate '/' (List.forall_mem_map.mpr plain) several]
    simp
  exact Path.ext whole

/-- Nothing of a text is lost where it is split. -/
theorem text_ofText (text : String) : (ofText text).text = text := by
  refine String.toList_inj.mp ?_
  rw [Path.text, ofText, String.toList_intercalate, List.map_map]
  have kept : String.toList ∘ String.ofList = id := funext fun _ => String.toList_ofList
  rw [kept, List.map_id]
  exact List.intercalate_splitOn '/'

/-- What a slash at the front of a text is followed by is split on its own. -/
theorem segments_ofText_slash (text : String) :
    (ofText ("/" ++ text)).segments = "" :: (ofText text).segments := by
  have front : ("/" ++ text).toList.splitOn '/' = [] :: text.toList.splitOn '/' := by
    rw [String.toList_append]
    exact (List.splitOn_cons_eq_if_modifyHead '/' text.toList).trans (if_pos rfl)
  exact congrArg (List.map String.ofList) front

def root : Path := ⟨["", ""], by decide⟩

/-- The empty path, which leads nowhere by itself. -/
def empty : Path := ⟨[""], by decide⟩

instance : Inhabited Path := ⟨empty⟩

/-- The path that leads from the root over some names. -/
def absolute (names : List String) : Path :=
  ofText ("/" ++ "/".intercalate names)

def isAbsolute (path : Path) : Bool :=
  match path.segments with
  | "" :: _ :: _ => true
  | _ => false

def isRelative (path : Path) : Bool :=
  !path.isAbsolute

/-- A significant part of a path. -/
inductive Component
  | root
  | current
  | parent
  | normal (name : String)
deriving DecidableEq, Repr

/-- Whether a segment that is not the first one of a relative path leads anywhere. -/
def isSignificant (segment : String) : Bool :=
  segment != "" && segment != "."

def Component.ofSegment (segment : String) : Component :=
  if segment == ".." then .parent else .normal segment

def bodyComponents (segments : List String) : List Component :=
  (segments.filter isSignificant).map Component.ofSegment

/-- The significant parts of a path; a dot counts only at the front of a relative path. -/
def components (path : Path) : List Component :=
  match path.segments with
  | [] => []
  | "" :: [] => []
  | "" :: body => .root :: bodyComponents body
  | "." :: body => .current :: bodyComponents body
  | first :: body => bodyComponents (first :: body)

/-- Two paths are the same when their components are. -/
def same (first second : Path) : Bool :=
  first.components == second.components

/-- The segments that stay in front of what is put behind a path. -/
def front (path : Path) : List String :=
  if path.segments.getLast? = some "" then path.segments.dropLast else path.segments

theorem front_prefix_segments (path : Path) : path.front <+: path.segments := by
  unfold front
  split
  · exact List.dropLast_prefix _
  · exact List.prefix_rfl

theorem isWritten_front_append (base path : Path) : IsWritten (base.front ++ path.segments) := by
  refine ⟨List.append_ne_nil_of_right_ne_nil _ path.isWritten.1, ?_⟩
  intro segment inside
  rcases List.mem_append.mp inside with before | behind
  · exact base.isWritten.2 segment (base.front_prefix_segments.subset before)
  · exact path.isWritten.2 segment behind

/-- Put a path behind another one: an absolute path replaces it, and a slash is written
between the two unless the first one ends in a slash or is empty. -/
def join (base path : Path) : Path :=
  if path.isAbsolute then path
  else ⟨base.front ++ path.segments, base.isWritten_front_append path⟩

def joinName (base : Path) (name : String) : Path :=
  base.join (ofText name)

def trimEnd : List String → List String
  | [] => []
  | segment :: rest =>
    match trimEnd rest with
    | [] => if isSignificant segment then [segment] else []
    | kept => segment :: kept

/-- Drop the segments at the end of a relative path that lead nowhere; a dot at its front stays. -/
def trimRelative : List String → List String
  | [] => []
  | "" :: [] => []
  | first :: rest => first :: trimEnd rest

/-- The segments without the last component.  Nothing is above the root directory and the empty
path, and the empty path is above a single name. -/
def segmentsAbove? : List String → Option (List String)
  | "" :: first :: body =>
    match trimEnd (first :: body) with
    | [] => none
    | kept =>
      match trimEnd kept.dropLast with
      | [] => some ["", ""]
      | left => some ("" :: left)
  | segments =>
    match trimRelative segments with
    | [] => none
    | kept =>
      match trimRelative kept.dropLast with
      | [] => some [""]
      | left => some left

theorem trimEnd_prefix_self (segments : List String) : trimEnd segments <+: segments := by
  induction segments with
  | nil => exact List.prefix_rfl
  | cons segment rest hypothesis =>
    unfold trimEnd
    split
    · split
      · exact ⟨rest, rfl⟩
      · exact List.nil_prefix
    · exact List.cons_prefix_cons.mpr ⟨rfl, hypothesis⟩

theorem trimRelative_prefix_self (segments : List String) : trimRelative segments <+: segments := by
  unfold trimRelative
  split
  · exact List.prefix_rfl
  · exact List.nil_prefix
  · exact List.cons_prefix_cons.mpr ⟨rfl, trimEnd_prefix_self _⟩

/-- What is left of the segments of a text, with a blank one in front or not, is again what some
text is split into, unless nothing is left. -/
theorem IsWritten.of_subset {fewer : List String} (written : IsWritten segments)
    (something : fewer ≠ []) (within : fewer ⊆ "" :: segments) : IsWritten fewer := by
  refine ⟨something, ?_⟩
  intro segment inside
  rcases List.mem_cons.mp (within inside) with rfl | before
  · exact List.not_mem_nil
  · exact written.2 segment before

theorem IsWritten.segmentsAbove? {above : List String} (written : IsWritten segments)
    (stepped : segmentsAbove? segments = some above) : IsWritten above := by
  unfold Path.segmentsAbove? at stepped
  split at stepped
  · rename_i first body
    have less : trimEnd (trimEnd (first :: body)).dropLast <+: first :: body :=
      (trimEnd_prefix_self _).trans ((List.dropLast_prefix _).trans (trimEnd_prefix_self _))
    split at stepped
    · cases stepped
    · split at stepped
      · cases stepped
        decide
      · cases stepped
        refine written.of_subset (List.cons_ne_nil _ _) (List.cons_subset_cons "" ?_)
        exact List.Subset.trans less.subset (List.subset_cons_self "" _)
  · have less : trimRelative (trimRelative segments).dropLast <+: segments :=
      (trimRelative_prefix_self _).trans
        ((List.dropLast_prefix _).trans (trimRelative_prefix_self _))
    split at stepped
    · cases stepped
    · split at stepped
      · cases stepped
        decide
      · rename_i something
        cases stepped
        exact written.of_subset something
          (List.Subset.trans less.subset (List.subset_cons_self "" _))

/-- The path without its last component. -/
def parent? (path : Path) : Option Path :=
  (segmentsAbove? path.segments).pmap Path.mk fun _ => path.isWritten.segmentsAbove?

theorem parent?_eq_some_iff {path parent : Path} :
    path.parent? = some parent ↔ segmentsAbove? path.segments = some parent.segments := by
  rw [parent?, Option.pmap_eq_some_iff]
  constructor
  · rintro ⟨above, written, stepped, rfl⟩
    exact stepped
  · intro stepped
    exact ⟨parent.segments, parent.isWritten, stepped, rfl⟩

theorem exists_parent?_of_segmentsAbove? {path : Path} {above : List String}
    (stepped : segmentsAbove? path.segments = some above) :
    ∃ parent, path.parent? = some parent ∧ parent.segments = above :=
  ⟨⟨above, path.isWritten.segmentsAbove? stepped⟩, parent?_eq_some_iff.mpr stepped, rfl⟩

theorem parent?_eq_none_iff {path : Path} :
    path.parent? = none ↔ segmentsAbove? path.segments = none :=
  Option.pmap_eq_none_iff

/-- The step up depends on the segments above alone. -/
theorem parent?_congr {first second : Path}
    (same : segmentsAbove? first.segments = segmentsAbove? second.segments) :
    first.parent? = second.parent? := by
  refine Option.ext fun parent => ?_
  rw [parent?_eq_some_iff, parent?_eq_some_iff, same]

theorem length_trimEnd_le (segments : List String) :
    (trimEnd segments).length ≤ segments.length := by
  induction segments with
  | nil => simp [trimEnd]
  | cons segment rest hypothesis =>
    unfold trimEnd
    split
    · split <;> simp
    · rename_i kept
      simpa using hypothesis

theorem length_trimRelative_le (segments : List String) :
    (trimRelative segments).length ≤ segments.length := by
  unfold trimRelative
  split
  · simp
  · simp
  · simpa using length_trimEnd_le _

def ancestorsWithin : Nat → Path → List Path
  | 0, path => [path]
  | fuel + 1, path =>
    match path.parent? with
    | none => [path]
    | some parent => path :: ancestorsWithin fuel parent

/-- The path itself and everything above it, the nearest first. -/
def ancestors (path : Path) : List Path :=
  ancestorsWithin path.segments.length path

end Path

end NativeBoundary
