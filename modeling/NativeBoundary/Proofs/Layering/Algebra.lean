import NativeBoundary.Proofs.Layering.Overlay
import NativeBoundary.Proofs.Paths.Joins

/-!
# Layers as a monoid

Layers that are laid over one another may be grouped in any way, and the empty layer is
neutral below and above.  Putting search paths below a directory goes along with that: it does
not matter whether layers are resolved before or after one is laid over the other.  Below a
directory that is absolute every search path becomes absolute in its place, so nothing is left
to be resolved a second time.
-/

namespace NativeBoundary

namespace Settings

/-! ## Sections -/

section

variable {α : Type} [Inhabited α] {overlay : α → α → α}

theorem overlaySection_none_left (neutral : ∀ upper, overlay default upper = upper)
    (upper : Option α) : overlaySection overlay none upper = upper := by
  cases upper with
  | none => rfl
  | some upper => exact congrArg some (neutral upper)

/-- Sections may be grouped in any way if their values may, a missing section being one without
values. -/
theorem overlaySection_assoc (neutral : ∀ upper, overlay default upper = upper)
    (grouped : ∀ lower middle upper,
      overlay (overlay lower middle) upper = overlay lower (overlay middle upper))
    (lower middle upper : Option α) :
    overlaySection overlay (overlaySection overlay lower middle) upper =
      overlaySection overlay lower (overlaySection overlay middle upper) := by
  cases upper with
  | none => rfl
  | some upper =>
    cases middle with
    | none => simp [overlaySection, neutral]
    | some middle => simp [overlaySection, grouped]

/-- What is done to the values of both sections may be done to the overlaid one. -/
theorem map_overlaySection {image : α → α} (unset : image default = default)
    (parted : ∀ lower upper, image (overlay lower upper) = overlay (image lower) (image upper))
    (lower upper : Option α) :
    (overlaySection overlay lower upper).map image =
      overlaySection overlay (lower.map image) (upper.map image) := by
  cases upper with
  | none => rfl
  | some upper =>
    cases lower with
    | none => simp [overlaySection, parted, unset]
    | some lower => simp [overlaySection, parted]

end

end Settings

theorem LibrarySection.overlay_default (upper : LibrarySection) :
    LibrarySection.overlay default upper = upper := by
  rcases upper with ⟨name?, searchPaths⟩
  cases name? with
  | none => exact congrArg (LibrarySection.mk none) (List.append_nil searchPaths)
  | some name => exact congrArg (LibrarySection.mk (some name)) (List.append_nil searchPaths)

theorem LibrarySection.overlay_assoc (lower middle upper : LibrarySection) :
    (lower.overlay middle).overlay upper = lower.overlay (middle.overlay upper) := by
  simp [LibrarySection.overlay, Option.or_assoc]

theorem LoggingSection.overlay_default (upper : LoggingSection) :
    LoggingSection.overlay default upper = upper := by
  rcases upper with ⟨level?, format?⟩
  cases level? <;> cases format? <;> rfl

theorem LoggingSection.overlay_assoc (lower middle upper : LoggingSection) :
    (lower.overlay middle).overlay upper = lower.overlay (middle.overlay upper) := by
  simp [LoggingSection.overlay, Option.or_assoc]

namespace Settings

/-! ## Layers -/

theorem overlay_assoc (lower middle upper : Settings) :
    (lower.overlay middle).overlay upper = lower.overlay (middle.overlay upper) := by
  have library := overlaySection_assoc LibrarySection.overlay_default LibrarySection.overlay_assoc
    lower.library middle.library upper.library
  have logging := overlaySection_assoc LoggingSection.overlay_default LoggingSection.overlay_assoc
    lower.logging middle.logging upper.logging
  simp only [overlay, library, logging]

theorem overlay_empty (settings : Settings) : settings.overlay empty = settings := rfl

theorem empty_overlay (settings : Settings) : empty.overlay settings = settings := by
  have library := overlaySection_none_left LibrarySection.overlay_default settings.library
  have logging := overlaySection_none_left LoggingSection.overlay_default settings.logging
  simp only [overlay, empty, library, logging]

/-- Layers are resolved one by one or together. -/
theorem resolve_overlay (lower upper : Settings) (root : Path) :
    (lower.overlay upper).resolve root = (lower.resolve root).overlay (upper.resolve root) := by
  have library :
      ((lower.overlay upper).resolve root).library =
        ((lower.resolve root).overlay (upper.resolve root)).library :=
    map_overlaySection rfl (fun _ _ => by simp [LibrarySection.overlay]) lower.library upper.library
  calc
    (lower.overlay upper).resolve root
    _ = ⟨((lower.overlay upper).resolve root).library,
          ((lower.resolve root).overlay (upper.resolve root)).logging⟩ := rfl
    _ = (lower.resolve root).overlay (upper.resolve root) := by rw [library]

/-! ## Search paths below an absolute directory -/

theorem searchPaths_resolve (settings : Settings) (root : Path) :
    (settings.resolve root).searchPaths = settings.searchPaths.map (resolvePath root) :=
  settings.searchPaths_seenFrom (some root)

theorem resolvePath_of_isAbsolute (root : Path) {path : Path} (absolute : path.isAbsolute = true) :
    resolvePath root path = path := by
  simp [resolvePath, Path.isRelative, absolute]

theorem resolvePath_of_isRelative (root : Path) {path : Path}
    (relative : path.isRelative = true) : resolvePath root path = root.join path := by
  rw [resolvePath, if_pos relative]

theorem isAbsolute_resolvePath {root : Path} (absolute : root.isAbsolute = true) (path : Path) :
    (resolvePath root path).isAbsolute = true := by
  cases already : path.isAbsolute with
  | true => rw [resolvePath_of_isAbsolute root already, already]
  | false =>
    rw [resolvePath_of_isRelative root (by simp [Path.isRelative, already])]
    exact (Path.isAbsolute_join already).trans absolute

/-- Settings without a relative search path are the same below every directory. -/
theorem resolve_eq_self {settings : Settings}
    (absolute : ∀ path ∈ settings.searchPaths, path.isAbsolute = true) (root : Path) :
    settings.resolve root = settings := by
  rcases settings with ⟨- | ⟨name?, searchPaths⟩, logging⟩
  · rfl
  · have kept : searchPaths.map (resolvePath root) = searchPaths :=
      (List.map_congr_left fun path inside =>
        resolvePath_of_isAbsolute root (absolute path inside)).trans (List.map_id' searchPaths)
    simp [resolve, kept]

/-- Laying layers over one another is associative, with the empty layer neutral on both sides, and
resolving search paths respects it.  Below an absolute directory the search paths keep their number
and their places: those that are absolute stay as they are, the others are put behind the
directory, and all are absolute then, so that a second directory changes nothing. -/
theorem layers_form_monoid (first second third : Settings) :
    (first.overlay second).overlay third = first.overlay (second.overlay third) ∧
    first.overlay empty = first ∧ empty.overlay first = first ∧
    (∀ root, (first.overlay second).resolve root =
      (first.resolve root).overlay (second.resolve root)) ∧
    ∀ root : Path, root.isAbsolute = true →
      (first.resolve root).searchPaths.length = first.searchPaths.length ∧
      (∀ (place : Nat) (path : Path), first.searchPaths[place]? = some path →
        ∃ resolved, (first.resolve root).searchPaths[place]? = some resolved ∧
          (path.isAbsolute = true → resolved = path) ∧
          (path.isRelative = true → resolved = root.join path) ∧
          resolved.isAbsolute = true) ∧
      ∀ further, (first.resolve root).resolve further = first.resolve root := by
  refine ⟨overlay_assoc first second third, overlay_empty first, empty_overlay first,
    resolve_overlay first second, ?_⟩
  intro root absolute
  refine ⟨by rw [searchPaths_resolve, List.length_map], ?_, ?_⟩
  · intro place path found
    refine ⟨resolvePath root path, ?_, resolvePath_of_isAbsolute root,
      resolvePath_of_isRelative root, isAbsolute_resolvePath absolute path⟩
    rw [searchPaths_resolve, List.getElem?_map, found]
    rfl
  · refine resolve_eq_self fun resolved inside => ?_
    rw [searchPaths_resolve] at inside
    obtain ⟨path, -, rfl⟩ := List.mem_map.mp inside
    exact isAbsolute_resolvePath absolute path

theorem layers_form_monoid_below_work :
    let lib := Path.ofText "lib"
    let opt := Path.ofText "/opt/./lib"
    let first : Settings := { library := some ⟨none, [lib, opt]⟩ }
    let second : Settings := ⟨some ⟨some "own", [Path.ofText "deep"]⟩, some ⟨some .warn, none⟩⟩
    let third : Settings := { logging := some ⟨none, some .json⟩ }
    let work := Path.ofText "/work"
    (first.overlay second).overlay third = first.overlay (second.overlay third) ∧
      (first.overlay second).resolve work = (first.resolve work).overlay (second.resolve work) ∧
      (∃ resolved, (first.resolve work).searchPaths[0]? = some resolved ∧
        resolved = work.join lib ∧ resolved.isAbsolute = true) ∧
      (∃ resolved, (first.resolve work).searchPaths[1]? = some resolved ∧ resolved = opt) ∧
      (first.resolve work).resolve (Path.ofText "else") = first.resolve work := by
  intro lib opt first second third work
  obtain ⟨grouped, -, -, parted, below⟩ := layers_form_monoid first second third
  obtain ⟨-, placed, settled⟩ := below work (by decide +kernel)
  obtain ⟨resolved, atFirst, -, joined, absolute⟩ := placed 0 lib rfl
  obtain ⟨kept, atSecond, same, -, -⟩ := placed 1 opt rfl
  exact ⟨grouped, parted work, ⟨resolved, atFirst, joined (by decide +kernel), absolute⟩,
    ⟨kept, atSecond, same (by decide +kernel)⟩, settled _⟩

end Settings

end NativeBoundary
