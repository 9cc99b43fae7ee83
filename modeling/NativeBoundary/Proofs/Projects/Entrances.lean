import Mathlib.Data.List.Forall2
import NativeBoundary.Proofs.Documents.Acceptance
import NativeBoundary.Proofs.Layering.Faults
import NativeBoundary.Proofs.Paths.Joins
import NativeBoundary.Proofs.Projects.Spelling

/-!
# Two entrances to one project

A project is loaded from its directory or from its file.  The directory is taken as it is
given, and where it is found from the file it may be spelled in another way; so the two give
paths that are the same, but not written alike.  Layers keep to that: whatever is laid over
settings, accepted or resolved comes out the same from both spellings.
-/

namespace NativeBoundary

/-! ## Attempts that end alike -/

/-- Both attempts fail for one reason, or both give values that are the same. -/
inductive Alike {ε α : Type} (same : α → α → Prop) : Except ε α → Except ε α → Prop
  | error (refusal : ε) : Alike same (.error refusal) (.error refusal)
  | ok {first second : α} (values : same first second) : Alike same (.ok first) (.ok second)

namespace Alike

variable {ε α β : Type} {same : α → α → Prop} {sameThen : β → β → Prop}
  {first second : Except ε α}

theorem bind {firstNext secondNext : α → Except ε β} (attempts : Alike same first second)
    (next : ∀ value other, same value other →
      Alike sameThen (firstNext value) (secondNext other)) :
    Alike sameThen (first >>= firstNext) (second >>= secondNext) := by
  cases attempts with
  | error refusal => exact .error refusal
  | ok values => exact next _ _ values

theorem map {firstImage secondImage : α → β} (attempts : Alike same first second)
    (images : ∀ value other, same value other →
      sameThen (firstImage value) (secondImage other)) :
    Alike sameThen (first.map firstImage) (second.map secondImage) := by
  cases attempts with
  | error refusal => exact .error refusal
  | ok values => exact .ok (images _ _ values)

/-- An attempt ends like itself, with one value that it gives. -/
theorem itself (attempt : Except ε α) :
    Alike (fun value other => value = other ∧ attempt = .ok value) attempt attempt := by
  cases attempt with
  | error refusal => exact .error refusal
  | ok value => exact .ok ⟨rfl, rfl⟩

end Alike

/-! ## Settings that are the same -/

/-- Sections have one name and, place by place, search paths that are the same. -/
structure LibrarySection.SameAs (first second : LibrarySection) : Prop where
  name : first.name = second.name
  searchPaths : List.Forall₂ (fun path other => path.same other = true)
    first.searchPaths second.searchPaths

/-- Settings have the same sections. -/
structure Settings.SameAs (first second : Settings) : Prop where
  library : Option.Rel LibrarySection.SameAs first.library second.library
  logging : first.logging = second.logging

/-- Configurations have the same settings, and belong to the same directory or to none. -/
structure Config.SameAs (first second : Config) : Prop where
  settings : first.settings.SameAs second.settings
  projectRoot : Option.Rel (fun path other => path.same other = true)
    first.projectRoot second.projectRoot

theorem Path.same_self (path : Path) : path.same path = true :=
  beq_self_eq_true path.components

namespace LibrarySection.SameAs

theorem refl (part : LibrarySection) : part.SameAs part :=
  ⟨rfl, List.forall₂_same.mpr fun path _ => path.same_self⟩

theorem overlay {lower upper otherLower otherUpper : LibrarySection}
    (below : lower.SameAs otherLower) (above : upper.SameAs otherUpper) :
    (lower.overlay upper).SameAs (otherLower.overlay otherUpper) where
  name := congrArg₂ (· <|> ·) above.name below.name
  searchPaths := List.rel_append above.searchPaths below.searchPaths

end LibrarySection.SameAs

namespace Settings

theorem rel_overlaySection {α : Type} [Inhabited α] {overlay : α → α → α} {same : α → α → Prop}
    (unset : same default default)
    (laid : ∀ {lower upper otherLower otherUpper}, same lower otherLower →
      same upper otherUpper → same (overlay lower upper) (overlay otherLower otherUpper))
    {lower upper otherLower otherUpper : Option α} (below : Option.Rel same lower otherLower)
    (above : Option.Rel same upper otherUpper) :
    Option.Rel same (overlaySection overlay lower upper)
      (overlaySection overlay otherLower otherUpper) := by
  cases above with
  | none => exact below
  | some above =>
    cases below with
    | none => exact .some (laid unset above)
    | some below => exact .some (laid below above)

namespace SameAs

variable {first second : Settings}

theorem refl (settings : Settings) : settings.SameAs settings := by
  refine ⟨?_, rfl⟩
  cases settings.library with
  | none => exact .none
  | some part => exact .some (.refl part)

theorem overlay {lower upper otherLower otherUpper : Settings} (below : lower.SameAs otherLower)
    (above : upper.SameAs otherUpper) :
    (lower.overlay upper).SameAs (otherLower.overlay otherUpper) where
  library := rel_overlaySection (.refl default) .overlay below.library above.library
  logging := congrArg₂ (overlaySection LoggingSection.overlay) below.logging above.logging

theorem libraryName? (same : first.SameAs second) : first.libraryName? = second.libraryName? := by
  have library := same.library
  unfold Settings.libraryName?
  generalize first.library = part at library
  generalize second.library = other at library
  cases library with
  | none => rfl
  | some parts => exact parts.name

/-- Only the name of the library is looked at, and that is one. -/
theorem accept (same : first.SameAs second) :
    Alike SameAs first.accept second.accept := by
  have checked : first.validate = second.validate := by
    simp only [validate, same.libraryName?]
  unfold Settings.accept
  rw [checked]
  cases second.validate with
  | error setting => exact .error _
  | ok _ => exact .ok same

end SameAs

/-- Settings that are resolved below two spellings of a directory are the same. -/
theorem sameAs_resolve (settings : Settings) {root other : Path} (same : root.same other = true) :
    (settings.resolve root).SameAs (settings.resolve other) := by
  refine ⟨?_, rfl⟩
  rcases settings with ⟨- | ⟨name?, searchPaths⟩, logging⟩
  · exact .none
  · refine .some ⟨rfl, ?_⟩
    rw [List.forall₂_map_left_iff, List.forall₂_map_right_iff, List.forall₂_same]
    intro path _
    unfold resolvePath
    split
    · -- Only a relative path is put behind the directory, so only here its spelling shows.
      rename_i relative
      have notAbsolute : path.isAbsolute = false := by simpa [Path.isRelative] using relative
      exact beq_iff_eq.mpr (Path.components_join_congr (beq_iff_eq.mp same) notAbsolute)
    · exact path.same_self

end Settings

namespace SettingsLoader

variable {surroundings : Surroundings}

/-! ## From the layer of a project to its configuration -/

/-- Layers of a project have the same settings and stand in the same directory. -/
structure SameLayer (first second : ProjectLayer) : Prop where
  settings : first.settings.SameAs second.settings
  root : Option.Rel (fun path other => path.same other = true) first.root second.root

/-- Over one file of the user, and in one environment, the same layers give the same
configurations. -/
theorem alike_assemble {first second : ProjectLayer} (same : SameLayer first second)
    (file? : Option Path) :
    Alike Config.SameAs (assemble surroundings file? first)
      (assemble surroundings file? second) := by
  rw [assemble_eq_stages, assemble_eq_stages]
  refine (Alike.itself _).bind ?_
  rintro user _ ⟨rfl, -⟩
  refine (Alike.itself _).bind ?_
  rintro environment _ ⟨rfl, -⟩
  have merged := ((Settings.SameAs.refl user).overlay same.settings).overlay (.refl environment)
  exact merged.accept.map fun settings other accepted => ⟨accepted, same.root⟩

/-! ## The project of a directory and of the file in it -/

/-- The step up from the file of a project leads to its directory, however that is spelled. -/
theorem exists_parent?_projectFile (directory : Path) :
    ∃ parent, (projectFile directory).parent? = some parent ∧ parent.same directory = true := by
  rw [projectFile_eq_join]
  have significant : Path.isSignificant Settings.fileName = true := by decide
  obtain ⟨parent, above, same⟩ := directory.parent?_join_single significant
  exact ⟨parent, above, beq_iff_eq.mpr same⟩

/-- A directory with a file of a project is the directory of that project. -/
theorem findProject?_of_present {directory : Path}
    (present : surroundings.pathExists (projectFile directory) = true) :
    findProject? surroundings directory = some directory := by
  rw [findProject?_eq, if_pos present]

theorem alike_layers {directory : Path}
    (present : surroundings.pathExists (projectFile directory) = true) :
    Alike SameLayer (fileLayer surroundings (projectFile directory))
      (projectLayer surroundings directory) := by
  obtain ⟨parent, above, same⟩ := exists_parent?_projectFile directory
  unfold fileLayer projectLayer
  rw [findProject?_of_present present, above]
  refine (Alike.itself _).map ?_
  rintro settings _ ⟨rfl, -⟩
  exact ⟨settings.sameAs_resolve same, .some same⟩

/-- A project is the same from both entrances: where a directory has an entry that is named like
the file of a project, loading that file and loading the directory fail for one reason, or give
configurations with the same settings and the same directory of the project. -/
theorem entrances_end_alike (surroundings : Surroundings) (first second : SettingsLoader)
    (directory : Path) (one : first.userFileOf surroundings = second.userFileOf surroundings)
    (present : surroundings.pathExists (projectFile directory) = true) :
    Alike Config.SameAs (first.loadFile surroundings (projectFile directory)).1
      (second.loadDirectory surroundings directory).1 := by
  unfold loadFile loadDirectory
  rw [answer_loadOver, answer_loadOver, one]
  exact (alike_layers present).bind fun layer other same => alike_assemble same _

/-- A project below the current directory with a relative search path. -/
def partProject : Surroundings where
  storage := Storage.empty.addFile ["work", "part", "ferrule.toml"]
    (.bytes "[library]\nsearch-paths = [\"lib\"]".toUTF8.toList)
  current := ["work"]
  environment _ := none
  home := .ofText "/home"

/-- The two directories of one project are the same, and are not written alike. -/
theorem entrances_end_alike_at_part :
    let directory := Path.ofText "./part//."
    ∃ fromFile fromDirectory,
      (SettingsLoader.loadFile partProject {} (projectFile directory)).1 = .ok fromFile ∧
      (SettingsLoader.loadDirectory partProject {} directory).1 = .ok fromDirectory ∧
      fromFile.SameAs fromDirectory ∧ fromFile.projectRoot ≠ fromDirectory.projectRoot := by
  intro directory
  have alike := entrances_end_alike partProject {} {} directory rfl (by decide +kernel)
  have fromFile : (SettingsLoader.loadFile partProject {} (projectFile directory)).1 =
      .ok ⟨⟨some ⟨none, [Path.ofText "./part/lib"]⟩, none⟩, some (Path.ofText "./part")⟩ := by
    decide +kernel
  have fromDirectory : (SettingsLoader.loadDirectory partProject {} directory).1 =
      .ok ⟨⟨some ⟨none, [Path.ofText "./part//./lib"]⟩, none⟩, some directory⟩ := by
    decide +kernel
  rw [fromFile, fromDirectory] at alike
  cases alike with
  | ok same => exact ⟨_, _, fromFile, fromDirectory, same, by decide +kernel⟩

end SettingsLoader

end NativeBoundary
