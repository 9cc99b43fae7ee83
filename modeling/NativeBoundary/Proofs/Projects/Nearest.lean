import NativeBoundary.Proofs.Layering.Faults
import NativeBoundary.Proofs.Paths.Ancestors

/-!
# The nearest file of a project is final

A load that starts at a directory goes up from there until a directory has a file of a
project, and takes this file whatever is in it.  If the file cannot be read, is no document
or leaves its library without a name, the load fails with this fault: neither another file
farther up nor an empty layer stands in for it.  What stands farther up has no part in the
answer.
-/

namespace NativeBoundary

namespace SettingsLoader

variable {surroundings : Surroundings} {start directory : Path}

/-- On the way up from a start, a directory is the first one that has a file of a project. -/
def IsNearest (surroundings : Surroundings) (start directory : Path) : Prop :=
  ∃ steps, start.ancestor? steps = some directory ∧
    surroundings.pathExists (projectFile directory) = true ∧
    ∀ fewer < steps, ∀ nearer, start.ancestor? fewer = some nearer →
      surroundings.pathExists (projectFile nearer) = false

theorem findProject?_eq_some_iff :
    findProject? surroundings start = some directory ↔
      IsNearest surroundings start directory :=
  Path.find?_ancestors_eq_some_iff

theorem findProject?_eq_none_iff :
    findProject? surroundings start = none ↔
      ∀ directory, ¬ IsNearest surroundings start directory := by
  rw [Option.eq_none_iff_forall_ne_some]
  exact forall_congr' fun directory => not_congr findProject?_eq_some_iff

/-! ## The layer of the project -/

/-- The layer of a project is what its file says, or the error of this file. -/
theorem projectLayer_of_isNearest (nearest : IsNearest surroundings start directory) :
    projectLayer surroundings start =
      (Settings.ofFile surroundings (projectFile directory)).map fun settings =>
        ⟨some directory, settings.resolve directory⟩ := by
  rw [projectLayer, findProject?_eq_some_iff.mpr nearest]

theorem projectLayer_of_none (missing : ∀ directory, ¬ IsNearest surroundings start directory) :
    projectLayer surroundings start = .ok ⟨none, .empty⟩ := by
  rw [projectLayer, findProject?_eq_none_iff.mpr missing]

/-- The file that is the nearest one says the same wherever its content is the same. -/
theorem projectLayer_congr {other : Surroundings}
    (nearest : IsNearest surroundings start directory)
    (alsoNearest : IsNearest other start directory)
    (same :
      other.content (projectFile directory) = surroundings.content (projectFile directory)) :
    projectLayer other start = projectLayer surroundings start := by
  rw [projectLayer_of_isNearest nearest, projectLayer_of_isNearest alsoNearest, Settings.ofFile,
    Settings.ofFile, same]

/-! ## Loads over a layer -/

/-- A load tells the directory of the layer that it was made over. -/
theorem projectRoot_of_loadOver_eq_ok {loader : SettingsLoader} {layer : ProjectLayer}
    {config : Config} (loaded : (loader.loadOver surroundings (.ok layer)).1 = .ok config) :
    config.projectRoot = layer.root := by
  obtain ⟨user, environment, -, -, rfl⟩ := layers_of_assemble_eq_ok loaded
  rfl

/-- Beside the project, a load depends on the place and the layer of the user's file and on the
environment. -/
theorem loadOver_congr {loader : SettingsLoader} {other : Surroundings}
    (project : Except SettingsError ProjectLayer) (home : other.home = surroundings.home)
    (environment : other.environment = surroundings.environment)
    (user :
      userLayer other (loader.userFileOf surroundings) =
        userLayer surroundings (loader.userFileOf surroundings)) :
    loader.loadOver other project = loader.loadOver surroundings project := by
  have place : loader.userFileOf other = loader.userFileOf surroundings := by
    simp only [userFileOf, userDirectory, home]
  have texts : other.variableText? = surroundings.variableText? := by
    funext name
    simp only [Surroundings.variableText?, environment]
  cases project with
  | error error => rfl
  | ok layer => simp only [loadOver, assemble, place, texts, user]

/-! ## The way up decides -/

/-- The first fault of the nearest file is the error of the load. -/
theorem loadDirectory_of_fault {loader : SettingsLoader} {error : SettingsError}
    (nearest : IsNearest surroundings start directory)
    (first :
      (Settings.fileFaults surroundings (projectFile directory)).findSome? id = some error) :
    loader.loadDirectory surroundings start = (.error error, loader) := by
  rw [loadDirectory, projectLayer_of_isNearest nearest, Settings.reports_ofFile.eq_error first]
  rfl

/-- Without a fault, what its text decodes to is the layer of the project. -/
theorem exists_decoded_of_no_fault (loader : SettingsLoader)
    (nearest : IsNearest surroundings start directory)
    (none : (Settings.fileFaults surroundings (projectFile directory)).findSome? id = none) :
    ∃ settings, Settings.decodedOf? surroundings (projectFile directory) = some settings ∧
      loader.loadDirectory surroundings start =
        loader.loadOver surroundings (.ok ⟨some directory, settings.resolve directory⟩) := by
  obtain ⟨settings, read, decoded, -⟩ := Settings.reports_ofFile.exists_ok none
  refine ⟨settings, decoded, ?_⟩
  rw [loadDirectory, projectLayer_of_isNearest nearest, read]
  rfl

/-- So a load that succeeds tells the directory of the nearest file. -/
theorem projectRoot_of_isNearest {loader : SettingsLoader} {config : Config}
    (nearest : IsNearest surroundings start directory)
    (loaded : (loader.loadDirectory surroundings start).1 = .ok config) :
    config.projectRoot = some directory := by
  cases first : (Settings.fileFaults surroundings (projectFile directory)).findSome? id with
  | some error =>
    rw [loadDirectory_of_fault nearest first] at loaded
    cases loaded
  | none =>
    obtain ⟨settings, -, laid⟩ := exists_decoded_of_no_fault loader nearest first
    rw [laid] at loaded
    exact projectRoot_of_loadOver_eq_ok loaded

/-- A load from a directory ends its way up, and takes the first file of a project on it.  If this
file cannot be read, is malformed or leaves its library without a name, the first of these faults
is the error of the load, and the loader stays as it was.  Without a fault, the settings that the
text of the file decodes to are the layer of the project, and its directory is the one that the
load tells.  Elsewhere the answer is the same if the same directory is the nearest one, its file and
the layer of the user's file are the same, and so is the environment: what stands farther up does
not matter.  Where there is no such file on the whole way, the layer of the project is empty and no
directory is told. -/
theorem nearest_file_is_final (surroundings : Surroundings) (loader : SettingsLoader)
    (start : Path) :
    (∃ steps, start.ancestor? steps = none) ∧
    (∀ directory, IsNearest surroundings start directory →
      let faults := Settings.fileFaults surroundings (projectFile directory)
      findProject? surroundings start = some directory ∧
      (∀ error, faults.findSome? id = some error →
        loader.loadDirectory surroundings start = (.error error, loader)) ∧
      (faults.findSome? id = none →
        ∃ settings, Settings.decodedOf? surroundings (projectFile directory) = some settings ∧
          loader.loadDirectory surroundings start =
            loader.loadOver surroundings (.ok ⟨some directory, settings.resolve directory⟩)) ∧
      (∀ config, (loader.loadDirectory surroundings start).1 = .ok config →
        config.projectRoot = some directory) ∧
      ∀ other : Surroundings, IsNearest other start directory →
        other.content (projectFile directory) = surroundings.content (projectFile directory) →
        other.home = surroundings.home → other.environment = surroundings.environment →
        userLayer other (loader.userFileOf surroundings) =
          userLayer surroundings (loader.userFileOf surroundings) →
        loader.loadDirectory other start = loader.loadDirectory surroundings start) ∧
    ((∀ directory, ¬ IsNearest surroundings start directory) →
      findProject? surroundings start = none ∧
      loader.loadDirectory surroundings start =
        loader.loadOver surroundings (.ok ⟨none, .empty⟩) ∧
      ∀ config, (loader.loadDirectory surroundings start).1 = .ok config →
        config.projectRoot = none) := by
  refine ⟨start.exists_ancestor?_eq_none, ?_, ?_⟩
  · intro directory nearest faults
    refine ⟨findProject?_eq_some_iff.mpr nearest, fun error => loadDirectory_of_fault nearest,
      exists_decoded_of_no_fault loader nearest, fun config => projectRoot_of_isNearest nearest, ?_⟩
    intro other alsoNearest same home environment user
    rw [loadDirectory, loadDirectory, projectLayer_congr nearest alsoNearest same,
      loadOver_congr _ home environment user]
  · intro missing
    have laid := projectLayer_of_none missing
    refine ⟨findProject?_eq_none_iff.mpr missing, by rw [loadDirectory, laid], ?_⟩
    intro config loaded
    rw [loadDirectory, laid] at loaded
    exact projectRoot_of_loadOver_eq_ok loaded

/-- A project at work, and in a directory below it something that bears the name of the file of a
project: a directory, or a file with some content. -/
def occupied (nearest : Option Content) (farther : String) : Surroundings where
  storage :=
    let work := Storage.empty.addFile ["work", "ferrule.toml"] (.bytes (Text.bytes farther))
    match nearest with
    | none => work.addDirectory ["work", "part", "ferrule.toml"]
    | some content => work.addFile ["work", "part", "ferrule.toml"] content
  current := []
  environment _ := none
  home := .ofText "/home"

theorem nearest_file_is_final_occupied :
    let valid := "[library]\nname = \"own\"\n"
    let start := Path.ofText "/work/part/deep/./"
    let part := Path.ofText "/work/part"
    let work := Path.ofText "/work"
    let written (text : String) := some (Content.bytes (Text.bytes text))
    let named := written "[library]\nname = \"mine\"\n"
    (∃ steps, start.ancestor? steps = none) ∧
      IsNearest (occupied none valid) start part ∧
      loadDirectory (occupied none valid) {} start = (.error (.unreadable .isDirectory), {}) ∧
      loadDirectory (occupied (some (.bytes [0xff])) valid) {} start =
        (.error (.unreadable .notText), {}) ∧
      loadDirectory (occupied (written "no document") valid) {} start =
        (.error (.malformed (projectFile part) none), {}) ∧
      loadDirectory (occupied (written "[library]\nname = 3\n") valid) {} start =
        (.error (.malformed (projectFile part) (some (.invalidType "integer \x603\x60" "a string"))),
          {}) ∧
      loadDirectory (occupied (written "[library]\nname = \" \"\n") valid) {} start =
        (.error (.invalid Settings.blankName), {}) ∧
      (∃ settings,
        Settings.decodedOf? (occupied named valid) (projectFile part) = some settings ∧
          settings.libraryName? = some "mine" ∧
          loadDirectory (occupied named valid) {} start =
            loadOver (occupied named valid) {} (.ok ⟨some part, settings.resolve part⟩)) ∧
      loadDirectory (occupied none "no document") {} start =
        loadDirectory (occupied none valid) {} start ∧
      IsNearest (occupied none valid) work work ∧
      (∀ config, (loadDirectory (occupied none valid) {} work).1 = .ok config →
        config.projectRoot = some work) ∧
      loadDirectory (occupied none valid) {} (Path.ofText "/home") =
        loadOver (occupied none valid) {} (.ok ⟨none, .empty⟩) := by
  intro valid start part work written named
  have nearest (entry : Option Content) (farther : String)
      (found : findProject? (occupied entry farther) start = some part) :
      IsNearest (occupied entry farther) start part :=
    findProject?_eq_some_iff.mp found
  -- In each case the farther file is valid, and the error is that of the nearest one.
  have refuses (entry : Option Content) (error : SettingsError)
      (found : findProject? (occupied entry valid) start = some part)
      (first :
        (Settings.fileFaults (occupied entry valid) (projectFile part)).findSome? id =
          some error) :
      loadDirectory (occupied entry valid) {} start = (.error error, {}) := by
    obtain ⟨-, taken, -⟩ := nearest_file_is_final (occupied entry valid) {} start
    obtain ⟨-, refused, -⟩ := taken part (nearest entry valid found)
    exact refused error first
  have atDirectory : IsNearest (occupied none valid) start part := nearest _ _ (by decide +kernel)
  have elsewhere : IsNearest (occupied none "no document") start part :=
    nearest _ _ (by decide +kernel)
  have plain : IsNearest (occupied named valid) start part := nearest _ _ (by decide +kernel)
  have atWork : IsNearest (occupied none valid) work work :=
    findProject?_eq_some_iff.mp (by decide +kernel)
  have missing : ∀ directory, ¬ IsNearest (occupied none valid) (Path.ofText "/home") directory :=
    findProject?_eq_none_iff.mp (by decide +kernel)
  have isDirectory (farther : String)
      (located :
        (occupied none farther).storage.locate [] (projectFile part) =
          .ok ["work", "part", "ferrule.toml"]) :
      (occupied none farther).content (projectFile part) = .error .isDirectory :=
    Storage.content_of_directory located rfl
  have same :
      (occupied none "no document").content (projectFile part) =
        (occupied none valid).content (projectFile part) :=
    (isDirectory _ (by decide +kernel)).trans (isDirectory _ (by decide +kernel)).symm
  have decodes :
      (Settings.decodedOf? (occupied named valid) (projectFile part)).bind
        Settings.libraryName? = some "mine" := by
    decide +kernel
  obtain ⟨ends, taken, -⟩ := nearest_file_is_final (occupied none valid) {} start
  obtain ⟨-, -, -, -, unmoved⟩ := taken part atDirectory
  obtain ⟨-, takenPlain, -⟩ := nearest_file_is_final (occupied named valid) {} start
  obtain ⟨-, -, unfaulted, -⟩ := takenPlain part plain
  obtain ⟨settings, decoded, laid⟩ := unfaulted (by decide +kernel)
  obtain ⟨-, takenWork, -⟩ := nearest_file_is_final (occupied none valid) {} work
  obtain ⟨-, -, -, told, -⟩ := takenWork work atWork
  obtain ⟨-, -, absent⟩ := nearest_file_is_final (occupied none valid) {} (Path.ofText "/home")
  obtain ⟨-, empty, -⟩ := absent missing
  rw [decoded, Option.bind_some] at decodes
  refine ⟨ends, atDirectory, ?_, ?_, ?_, ?_, ?_, ⟨settings, decoded, decodes, laid⟩,
    unmoved _ elsewhere same rfl rfl (by decide +kernel), atWork, told, empty⟩
  · exact refuses _ _ (by decide +kernel) (by decide +kernel)
  · exact refuses _ _ (by decide +kernel) (by decide +kernel)
  · exact refuses _ _ (by decide +kernel) (by decide +kernel)
  · exact refuses _ _ (by decide +kernel) (by decide +kernel)
  · exact refuses _ _ (by decide +kernel) (by decide +kernel)

end SettingsLoader

end NativeBoundary
