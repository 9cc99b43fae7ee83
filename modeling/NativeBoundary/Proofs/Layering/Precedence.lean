import Mathlib.Control.Monad.Basic
import NativeBoundary.Proofs.Layering.Overlay
import NativeBoundary.Proofs.Paths.Parents
import NativeBoundary.Settings.Session

/-!
# Which layer decides

A configuration that was loaded has four sources: the environment, the project,
the file of the user, and defaults.  Each setting is that of the first source which
has it, whatever the others say and whatever the sources say on other settings.
Only search paths add up: those of the project, seen from its directory, come
before those of the user.  A source that is missing has no setting.
-/

namespace NativeBoundary

open NativeBoundary.Log

namespace Settings

/-- Settings come out of a file only where a file is read. -/
theorem exists_content_of_ofFile_eq_ok {surroundings : Surroundings} {path : Path}
    {settings : Settings} (read : ofFile surroundings path = .ok settings) :
    ∃ content, surroundings.content path = .ok content := by
  unfold ofFile at read
  split at read
  · cases read
  · cases read
  · exact ⟨_, by assumption⟩

end Settings

namespace SettingsLoader

variable {surroundings : Surroundings}

/-! ## What the sources say -/

/-- What the project says that a request is about, and the directory it stands in.  The project
of a directory is the one whose file is the nearest in the directory or above it; where there is no
such file, nothing is said.  The project of a file stands in the directory of that file. -/
inductive ProjectSays (surroundings : Surroundings) :
    LoadRequest → Option Path → Settings → Prop
  | nearest {start directory : Path} {nearer farther : List Path} {settings : Settings}
      (above : start.ancestors = nearer ++ directory :: farther)
      (present : surroundings.pathExists (projectFile directory) = true)
      (absent : ∀ other ∈ nearer, surroundings.pathExists (projectFile other) = false)
      (read : Settings.ofFile surroundings (projectFile directory) = .ok settings) :
      ProjectSays surroundings (.directory start) (some directory) settings
  | missing {start : Path}
      (absent : ∀ other ∈ start.ancestors,
        surroundings.pathExists (projectFile other) = false) :
      ProjectSays surroundings (.directory start) none .empty
  | file {file directory : Path} {settings : Settings}
      (read : Settings.ofFile surroundings file = .ok settings)
      (parent : file.parent? = some directory) :
      ProjectSays surroundings (.file file) (some directory) settings

/-- What the file of the user says.  A missing one says nothing, and where there is no home
directory there is no place for it. -/
inductive UserSays (surroundings : Surroundings) : Option Path → Settings → Prop
  | present {file : Path} {settings : Settings} (exist : surroundings.pathExists file = true)
      (read : Settings.ofFile surroundings file = .ok settings) :
      UserSays surroundings (some file) settings
  | missing {file : Path} (absent : surroundings.pathExists file = false) :
      UserSays surroundings (some file) .empty
  | placeless : UserSays surroundings none .empty

/-! ## Layers out of sources -/

variable (surroundings) in
/-- The layer of the project that a request is about. -/
def projectOf : LoadRequest → Except SettingsError ProjectLayer
  | .directory start => projectLayer surroundings start
  | .file file => fileLayer surroundings file

theorem serve_eq_loadOver (loader : SettingsLoader) (request : LoadRequest) :
    loader.serve surroundings request =
      loader.loadOver surroundings (projectOf surroundings request) := by
  cases request <;> rfl

/-- What a load answers is assembled over the layer of the project, if there is one. -/
theorem answer_loadOver (loader : SettingsLoader) (project : Except SettingsError ProjectLayer) :
    (loader.loadOver surroundings project).1 =
      project >>= assemble surroundings (loader.userFileOf surroundings) := by
  cases project <;> rfl

/-- The directory of a project is the nearest one that has a file of a project. -/
theorem nearest_of_findProject?_eq_some {start directory : Path}
    (found : findProject? surroundings start = some directory) :
    ∃ nearer farther, start.ancestors = nearer ++ directory :: farther ∧
      surroundings.pathExists (projectFile directory) = true ∧
      ∀ other ∈ nearer, surroundings.pathExists (projectFile other) = false := by
  obtain ⟨present, nearer, farther, above, absent⟩ := List.find?_eq_some_iff_append.mp found
  refine ⟨nearer, farther, above, present, ?_⟩
  intro other inside
  simpa using absent other inside

/-- Without a file of a project there is no directory of a project. -/
theorem absent_of_findProject?_eq_none {start : Path}
    (missing : findProject? surroundings start = none) :
    ∀ other ∈ start.ancestors, surroundings.pathExists (projectFile other) = false := by
  intro other inside
  simpa using List.find?_eq_none.mp missing other inside

/-- The layer of a project has the settings of the project, with its search paths as seen from
the directory of the project. -/
theorem projectSays_of_projectOf_eq_ok {request : LoadRequest} {layer : ProjectLayer}
    (laid : projectOf surroundings request = .ok layer) :
    ∃ settings, ProjectSays surroundings request layer.root settings ∧
      layer.settings = settings.seenFrom layer.root := by
  cases request with
  | directory start =>
    change projectLayer surroundings start = .ok layer at laid
    unfold projectLayer at laid
    cases found : findProject? surroundings start with
    | none =>
      rw [found] at laid
      cases laid
      exact ⟨.empty, .missing (absent_of_findProject?_eq_none found), rfl⟩
    | some directory =>
      rw [found] at laid
      obtain ⟨settings, read, rfl⟩ := exists_of_map_eq_ok laid
      obtain ⟨nearer, farther, above, present, absent⟩ := nearest_of_findProject?_eq_some found
      exact ⟨settings, .nearest above present absent read, rfl⟩
  | file file =>
    obtain ⟨settings, read, rfl⟩ := exists_of_map_eq_ok laid
    cases parent : file.parent? with
    | none =>
      -- A path without a parent leads to no file that could have been read.
      obtain ⟨content, stored⟩ := Settings.exists_content_of_ofFile_eq_ok read
      exact absurd stored (Storage.content_ne_ok_of_parent?_eq_none parent content)
    | some directory => exact ⟨settings, .file read parent, rfl⟩

theorem userSays_of_userLayer_eq_ok {file? : Option Path} {settings : Settings}
    (laid : userLayer surroundings file? = .ok settings) :
    UserSays surroundings file? settings := by
  unfold userLayer at laid
  split at laid
  · cases laid
    exact .placeless
  · split at laid
    · rename_i exist
      exact .present exist laid
    · rename_i absent
      cases laid
      exact .missing (by simpa using absent)

/-- An assembled configuration consists of three layers. -/
theorem layers_of_assemble_eq_ok {userFile? : Option Path} {project : ProjectLayer}
    {config : Config} (assembled : assemble surroundings userFile? project = .ok config) :
    ∃ user environment, userLayer surroundings userFile? = .ok user ∧
      Settings.ofVariables surroundings.variableText? = .ok environment ∧
      config = ⟨(user.overlay project.settings).overlay environment, project.root⟩ := by
  obtain ⟨user, laid, assembled⟩ := exists_of_bind_eq_ok assembled
  simp only [Settings.applyVariables_eq_map_overlay] at assembled
  cases spoken : Settings.ofVariables surroundings.variableText? with
  | error setting =>
    rw [spoken] at assembled
    cases assembled
  | ok environment =>
    simp only [spoken, Except.map] at assembled
    refine ⟨user, environment, laid, rfl, ?_⟩
    split at assembled
    · cases assembled
    · exact (Except.ok.inj assembled).symm

/-! ## Precedence -/

/-- Each setting of a loaded configuration is that of the environment, else of the project, else
of the user, else the default one, and its search paths are those of the project, as seen from
its directory, and then those of the user. -/
theorem load_takes_uppermost_value {loader : SettingsLoader} {request : LoadRequest}
    {config : Config} (loaded : (loader.serve surroundings request).1 = .ok config) :
    ∃ project user level? format?,
      ProjectSays surroundings request config.projectRoot project ∧
      UserSays surroundings (loader.userFileOf surroundings) user ∧
      (surroundings.variableText? "FERRULE_LOG_LEVEL").mapM parseLevel = .ok level? ∧
      (surroundings.variableText? "FERRULE_LOG_FORMAT").mapM parseFormat = .ok format? ∧
      config.libraryName =
        (surroundings.variableText? "FERRULE_LIBRARY" <|> project.libraryName? <|>
          user.libraryName?).getD Settings.defaultLibraryName ∧
      config.level = (level? <|> project.level? <|> user.level?).getD .info ∧
      config.format = (format? <|> project.format? <|> user.format?).getD .compact ∧
      config.searchPaths =
        project.searchPaths.map (config.projectRoot.elim id Settings.resolvePath) ++
          user.searchPaths := by
  rw [serve_eq_loadOver] at loaded
  cases laid : projectOf surroundings request with
  | error error =>
    rw [laid] at loaded
    cases loaded
  | ok layer =>
    rw [laid] at loaded
    obtain ⟨user, environment, read, spoken, rfl⟩ := layers_of_assemble_eq_ok loaded
    obtain ⟨project, said, resolved⟩ := projectSays_of_projectOf_eq_ok laid
    obtain ⟨level?, format?, level, format, rfl⟩ := Settings.values_of_ofVariables_eq_ok spoken
    refine ⟨project, user, level?, format?, said, userSays_of_userLayer_eq_ok read, level, format,
      ?_, ?_, ?_, ?_⟩
    · simp [Config.libraryName, resolved]
    · simp [Config.level, resolved]
    · simp [Config.format, resolved]
    · simp [Config.searchPaths, resolved]

/-- A project at work that leaves the library unnamed, a user who names it, and a variable that
decides on the format alone. -/
def threeSources : Surroundings where
  storage := Storage.empty
    |>.addFile ["work", "ferrule.toml"]
      (.bytes (Text.bytes "[library]\nsearch-paths = [\"lib\"]\n[logging]\nlevel = \"warn\"\n"))
    |>.addFile ["home", ".ferrule", "config.toml"]
      (.bytes (Text.bytes "[library]\nname = \"own\"\nsearch-paths = [\"/opt\"]\n"))
  current := ["work"]
  environment name := if name = "FERRULE_LOG_FORMAT" then some (Text.bytes "JSON") else none
  home := .ofText "/home"

theorem load_takes_uppermost_value_of_three_sources :
    let config : Config :=
      { settings :=
          { library := some ⟨some "own", [Path.ofText "/work/lib", Path.ofText "/opt"]⟩
            logging := some ⟨some .warn, some .json⟩ }
        projectRoot := some (Path.ofText "/work") }
    let request : LoadRequest := .directory (Path.ofText "/work/deep")
    (serve {} threeSources request).1 = .ok config ∧
      ∃ project user,
        ProjectSays threeSources request config.projectRoot project ∧
        UserSays threeSources (some (Path.ofText "/home/.ferrule/config.toml")) user ∧
        config.libraryName =
          (project.libraryName? <|> user.libraryName?).getD Settings.defaultLibraryName ∧
        config.level = (project.level? <|> user.level?).getD .info ∧
        config.format = .json ∧
        config.searchPaths =
          project.searchPaths.map (Settings.resolvePath (Path.ofText "/work")) ++
            user.searchPaths := by
  intro config request
  have loaded : (serve {} threeSources request).1 = .ok config := by
    decide +kernel
  obtain ⟨project, user, level?, format?, project_said, user_said, level, format, named, levelled,
    formatted, searched⟩ := load_takes_uppermost_value loaded
  have unset : level? = none := (Except.ok.inj level).symm
  have place : userFileOf threeSources {} = some (Path.ofText "/home/.ferrule/config.toml") := by
    decide +kernel
  subst unset
  rw [place] at user_said
  exact ⟨loaded, project, user, project_said, user_said, named, levelled, rfl, searched⟩

/-- A library variable whose bytes are no text. -/
def unreadableVariable : Surroundings where
  storage := Storage.empty
  current := []
  environment name := if name = "FERRULE_LIBRARY" then some [0x66, 0xff] else none
  home := Path.root

/-- A variable decides only where it is set to a text: it is not so that each value which the
library variable is set to names the library. -/
theorem not_forall_set_variable_decides :
    ¬ ∀ (surroundings : Surroundings) (loader : SettingsLoader) (request : LoadRequest)
      (config : Config) (value : List UInt8),
      (loader.serve surroundings request).1 = .ok config →
        surroundings.environment "FERRULE_LIBRARY" = some value →
          Text.bytes config.libraryName = value := by
  intro decides
  have loaded : (serve {} unreadableVariable (.directory Path.root)).1 = .ok ⟨.empty, none⟩ := by
    decide +kernel
  have named := decides unreadableVariable {} (.directory Path.root) ⟨.empty, none⟩ [0x66, 0xff]
    loaded rfl
  have different : Text.bytes (Config.libraryName ⟨.empty, none⟩) ≠ [0x66, 0xff] := by
    decide +kernel
  exact different named

end SettingsLoader

end NativeBoundary
