import NativeBoundary.Proofs.Layering.Precedence
import NativeBoundary.Proofs.Paths.Walks

/-!
# Which fault of the layers is reported

Up to nine things may be wrong with the layers of a load.  A file, that of the project or
that of the user, cannot be read, or does not decode to settings, or leaves the name of the
library blank; and of the variables, the level is no name of a level, the format is no
name of a format, or the library is blank.  Each fault is told here by itself,
whatever else is wrong, and the first one in this order is the one that counts.  What
passes has a library with a name that is not blank.
-/

namespace NativeBoundary

open NativeBoundary.Log

/-! ## Results that report the first of several faults -/

/-- A result is the first one of the faults that there are, and without any it is a value of which
something holds. -/
def Reports {ε α : Type} (faults : List (Option ε)) (result : Except ε α) (holds : α → Prop) :
    Prop :=
  match faults.findSome? id with
  | some fault => result = .error fault
  | none => ∃ value, result = .ok value ∧ holds value

namespace Reports

variable {ε δ α β : Type} {faults further : List (Option ε)} {result : Except ε α}
  {holds : α → Prop}

theorem error {fault : ε} (first : faults.findSome? id = some fault)
    (failed : result = .error fault) : Reports faults result holds := by
  rw [Reports, first]
  exact failed

theorem ok {value : α} (none : faults.findSome? id = none) (passed : result = .ok value)
    (held : holds value) : Reports faults result holds := by
  rw [Reports, none]
  exact ⟨value, passed, held⟩

theorem eq_error {fault : ε} (reports : Reports faults result holds)
    (first : faults.findSome? id = some fault) : result = .error fault := by
  rw [Reports, first] at reports
  exact reports

theorem exists_ok (reports : Reports faults result holds) (none : faults.findSome? id = none) :
    ∃ value, result = .ok value ∧ holds value := by
  rw [Reports, none] at reports
  exact reports

theorem held {value : α} (reports : Reports faults (.ok value) holds) : holds value := by
  unfold Reports at reports
  split at reports
  · cases reports
  · obtain ⟨same, passed, held⟩ := reports
    obtain rfl := Except.ok.inj passed
    exact held

theorem fault_mem {fault : ε} (reports : Reports faults (.error fault : Except ε α) holds) :
    some fault ∈ faults := by
  unfold Reports at reports
  split at reports
  · rename_i reported first
    obtain rfl := Except.error.inj reports
    obtain ⟨entry, inside, told⟩ := List.exists_of_findSome?_eq_some first
    rw [← told]
    exact inside
  · obtain ⟨value, impossible, -⟩ := reports
    cases impossible

/-- The faults of a second part count after those of the first one. -/
theorem bind {next : α → Except ε β} {holdsThen : β → Prop} (first : Reports faults result holds)
    (second : ∀ value, holds value → Reports further (next value) holdsThen) :
    Reports (faults ++ further) (result >>= next) holdsThen := by
  unfold Reports at first
  cases found : faults.findSome? id with
  | some fault =>
    rw [found] at first
    exact error (by rw [List.findSome?_append, found, Option.some_or]) (by rw [first]; rfl)
  | none =>
    rw [found] at first
    obtain ⟨value, passed, held⟩ := first
    have whole : (faults ++ further).findSome? id = further.findSome? id := by
      rw [List.findSome?_append, found, Option.none_or]
    have rest := second value held
    rw [Reports] at rest ⊢
    rw [whole, passed]
    exact rest

theorem imp {weaker : α → Prop} (reports : Reports faults result holds)
    (kept : ∀ value, holds value → weaker value) : Reports faults result weaker := by
  unfold Reports at reports ⊢
  split
  · rename_i fault first
    rw [first] at reports
    exact reports
  · rename_i none
    rw [none] at reports
    obtain ⟨value, passed, held⟩ := reports
    exact ⟨value, passed, kept value held⟩

theorem map {image : α → β} {holdsThen : β → Prop} (reports : Reports faults result holds)
    (kept : ∀ value, holds value → holdsThen (image value)) :
    Reports faults (result.map image) holdsThen := by
  have whole : Reports (faults ++ []) (result >>= fun value => .ok (image value)) holdsThen :=
    reports.bind fun value held => .ok rfl rfl (kept value held)
  rw [List.append_nil] at whole
  exact whole

end Reports

namespace Settings

/-! ## Blank names -/

/-- Settings are accepted where no blank name is set. -/
theorem validate_eq_ok_iff {settings : Settings} :
    settings.validate = .ok () ↔
      ∀ name, settings.libraryName? = some name → Text.isBlankText name = false := by
  unfold validate
  cases settings.libraryName? with
  | none => simp
  | some name => cases blank : Text.isBlankText name <;> simp [blank]

/-- Accepted settings that are laid over accepted settings are accepted. -/
theorem validate_overlay {lower upper : Settings} (below : lower.validate = .ok ())
    (above : upper.validate = .ok ()) : (lower.overlay upper).validate = .ok () := by
  rw [validate_eq_ok_iff] at below above ⊢
  intro name named
  rw [libraryName?_overlay] at named
  cases set : upper.libraryName? with
  | none =>
    rw [set] at named
    exact below name named
  | some upperName =>
    rw [set] at named
    exact above name (set.trans named)

/-- The fault of a name that is blank. -/
def blankFault? (name? : Option String) : Option SettingsError :=
  name?.bind fun name => if Text.isBlankText name then some (.invalid blankName) else none

theorem invalid_of_blankFault? {name? : Option String} {error : SettingsError}
    (fault : blankFault? name? = some error) : ∃ setting, error = .invalid setting := by
  obtain ⟨name, -, told⟩ := Option.bind_eq_some_iff.mp fault
  split at told
  · exact ⟨blankName, (Option.some.inj told).symm⟩
  · cases told

/-- Over accepted settings only the upper name can be blank. -/
theorem blankFault?_overlay {lower upper : Settings} (below : lower.validate = .ok ()) :
    blankFault? (lower.overlay upper).libraryName? = blankFault? upper.libraryName? := by
  rw [validate_eq_ok_iff] at below
  rw [libraryName?_overlay]
  cases upper.libraryName? with
  | some name => rfl
  | none =>
    change blankFault? lower.libraryName? = none
    cases named : lower.libraryName? with
    | none => rfl
    | some name => simp [blankFault?, below name named]

/-- Accept settings, or object to them as an error of a load. -/
def accept (settings : Settings) : Except SettingsError Settings :=
  match settings.validate with
  | .error setting => .error (.invalid setting)
  | .ok () => .ok settings

/-- Nothing but a blank name is objected to. -/
theorem reports_accept (settings : Settings) :
    Reports [blankFault? settings.libraryName?] settings.accept
      fun accepted => accepted = settings ∧ accepted.validate = .ok () := by
  cases named : settings.libraryName? with
  | none =>
    have accepted : settings.validate = .ok () := by simp only [validate, named]
    exact .ok rfl (by rw [accept, accepted]) ⟨rfl, accepted⟩
  | some name =>
    cases blank : Text.isBlankText name with
    | false =>
      have accepted : settings.validate = .ok () := by simp [validate, named, blank]
      exact .ok (by simp [blankFault?, blank]) (by rw [accept, accepted]) ⟨rfl, accepted⟩
    | true =>
      have refused : settings.validate = .error blankName := by simp [validate, named, blank]
      exact .error (by simp [blankFault?, blank]; rfl) (by rw [accept, refused])

theorem validate_seenFrom (settings : Settings) (root? : Option Path) :
    (settings.seenFrom root?).validate = settings.validate := by
  simp only [validate, libraryName?_seenFrom]

/-! ## Faults of a file -/

section

variable (surroundings : Surroundings) (path : Path)

/-- The text of a file that can be read. -/
def textOf? : Option String :=
  match surroundings.content path with
  | .ok content => content.text?
  | .error _ => none

/-- The settings that the text of a file decodes to. -/
def decodedOf? : Option Settings :=
  ((textOf? surroundings path).bind Toml.read?).bind fun entries =>
    (Schema.decode entries).toOption

/-- The file is missing, or cannot be read as a text. -/
def unreadable? : Option SettingsError :=
  match surroundings.content path with
  | .error fault =>
    some (if fault = .path .missing then .notFound path else .unreadable fault)
  | .ok content => if content.text?.isNone then some (.unreadable .notText) else none

/-- The text is no document, or the document holds no settings. -/
def malformed? : Option SettingsError :=
  (textOf? surroundings path).bind fun text =>
    match Toml.read? text with
    | none => some (.malformed path none)
    | some entries =>
      match Schema.decode entries with
      | .error offence => some (.malformed path (some offence))
      | .ok _ => none

/-- The file leaves the name of the library blank. -/
def blankNamed? : Option SettingsError :=
  blankFault? ((decodedOf? surroundings path).bind libraryName?)

/-- What may be wrong with a file, in the order in which it counts. -/
def fileFaults : List (Option SettingsError) :=
  [unreadable? surroundings path, malformed? surroundings path, blankNamed? surroundings path]

variable {surroundings path}

/-- A file is not found only if it is missing. -/
theorem missing_of_notFound {other : Path}
    (fault : some (.notFound other) ∈ fileFaults surroundings path) :
    other = path ∧ surroundings.content path = .error (.path .missing) := by
  simp only [fileFaults, List.mem_cons, List.not_mem_nil, or_false] at fault
  rcases fault with unreadable | malformed | blank
  · unfold unreadable? at unreadable
    split at unreadable
    · rename_i fault unread
      split at unreadable
      · rename_i missing
        cases unreadable
        exact ⟨rfl, unread.trans (congrArg Except.error missing)⟩
      · cases unreadable
    · split at unreadable <;> cases unreadable
  · obtain ⟨text, -, malformed⟩ := Option.bind_eq_some_iff.mp malformed.symm
    split at malformed
    · cases malformed
    · split at malformed <;> cases malformed
  · obtain ⟨setting, impossible⟩ := invalid_of_blankFault? blank.symm
    cases impossible

/-! ## A file is read in three stages -/

variable (surroundings path) in
/-- The text of a file, or why it cannot be read. -/
def readText : Except SettingsError String :=
  match surroundings.content path with
  | .error (.path .missing) => .error (.notFound path)
  | .error fault => .error (.unreadable fault)
  | .ok content =>
    match content.text? with
    | none => .error (.unreadable .notText)
    | some text => .ok text

variable (path) in
/-- What a text decodes to, or why it does not. -/
def decodeText (text : String) : Except SettingsError Settings :=
  match Toml.read? text with
  | none => .error (.malformed path none)
  | some entries => (Schema.decode entries).mapError fun offence => .malformed path (some offence)

theorem ofFile_eq_stages :
    ofFile surroundings path =
      readText surroundings path >>= fun text => decodeText path text >>= accept := by
  unfold ofFile readText
  cases surroundings.content path with
  | error fault => cases fault with
    | path fault => cases fault <;> rfl
    | isDirectory => rfl
    | notText => rfl
  | ok content =>
    dsimp only
    unfold ofContent
    cases content.text? with
    | none => rfl
    | some text =>
      change ofText path text = decodeText path text >>= accept
      unfold ofText decodeText
      cases Toml.read? text with
      | none => rfl
      | some entries =>
        dsimp only
        cases Schema.decode entries <;> rfl

theorem reports_readText :
    Reports [unreadable? surroundings path] (readText surroundings path)
      fun text => textOf? surroundings path = some text := by
  unfold unreadable? readText textOf?
  cases surroundings.content path with
  | error fault => cases fault with
    | path fault => cases fault <;> exact .error rfl rfl
    | isDirectory => exact .error rfl rfl
    | notText => exact .error rfl rfl
  | ok content =>
    dsimp only
    cases content.text? with
    | none => exact .error rfl rfl
    | some text => exact .ok rfl rfl rfl

theorem reports_decodeText {text : String} (spelled : textOf? surroundings path = some text) :
    Reports [malformed? surroundings path] (decodeText path text)
      fun settings => decodedOf? surroundings path = some settings := by
  unfold malformed? decodeText decodedOf?
  rw [spelled, Option.bind_some, Option.bind_some]
  cases Toml.read? text with
  | none => exact .error rfl rfl
  | some entries =>
    dsimp only [Option.bind_some]
    cases Schema.decode entries with
    | error offence => exact .error rfl rfl
    | ok settings => exact .ok rfl rfl rfl

/-- A file has a fault, or it gives the settings that its text decodes to, and these are
accepted. -/
theorem reports_ofFile :
    Reports (fileFaults surroundings path) (ofFile surroundings path)
      fun settings => decodedOf? surroundings path = some settings ∧ settings.validate = .ok () := by
  rw [ofFile_eq_stages]
  refine reports_readText.bind fun text spelled => ?_
  refine (reports_decodeText spelled).bind fun settings decoded => ?_
  rw [blankNamed?, decoded, Option.bind_some]
  refine settings.reports_accept.imp ?_
  rintro accepted ⟨rfl, passed⟩
  exact ⟨rfl, passed⟩

end

/-! ## Faults of the variables -/

/-- The fault of a text whose lower case is none of the known names. -/
def unknownName? (field : String) (names : List String) (reason : String → String)
    (text? : Option String) : Option SettingsError :=
  text?.bind fun text =>
    if Text.lowercase text ∈ names then none
    else some (.invalid ⟨field, reason (Text.lowercase text)⟩)

theorem invalid_of_unknownName? {field : String} {names : List String}
    {reason : String → String} {text? : Option String} {error : SettingsError}
    (fault : unknownName? field names reason text? = some error) :
    ∃ setting, error = .invalid setting := by
  obtain ⟨text, -, told⟩ := Option.bind_eq_some_iff.mp fault
  split at told
  · cases told
  · exact ⟨_, (Option.some.inj told).symm⟩

/-- Where a reader reads the known names and objects to others, a text that is there is read or
has that fault. -/
theorem reports_named {α : Type} {parse : String → Except InvalidSetting α} {field : String}
    {names : List String} {reason : String → String}
    (reads : ∀ text, Text.lowercase text ∈ names → ∃ value, parse text = .ok value)
    (objects : ∀ text, Text.lowercase text ∉ names →
      parse text = .error ⟨field, reason (Text.lowercase text)⟩) (text? : Option String) :
    Reports [unknownName? field names reason text?] ((text?.mapM parse).mapError .invalid)
      fun _ => True := by
  cases text? with
  | none => exact .ok rfl rfl trivial
  | some text =>
    by_cases known : Text.lowercase text ∈ names
    · obtain ⟨value, read⟩ := reads text known
      have passed :
          (((some text).mapM parse).mapError SettingsError.invalid) = .ok (some value) := by
        rw [Option.mapM_some, read]
        rfl
      exact .ok (by simp [unknownName?, known]) passed trivial
    · exact .error (by simp [unknownName?, known]; rfl)
        (by rw [Option.mapM_some, objects text known]; rfl)

def levelNames : List String := ["trace", "debug", "info", "warn", "warning", "error"]

def formatNames : List String := ["compact", "json"]

theorem exists_parseLevel {text : String} (known : Text.lowercase text ∈ levelNames) :
    ∃ level, parseLevel text = .ok level := by
  unfold parseLevel
  simp only [levelNames, List.mem_cons, List.not_mem_nil, or_false] at known
  rcases known with name | name | name | name | name | name <;> rw [name]
  · exact ⟨.trace, rfl⟩
  · exact ⟨.debug, rfl⟩
  · exact ⟨.info, rfl⟩
  · exact ⟨.warn, rfl⟩
  · exact ⟨.warn, rfl⟩
  · exact ⟨.error, rfl⟩

theorem parseLevel_of_unknown {text : String} (unknown : Text.lowercase text ∉ levelNames) :
    parseLevel text =
      .error ⟨"logging.level", "unknown level '" ++ Text.lowercase text ++ "'"⟩ := by
  simp only [levelNames, List.mem_cons, List.not_mem_nil, or_false, not_or] at unknown
  obtain ⟨trace, debug, info, warn, warning, error⟩ := unknown
  have missing : Severity.ofName? (Text.lowercase text) = none := by
    refine List.find?_eq_none.mpr fun severity _ same => ?_
    have named := (beq_iff_eq.mp same).symm
    cases severity with
    | trace => exact trace named
    | debug => exact debug named
    | info => exact info named
    | warn => exact warn named
    | error => exact error named
  simp only [parseLevel, beq_eq_false_iff_ne.mpr warning, missing]
  rfl

theorem exists_parseFormat {text : String} (known : Text.lowercase text ∈ formatNames) :
    ∃ format, parseFormat text = .ok format := by
  unfold parseFormat
  simp only [formatNames, List.mem_cons, List.not_mem_nil, or_false] at known
  rcases known with name | name <;> rw [name]
  · exact ⟨.compact, rfl⟩
  · exact ⟨.json, rfl⟩

theorem parseFormat_of_unknown {text : String} (unknown : Text.lowercase text ∉ formatNames) :
    parseFormat text =
      .error ⟨"logging.format",
        "must be 'compact' or 'json', got '" ++ Text.lowercase text ++ "'"⟩ := by
  simp only [formatNames, List.mem_cons, List.not_mem_nil, or_false, not_or] at unknown
  obtain ⟨compact, json⟩ := unknown
  have missing : Log.Format.ofName? (Text.lowercase text) = none := by
    refine List.find?_eq_none.mpr fun format _ same => ?_
    have named := (beq_iff_eq.mp same).symm
    cases format with
    | compact => exact compact named
    | json => exact json named
  simp only [parseFormat, missing]

section

variable (variableText? : String → Option String)

/-- The level is set to a text that is no name of a level. -/
def unknownLevel? : Option SettingsError :=
  unknownName? "logging.level" levelNames (fun name => "unknown level '" ++ name ++ "'")
    (variableText? "FERRULE_LOG_LEVEL")

/-- The format is set to a text that is no name of a format. -/
def unknownFormat? : Option SettingsError :=
  unknownName? "logging.format" formatNames
    (fun name => "must be 'compact' or 'json', got '" ++ name ++ "'")
    (variableText? "FERRULE_LOG_FORMAT")

/-- The library is set to a blank text. -/
def blankVariable? : Option SettingsError :=
  blankFault? (variableText? "FERRULE_LIBRARY")

/-- Variables say which library is set, or a level or a format is unknown. -/
theorem reports_ofVariables :
    Reports [unknownLevel? variableText?, unknownFormat? variableText?]
      ((ofVariables variableText?).mapError .invalid)
      fun environment => environment.libraryName? = variableText? "FERRULE_LIBRARY" := by
  have level :
      Reports [unknownLevel? variableText?]
        (((variableText? "FERRULE_LOG_LEVEL").mapM parseLevel).mapError .invalid)
        fun _ => True :=
    reports_named (fun _ => exists_parseLevel) (fun _ => parseLevel_of_unknown) _
  have format :
      Reports [unknownFormat? variableText?]
        (((variableText? "FERRULE_LOG_FORMAT").mapM parseFormat).mapError .invalid)
        fun _ => True :=
    reports_named (fun _ => exists_parseFormat) (fun _ => parseFormat_of_unknown) _
  have stages :
      (ofVariables variableText?).mapError SettingsError.invalid =
        ((variableText? "FERRULE_LOG_LEVEL").mapM parseLevel).mapError .invalid >>= fun level? =>
          (((variableText? "FERRULE_LOG_FORMAT").mapM parseFormat).mapError .invalid).map
            fun format? => ofValues (variableText? "FERRULE_LIBRARY") level? format? := by
    unfold ofVariables
    cases (variableText? "FERRULE_LOG_LEVEL").mapM parseLevel with
    | error setting => rfl
    | ok level? => cases (variableText? "FERRULE_LOG_FORMAT").mapM parseFormat <;> rfl
  rw [stages]
  exact level.bind fun level? _ => format.map fun format? _ => libraryName?_ofValues _ _ _

end

end Settings

namespace SettingsLoader

/-! ## Faults of a load -/

section

variable (surroundings : Surroundings)

/-- What may be wrong with the project that a request is about. -/
def projectFaults : LoadRequest → List (Option SettingsError)
  | .directory start =>
    (findProject? surroundings start).elim [] fun directory =>
      Settings.fileFaults surroundings (projectFile directory)
  | .file file => Settings.fileFaults surroundings file

/-- What may be wrong with the file of the user; a missing one has no fault, and there is none
without a home directory. -/
def userFaults (file? : Option Path) : List (Option SettingsError) :=
  file?.elim [] fun file =>
    if surroundings.pathExists file then Settings.fileFaults surroundings file else []

/-- What may be wrong with the variables. -/
def variableFaults : List (Option SettingsError) :=
  [Settings.unknownLevel? surroundings.variableText?,
    Settings.unknownFormat? surroundings.variableText?,
    Settings.blankVariable? surroundings.variableText?]

/-- What may be wrong with a load, in the order in which it counts. -/
def faults (loader : SettingsLoader) (request : LoadRequest) : List (Option SettingsError) :=
  projectFaults surroundings request ++
    (userFaults surroundings (loader.userFileOf surroundings) ++ variableFaults surroundings)

end

variable {surroundings : Surroundings}

theorem reports_projectOf (request : LoadRequest) :
    Reports (projectFaults surroundings request) (projectOf surroundings request)
      fun layer => layer.settings.validate = .ok () := by
  cases request with
  | directory start =>
    change Reports ((findProject? surroundings start).elim [] fun _ => _)
      (projectLayer surroundings start) _
    unfold projectLayer
    cases findProject? surroundings start with
    | none => exact .ok rfl rfl rfl
    | some directory =>
      refine Settings.reports_ofFile.map fun settings ⟨_, accepted⟩ => ?_
      exact (settings.validate_seenFrom (some directory)).trans accepted
  | file file =>
    refine Settings.reports_ofFile.map fun settings ⟨_, accepted⟩ => ?_
    cases file.parent? with
    | none => exact accepted
    | some root => exact (settings.validate_seenFrom (some root)).trans accepted

theorem reports_userLayer (file? : Option Path) :
    Reports (userFaults surroundings file?) (userLayer surroundings file?)
      fun settings => settings.validate = .ok () := by
  cases file? with
  | none => exact .ok rfl rfl rfl
  | some file =>
    simp only [userFaults, userLayer, Option.elim_some]
    split
    · exact Settings.reports_ofFile.imp fun _ => And.right
    · exact .ok rfl rfl rfl

/-- A configuration is assembled in three stages. -/
theorem assemble_eq_stages (file? : Option Path) (project : ProjectLayer) :
    assemble surroundings file? project =
      userLayer surroundings file? >>= fun user =>
        (Settings.ofVariables surroundings.variableText?).mapError .invalid >>=
          fun environment =>
            ((user.overlay project.settings).overlay environment).accept.map
              fun settings => ⟨settings, project.root⟩ := by
  unfold assemble
  simp only [Settings.applyVariables_eq_map_overlay]
  cases userLayer surroundings file? with
  | error error => rfl
  | ok user =>
    cases Settings.ofVariables surroundings.variableText? with
    | error setting => rfl
    | ok environment =>
      simp only [Except.map, Except.mapError, Settings.accept, bind, Except.bind]
      cases ((user.overlay project.settings).overlay environment).validate <;> rfl

theorem reports_assemble (file? : Option Path) {project : ProjectLayer}
    (accepted : project.settings.validate = .ok ()) :
    Reports (userFaults surroundings file? ++ variableFaults surroundings)
      (assemble surroundings file? project) fun config => config.settings.validate = .ok () := by
  rw [assemble_eq_stages]
  refine (reports_userLayer file?).bind fun user userAccepted => ?_
  have below : (user.overlay project.settings).validate = .ok () :=
    Settings.validate_overlay userAccepted accepted
  -- Of the name of the library, only what the variable says is still unchecked.
  refine (Settings.reports_ofVariables surroundings.variableText?).bind fun environment named => ?_
  rw [Settings.blankVariable?, ← named, ← Settings.blankFault?_overlay below]
  exact (Settings.reports_accept _).map fun settings passed => passed.2

/-- A load ends with its first fault, or with an accepted configuration. -/
theorem reports_serve (loader : SettingsLoader) (request : LoadRequest) :
    Reports (faults surroundings loader request) (loader.serve surroundings request).1
      fun config => config.settings.validate = .ok () := by
  rw [serve_eq_loadOver, answer_loadOver]
  exact (reports_projectOf request).bind fun project accepted => reports_assemble _ accepted

/-- Variables have no faults but invalid values. -/
theorem invalid_of_variableFaults {error : SettingsError}
    (fault : some error ∈ variableFaults surroundings) : ∃ setting, error = .invalid setting := by
  simp only [variableFaults, List.mem_cons, List.not_mem_nil, or_false] at fault
  rcases fault with level | format | blank
  · exact Settings.invalid_of_unknownName? level.symm
  · exact Settings.invalid_of_unknownName? format.symm
  · exact Settings.invalid_of_blankFault? blank.symm

/-- In a tree, what is not found is the file that was asked for. -/
theorem requested_of_notFound (tree : surroundings.storage.IsTree) {loader : SettingsLoader}
    {request : LoadRequest} {path : Path}
    (fault : some (.notFound path) ∈ faults surroundings loader request) :
    request = .file path := by
  have stored (other : Path) (exist : surroundings.pathExists other = true) :
      some (.notFound path) ∉ Settings.fileFaults surroundings other := fun fault =>
    tree.content_ne_missing exist (Settings.missing_of_notFound fault).2
  rcases List.mem_append.mp fault with project | further
  · cases request with
    | file file => rw [(Settings.missing_of_notFound project).1]
    | directory start =>
      cases found : findProject? surroundings start with
      | none =>
        rw [projectFaults, found] at project
        cases project
      | some directory =>
        rw [projectFaults, found] at project
        obtain ⟨-, -, -, present, -⟩ := nearest_of_findProject?_eq_some found
        exact absurd project (stored _ present)
  · rcases List.mem_append.mp further with user | variable_fault
    · cases placed : loader.userFileOf surroundings with
      | none =>
        rw [placed] at user
        cases user
      | some file =>
        rw [placed, userFaults, Option.elim_some] at user
        split at user
        · rename_i exist
          exact absurd user (stored _ exist)
        · cases user
    · obtain ⟨setting, impossible⟩ := invalid_of_variableFaults variable_fault
      cases impossible

theorem isBlankText_defaultLibraryName :
    Text.isBlankText Settings.defaultLibraryName = false := by
  decide +kernel

/-- The library of accepted settings has a name that is not blank. -/
theorem isBlankText_libraryName {config : Config} (accepted : config.settings.validate = .ok ()) :
    Text.isBlankText config.libraryName = false := by
  unfold Config.libraryName
  cases named : config.settings.libraryName? with
  | none => exact isBlankText_defaultLibraryName
  | some name => exact Settings.validate_eq_ok_iff.mp accepted name named

/-- A load fails with the first of its faults, and with a configuration it ends if it has none.
Whatever configuration a load ends with is accepted, and its library has a name that is not
blank.  In a storage that is a tree, a file is reported as not found only if it was asked for. -/
theorem load_reports_first_fault (surroundings : Surroundings) (loader : SettingsLoader)
    (request : LoadRequest) :
    (∀ error, (faults surroundings loader request).findSome? id = some error →
      (loader.serve surroundings request).1 = .error error) ∧
    ((faults surroundings loader request).findSome? id = none →
      ∃ config, (loader.serve surroundings request).1 = .ok config) ∧
    (∀ config, (loader.serve surroundings request).1 = .ok config →
      config.settings.validate = .ok () ∧ Text.isBlankText config.libraryName = false) ∧
    (surroundings.storage.IsTree →
      ∀ path, (loader.serve surroundings request).1 = .error (.notFound path) →
        request = .file path) := by
  have reports :
      Reports (faults surroundings loader request) (loader.serve surroundings request).1
        fun config => config.settings.validate = .ok () :=
    reports_serve loader request
  refine ⟨fun error => reports.eq_error, ?_, ?_, ?_⟩
  · intro none
    obtain ⟨config, loaded, -⟩ := reports.exists_ok none
    exact ⟨config, loaded⟩
  · intro config loaded
    rw [loaded] at reports
    exact ⟨reports.held, isBlankText_libraryName reports.held⟩
  · intro tree path refused
    rw [refused] at reports
    exact requested_of_notFound tree reports.fault_mem

/-- A project at work, a user whose file is no document, and a level that is unknown. -/
def severalFaults : Surroundings where
  storage := Storage.empty
    |>.addFile ["work", "ferrule.toml"] (.bytes (Text.bytes "[library]\nname = \"own\"\n"))
    |>.addFile ["home", ".ferrule", "config.toml"] (.bytes (Text.bytes "no document"))
  current := ["work"]
  environment name := if name = "FERRULE_LOG_LEVEL" then some (Text.bytes "loud") else none
  home := .ofText "/home"

/-- A storage in which nothing is stored, and one variable. -/
def variableAlone (name : String) (value : List UInt8) : Surroundings where
  storage := Storage.empty
  current := []
  environment other := if other = name then some value else none
  home := Path.root

theorem load_reports_first_fault_of_several :
    let user := Path.ofText "/home/.ferrule/config.toml"
    let silent := variableAlone "FERRULE_LIBRARY" (Text.bytes "own")
    let request : LoadRequest := .directory (Path.ofText ".")
    (faults severalFaults {} request).findSome? id = some (.malformed user none) ∧
      (serve {} severalFaults request).1 = .error (.malformed user none) ∧
      (faults silent {} request).findSome? id = none ∧
      (∃ config, (serve {} silent request).1 = .ok config) ∧
      Text.isBlankText (Config.libraryName ⟨.ofValues (some "own") none none, none⟩) = false ∧
      ∀ path, (serve {} silent (.file (Path.ofText "/none.toml"))).1 = .error (.notFound path) →
        LoadRequest.file (Path.ofText "/none.toml") = .file path := by
  intro user silent request
  obtain ⟨reported, -⟩ := load_reports_first_fault severalFaults {} request
  obtain ⟨-, passed, accepted, -⟩ := load_reports_first_fault silent {} request
  obtain ⟨-, -, -, missing⟩ :=
    load_reports_first_fault silent {} (.file (Path.ofText "/none.toml"))
  have first : (faults severalFaults {} request).findSome? id = some (.malformed user none) := by
    decide +kernel
  have none : (faults silent {} request).findSome? id = none := by
    decide +kernel
  have loaded :
      (serve {} silent request).1 =
        .ok ⟨.ofValues (some "own") Option.none Option.none, Option.none⟩ := by
    decide +kernel
  exact ⟨first, reported _ first, none, passed none, (accepted _ loaded).2,
    missing Storage.isTree_empty⟩

/-- A variable has a fault only where it is set to a text: it is not so that a load fails
whenever the level is set to a value which is no name of a level. -/
theorem not_forall_set_level_is_checked :
    ¬ ∀ (surroundings : Surroundings) (loader : SettingsLoader) (request : LoadRequest)
      (value : List UInt8),
      surroundings.environment "FERRULE_LOG_LEVEL" = some value →
        (∀ text, Text.ofBytes? value = some text → Text.lowercase text ∉ Settings.levelNames) →
          ∃ error, (loader.serve surroundings request).1 = .error error := by
  intro checked
  have noText : Text.ofBytes? [0xff] = none := by
    decide +kernel
  have loaded :
      (serve {} (variableAlone "FERRULE_LOG_LEVEL" [0xff]) (.directory Path.root)).1 =
        .ok ⟨.empty, none⟩ := by
    decide +kernel
  obtain ⟨error, refused⟩ :=
    checked (variableAlone "FERRULE_LOG_LEVEL" [0xff]) {} (.directory Path.root) [0xff] rfl
      (fun text spelled => absurd (noText.symm.trans spelled) (Option.some_ne_none text).symm)
  rw [loaded] at refused
  cases refused

end SettingsLoader

end NativeBoundary
