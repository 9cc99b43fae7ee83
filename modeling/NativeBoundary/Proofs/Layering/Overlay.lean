import NativeBoundary.Settings.Loader

/-!
# What overlaid layers say

A setting of overlaid layers is that of the upper layer if it has one there, be the
whole section missing or only the value.  Search paths are those of both layers, the
upper ones first.  What the variables of the environment say is a layer as well,
laid over all others, and one without search paths.
-/

namespace NativeBoundary

open NativeBoundary.Log

/-! ## What was not refused -/

section

variable {ε α β : Type} {attempt : Except ε α}

theorem exists_of_bind_eq_ok {further : α → Except ε β} {result : β}
    (accepted : (attempt >>= further) = .ok result) :
    ∃ value, attempt = .ok value ∧ further value = .ok result := by
  cases attempt with
  | error refusal => cases accepted
  | ok value => exact ⟨value, rfl, accepted⟩

theorem exists_of_map_eq_ok {image : α → β} {result : β}
    (accepted : attempt.map image = .ok result) :
    ∃ value, attempt = .ok value ∧ image value = result := by
  cases attempt with
  | error refusal => cases accepted
  | ok value => exact ⟨value, rfl, Except.ok.inj accepted⟩

end

namespace Settings

/-! ## One setting of two layers -/

section

variable {α β : Type} [Inhabited α] {overlay : α → α → α} {value : α → Option β}

/-- A value in which the upper section wins is won by the upper layer: a section that is missing
has no value, and hides none. -/
theorem bind_overlaySection
    (wins : ∀ lower upper, value (overlay lower upper) = (value upper <|> value lower))
    (unset : value default = none) (lower upper : Option α) :
    (overlaySection overlay lower upper).bind value =
      (upper.bind value <|> lower.bind value) := by
  cases upper with
  | none => simp [overlaySection]
  | some upper =>
    cases lower with
    | none => simp [overlaySection, wins, unset]
    | some lower => simp [overlaySection, wins]

end

variable (lower upper : Settings)

@[simp]
theorem libraryName?_overlay :
    (lower.overlay upper).libraryName? = (upper.libraryName? <|> lower.libraryName?) :=
  bind_overlaySection (fun _ _ => rfl) rfl lower.library upper.library

@[simp]
theorem level?_overlay : (lower.overlay upper).level? = (upper.level? <|> lower.level?) :=
  bind_overlaySection (fun _ _ => rfl) rfl lower.logging upper.logging

@[simp]
theorem format?_overlay : (lower.overlay upper).format? = (upper.format? <|> lower.format?) :=
  bind_overlaySection (fun _ _ => rfl) rfl lower.logging upper.logging

@[simp]
theorem searchPaths_overlay :
    (lower.overlay upper).searchPaths = upper.searchPaths ++ lower.searchPaths := by
  rcases lower with ⟨lowerLibrary, lowerLogging⟩
  rcases upper with ⟨upperLibrary, upperLogging⟩
  cases upperLibrary with
  | none => rfl
  | some upper =>
    cases lowerLibrary with
    | none => rfl
    | some lower => rfl

/-! ## Paths put below a directory -/

variable (settings : Settings)

/-- The settings as seen from a directory, if there is one. -/
def seenFrom (root? : Option Path) : Settings :=
  root?.elim settings settings.resolve

section

variable (root? : Option Path)

@[simp]
theorem libraryName?_seenFrom : (settings.seenFrom root?).libraryName? = settings.libraryName? := by
  rcases settings with ⟨library, logging⟩
  cases root? <;> cases library <;> rfl

@[simp]
theorem level?_seenFrom : (settings.seenFrom root?).level? = settings.level? := by
  cases root? <;> rfl

@[simp]
theorem format?_seenFrom : (settings.seenFrom root?).format? = settings.format? := by
  cases root? <;> rfl

@[simp]
theorem searchPaths_seenFrom :
    (settings.seenFrom root?).searchPaths =
      settings.searchPaths.map (root?.elim id resolvePath) := by
  rcases settings with ⟨library, logging⟩
  cases root? with
  | none => exact (List.map_id _).symm
  | some root => cases library <;> rfl

end

/-! ## The environment as a layer -/

/-- A layer of values that are there or not, and without search paths. -/
def ofValues (name? : Option String) (level? : Option Severity) (format? : Option Log.Format) :
    Settings where
  library := name?.map fun name => { name := some name }
  logging := if level?.isNone && format?.isNone then none else some ⟨level?, format?⟩

section

variable (name? : Option String) (level? : Option Severity) (format? : Option Log.Format)

@[simp]
theorem libraryName?_ofValues : (ofValues name? level? format?).libraryName? = name? := by
  cases name? <;> rfl

@[simp]
theorem level?_ofValues : (ofValues name? level? format?).level? = level? := by
  cases level? <;> cases format? <;> rfl

@[simp]
theorem format?_ofValues : (ofValues name? level? format?).format? = format? := by
  cases level? <;> cases format? <;> rfl

@[simp]
theorem searchPaths_ofValues : (ofValues name? level? format?).searchPaths = [] := by
  cases name? <;> rfl

end

/-- What variables say. -/
def ofVariables (variableText? : String → Option String) : Except InvalidSetting Settings := do
  let level? ← (variableText? "FERRULE_LOG_LEVEL").mapM parseLevel
  let format? ← (variableText? "FERRULE_LOG_FORMAT").mapM parseFormat
  pure (ofValues (variableText? "FERRULE_LIBRARY") level? format?)

/-- Variables that say something were all read. -/
theorem values_of_ofVariables_eq_ok {variableText? : String → Option String}
    {environment : Settings} (spoken : ofVariables variableText? = .ok environment) :
    ∃ level? format?,
      (variableText? "FERRULE_LOG_LEVEL").mapM parseLevel = .ok level? ∧
      (variableText? "FERRULE_LOG_FORMAT").mapM parseFormat = .ok format? ∧
      environment = ofValues (variableText? "FERRULE_LIBRARY") level? format? := by
  obtain ⟨level?, level, spoken⟩ := exists_of_bind_eq_ok spoken
  obtain ⟨format?, format, spoken⟩ := exists_of_bind_eq_ok spoken
  exact ⟨level?, format?, level, format, (Except.ok.inj spoken).symm⟩

/-- Setting values one by one is laying them over as a layer. -/
theorem overlay_ofValues (name? : Option String) (level? : Option Severity)
    (format? : Option Log.Format) :
    settings.overlay (ofValues name? level? format?) =
      let named := name?.elim settings settings.setName
      let levelled := level?.elim named named.setLevel
      format?.elim levelled levelled.setFormat := by
  rcases settings with ⟨library, logging⟩
  cases name? <;> cases level? <;> cases format? <;> rfl

/-- A text that is read only if it is there, and acts with what was read. -/
theorem elim_map_eq_map_mapM {α : Type} (parse : String → Except InvalidSetting α)
    (set : α → Settings) (text? : Option String) :
    text?.elim (pure settings) (fun text => (parse text).map set) =
      (text?.mapM parse).map fun read? => read?.elim settings set := by
  cases text? with
  | none => rfl
  | some text =>
    change (parse text).map set = ((parse text).map some).map fun read? => read?.elim settings set
    cases parse text <;> rfl

/-- Variables act on settings as a layer does that is laid over them. -/
theorem applyVariables_eq_map_overlay (variableText? : String → Option String) :
    applyVariables variableText? settings =
      (ofVariables variableText?).map settings.overlay := by
  have applied : applyVariables variableText? settings = (do
      let named := (variableText? "FERRULE_LIBRARY").elim settings settings.setName
      let levelled ← (variableText? "FERRULE_LOG_LEVEL").elim (pure named)
        fun text => (parseLevel text).map named.setLevel
      (variableText? "FERRULE_LOG_FORMAT").elim (pure levelled)
        fun text => (parseFormat text).map levelled.setFormat) := by
    unfold applyVariables
    cases variableText? "FERRULE_LIBRARY" <;> cases variableText? "FERRULE_LOG_LEVEL" <;>
      cases variableText? "FERRULE_LOG_FORMAT" <;> rfl
  rw [applied]
  simp only [elim_map_eq_map_mapM]
  unfold ofVariables
  cases (variableText? "FERRULE_LOG_LEVEL").mapM parseLevel with
  | error setting => rfl
  | ok level? =>
    cases (variableText? "FERRULE_LOG_FORMAT").mapM parseFormat with
    | error setting => rfl
    | ok format? => exact congrArg Except.ok (settings.overlay_ofValues _ level? format?).symm

end Settings

end NativeBoundary
