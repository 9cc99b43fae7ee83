import NativeBoundary.Proofs.Documents.Readings
import NativeBoundary.Proofs.Documents.Records
import NativeBoundary.Proofs.Paths.Joins

/-!
# Which documents hold settings

The grammar of documents with settings is told entry by entry: which keys there are, and of
which form the value under each of them is.  A tree whose sections are tables, and whose level
and format are texts, is decoded if and only if it is in that grammar, and then the settings
hold its entries and nothing else.  What a text is read as is such a tree, so the theorem does
not depend on how documents are written.
-/

namespace NativeBoundary

open NativeBoundary.Log
open NativeBoundary.Toml

/-! ## Names of levels and formats -/

theorem Log.Severity.ofName?_eq_some_iff {name : String} {severity : Severity} :
    Severity.ofName? name = some severity ↔ severity.name = name := by
  constructor
  · intro found
    have same := List.find?_some found
    exact beq_iff_eq.mp same
  · rintro rfl
    exact Severity.ofName?_name severity

theorem Log.Format.ofName?_eq_some_iff {name : String} {format : Log.Format} :
    Log.Format.ofName? name = some format ↔ format.name = name := by
  constructor
  · intro found
    have same := List.find?_some found
    exact beq_iff_eq.mp same
  · rintro rfl
    cases format <;> rfl

theorem Log.Severity.exists_name_iff {name : String} :
    (∃ severity : Severity, severity.name = name) ↔
      name ∈ ["trace", "debug", "info", "warn", "error"] := by
  constructor
  · rintro ⟨severity, rfl⟩
    cases severity <;> decide
  · intro known
    have listed : name ∈ Severity.all.map Severity.name := known
    obtain ⟨severity, -, same⟩ := List.mem_map.mp listed
    exact ⟨severity, same⟩

theorem Log.Format.exists_name_iff {name : String} :
    (∃ format : Log.Format, format.name = name) ↔ name ∈ ["compact", "json"] := by
  constructor
  · rintro ⟨format, rfl⟩
    cases format <;> decide
  · intro known
    have listed : name ∈ Log.Format.all.map Log.Format.name := known
    obtain ⟨format, -, same⟩ := List.mem_map.mp listed
    exact ⟨format, same⟩

namespace Settings.Schema

/-! ## The values under the known keys -/

theorem text_eq_ok_iff {expected name : String} {value : Value} :
    text expected value = .ok name ↔ value = .string name := by
  cases value with
  | string written =>
    constructor
    · intro decoded
      exact congrArg Value.string (Except.ok.inj decoded)
    · intro same
      exact congrArg Except.ok (Value.string.inj same)
  | _ =>
    constructor
    · intro impossible
      cases impossible
    · intro impossible
      cases impossible

theorem mapM_text_eq_ok_iff {expected : String} {items : List Value} {searchPaths : List Path} :
    (items.mapM fun item => (text expected item).map Path.ofText) = .ok searchPaths ↔
      ∃ texts : List String, items = texts.map .string ∧ searchPaths = texts.map Path.ofText := by
  induction items generalizing searchPaths with
  | nil =>
    constructor
    · intro decoded
      exact ⟨[], rfl, (Except.ok.inj decoded).symm⟩
    · rintro ⟨texts, none, rfl⟩
      rw [List.map_eq_nil_iff.mp none.symm]
      rfl
  | cons item rest hypothesis =>
    rw [List.mapM_cons]
    constructor
    · intro decoded
      obtain ⟨path, first, further⟩ := exists_of_bind_eq_ok decoded
      obtain ⟨others, later, whole⟩ := exists_of_bind_eq_ok further
      obtain ⟨name, read, rfl⟩ := exists_of_map_eq_ok first
      obtain ⟨texts, rfl, rfl⟩ := hypothesis.mp later
      refine ⟨name :: texts, ?_, (Except.ok.inj whole).symm⟩
      rw [text_eq_ok_iff.mp read, List.map_cons]
    · rintro ⟨texts, same, rfl⟩
      obtain ⟨name, texts, rfl, rfl, rfl⟩ := List.map_eq_cons_iff.mp same.symm
      rw [hypothesis.mpr ⟨texts, rfl, rfl⟩]
      rfl

/-- Search paths are an array of texts; what was written under a repeated header is a list of
tables, and there is at least one. -/
theorem paths_eq_ok_iff {value : Value} (tree : value.IsTree) {searchPaths : List Path} :
    paths value = .ok searchPaths ↔
      ∃ texts : List String, value = .array (texts.map .string) ∧
        searchPaths = texts.map Path.ofText := by
  cases tree with
  | array parts =>
    rw [paths, mapM_text_eq_ok_iff]
    simp only [Value.array.injEq]
  | @tables items some tables parts =>
    rw [paths, mapM_text_eq_ok_iff]
    constructor
    · -- An empty list would pass as one of texts, but a repeated header leaves at least one table.
      rintro ⟨texts, rfl, -⟩
      obtain ⟨item, inside⟩ := List.exists_mem_of_ne_nil _ some
      obtain ⟨entries, rfl⟩ := tables item inside
      obtain ⟨name, -, impossible⟩ := List.mem_map.mp inside
      cases impossible
    · rintro ⟨texts, impossible, -⟩
      cases impossible
  | _ =>
    constructor
    · intro impossible
      cases impossible
    · rintro ⟨texts, impossible, -⟩
      cases impossible

theorem variant_eq_ok_iff {α : Type} {expected : List String} {ofName? : String → Option α}
    {name : String} {value : α} :
    variant expected ofName? name = .ok value ↔ ofName? name = some value := by
  unfold variant
  cases ofName? name with
  | none =>
    constructor
    · intro impossible
      cases impossible
    · intro impossible
      cases impossible
  | some found =>
    rw [Except.ok.injEq, Option.some.injEq]

theorem level_eq_ok_iff {value : Value} (isText : ∃ name, value = .string name)
    {severity : Severity} : level value = .ok severity ↔ value = .string severity.name := by
  obtain ⟨name, rfl⟩ := isText
  rw [Value.string.injEq, eq_comm (b := severity.name)]
  exact variant_eq_ok_iff.trans Severity.ofName?_eq_some_iff

theorem format_eq_ok_iff {value : Value} (isText : ∃ name, value = .string name)
    {written : Log.Format} : format value = .ok written ↔ value = .string written.name := by
  obtain ⟨name, rfl⟩ := isText
  rw [Value.string.injEq, eq_comm (b := written.name)]
  exact variant_eq_ok_iff.trans Log.Format.ofName?_eq_some_iff

/-! ## The grammar -/

/-- The entries that a section on the library may have. -/
inductive LibraryEntry : String × Value → Prop
  | name (text : String) : LibraryEntry ("name", .string text)
  | searchPaths (texts : List String) :
    LibraryEntry ("search-paths", .array (texts.map .string))

/-- The entries that a section on records may have. -/
inductive LoggingEntry : String × Value → Prop
  | level {name : String} (known : name ∈ ["trace", "debug", "info", "warn", "error"]) :
    LoggingEntry ("level", .string name)
  | format {name : String} (known : name ∈ ["compact", "json"]) :
    LoggingEntry ("format", .string name)

/-- The entries that a document with settings may have. -/
inductive RootEntry : String × Value → Prop
  | library {part : Entries} (fits : ∀ entry ∈ part, LibraryEntry entry) :
    RootEntry ("library", .table part)
  | logging {part : Entries} (fits : ∀ entry ∈ part, LoggingEntry entry) :
    RootEntry ("logging", .table part)

/-- Every entry of a document is one that a document with settings may have. -/
def Fits (entries : Entries) : Prop :=
  ∀ entry ∈ entries, RootEntry entry

/-- Sections are tables where they are there, and a level and a format are texts. -/
structure IsPlain (entries : Entries) : Prop where
  library : ∀ value, ("library", value) ∈ entries → ∃ part, value = .table part
  logging : ∀ value, ("logging", value) ∈ entries → ∃ part, value = .table part ∧
    (∀ level, ("level", level) ∈ part → ∃ name, level = .string name) ∧
    ∀ format, ("format", format) ∈ part → ∃ name, format = .string name

/-- A section on the library has the values that a table has, and no others. -/
structure LibraryHolds (part : Entries) (decoded : LibrarySection) : Prop where
  name : part.get? "name" = decoded.name.map .string
  searchPaths : ∃ texts? : Option (List String),
    part.get? "search-paths" = texts?.map (fun texts => .array (texts.map .string)) ∧
    decoded.searchPaths = (texts?.getD []).map Path.ofText

/-- A section on records has the values that a table has, and no others. -/
structure LoggingHolds (part : Entries) (decoded : LoggingSection) : Prop where
  level : part.get? "level" = decoded.level.map fun level => .string level.name
  format : part.get? "format" = decoded.format.map fun format => .string format.name

/-- A section is there if its table is, and holds what the table has. -/
abbrev SectionHolds {α : Type} (holds : Entries → α → Prop) : Option Value → Option α → Prop :=
  Option.Rel fun value decoded => ∃ part, value = .table part ∧ holds part decoded

/-- Settings have the sections that a document has, and each holds what it has there. -/
structure Holds (entries : Entries) (settings : Settings) : Prop where
  library : SectionHolds LibraryHolds (entries.get? "library") settings.library
  logging : SectionHolds LoggingHolds (entries.get? "logging") settings.logging

theorem SectionHolds.exists_of_table {α : Type} {holds : Entries → α → Prop} {value? : Option Value}
    {decoded? : Option α} (held : SectionHolds holds value? decoded?) {part : Entries}
    (found : value? = some (.table part)) :
    ∃ decoded, decoded? = some decoded ∧ holds part decoded := by
  subst found
  cases held with
  | @some value decoded held =>
    obtain ⟨table, same, held⟩ := held
    exact ⟨decoded, rfl, Value.table.inj same ▸ held⟩

theorem libraryEntry_iff {entry : String × Value} :
    LibraryEntry entry ↔
      (entry.1 = "name" ∧ ∃ name, entry.2 = .string name) ∨
        (entry.1 = "search-paths" ∧
          ∃ texts : List String, entry.2 = .array (texts.map .string)) := by
  constructor
  · rintro (⟨name⟩ | ⟨texts⟩)
    · exact .inl ⟨rfl, name, rfl⟩
    · exact .inr ⟨rfl, texts, rfl⟩
  · obtain ⟨key, value⟩ := entry
    rintro (⟨rfl, name, rfl⟩ | ⟨rfl, texts, rfl⟩)
    · exact .name name
    · exact .searchPaths texts

theorem loggingEntry_iff {entry : String × Value} :
    LoggingEntry entry ↔
      (entry.1 = "level" ∧ ∃ severity : Severity, entry.2 = .string severity.name) ∨
        (entry.1 = "format" ∧ ∃ format : Log.Format, entry.2 = .string format.name) := by
  constructor
  · rintro (⟨known⟩ | ⟨known⟩)
    · obtain ⟨severity, rfl⟩ := Severity.exists_name_iff.mpr known
      exact .inl ⟨rfl, severity, rfl⟩
    · obtain ⟨format, rfl⟩ := Log.Format.exists_name_iff.mpr known
      exact .inr ⟨rfl, format, rfl⟩
  · obtain ⟨key, value⟩ := entry
    rintro (⟨rfl, severity, rfl⟩ | ⟨rfl, format, rfl⟩)
    · exact .level (Severity.exists_name_iff.mp ⟨severity, rfl⟩)
    · exact .format (Log.Format.exists_name_iff.mp ⟨format, rfl⟩)

theorem rootEntry_iff {entry : String × Value} :
    RootEntry entry ↔
      (entry.1 = "library" ∧
          ∃ part : Entries, entry.2 = .table part ∧ ∀ inner ∈ part, LibraryEntry inner) ∨
        (entry.1 = "logging" ∧
          ∃ part : Entries, entry.2 = .table part ∧ ∀ inner ∈ part, LoggingEntry inner) := by
  constructor
  · rintro (⟨fits⟩ | ⟨fits⟩)
    · exact .inl ⟨rfl, _, rfl, fits⟩
    · exact .inr ⟨rfl, _, rfl, fits⟩
  · obtain ⟨key, value⟩ := entry
    rintro (⟨rfl, part, rfl, fits⟩ | ⟨rfl, part, rfl, fits⟩)
    · exact .library fits
    · exact .logging fits

/-! ## The decoder at the three tables -/

theorem isRecord_libraryEntry :
    IsRecord libraryEntry (fun name? paths? => ⟨name?, paths?.getD []⟩) "name" "search-paths"
      (text "a string") paths where
  different := by decide
  atFirst _ _ _ := rfl
  atSecond _ _ _ := rfl
  elsewhere state key value notName notPaths :=
    ⟨.unknownField key libraryKeys, by simp only [libraryEntry]⟩

theorem isRecord_loggingEntry :
    IsRecord loggingEntry LoggingSection.mk "level" "format" level format where
  different := by decide
  atFirst _ _ _ := rfl
  atSecond _ _ _ := rfl
  elsewhere state key value notLevel notFormat :=
    ⟨.unknownField key loggingKeys, by simp only [loggingEntry]⟩

theorem isRecord_rootEntry :
    IsRecord rootEntry Settings.mk "library" "logging" library logging where
  different := by decide
  atFirst _ _ _ := rfl
  atSecond _ _ _ := rfl
  elsewhere state key value notLibrary notLogging :=
    ⟨.unknownField key rootKeys, by simp only [rootEntry]⟩

/-! ## Acceptance -/

section

variable {part entries : Entries}

theorem exists_library_eq_ok_iff (tree : part.IsTree) :
    (∃ decoded, library (.table part) = .ok decoded) ↔ ∀ entry ∈ part, LibraryEntry entry := by
  refine (isRecord_libraryEntry.exists_foldlM_eq_ok_iff none none).trans ?_
  refine forall₂_congr fun entry inside => ?_
  rw [libraryEntry_iff]
  refine or_congr (and_congr_right fun _ => exists_congr fun name => text_eq_ok_iff)
    (and_congr_right fun _ => ?_)
  constructor
  · rintro ⟨searchPaths, decoded⟩
    obtain ⟨texts, same, -⟩ := (paths_eq_ok_iff (tree.part inside)).mp decoded
    exact ⟨texts, same⟩
  · rintro ⟨texts, same⟩
    exact ⟨_, (paths_eq_ok_iff (tree.part inside)).mpr ⟨texts, same, rfl⟩⟩

theorem exists_logging_eq_ok_iff
    (levels : ∀ level, ("level", level) ∈ part → ∃ name, level = .string name)
    (formats : ∀ format, ("format", format) ∈ part → ∃ name, format = .string name) :
    (∃ decoded, logging (.table part) = .ok decoded) ↔ ∀ entry ∈ part, LoggingEntry entry := by
  refine (isRecord_loggingEntry.exists_foldlM_eq_ok_iff none none).trans ?_
  refine forall₂_congr fun entry inside => ?_
  obtain ⟨key, value⟩ := entry
  rw [loggingEntry_iff]
  refine or_congr (and_congr_right ?_) (and_congr_right ?_)
  · rintro rfl
    exact exists_congr fun severity => level_eq_ok_iff (levels value inside)
  · rintro rfl
    exact exists_congr fun format => format_eq_ok_iff (formats value inside)

theorem exists_decode_eq_ok_iff (tree : entries.IsTree) (plain : IsPlain entries) :
    (∃ settings, decode entries = .ok settings) ↔ Fits entries := by
  refine (isRecord_rootEntry.exists_foldlM_eq_ok_iff none none).trans ?_
  refine forall₂_congr fun entry inside => ?_
  obtain ⟨key, value⟩ := entry
  rw [rootEntry_iff]
  refine or_congr (and_congr_right ?_) (and_congr_right ?_)
  · rintro rfl
    obtain ⟨part, rfl⟩ := plain.library value inside
    rw [exists_library_eq_ok_iff (tree.part inside)]
    simp only [Value.table.injEq, exists_eq_left']
  · rintro rfl
    obtain ⟨part, rfl, levels, formats⟩ := plain.logging value inside
    rw [exists_logging_eq_ok_iff levels formats]
    simp only [Value.table.injEq, exists_eq_left']

/-! ## What is decoded -/

theorem ReadsAs.eq_map {α : Type} {read : Value → Decoded α} {image : α → Value}
    {value? : Option Value} {taken? : Option α} (reads : ReadsAs read value? taken?)
    (inverse : ∀ value, value? = some value →
      ∀ taken, read value = .ok taken → value = image taken) : value? = taken?.map image := by
  cases reads with
  | some took => exact congrArg some (inverse _ rfl _ took)
  | none => rfl

theorem libraryHolds_of_eq_ok (tree : part.IsTree) {decoded : LibrarySection}
    (taken : library (.table part) = .ok decoded) : LibraryHolds part decoded := by
  obtain ⟨-, name?, paths?, names, paths, rfl⟩ :=
    (isRecord_libraryEntry.foldlM_eq_ok_iff tree.distinct none none).mp taken
  rw [Option.or_none, Option.or_none]
  refine ⟨names.eq_map fun value _ name => text_eq_ok_iff.mp, ?_⟩
  generalize found : part.get? "search-paths" = value? at paths
  cases paths with
  | none => exact ⟨none, rfl, rfl⟩
  | some took =>
    have branch := tree.part (Entries.mem_of_get?_eq_some found)
    obtain ⟨texts, rfl, rfl⟩ := (paths_eq_ok_iff branch).mp took
    exact ⟨some texts, rfl, rfl⟩

theorem loggingHolds_of_eq_ok (tree : part.IsTree)
    (levels : ∀ level, ("level", level) ∈ part → ∃ name, level = .string name)
    (formats : ∀ format, ("format", format) ∈ part → ∃ name, format = .string name)
    {decoded : LoggingSection} (taken : logging (.table part) = .ok decoded) :
    LoggingHolds part decoded := by
  obtain ⟨-, level?, format?, level, format, rfl⟩ :=
    (isRecord_loggingEntry.foldlM_eq_ok_iff tree.distinct none none).mp taken
  rw [Option.or_none, Option.or_none]
  refine ⟨level.eq_map fun value found severity => ?_, format.eq_map fun value found written => ?_⟩
  · exact (level_eq_ok_iff (levels value (Entries.mem_of_get?_eq_some found))).mp
  · exact (format_eq_ok_iff (formats value (Entries.mem_of_get?_eq_some found))).mp

theorem ReadsAs.sectionHolds {α : Type} {read : Value → Decoded α} {holds : Entries → α → Prop}
    {value? : Option Value} {taken? : Option α} (reads : ReadsAs read value? taken?)
    (tables : ∀ value, value? = some value → ∃ part, value = .table part ∧
      ∀ taken, read (.table part) = .ok taken → holds part taken) :
    SectionHolds holds value? taken? := by
  cases reads with
  | some took =>
    obtain ⟨part, rfl, held⟩ := tables _ rfl
    exact .some ⟨part, rfl, held _ took⟩
  | none => exact .none

theorem holds_of_decode_eq_ok (tree : entries.IsTree) (plain : IsPlain entries)
    {settings : Settings} (taken : decode entries = .ok settings) : Holds entries settings := by
  obtain ⟨-, library?, logging?, library, logging, rfl⟩ :=
    (isRecord_rootEntry.foldlM_eq_ok_iff tree.distinct none none).mp taken
  rw [Option.or_none, Option.or_none]
  refine ⟨library.sectionHolds fun value found => ?_, logging.sectionHolds fun value found => ?_⟩
  · have inside := Entries.mem_of_get?_eq_some found
    obtain ⟨part, rfl⟩ := plain.library value inside
    exact ⟨part, rfl, fun decoded => libraryHolds_of_eq_ok (tree.part inside)⟩
  · have inside := Entries.mem_of_get?_eq_some found
    obtain ⟨part, rfl, levels, formats⟩ := plain.logging value inside
    exact ⟨part, rfl, fun decoded => loggingHolds_of_eq_ok (tree.part inside) levels formats⟩

/-! ## Tables without entries -/

theorem LibraryHolds.eq_of_nil {decoded : LibrarySection} (holds : LibraryHolds [] decoded) :
    decoded = {} := by
  obtain ⟨name?, searchPaths⟩ := decoded
  obtain ⟨named, texts?, found, rfl⟩ := holds
  have noName := Option.map_eq_none_iff.mp named.symm
  have noTexts := Option.map_eq_none_iff.mp found.symm
  exact noName ▸ noTexts ▸ rfl

theorem LibraryHolds.searchPaths_eq_nil {decoded : LibrarySection}
    (holds : LibraryHolds part decoded) (absent : part.get? "search-paths" = none) :
    decoded.searchPaths = [] := by
  obtain ⟨texts?, found, same⟩ := holds.searchPaths
  rw [absent] at found
  rw [same, Option.map_eq_none_iff.mp found.symm]
  rfl

theorem LoggingHolds.eq_of_nil {decoded : LoggingSection} (holds : LoggingHolds [] decoded) :
    decoded = {} := by
  obtain ⟨level?, format?⟩ := decoded
  have noLevel := Option.map_eq_none_iff.mp holds.level.symm
  have noFormat := Option.map_eq_none_iff.mp holds.format.symm
  exact congrArg₂ LoggingSection.mk noLevel noFormat

/-- A text is read as a tree.  A tree whose sections are tables, and whose level and format are
texts, is decoded if and only if it is in the grammar of documents with settings; then the
settings hold exactly its entries, where an empty table is a section without values and search
paths that are not there are none. -/
theorem decodes_its_documents (entries : Entries) :
    (∀ text, Toml.read? text = some entries → entries.IsTree) ∧
    (entries.IsTree → IsPlain entries →
      ((∃ settings, decode entries = .ok settings) ↔ Fits entries) ∧
      ∀ settings, decode entries = .ok settings → Holds entries settings ∧
        (entries.get? "library" = some (.table []) → settings.library = some {}) ∧
        (entries.get? "logging" = some (.table []) → settings.logging = some {}) ∧
        ∀ part : Entries, entries.get? "library" = some (.table part) →
          part.get? "search-paths" = none → ∃ name?, settings.library = some ⟨name?, []⟩) := by
  refine ⟨fun text => isTree_of_read?, fun tree plain => ?_⟩
  refine ⟨exists_decode_eq_ok_iff tree plain, fun settings taken => ?_⟩
  have holds := holds_of_decode_eq_ok tree plain taken
  refine ⟨holds, ?_, ?_, ?_⟩
  · intro found
    obtain ⟨decoded, present, held⟩ := holds.library.exists_of_table found
    rw [present, held.eq_of_nil]
  · intro found
    obtain ⟨decoded, present, held⟩ := holds.logging.exists_of_table found
    rw [present, held.eq_of_nil]
  · intro part found absent
    obtain ⟨⟨name?, searchPaths⟩, present, held⟩ := holds.library.exists_of_table found
    obtain rfl : searchPaths = [] := held.searchPaths_eq_nil absent
    exact ⟨name?, present⟩

/-- An empty section on the library, and one on records with a level. -/
def levelled (name : String) : Entries :=
  [("library", .table []), ("logging", .table [("level", .string name)])]

/-- Whether a document is the one with that level. -/
def isLevelled (name : String) : Entries → Bool
  | [(first, .table []), (second, .table [(third, .string written)])] =>
    first == "library" && second == "logging" && third == "level" && written == name
  | _ => false

theorem read?_eq_levelled {text name : String}
    (written : (Toml.read? text).any (isLevelled name) = true) :
    Toml.read? text = some (levelled name) := by
  obtain ⟨document, read, same⟩ := (Option.any_eq_true _ _).mp written
  rw [read]
  unfold isLevelled at same
  split at same
  · simp only [Bool.and_eq_true, beq_iff_eq, and_assoc] at same
    obtain ⟨rfl, rfl, rfl, rfl⟩ := same
    rfl
  · cases same

/-- An empty section on the library with a level behind it is accepted; the level in capitals is
not. -/
theorem decodes_its_documents_exact_case :
    (∃ settings, decode (levelled "warn") = .ok settings ∧ settings.library = some {}) ∧
      ¬ ∃ settings, decode (levelled "WARN") = .ok settings := by
  have plain (name : String) : IsPlain (levelled name) := by
    constructor
    · intro value inside
      simp_all [levelled]
    · intro value inside
      simp_all [levelled]
  obtain ⟨trees, decodes⟩ := decodes_its_documents (levelled "warn")
  have tree := trees "[library]\n[logging]\nlevel = \"warn\"" (read?_eq_levelled (by decide +kernel))
  obtain ⟨accepted, held⟩ := decodes tree (plain "warn")
  obtain ⟨capitalTrees, refuses⟩ := decodes_its_documents (levelled "WARN")
  have capitalTree := capitalTrees "[library]\n[logging]\nlevel = \"WARN\""
    (read?_eq_levelled (by decide +kernel))
  obtain ⟨refused, -⟩ := refuses capitalTree (plain "WARN")
  constructor
  · obtain ⟨settings, taken⟩ := accepted.mpr <| by
      intro entry inside
      rcases List.mem_pair.mp inside with rfl | rfl
      · exact .library (List.forall_mem_nil _)
      · exact .logging (List.forall_mem_singleton.mpr (.level (by decide)))
    exact ⟨settings, taken, (held settings taken).2.1 rfl⟩
  · intro decoded
    have second := refused.mp decoded _ (List.mem_cons_of_mem _ List.mem_cons_self)
    obtain ⟨library, -⟩ | ⟨-, part, same, fits⟩ := rootEntry_iff.mp second
    · exact absurd library (by decide)
    · obtain rfl := Value.table.inj same
      obtain ⟨-, severity, written⟩ | ⟨format, -⟩ := loggingEntry_iff.mp (fits _ List.mem_cons_self)
      · cases severity <;> exact absurd (Value.string.inj written) (by decide)
      · exact absurd format (by decide)

end

end Settings.Schema

end NativeBoundary
