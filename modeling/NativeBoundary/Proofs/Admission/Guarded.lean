import NativeBoundary.Proofs.Admission.Objections
import NativeBoundary.Proofs.Opening.Images
import NativeBoundary.Reference.Table

/-!
# Loads behind the guard

A load ends with the first objection to the library that is asked for, or with a
complete table if there is none.  On the way the guard is the only export that is
called, and it is called at most once; any other symbol is looked up only after
the guard has reported the expected hash.
-/

namespace NativeBoundary

variable {V W : Type}

/-- What a library may see of being taken into use: its guard is called once if there is one, and
nothing else is, and whenever another symbol is looked up, the guard has been called before and has
reported the expected hash. -/
structure Image.Gated (image : Image) (entries : Journal) : Prop where
  calls : entries.calls = if image.exported .surfaceGuard then [(.surfaceGuard, none)] else []
  lookUps : ∀ symbol before, .looked symbol :: before <:+ entries → symbol ≠ .surfaceGuard →
    image.hash = Surface.expectedHash ∧ .called .surfaceGuard none ∈ before

namespace Image.Gated

variable {image : Image} {entries : Journal} {record : Log.Record}

/-- A library of which nothing but its guard is asked. -/
theorem of_guard
    (calls : entries.calls = if image.exported .surfaceGuard then [(.surfaceGuard, none)] else [])
    (alone : ∀ symbol, .looked symbol ∈ entries → symbol = .surfaceGuard) :
    image.Gated entries where
  calls := calls
  lookUps := by
    intro symbol before reached other
    exact absurd (alone symbol (reached.subset List.mem_cons_self)) other

/-- A record is no call and no look-up. -/
theorem raised (gated : image.Gated entries) : image.Gated (.raised record :: entries) where
  calls := gated.calls
  lookUps := by
    intro symbol before reached other
    rcases List.suffix_cons_iff.mp reached with whole | inside
    · cases whole
    · exact gated.lookUps symbol before inside other

/-- Neither is a record that was raised before. -/
theorem after_raised (gated : image.Gated entries) :
    image.Gated (entries ++ [.raised record]) where
  calls := by
    have same : Journal.calls (entries ++ [.raised record]) = entries.calls := by
      simp [Journal.calls]
    rw [same]
    exact gated.calls
  lookUps := by
    intro symbol before reached other
    rcases List.suffix_concat_iff.mp reached with nothing | ⟨inner, split, inside⟩
    · cases nothing
    · rcases inner with - | ⟨first, rest⟩
      · cases split
      · obtain ⟨rfl, rfl⟩ := List.cons.inj split
        rcases gated.lookUps symbol rest inside other with ⟨agrees, called⟩
        exact ⟨agrees, List.mem_append_left _ called⟩

/-- Behind a guard that agrees, symbols may be looked up. -/
theorem lookedUp (gated : image.Gated entries) (agrees : image.hash = Surface.expectedHash)
    (called : .called .surfaceGuard none ∈ entries) (symbols : List Symbol) :
    image.Gated (symbols.map .looked ++ entries) := by
  induction symbols with
  | nil => exact gated
  | cons first rest hypothesis =>
    constructor
    · exact hypothesis.calls
    · intro symbol before reached other
      rcases List.suffix_cons_iff.mp reached with whole | inside
      · obtain ⟨-, rfl⟩ := List.cons.inj whole
        exact ⟨agrees, List.mem_append_right _ called⟩
      · exact hypothesis.lookUps symbol before inside other

end Image.Gated

namespace Image

variable (image : Image)

/-- The symbols that are looked up out of a list: all of them up to the first missing one. -/
def lookedUp : List Symbol → List Symbol
  | [] => []
  | symbol :: rest => if image.exported symbol then symbol :: lookedUp rest else [symbol]

theorem run_lookUp (symbol : Symbol) (session : Session V) :
    (image.lookUp symbol).run session =
      (.returned
        (if image.exported symbol then .ok ()
          else .error (.symbolNotFound symbol.name undefinedSymbol)),
        { session with journal := .looked symbol :: session.journal }) := rfl

/-- Symbols are looked up in their order, and the first missing one is the answer. -/
theorem run_lookUpAll (symbols : List Symbol) (session : Session V) :
    (image.lookUpAll symbols).run session =
      (.returned
        (unlessObjected
          ((symbols.find? fun symbol => !image.exported symbol).map fun symbol =>
            .symbolNotFound symbol.name undefinedSymbol) ()),
        { session with
          journal := (image.lookedUp symbols).reverse.map .looked ++ session.journal }) := by
  induction symbols generalizing session with
  | nil => rfl
  | cons symbol rest hypothesis =>
    rw [lookUpAll, Crossing.run_bind, run_lookUp]
    cases present : image.exported symbol with
    | true => simp [hypothesis, present, lookedUp]
    | false => simp [present, lookedUp]

/-- Without a guard nothing is called. -/
theorem run_askGuard_of_unguarded (missing : image.exported .surfaceGuard = false)
    (session : Session V) :
    image.askGuard.run session =
      (.returned (.error (.load (.symbolNotFound "ferrule_api_guard" undefinedSymbol))),
        { session with journal := .looked .surfaceGuard :: session.journal }) := by
  rw [askGuard, Crossing.run_bind, run_lookUp]
  simp [missing, Symbol.name]

/-- A guard is called once, and what it reports is compared. -/
theorem run_askGuard_of_exported (present : image.exported .surfaceGuard = true)
    (session : Session V) :
    image.askGuard.run session =
      (.returned (unlessObjected image.mismatched? ()),
        { session with
          journal :=
            [.raised (Guard.record image.hash), .called .surfaceGuard none,
              .looked .surfaceGuard] ++ session.journal }) := by
  have judged : Guard.judge image.hash = unlessObjected image.mismatched? () := by
    unfold Guard.judge mismatched?
    split <;> rfl
  rw [askGuard, Crossing.run_bind, run_lookUp, ← judged]
  simp only [present, if_true]
  rfl

end Image

namespace Gateway

/-- Taking a library into use ends with the first objection to it. -/
theorem run_ofImage (code : Exports W) (image : Image) (session : Session V) :
    ∃ entries,
      (ofImage code image).run session =
          (.returned (unlessObjected image.firstObjection? ⟨image.table code, true⟩),
            { session with journal := entries ++ session.journal }) ∧
        image.Gated entries := by
  cases present : image.exported .surfaceGuard with
  | false =>
    have uncalled : Journal.calls [.looked .surfaceGuard] = [] := rfl
    refine ⟨[.looked .surfaceGuard], ?_, .of_guard (by rw [uncalled, present]; rfl) (by simp)⟩
    have objected :
        image.firstObjection? =
          some (.load (.symbolNotFound "ferrule_api_guard" Image.undefinedSymbol)) := by
      simp [Image.firstObjection?, Image.objections, Image.unguarded?, present]
    rw [ofImage, Crossing.run_bind, image.run_askGuard_of_unguarded present, objected]
    rfl
  | true =>
    have guarded : image.unguarded? = none := if_pos present
    let asked : Journal :=
      [.raised (Guard.record image.hash), .called .surfaceGuard none, .looked .surfaceGuard]
    have called : asked.calls = [(.surfaceGuard, none)] := rfl
    have gated : image.Gated asked :=
      .of_guard (by rw [called, if_pos present]) (by simp [asked])
    by_cases agrees : image.hash = Surface.expectedHash
    · have matched : image.mismatched? = none := if_pos agrees
      have objected : image.firstObjection? = image.incomplete? := by
        simp [Image.firstObjection?, Image.objections, guarded, matched]
      refine ⟨(image.lookedUp Symbol.all).reverse.map .looked ++ asked, ?_,
        gated.lookedUp agrees (by simp [asked]) _⟩
      rw [ofImage, Crossing.run_bind, image.run_askGuard_of_exported present, matched]
      simp only [unlessObjected_none, Crossing.run_bind, image.run_lookUpAll]
      rw [objected, Image.incomplete?, Image.firstMissing?]
      cases Symbol.all.find? fun symbol => !image.exported symbol with
      | none => simp [asked]
      | some symbol => simp [asked]
    · have mismatched :
          image.mismatched? = some (.mismatch Surface.expectedHash image.hash) := if_neg agrees
      have objected :
          image.firstObjection? = some (.mismatch Surface.expectedHash image.hash) := by
        simp [Image.firstObjection?, Image.objections, guarded, mismatched]
      refine ⟨asked, ?_, gated⟩
      rw [ofImage, Crossing.run_bind, image.run_askGuard_of_exported present, mismatched,
        objected]
      rfl

/-! ## Loads by a host that has opened nothing -/

section

variable (code : Exports W) {surroundings : Surroundings} {name : String} {extra : List Path}
  {path : Path} (journal : Journal)

/-- Where the name stands for nothing, nothing is opened. -/
theorem run_load_of_nothing (nothing : ComesTo surroundings name extra none) :
    (load code surroundings name extra).run ⟨.none, journal⟩ =
      (.returned (.error (.load (.libraryNotFound name (searched surroundings extra).length))),
        ⟨.none, journal⟩) := by
  rw [load, SearchPath.load, (resolve?_eq_iff surroundings name extra none).mpr nothing,
    directories_extended_eq_searched]
  rfl

/-- Without a library behind the path nothing is opened either. -/
theorem run_load_of_unloadable (found : ComesTo surroundings name extra (some path))
    (unloadable : surroundings.image? path = none) :
    (load code surroundings name extra).run ⟨.none, journal⟩ =
      (.returned (.error (.load (.loadFailed path SearchPath.notALibrary))),
        ⟨.none, journal⟩) := by
  have refused :
      (SearchPath.openPath surroundings path).run ⟨.none, journal⟩ =
        (.returned (.error (.loadFailed path SearchPath.notALibrary)), ⟨.none, journal⟩) := by
    rw [SearchPath.openPath, unloadable]
    rfl
  rw [load, SearchPath.load, (resolve?_eq_iff surroundings name extra _).mpr found,
    Crossing.run_bind, refused]
  rfl

/-- So either the first objection is the answer before anything is opened, or there is a library. -/
theorem refused_or_loadable {found? : Option Path}
    (found : ComesTo surroundings name extra found?) :
    (∃ error, firstObjection? surroundings name extra found? = some error ∧
      (load code surroundings name extra).run ⟨.none, journal⟩ =
        (.returned (.error error), ⟨.none, journal⟩)) ∨
      ∃ path image, found? = some path ∧ surroundings.image? path = some image := by
  cases found? with
  | none => exact Or.inl ⟨_, firstObjection?_of_nothing, run_load_of_nothing code journal found⟩
  | some path =>
    cases loadable : surroundings.image? path with
    | none =>
      exact Or.inl ⟨_, firstObjection?_of_unloadable loadable,
        run_load_of_unloadable code journal found loadable⟩
    | some image => exact Or.inr ⟨path, image, rfl, loadable⟩

/-- A library behind the path is opened and taken into use. -/
theorem run_load_of_image {image : Image} (found : ComesTo surroundings name extra (some path))
    (loadable : surroundings.image? path = some image) :
    ∃ entries,
      (load code surroundings name extra).run ⟨.none, journal⟩ =
          (.returned (unlessObjected image.firstObjection? ⟨image.table code, true⟩),
            ⟨⟨[(path, image)]⟩, entries ++ journal⟩) ∧
        image.Gated entries := by
  have opened :
      (SearchPath.openPath surroundings path).run ⟨.none, journal⟩ =
        (.returned (.ok ⟨0, image⟩),
          ⟨⟨[(path, image)]⟩, .raised (SearchPath.openedRecord path) :: journal⟩) := by
    rw [SearchPath.openPath, loadable]
    rfl
  rcases run_ofImage code image
      (⟨⟨[(path, image)]⟩, .raised (SearchPath.openedRecord path) :: journal⟩ :
        Session OpenedLibraries) with
    ⟨entries, taken, gated⟩
  rw [load, SearchPath.load, (resolve?_eq_iff surroundings name extra _).mpr found]
  simp only [Crossing.run_bind]
  rw [opened]
  simp only [Crossing.run_bind]
  rw [taken]
  let opening : Entry := .raised (SearchPath.openedRecord path)
  have joined : entries ++ opening :: journal = entries ++ [opening] ++ journal := by simp
  cases image.firstObjection? with
  | some error =>
    refine ⟨entries ++ [opening], ?_, gated.after_raised⟩
    rw [← joined]
    rfl
  | none =>
    refine ⟨.raised (readyRecord name) :: (entries ++ [opening]), ?_, gated.after_raised.raised⟩
    rw [List.cons_append, ← joined]
    rfl

end

/-- However a library is asked for by a host that has opened none yet, the answer is the first
objection in the order of `objections`, told of what the name comes to.  Without an objection it is
the complete table of the library that was found, whose guard was called once.  Nothing but the
guard is called in any case, at most once, and nothing but the guard is looked up before it has been
called and has reported the expected hash. -/
theorem load_ends_with_first_objection (code : Exports W) (surroundings : Surroundings)
    (name : String) (extra : List Path) (journal : Journal) :
    ∃ found? answer opened entries,
      ComesTo surroundings name extra found? ∧
        (load code surroundings name extra).run ⟨.none, journal⟩ =
          (.returned answer, ⟨opened, entries ++ journal⟩) ∧
        (∀ error, firstObjection? surroundings name extra found? = some error →
          answer = .error error) ∧
        (firstObjection? surroundings name extra found? = none →
          ∃ image, foundImage? surroundings found? = some image ∧
            (∀ symbol, image.exported symbol = true) ∧
            answer = .ok ⟨image.table code, true⟩ ∧
            entries.calls = [(.surfaceGuard, none)]) ∧
        (entries.calls = [] ∨ entries.calls = [(.surfaceGuard, none)]) ∧
        ∀ symbol before, .looked symbol :: before <:+ entries → symbol ≠ .surfaceGuard →
          .called .surfaceGuard none ∈ before ∧
            ∃ image, foundImage? surroundings found? = some image ∧
              image.hash = Surface.expectedHash := by
  have found :
      ComesTo surroundings name extra
        ((SearchPath.extended surroundings.currentPath? extra).resolve? surroundings name) :=
    (resolve?_eq_iff surroundings name extra _).mp rfl
  generalize (SearchPath.extended surroundings.currentPath? extra).resolve? surroundings name =
    found? at found
  rcases refused_or_loadable code journal found with
    ⟨error, first, ran⟩ | ⟨path, image, rfl, loadable⟩
  · refine ⟨found?, .error error, _, [], found, ran, ?_, ?_, Or.inl rfl, ?_⟩
    · intro other objected
      rw [Option.some.inj (first.symm.trans objected)]
    · intro unobjected
      cases first.symm.trans unobjected
    · intro symbol before reached
      cases List.suffix_nil.mp reached
  · rcases run_load_of_image code journal found loadable with ⟨entries, ran, gated⟩
    refine ⟨some path, _, _, entries, found, ran, ?_, ?_, ?_, ?_⟩
    · intro error objected
      rw [firstObjection?_of_image loadable] at objected
      rw [objected, unlessObjected_some]
    · intro unobjected
      rw [firstObjection?_of_image loadable] at unobjected
      have complete := (image.firstObjection?_eq_none_iff.mp unobjected).2
      refine ⟨image, loadable, complete, ?_, ?_⟩
      · rw [unobjected, unlessObjected_none]
      · rw [gated.calls, if_pos (complete .surfaceGuard)]
    · rw [gated.calls]
      split
      · exact Or.inr rfl
      · exact Or.inl rfl
    · intro symbol before reached other
      rcases gated.lookUps symbol before reached other with ⟨agrees, called⟩
      exact ⟨called, image, loadable, agrees⟩

/-- A complete library, and beside it one that exports nothing. -/
def furnished : Surroundings where
  storage := Storage.empty
    |>.addFile ["opt", "libown.so"] (.library .complete)
    |>.addFile ["opt", "libbare.so"] (.library (.exporting 0 []))
  current := []
  environment _ := none
  home := none

theorem load_ends_with_first_objection_furnished :
    let opt := [Path.ofText "/opt"]
    let own := (Path.ofText "/opt").joinName "libown.so"
    let bare := (Path.ofText "/opt").joinName "libbare.so"
    let unguarded := InitError.load (.symbolNotFound "ferrule_api_guard" Image.undefinedSymbol)
    ComesTo furnished "own" opt (some own) ∧
      firstObjection? furnished "own" opt (some own) = none ∧
      ComesTo furnished "bare" opt (some bare) ∧
      firstObjection? furnished "bare" opt (some bare) = some unguarded ∧
      (∃ opened entries,
        (load Reference.table furnished "own" opt).run ⟨.none, []⟩ =
            (.returned (.ok ⟨Image.complete.table Reference.table, true⟩), ⟨opened, entries⟩) ∧
          entries.calls = [(.surfaceGuard, none)]) ∧
      ∃ opened entries,
        (load Reference.table furnished "bare" opt).run ⟨.none, []⟩ =
          (.returned (.error unguarded), ⟨opened, entries⟩) := by
  intro opt own bare unguarded
  have ownFound : ComesTo furnished "own" opt (some own) :=
    (resolve?_eq_iff furnished "own" opt _).mp (by decide +kernel)
  have bareFound : ComesTo furnished "bare" opt (some bare) :=
    (resolve?_eq_iff furnished "bare" opt _).mp (by decide +kernel)
  have ownPlace : furnished.storage.locate furnished.current own = .ok ["opt", "libown.so"] := by
    decide +kernel
  have ownImage : furnished.image? own = some .complete :=
    Surroundings.image?_of_content (by decide +kernel) (Storage.content_of_file ownPlace rfl)
  have barePlace : furnished.storage.locate furnished.current bare = .ok ["opt", "libbare.so"] := by
    decide +kernel
  have bareImage : furnished.image? bare = some (.exporting 0 []) :=
    Surroundings.image?_of_content (by decide +kernel) (Storage.content_of_file barePlace rfl)
  have unobjected : firstObjection? furnished "own" opt (some own) = none := by
    rw [firstObjection?_of_image ownImage, Image.firstObjection?_eq_none_iff]
    exact ⟨rfl, fun _ => rfl⟩
  have objected : firstObjection? furnished "bare" opt (some bare) = some unguarded := by
    rw [firstObjection?_of_image bareImage]
    rfl
  refine ⟨ownFound, unobjected, bareFound, objected, ?_, ?_⟩
  · obtain ⟨found?, answer, opened, entries, found, ran, -, succeeds, -⟩ :=
      load_ends_with_first_objection Reference.table furnished "own" opt []
    obtain rfl := found.unique ownFound
    obtain ⟨image, behind, -, rfl, called⟩ := succeeds unobjected
    obtain rfl := Option.some.inj (ownImage.symm.trans behind)
    exact ⟨opened, entries ++ [], ran, by rw [List.append_nil, called]⟩
  · obtain ⟨found?, answer, opened, entries, found, ran, fails, -⟩ :=
      load_ends_with_first_objection Reference.table furnished "bare" opt []
    obtain rfl := found.unique bareFound
    obtain rfl := fails _ objected
    exact ⟨opened, entries ++ [], ran⟩

end Gateway

end NativeBoundary
