import Mathlib.Data.Finset.Card
import NativeBoundary.Proofs.Opening.Cache
import NativeBoundary.Reference.Table

/-!
# Requests for libraries

Libraries are asked for one after the other, by any search paths and in surroundings
that may be others each time.  Some requests are for a library alone, others take it
into use.  The main statement is that a host has opened as many libraries as different
paths were opened so far, whatever came of the libraries afterwards, and that a path
that was opened once leads to the same library for as long as it leads anywhere.
-/

namespace NativeBoundary

variable {W : Type}

/-- A request for a library, and the surroundings in which it is made. -/
inductive Request
  | load (surroundings : Surroundings) (searchPath : SearchPath) (name : String)
  /-- The library is to be taken into use, and is searched in further directories first. -/
  | use (surroundings : Surroundings) (name : String) (extra : List Path)

/-- What a request obtains. -/
inductive Obtained (W : Type)
  | library (library : Library)
  | gateway (gateway : Gateway W)

/-- Whether an error says that no library was opened. -/
def InitError.isUnopened : InitError → Bool
  | .load (.libraryNotFound _ _) => true
  | .load (.loadFailed _ _) => true
  | .load (.symbolNotFound _ _) => false
  | .mismatch _ _ => false
  | .settings _ => false

/-- Nothing that is objected to a library says that it was not opened. -/
theorem Image.isUnopened_of_firstObjection? {image : Image} {error : InitError}
    (objected : image.firstObjection? = some error) : error.isUnopened = false := by
  rcases List.exists_of_findSome?_eq_some objected with ⟨objection, member, raised⟩
  simp only [objections, List.mem_cons, List.not_mem_nil, or_false] at member
  have is : objection = some error := raised
  subst is
  rcases member with unguarded | mismatched | incomplete
  · rw [unguarded?] at unguarded
    split at unguarded
    · cases unguarded
    · cases unguarded
      rfl
  · rw [mismatched?] at mismatched
    split at mismatched
    · cases mismatched
    · cases mismatched
      rfl
  · rcases Option.map_eq_some_iff.mp incomplete.symm with ⟨symbol, -, rfl⟩
    rfl

/-- Taking an opened library into use changes nothing about what is open. -/
theorem Gateway.run_load_of_opened {code : Exports W} {surroundings : Surroundings} {name : String}
    {extra : List Path} {library : Library} {session after : Session OpenedLibraries}
    (ran :
      ((SearchPath.extended surroundings.currentPath? extra).load surroundings name).run session =
        (.returned (.ok library), after)) :
    ∃ journal,
      (Gateway.load code surroundings name extra).run session =
        (.returned
          (unlessObjected library.image.firstObjection? ⟨library.image.table code, true⟩),
          ⟨after.world, journal⟩) := by
  rcases Gateway.run_ofImage code library.image after with ⟨entries, taken, -⟩
  rw [Gateway.load, Crossing.run_bind_of_returned ran]
  cases objection : library.image.firstObjection? with
  | some error =>
    rw [objection] at taken
    exact ⟨entries ++ after.journal, Crossing.run_bind_of_returned taken⟩
  | none =>
    rw [objection] at taken
    exact ⟨.raised (Gateway.readyRecord name) :: (entries ++ after.journal),
      Crossing.run_bind_of_returned taken⟩

namespace Request

def surroundings : Request → Surroundings
  | .load surroundings _ _ => surroundings
  | .use surroundings _ _ => surroundings

def searchPath : Request → SearchPath
  | .load _ searchPath _ => searchPath
  | .use surroundings _ extra => .extended surroundings.currentPath? extra

def name : Request → String
  | .load _ _ name => name
  | .use _ name _ => name

/-- The path that the name of a request stands for in its surroundings. -/
def StandsFor (request : Request) : Path → Prop :=
  SearchPath.StandsFor request.surroundings request.searchPath.directories request.name

def StandsForNothing (request : Request) : Prop :=
  SearchPath.StandsForNothing request.surroundings request.searchPath.directories request.name

def perform (code : Exports W) :
    Request → Crossing OpenedLibraries (Except InitError (Obtained W))
  | .load surroundings searchPath name => do
    let result ← searchPath.load surroundings name
    pure ((result.mapError .load).map .library)
  | .use surroundings name extra => do
    let result ← Gateway.load code surroundings name extra
    pure (result.map .gateway)

/-! ## What one request does -/

/-- What is obtained once a library is open. -/
def obtained (code : Exports W) (library : Library) : Request → Except InitError (Obtained W)
  | .load _ _ _ => .ok (.library library)
  | .use _ _ _ =>
    (unlessObjected library.image.firstObjection? ⟨library.image.table code, true⟩).map .gateway

/-- The answer for which no path was found. -/
def notFound (request : Request) : InitError :=
  .load (.libraryNotFound request.name request.searchPath.directories.length)

/-- What a request makes of the library that is opened for it, or of its error. -/
def settle (code : Exports W) (request : Request) :
    Except LoadError Library → Except InitError (Obtained W)
  | .error error => .error (.load error)
  | .ok library => request.obtained code library

/-- The path that a request is served with. -/
def path? (request : Request) : Option Path :=
  request.searchPath.resolve? request.surroundings request.name

theorem path?_eq_some_iff {request : Request} {path : Path} :
    request.path? = some path ↔ request.StandsFor path :=
  SearchPath.resolve?_eq_some_iff

theorem path?_eq_none_iff {request : Request} :
    request.path? = none ↔ request.StandsForNothing :=
  SearchPath.resolve?_eq_none_iff

def answer (code : Exports W) (opened : OpenedLibraries) (request : Request) :
    Except InitError (Obtained W) :=
  match request.path? with
  | none => .error request.notFound
  | some path => request.settle code (SearchPath.openAnswer request.surroundings opened path)

/-- The libraries that are open after a request. -/
def left (opened : OpenedLibraries) (request : Request) : OpenedLibraries :=
  match request.path? with
  | none => opened
  | some path => SearchPath.openLeft request.surroundings opened path

variable {code : Exports W} {request : Request} {opened : OpenedLibraries}

theorem run_perform_of_load {session after : Session OpenedLibraries}
    {result : Except LoadError Library}
    (ran :
      (request.searchPath.load request.surroundings request.name).run session =
        (.returned result, after)) :
    ∃ journal,
      (request.perform code).run session =
        (.returned (request.settle code result), ⟨after.world, journal⟩) := by
  cases request with
  | load surroundings searchPath name =>
    refine ⟨after.journal, (Crossing.run_bind_of_returned ran).trans ?_⟩
    cases result <;> rfl
  | use surroundings name extra =>
    cases result with
    | error error =>
      have refused :
          (Gateway.load code surroundings name extra).run session =
            (.returned (.error (.load error)), after) := Crossing.run_bind_of_returned ran
      exact ⟨after.journal, Crossing.run_bind_of_returned refused⟩
    | ok library =>
      rcases Gateway.run_load_of_opened ran with ⟨journal, taken⟩
      exact ⟨journal, Crossing.run_bind_of_returned taken⟩

/-- A request returns its answer, and leaves the libraries open that it says. -/
theorem run_perform (code : Exports W) (request : Request) (session : Session OpenedLibraries) :
    ∃ journal,
      (request.perform code).run session =
        (.returned (request.answer code session.world), ⟨request.left session.world, journal⟩) := by
  rw [answer, left]
  cases resolved : request.path? with
  | none => exact run_perform_of_load (SearchPath.run_load_of_unresolved resolved session)
  | some path =>
    rcases SearchPath.run_load_of_resolved resolved session with ⟨journal, ran⟩
    exact run_perform_of_load ran

/-- Whatever is wrong with an opened library, it was opened. -/
theorem isUnopened_of_obtained {library : Library} {error : InitError}
    (answered : request.obtained code library = .error error) : error.isUnopened = false := by
  cases request with
  | load surroundings searchPath name => cases answered
  | use surroundings name extra =>
    rw [obtained] at answered
    cases objected : library.image.firstObjection? with
    | none =>
      rw [objected] at answered
      cases answered
    | some objection =>
      rw [objected] at answered
      cases answered
      exact Image.isUnopened_of_firstObjection? objected

/-- How a request ends, and what is open afterwards. -/
inductive Ends (code : Exports W) (opened : OpenedLibraries) (request : Request) :
    Except InitError (Obtained W) → OpenedLibraries → Prop
  | unresolved (nothing : request.StandsForNothing) :
      Ends code opened request (.error request.notFound) opened
  | unloadable {path : Path} (stands : request.StandsFor path)
      (fresh : opened.find? path = none) (unloadable : request.surroundings.image? path = none) :
      Ends code opened request (.error (.load (.loadFailed path SearchPath.notALibrary))) opened
  | reused {path : Path} {library : Library} (stands : request.StandsFor path)
      (found : opened.find? path = some library) :
      Ends code opened request (request.obtained code library) opened
  | opened {path : Path} {image : Image} (stands : request.StandsFor path)
      (fresh : opened.find? path = none)
      (loadable : request.surroundings.image? path = some image) :
      Ends code opened request (request.obtained code ⟨opened.count, image⟩)
        (opened.insert path image).2

theorem ends (code : Exports W) (opened : OpenedLibraries) (request : Request) :
    Ends code opened request (request.answer code opened) (request.left opened) := by
  rw [answer, left]
  cases resolved : request.path? with
  | none => exact .unresolved (path?_eq_none_iff.mp resolved)
  | some path =>
    have stands := path?_eq_some_iff.mp resolved
    rcases SearchPath.open_cases request.surroundings opened path with
      ⟨library, found, answered, same⟩ | ⟨fresh, unloadable, answered, same⟩ |
        ⟨image, fresh, loadable, answered, same⟩
    · simp only [answered, same]
      exact .reused stands found
    · simp only [answered, same]
      exact .unloadable stands fresh unloadable
    · simp only [answered, same]
      exact .opened stands fresh loadable

namespace Ends

variable {answer : Except InitError (Obtained W)} {after : OpenedLibraries} {path : Path}

theorem entries_prefix (ended : Ends code opened request answer after) :
    opened.entries <+: after.entries := by
  cases ended with
  | unresolved | unloadable | reused => exact List.prefix_rfl
  | opened => exact List.prefix_append _ _

theorem after_eq_of_isUnopened (ended : Ends code opened request answer after) {error : InitError}
    (failed : answer = .error error) (unopened : error.isUnopened = true) : after = opened := by
  cases ended with
  | unresolved | unloadable | reused => rfl
  | opened =>
    rw [isUnopened_of_obtained failed] at unopened
    cases unopened

theorem eq_of_nothing (ended : Ends code opened request answer after)
    (nothing : request.StandsForNothing) : answer = .error request.notFound := by
  cases ended with
  | unresolved => rfl
  | unloadable stands | reused stands | opened stands =>
    exact (SearchPath.StandsFor.elim stands nothing).elim

/-- A path with a library that is open is answered with that library. -/
theorem eq_of_found (ended : Ends code opened request answer after)
    (stands : request.StandsFor path) {library : Library}
    (found : opened.find? path = some library) :
    answer = request.obtained code library ∧ after = opened := by
  cases ended with
  | unresolved nothing => exact (SearchPath.StandsFor.elim stands nothing).elim
  | unloadable also fresh | opened also fresh =>
    rw [SearchPath.StandsFor.unique stands also, found] at fresh
    cases fresh
  | reused also foundAlso =>
    rw [SearchPath.StandsFor.unique stands also, found] at foundAlso
    cases foundAlso
    exact ⟨rfl, rfl⟩

/-- Any other path is opened, if a library stands there. -/
theorem eq_of_fresh (ended : Ends code opened request answer after)
    (stands : request.StandsFor path) (fresh : opened.find? path = none) :
    match request.surroundings.image? path with
    | none => answer = .error (.load (.loadFailed path SearchPath.notALibrary))
    | some image =>
      answer = request.obtained code ⟨opened.count, image⟩ ∧
        after = (opened.insert path image).2 := by
  cases ended with
  | unresolved nothing => exact (SearchPath.StandsFor.elim stands nothing).elim
  | unloadable also _ unloadable =>
    obtain rfl := SearchPath.StandsFor.unique stands also
    rw [unloadable]
  | reused also found =>
    rw [SearchPath.StandsFor.unique stands also, fresh] at found
    cases found
  | opened also _ loadable =>
    obtain rfl := SearchPath.StandsFor.unique stands also
    rw [loadable]
    exact ⟨rfl, rfl⟩

/-- Where no library was opened, the answer says so. -/
theorem isUnopened_of_error (ended : Ends code opened request answer after) {error : InitError}
    (failed : answer = .error error) :
    error.isUnopened = true ∨ ∃ path, request.StandsFor path ∧ path.components ∈ after.keys := by
  cases ended with
  | unresolved | unloadable =>
    cases failed
    exact Or.inl rfl
  | @reused path _ stands found =>
    have known := OpenedLibraries.isSome_find?_iff.mp (Option.isSome_of_eq_some found)
    exact Or.inr ⟨path, stands, known⟩
  | @opened path _ stands =>
    refine Or.inr ⟨path, stands, ?_⟩
    rw [OpenedLibraries.keys_insert]
    exact List.mem_append_right _ (List.mem_singleton_self _)

end Ends

/-! ## Requests in order -/

def answers (code : Exports W) (opened : OpenedLibraries) :
    List Request → List (Except InitError (Obtained W))
  | [] => []
  | request :: rest => request.answer code opened :: answers code (request.left opened) rest

/-- The libraries that are open after some requests. -/
def reach (opened : OpenedLibraries) (requests : List Request) : OpenedLibraries :=
  requests.foldl left opened

/-- Requests made in order return their answers. -/
theorem run_performs (code : Exports W) (requests : List Request)
    (session : Session OpenedLibraries) :
    ∃ journal,
      (requests.mapM (perform code)).run session =
        (.returned (answers code session.world requests),
          ⟨reach session.world requests, journal⟩) := by
  induction requests generalizing session with
  | nil => exact ⟨session.journal, rfl⟩
  | cons request rest hypothesis =>
    rcases request.run_perform code session with ⟨between, ran⟩
    rcases hypothesis ⟨request.left session.world, between⟩ with ⟨journal, finished⟩
    refine ⟨journal, ?_⟩
    rw [List.mapM_cons, Crossing.run_bind_of_returned ran, Crossing.run_bind_of_returned finished]
    rfl

/-- Whether a request has opened a path, to judge by its answer: any answer but that no library was
opened. -/
def Opens (request : Request) (answer : Except InitError (Obtained W))
    (key : List Path.Component) : Prop :=
  (∀ error, answer = .error error → error.isUnopened = false) ∧
    ∃ path, request.StandsFor path ∧ path.components = key

/-- Whether one of some requests has opened a path. -/
def OpenedBy (requests : List Request) (answers : List (Except InitError (Obtained W)))
    (key : List Path.Component) : Prop :=
  ∃ pair ∈ requests.zip answers, pair.1.Opens pair.2 key

theorem opens_obtained_iff {path : Path} (stands : request.StandsFor path) (library : Library)
    (key : List Path.Component) :
    request.Opens (request.obtained code library) key ↔ key = path.components := by
  constructor
  · rintro ⟨-, other, also, rfl⟩
    rw [SearchPath.StandsFor.unique stands also]
  · rintro rfl
    exact ⟨fun _ => isUnopened_of_obtained, path, stands, rfl⟩

theorem not_opens_of_isUnopened {error : InitError} (unopened : error.isUnopened = true)
    (key : List Path.Component) : ¬ request.Opens (.error error : Except _ (Obtained W)) key := by
  rintro ⟨opened, -⟩
  rw [opened error rfl] at unopened
  cases unopened

/-- A request puts the path that it opens among those that are open, unless it stands there
already. -/
theorem keys_left (code : Exports W) (distinct : opened.Distinct) (request : Request) :
    (request.left opened).Distinct ∧
      ∀ key, key ∈ (request.left opened).keys ↔
        key ∈ opened.keys ∨ request.Opens (request.answer code opened) key := by
  have ended := request.ends code opened
  generalize request.answer code opened = answer, request.left opened = after at ended ⊢
  cases ended with
  | unresolved nothing =>
    exact ⟨distinct, fun key => (or_iff_left (not_opens_of_isUnopened rfl key)).symm⟩
  | unloadable stands fresh unloadable =>
    exact ⟨distinct, fun key => (or_iff_left (not_opens_of_isUnopened rfl key)).symm⟩
  | @reused path library stands found =>
    have known := OpenedLibraries.isSome_find?_iff.mp (Option.isSome_of_eq_some found)
    refine ⟨distinct, fun key => ?_⟩
    rw [opens_obtained_iff stands]
    constructor
    · exact Or.inl
    · rintro (member | rfl)
      · exact member
      · exact known
  | @opened path image stands fresh loadable =>
    refine ⟨distinct.insert fresh, fun key => ?_⟩
    rw [opens_obtained_iff stands, OpenedLibraries.keys_insert, List.mem_append,
      List.mem_singleton]

/-- What is open after some requests are the paths that were open before and those that they have
opened. -/
theorem keys_reach (code : Exports W) (distinct : opened.Distinct) (requests : List Request) :
    (reach opened requests).Distinct ∧
      ∀ key, key ∈ (reach opened requests).keys ↔
        key ∈ opened.keys ∨ OpenedBy requests (answers code opened requests) key := by
  induction requests generalizing opened with
  | nil =>
    refine ⟨distinct, fun key => ?_⟩
    simp [reach, OpenedBy]
  | cons request rest hypothesis =>
    rcases keys_left code distinct request with ⟨distinctLeft, first⟩
    rcases hypothesis distinctLeft with ⟨distinctLast, later⟩
    refine ⟨distinctLast, fun key => ?_⟩
    refine (later key).trans ?_
    rw [first key, or_assoc, answers, OpenedBy, OpenedBy, List.zip_cons_cons,
      List.exists_mem_cons_iff]

/-- A library that is found after a request was found before it, or the request has opened it. -/
theorem find?_left {library : Library} {path : Path} (request : Request)
    (found : (request.left opened).find? path = some library) :
    opened.find? path = some library ∨
      opened.find? path = none ∧
        ∃ first, request.StandsFor first ∧ first.components = path.components ∧
          request.surroundings.image? first = some library.image ∧
          library.place = opened.count := by
  rw [left] at found
  cases resolved : request.path? with
  | none =>
    rw [resolved] at found
    exact Or.inl found
  | some first =>
    rw [resolved] at found
    change
      (SearchPath.openLeft request.surroundings opened first).find? path = some library at found
    rcases SearchPath.open_cases request.surroundings opened first with
      ⟨-, -, -, same⟩ | ⟨-, -, -, same⟩ | ⟨image, -, loadable, -, same⟩
    · rw [same] at found
      exact Or.inl found
    · rw [same] at found
      exact Or.inl found
    · rw [same, OpenedLibraries.find?_insert] at found
      cases before : opened.find? path with
      | some other =>
        rw [before, Option.some_or] at found
        exact Or.inl found
      | none =>
        rw [before, Option.none_or] at found
        by_cases alike : first.same path = true
        · rw [if_pos alike] at found
          cases found
          have stands := path?_eq_some_iff.mp resolved
          exact Or.inr ⟨rfl, first, stands, Path.same_iff.mp alike, loadable, rfl⟩
        · rw [if_neg alike] at found
          cases found

/-- A library that is found after some requests was found before them, or one of them has opened
it. -/
theorem exists_opener {library : Library} {path : Path} (requests : List Request)
    (found : (reach opened requests).find? path = some library) :
    opened.find? path = some library ∨
      ∃ earlier opener later first,
        requests = earlier ++ opener :: later ∧ opener.StandsFor first ∧
          first.components = path.components ∧
          (reach opened earlier).find? path = none ∧
          opener.surroundings.image? first = some library.image ∧
          library.place = (reach opened earlier).count := by
  induction requests generalizing opened with
  | nil => exact Or.inl found
  | cons request rest hypothesis =>
    rcases hypothesis found with
      soon | ⟨earlier, opener, later, first, rfl, stands, same, fresh, loadable, place⟩
    · rcases request.find?_left soon with before | ⟨fresh, first, stands, same, loadable, place⟩
      · exact Or.inl before
      · exact Or.inr ⟨[], request, rest, first, rfl, stands, same, fresh, loadable, place⟩
    · exact
        Or.inr ⟨request :: earlier, opener, later, first, rfl, stands, same, fresh, loadable, place⟩

/-! ## Hosts that have opened nothing before -/

/-- Whether one of some requests has opened a path, the first requests of their host. -/
def Opened (code : Exports W) (requests : List Request) (key : List Path.Component) : Prop :=
  OpenedBy requests (answers code .none requests) key

/-- A library that one of some requests has opened under a path, as the first one that opened this
path: it is what was found there at that time, and has the next place. -/
def FirstOpened (code : Exports W) (requests : List Request) (path : Path) (library : Library) :
    Prop :=
  ∃ earlier opener later first,
    requests = earlier ++ opener :: later ∧ opener.StandsFor first ∧
      first.components = path.components ∧
      ¬ Opened code earlier path.components ∧
      opener.surroundings.image? first = some library.image ∧
      library.place = (reach .none earlier).count

theorem mem_keys_iff (code : Exports W) (requests : List Request) (key : List Path.Component) :
    key ∈ (reach .none requests).keys ↔ Opened code requests key := by
  refine ((keys_reach code OpenedLibraries.distinct_none requests).2 key).trans ?_
  exact or_iff_right List.not_mem_nil

/-- A library that is found was opened by one of the requests. -/
theorem firstOpened_of_find? (code : Exports W) (requests : List Request) {path : Path}
    {library : Library} (found : (reach .none requests).find? path = some library) :
    FirstOpened code requests path library := by
  rcases exists_opener requests found with
    nothing | ⟨earlier, opener, later, first, split, stands, same, fresh, loadable, place⟩
  · cases nothing
  · refine ⟨earlier, opener, later, first, split, stands, same, ?_, loadable, place⟩
    rw [← mem_keys_iff]
    exact OpenedLibraries.find?_eq_none_iff.mp fresh

/-- As many libraries are open as different paths were opened. -/
theorem exists_card_eq_count_reach (code : Exports W) (requests : List Request) :
    ∃ paths : Finset (List Path.Component),
      (∀ key, key ∈ paths ↔ Opened code requests key) ∧
        (reach .none requests).count = paths.card := by
  have distinct := (keys_reach code OpenedLibraries.distinct_none requests).1
  refine ⟨(reach .none requests).keys.toFinset, fun key => ?_, ?_⟩
  · rw [List.mem_toFinset, mem_keys_iff]
  · rw [List.toFinset_card_of_nodup distinct, OpenedLibraries.keys, List.length_map]
    rfl

/-- Among libraries that stand under different paths, one stands under a path that is open. -/
theorem countP_same_eq_one (distinct : opened.Distinct) {path : Path}
    (stands : path.components ∈ opened.keys) :
    (opened.entries.countP fun entry => entry.1.same path) = 1 := by
  have counted := List.count_eq_one_of_mem distinct stands
  rw [OpenedLibraries.keys, List.count, List.countP_map] at counted
  exact counted

/-- What holds of a request that is made after others. -/
structure Served (code : Exports W) (before : List Request) (request : Request)
    (answer : Except InitError (Obtained W)) (after : OpenedLibraries) : Prop where
  /-- Nothing that is open is ever closed. -/
  grows : (reach .none before).entries <+: after.entries
  /-- A request for which nothing is found or nothing can be opened changes nothing. -/
  unopened : ∀ error, answer = .error error → error.isUnopened = true →
    after = reach .none before
  /-- Nothing is found where the name stands for nothing, even if it has stood for a path that is
  open. -/
  missing : request.StandsForNothing → answer = .error request.notFound
  /-- A path that was opened leads to the library that was opened there first, whatever stands
  there now. -/
  reused : ∀ path, request.StandsFor path → Opened code before path.components →
    ∃ library, FirstOpened code before path library ∧
      answer = request.obtained code library ∧ after = reach .none before
  /-- Any other path is opened now, if a library stands there. -/
  fresh : ∀ path, request.StandsFor path → ¬ Opened code before path.components →
    match request.surroundings.image? path with
    | none => answer = .error (.load (.loadFailed path SearchPath.notALibrary))
    | some image =>
      answer = request.obtained code ⟨(reach .none before).count, image⟩ ∧
        after = ((reach .none before).insert path image).2
  /-- A library that is refused after it was opened is open nevertheless, and only once. -/
  refused : ∀ error, answer = .error error → error.isUnopened = false →
    ∃ path, request.StandsFor path ∧
      (after.entries.countP fun entry => entry.1.same path) = 1 ∧
      (Opened code before path.components → after = reach .none before) ∧
      (¬ Opened code before path.components →
        ∃ image, request.surroundings.image? path = some image ∧
          after = ((reach .none before).insert path image).2)

theorem served (code : Exports W) (before : List Request) (request : Request) :
    Served code before request (request.answer code (reach .none before))
      (request.left (reach .none before)) := by
  have ended := request.ends code (reach .none before)
  obtain ⟨distinctBefore, -⟩ := keys_reach code OpenedLibraries.distinct_none before
  obtain ⟨distinct, -⟩ := keys_left code distinctBefore request
  have fresh {path : Path} (absent : ¬ Opened code before path.components) :
      (reach .none before).find? path = none :=
    OpenedLibraries.find?_eq_none_iff.mpr ((mem_keys_iff code before _).not.mpr absent)
  have known {path : Path} (opened : Opened code before path.components) :
      ∃ library, (reach .none before).find? path = some library :=
    Option.isSome_iff_exists.mp
      (OpenedLibraries.isSome_find?_iff.mpr ((mem_keys_iff code before _).mpr opened))
  refine ⟨ended.entries_prefix, fun _ => ended.after_eq_of_isUnopened, ended.eq_of_nothing, ?_,
    fun path stands absent => ended.eq_of_fresh stands (fresh absent), ?_⟩
  · intro path stands opened
    obtain ⟨library, found⟩ := known opened
    obtain ⟨answered, same⟩ := ended.eq_of_found stands found
    exact ⟨library, firstOpened_of_find? code before found, answered, same⟩
  · intro error failed notUnopened
    rcases ended.isUnopened_of_error failed with unopened | ⟨path, stands, member⟩
    · rw [unopened] at notUnopened
      cases notUnopened
    · refine ⟨path, stands, countP_same_eq_one distinct member, ?_, ?_⟩
      · intro opened
        obtain ⟨library, found⟩ := known opened
        exact (ended.eq_of_found stands found).2
      · intro absent
        have answered := ended.eq_of_fresh stands (fresh absent)
        cases loadable : request.surroundings.image? path with
        | none =>
          rw [loadable, failed] at answered
          cases answered
          cases notUnopened
        | some image =>
          rw [loadable] at answered
          exact ⟨image, rfl, answered.2⟩

/-- However libraries are asked for, in whatever surroundings, a host has opened as many libraries
as different paths were opened by its requests, and each further request keeps to `Served`. -/
theorem count_is_number_of_paths (code : Exports W) (journal : Journal) (before : List Request)
    (request : Request) :
    ∃ reached after : Session OpenedLibraries,
      (before.mapM (perform code)).run ⟨.none, journal⟩ =
          (.returned (answers code .none before), reached) ∧
        (request.perform code).run reached =
          (.returned (request.answer code reached.world), after) ∧
        reached.world = reach .none before ∧
        (∃ paths : Finset (List Path.Component),
          (∀ key, key ∈ paths ↔ Opened code before key) ∧ reached.world.count = paths.card) ∧
        Served code before request (request.answer code reached.world) after.world := by
  rcases run_performs code before ⟨.none, journal⟩ with ⟨between, ran⟩
  rcases request.run_perform code ⟨reach .none before, between⟩ with ⟨last, finished⟩
  exact
    ⟨⟨reach .none before, between⟩, ⟨request.left (reach .none before), last⟩, ran, finished, rfl,
      exists_card_eq_count_reach code before, served code before request⟩

/-- A library, and beside it another one that lacks a guard. -/
def stocked : Surroundings where
  storage := Storage.empty
    |>.addFile ["opt", "libone.so"] (.library .complete)
    |>.addFile ["opt", "libbare.so"] (.library (.exporting 0 []))
  current := []
  environment _ := none
  home := none

/-- The library was replaced by a file that is none. -/
def replaced : Surroundings :=
  stocked.apply (.addFile ["opt", "libone.so"] (.bytes []))

/-- The library was removed. -/
def emptied : Surroundings :=
  stocked.apply (.remove ["opt", "libone.so"])

theorem count_is_number_of_paths_growing :
    let opt : SearchPath := ⟨[.ofText "/opt"]⟩
    let dotted := (Path.ofText "/opt/.").joinName "libone.so"
    let one : Request := .load stocked opt "one"
    let bare : Request := .use stocked "bare" [.ofText "/opt"]
    let again : Request := .load replaced ⟨[.ofText "/opt/."]⟩ "one"
    let gone : Request := .load emptied opt "one"
    let unguarded := InitError.load (.symbolNotFound "ferrule_api_guard" Image.undefinedSymbol)
    (reach .none [one]).count = 1 ∧
      again.StandsFor dotted ∧ replaced.image? dotted = none ∧
      ∃ reached after last found library,
        ([one, bare].mapM (perform Reference.table)).run ⟨.none, []⟩ =
            (.returned [found, .error unguarded], reached) ∧
          reached.world.count = 2 ∧
          (again.perform Reference.table).run reached =
            (.returned (.ok (.library library)), after) ∧
          FirstOpened Reference.table [one, bare] dotted library ∧
          after.world.count = 2 ∧
          (gone.perform Reference.table).run reached = (.returned (.error gone.notFound), last) ∧
          last.world.count = 2 := by
  intro opt dotted one bare again gone unguarded
  have stands : again.StandsFor dotted := path?_eq_some_iff.mp (by decide +kernel)
  have nothing : gone.StandsForNothing := path?_eq_none_iff.mp (by decide +kernel)
  have unloadable : replaced.image? dotted = none := by decide +kernel
  have opened : Opened Reference.table [one, bare] dotted.components := by
    rw [← mem_keys_iff]
    decide +kernel
  have counted : (reach .none [one, bare]).count = 2 := by decide +kernel
  have refused : bare.answer Reference.table (reach .none [one]) = .error unguarded := by
    let path := (Path.ofText "/opt").joinName "libbare.so"
    have found : bare.StandsFor path := path?_eq_some_iff.mp (by decide +kernel)
    have unopened : ¬ Opened Reference.table [one] path.components := by
      rw [← mem_keys_iff]
      decide +kernel
    have located : stocked.storage.locate stocked.current path = .ok ["opt", "libbare.so"] := by
      decide +kernel
    have loadable : bare.surroundings.image? path = some (.exporting 0 []) :=
      Surroundings.image?_of_content (by decide +kernel) (Storage.content_of_file located rfl)
    have answered := (served Reference.table [one] bare).fresh path found unopened
    rw [loadable] at answered
    exact answered.1
  refine ⟨by decide +kernel, stands, unloadable, ?_⟩
  obtain ⟨reached, after, ran, againRan, held, -, again⟩ :=
    count_is_number_of_paths Reference.table [] [one, bare] again
  obtain ⟨other, last, ranToo, goneRan, -, -, gone⟩ :=
    count_is_number_of_paths Reference.table [] [one, bare] gone
  obtain rfl : reached = other := congrArg Prod.snd (ran.symm.trans ranToo)
  obtain ⟨library, first, answered, same⟩ := again.reused dotted stands opened
  rw [answered] at againRan
  rw [gone.missing nothing] at goneRan
  have both :
      answers Reference.table .none [one, bare] =
        [one.answer Reference.table .none, .error unguarded] :=
    congrArg (fun second => [one.answer Reference.table .none, second]) refused
  rw [both] at ran
  refine ⟨reached, after, last, _, library, ran, held ▸ counted, againRan, first, ?_, goneRan, ?_⟩
  · rw [same, counted]
  · rw [gone.unopened _ (gone.missing nothing) rfl, counted]

end Request

end NativeBoundary
