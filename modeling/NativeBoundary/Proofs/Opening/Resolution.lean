import NativeBoundary.Proofs.Opening.Requests
import NativeBoundary.Reference.Table

/-!
# How loading a name ends

What exists first is final: it is opened or it fails to open, and no later directory
makes a difference.  That a library is not found says that none of the files exists that
its name could stand for.

In surroundings that do not change, whatever was opened before under any spelling makes
no difference either: a file that is no library has not been opened.
-/

namespace NativeBoundary

variable {W : Type}

namespace SearchPath

variable {surroundings : Surroundings} {searchPath : SearchPath} {name : String} {path : Path}
  {directories : List Path}

/-! ## How loading ends -/

/-- How loading a name ends for a host, and what it has opened afterwards. -/
inductive LoadEnds (surroundings : Surroundings) (directories : List Path) (name : String)
    (opened : OpenedLibraries) : Except LoadError Library → OpenedLibraries → Prop
  | notFound (nothing : StandsForNothing surroundings directories name) :
      LoadEnds surroundings directories name opened
        (.error (.libraryNotFound name directories.length)) opened
  | failed {path : Path} (stands : StandsFor surroundings directories name path)
      (unloadable : surroundings.image? path = none) :
      LoadEnds surroundings directories name opened (.error (.loadFailed path notALibrary)) opened
  | loaded {path : Path} {image : Image} (stands : StandsFor surroundings directories name path)
      (loadable : surroundings.image? path = some image) (place : Nat)
      (after : OpenedLibraries) :
      LoadEnds surroundings directories name opened (.ok ⟨place, image⟩) after

namespace LoadEnds

variable {opened after : OpenedLibraries} {result : Except LoadError Library}

theorem eq_libraryNotFound_iff (ends : LoadEnds surroundings directories name opened result after)
    (missing : String) (searched : Nat) :
    result = .error (.libraryNotFound missing searched) ↔
      StandsForNothing surroundings directories name ∧ missing = name ∧
        searched = directories.length := by
  cases ends with
  | notFound nothing =>
    constructor
    · intro same
      cases same
      exact ⟨nothing, rfl, rfl⟩
    · rintro ⟨-, rfl, rfl⟩
      rfl
  | failed stands unloadable => exact iff_of_false nofun fun both => stands.elim both.1
  | loaded stands loadable place => exact iff_of_false nofun fun both => stands.elim both.1

theorem eq_loadFailed_iff (ends : LoadEnds surroundings directories name opened result after)
    (path : Path) (reason : String) :
    result = .error (.loadFailed path reason) ↔
      StandsFor surroundings directories name path ∧ surroundings.image? path = none ∧
        reason = notALibrary := by
  cases ends with
  | notFound nothing => exact iff_of_false nofun fun all => all.1.elim nothing
  | failed stands unloadable =>
    constructor
    · intro same
      cases same
      exact ⟨stands, unloadable, rfl⟩
    · rintro ⟨also, -, rfl⟩
      rw [stands.unique also]
  | loaded stands loadable place =>
    refine iff_of_false nofun ?_
    rintro ⟨also, unloadable, -⟩
    rw [stands.unique also, loadable] at unloadable
    cases unloadable

theorem eq_ok_iff (ends : LoadEnds surroundings directories name opened result after)
    (image : Image) :
    (∃ place, result = .ok ⟨place, image⟩) ↔
      ∃ path, StandsFor surroundings directories name path ∧
        surroundings.image? path = some image := by
  cases ends with
  | notFound nothing => exact iff_of_false nofun fun ⟨path, stands, _⟩ => stands.elim nothing
  | failed stands unloadable =>
    refine iff_of_false nofun ?_
    rintro ⟨path, also, loadable⟩
    rw [stands.unique also, unloadable] at loadable
    cases loadable
  | @loaded path other stands loadable place =>
    constructor
    · rintro ⟨place, same⟩
      cases same
      exact ⟨path, stands, loadable⟩
    · rintro ⟨_, also, loads⟩
      rw [stands.unique also, loadable] at loads
      cases loads
      exact ⟨place, rfl⟩

theorem opened_of_error (ends : LoadEnds surroundings directories name opened result after)
    {error : LoadError} (failed : result = .error error) : after = opened := by
  cases ends with
  | notFound nothing => rfl
  | failed stands unloadable => rfl
  | loaded stands loadable place => cases failed

end LoadEnds

end SearchPath

namespace Request

variable {surroundings : Surroundings} {before : List Request} {path : Path}
  {directories : List Path} {name : String}

/-- In surroundings that do not change, what has been opened under a path can be loaded there. -/
theorem image?_of_find?_reach {library : Library}
    (steady : ∀ request ∈ before, request.surroundings = surroundings)
    (found : (reach .none before).find? path = some library)
    (stands : SearchPath.StandsFor surroundings directories name path) :
    surroundings.image? path = some library.image := by
  rcases exists_opener before found with
    nothing | ⟨earlier, opener, later, first, rfl, -, same, -, loadable, -⟩
  · cases nothing
  · rw [steady opener (by simp)] at loadable
    exact Surroundings.image?_of_components same stands.isPlainest loadable stands.exist

/-- So opening a path answers the library that can be loaded there, and fails if none can. -/
theorem loadEnds_reach (steady : ∀ request ∈ before, request.surroundings = surroundings)
    (searchPath : SearchPath) (name : String) (between : Journal) :
    ∃ result after,
      (searchPath.load surroundings name).run ⟨reach .none before, between⟩ =
          (.returned result, after) ∧
        SearchPath.LoadEnds surroundings searchPath.directories name (reach .none before) result
          after.world := by
  cases resolved : searchPath.resolve? surroundings name with
  | none =>
    exact
      ⟨_, _, SearchPath.run_load_of_unresolved resolved _,
        .notFound (SearchPath.resolve?_eq_none_iff.mp resolved)⟩
  | some path =>
    have stands := SearchPath.resolve?_eq_some_iff.mp resolved
    rcases SearchPath.run_load_of_resolved resolved ⟨reach .none before, between⟩ with
      ⟨last, loaded⟩
    refine ⟨_, _, loaded, ?_⟩
    rcases SearchPath.open_cases surroundings (reach .none before) path with
      ⟨library, found, answered, -⟩ | ⟨-, unloadable, answered, same⟩ |
        ⟨image, -, loadable, answered, -⟩
    · rw [answered]
      exact .loaded stands (image?_of_find?_reach steady found stands) library.place _
    · rw [answered, same]
      exact .failed stands unloadable
    · rw [answered]
      exact .loaded stands loadable _ _

end Request

namespace SearchPath

open Request

/-! ## The main statement -/

/-- Further directories are searched first, in their order, then the current one, unless it is gone,
and those of the system.  Wherever libraries are searched, and whatever was opened before: a name
that stands for a path comes to opening this path and nothing else, and a name that stands for
nothing is not found, with the number of directories told.

After any requests in the same surroundings, this tells how loading ends.  The library is not found
exactly if the name stands for nothing, loading fails exactly if it stands for something that is no
library, and else it answers the library that stands there. -/
theorem first_existing_entry_is_final (code : Exports W) (surroundings : Surroundings)
    (journal : Journal) (before : List Request)
    (steady : ∀ request ∈ before, request.surroundings = surroundings) (searchPath : SearchPath)
    (name : String) :
    let stands := StandsFor surroundings searchPath.directories name
    let nothing := StandsForNothing surroundings searchPath.directories name
    let load := searchPath.load surroundings name
    let system : List Path :=
      [.ofText "/usr/local/lib", .ofText "/usr/lib", .ofText "/lib", .ofText "/usr/lib64",
        .ofText "/lib64"]
    (∀ extra,
      (surroundings.storage surroundings.current = some .directory →
        (extended surroundings.currentPath? extra).directories =
          extra ++ surroundings.currentPath :: system) ∧
      (surroundings.storage surroundings.current ≠ some .directory →
        (extended surroundings.currentPath? extra).directories = extra ++ system)) ∧
    (∀ session,
      (∀ path, stands path → load.run session = (openPath surroundings path).run session) ∧
        (nothing →
          load.run session =
            (.returned (.error (.libraryNotFound name searchPath.directories.length)), session))) ∧
    ∃ reached result after,
      (before.mapM (perform code)).run ⟨.none, journal⟩ =
          (.returned (answers code .none before), reached) ∧
        load.run reached = (.returned result, after) ∧
        (∀ missing searched,
          result = .error (.libraryNotFound missing searched) ↔
            nothing ∧ missing = name ∧ searched = searchPath.directories.length) ∧
        (∀ path reason,
          result = .error (.loadFailed path reason) ↔
            stands path ∧ surroundings.image? path = none ∧ reason = notALibrary) ∧
        (∀ image,
          (∃ place, result = .ok ⟨place, image⟩) ↔
            ∃ path, stands path ∧ surroundings.image? path = some image) ∧
        ∀ error, result = .error error → after.world = reached.world := by
  intro stands nothing load system
  refine ⟨fun extra => ⟨fun told => ?_, fun untold => ?_⟩, ?_, ?_⟩
  · rw [directories_extended, Surroundings.currentPath?_of_directory told]
    rfl
  · rw [directories_extended, Surroundings.currentPath?_of_missing untold]
    rfl
  · intro session
    constructor
    · intro path found
      change (searchPath.load surroundings name).run session = _
      rw [SearchPath.load, resolve?_eq_some_iff.mpr found]
    · intro none
      exact run_load_of_unresolved (resolve?_eq_none_iff.mpr none) session
  · rcases run_performs code before ⟨.none, journal⟩ with ⟨between, ran⟩
    rcases loadEnds_reach steady searchPath name between with ⟨result, after, loaded, ends⟩
    exact
      ⟨⟨reach .none before, between⟩, result, after, ran, loaded, ends.eq_libraryNotFound_iff,
        ends.eq_loadFailed_iff, ends.eq_ok_iff, fun _ => ends.opened_of_error⟩

/-- A directory with a file that is no library, before one with a library of the same name. -/
def competing : Surroundings where
  storage := Storage.empty
    |>.addFile ["first", "libx.so"] (.bytes [])
    |>.addFile ["second", "libx.so"] (.library .complete)
  current := []
  environment _ := none
  home := .ofText "/home"

theorem first_existing_entry_is_final_competing :
    let searchPath := extended competing.currentPath? [.ofText "/first/", .ofText "/second"]
    let before : List Request := [.load competing ⟨[.ofText "/second/."]⟩ "x"]
    let first := (Path.ofText "/first/").joinName "libx.so"
    (∀ request ∈ before, request.surroundings = competing) ∧
      StandsFor competing searchPath.directories "x" first ∧
      StandsForNothing competing searchPath.directories "y" ∧
      ∃ reached after,
        (before.mapM (perform Reference.table)).run ⟨.none, []⟩ =
            (.returned (answers Reference.table .none before), reached) ∧
          reached.world.count = 1 ∧
          (searchPath.load competing "x").run reached =
            (.returned (.error (.loadFailed first notALibrary)), after) ∧
          (searchPath.load competing "y").run reached =
            (.returned (.error (.libraryNotFound "y" 8)), reached) := by
  intro searchPath before first
  have steady : ∀ request ∈ before, request.surroundings = competing :=
    fun request member => by rw [List.mem_singleton.mp member]; rfl
  have stands : StandsFor competing searchPath.directories "x" first :=
    resolve?_eq_some_iff.mp (by decide +kernel)
  have nothing : StandsForNothing competing searchPath.directories "y" :=
    resolve?_eq_none_iff.mp (by decide +kernel)
  have unloadable : competing.image? first = none := by decide +kernel
  rcases first_existing_entry_is_final Reference.table competing [] before steady searchPath "x"
    with ⟨-, -, reached, result, after, ran, loaded, -, fails, -⟩
  rcases first_existing_entry_is_final Reference.table competing [] before steady searchPath "y"
    with ⟨-, missing, -⟩
  have opened : reached.world.count = 1 := by
    have counted :
        ((before.mapM (perform Reference.table)).run ⟨.none, []⟩).2.world.count = 1 := by
      decide +kernel
    rwa [ran] at counted
  refine ⟨steady, stands, nothing, reached, after, ran, opened, ?_, (missing reached).2 nothing⟩
  rw [loaded, (fails first notALibrary).mpr ⟨stands, unloadable, rfl⟩]

end SearchPath

end NativeBoundary
