import NativeBoundary.Proofs.Admission.Guarded

/-!
# What a host has opened, by paths

A host finds a library again by the components of its path.  Opening a path either
finds a library, and then leaves everything as it is, or puts a new one behind all
others.  So what stands under a path never changes, and no two libraries stand under
one path.
-/

namespace NativeBoundary

theorem Path.same_iff {first second : Path} :
    first.same second = true ↔ first.components = second.components := beq_iff_eq

namespace OpenedLibraries

variable {opened : OpenedLibraries} {path : Path} {image : Image}

/-- The paths under which libraries are found, by their components. -/
def keys (opened : OpenedLibraries) : List (List Path.Component) :=
  opened.entries.map fun entry => entry.1.components

/-- No two libraries stand under one path. -/
def Distinct (opened : OpenedLibraries) : Prop :=
  opened.keys.Nodup

theorem distinct_none : none.Distinct := List.nodup_nil

/-- A library is found behind those that are there already. -/
theorem find?_insert (opened : OpenedLibraries) (path : Path) (image : Image) (other : Path) :
    (opened.insert path image).2.find? other =
      (opened.find? other).or (if path.same other then some ⟨opened.count, image⟩ else .none) := by
  simp only [find?, insert, count, List.zipIdx_append, List.find?_append, Option.map_or]
  by_cases same : path.same other = true
  · simp [same]
  · simp [same]

theorem find?_eq_none_iff : opened.find? path = .none ↔ path.components ∉ opened.keys := by
  rw [find?, Option.map_eq_none_iff, List.find?_eq_none, keys, List.mem_map]
  constructor
  · rintro absent ⟨entry, member, same⟩
    rcases List.getElem_of_mem member with ⟨place, bound, listed⟩
    refine absent (entry, place) ?_ (Path.same_iff.mpr same)
    exact List.mk_mem_zipIdx_iff_getElem?.mpr (listed ▸ List.getElem?_eq_getElem bound)
  · rintro absent ⟨entry, place⟩ member same
    have listed := List.mk_mem_zipIdx_iff_getElem?.mp member
    exact absent ⟨entry, List.mem_of_getElem? listed, Path.same_iff.mp same⟩

theorem isSome_find?_iff : (opened.find? path).isSome ↔ path.components ∈ opened.keys := by
  rw [Option.isSome_iff_ne_none, ne_eq, find?_eq_none_iff, Decidable.not_not]

@[simp]
theorem keys_insert (opened : OpenedLibraries) (path : Path) (image : Image) :
    (opened.insert path image).2.keys = opened.keys ++ [path.components] :=
  List.map_append

theorem Distinct.insert (distinct : opened.Distinct) (fresh : opened.find? path = .none) :
    (opened.insert path image).2.Distinct := by
  have absent := find?_eq_none_iff.mp fresh
  rw [Distinct, keys_insert]
  have alone : [path.components].Nodup := List.nodup_cons.mpr ⟨List.not_mem_nil, List.nodup_nil⟩
  refine List.nodup_append.mpr ⟨distinct, alone, ?_⟩
  intro key member other last same
  rw [List.mem_singleton.mp last] at same
  exact absent (same ▸ member)

end OpenedLibraries

/-! ## Opening a path -/

namespace SearchPath

/-- What opening a path answers to a host that has opened some libraries. -/
def openAnswer (surroundings : Surroundings) (opened : OpenedLibraries) (path : Path) :
    Except LoadError Library :=
  match opened.find? path with
  | some library => .ok library
  | none =>
    match surroundings.image? path with
    | none => .error (.loadFailed path notALibrary)
    | some image => .ok ⟨opened.count, image⟩

/-- And what the host has opened afterwards. -/
def openLeft (surroundings : Surroundings) (opened : OpenedLibraries) (path : Path) :
    OpenedLibraries :=
  match opened.find? path with
  | some _ => opened
  | none =>
    match surroundings.image? path with
    | none => opened
    | some image => (opened.insert path image).2

variable {searchPath : SearchPath} {surroundings : Surroundings} {name : String}
  {opened : OpenedLibraries} {path : Path}

theorem run_openPath (surroundings : Surroundings) (path : Path)
    (session : Session OpenedLibraries) :
    ∃ journal,
      (openPath surroundings path).run session =
        (.returned (openAnswer surroundings session.world path),
          ⟨openLeft surroundings session.world path, journal⟩) := by
  have asked :
      (Crossing.world : Crossing OpenedLibraries OpenedLibraries).run session =
        (.returned session.world, session) := rfl
  rw [openPath, Crossing.run_bind_of_returned asked, openAnswer, openLeft]
  cases session.world.find? path with
  | some library => exact ⟨.raised (reusedRecord path) :: session.journal, rfl⟩
  | none =>
    cases surroundings.image? path with
    | none => exact ⟨session.journal, rfl⟩
    | some image => exact ⟨.raised (openedRecord path) :: session.journal, rfl⟩

/-- A name that stands for nothing opens nothing. -/
theorem run_load_of_unresolved (nothing : searchPath.resolve? surroundings name = none)
    (session : Session OpenedLibraries) :
    (searchPath.load surroundings name).run session =
      (.returned (.error (.libraryNotFound name searchPath.directories.length)), session) := by
  rw [load, nothing]
  rfl

theorem run_load_of_resolved (resolved : searchPath.resolve? surroundings name = some path)
    (session : Session OpenedLibraries) :
    ∃ journal,
      (searchPath.load surroundings name).run session =
        (.returned (openAnswer surroundings session.world path),
          ⟨openLeft surroundings session.world path, journal⟩) := by
  rw [load, resolved]
  exact run_openPath surroundings path session

/-- Opening a path leads to one of three ends: it was open, it cannot be opened, or it is opened
now. -/
theorem open_cases (surroundings : Surroundings) (opened : OpenedLibraries) (path : Path) :
    (∃ library, opened.find? path = some library ∧
        openAnswer surroundings opened path = .ok library ∧
        openLeft surroundings opened path = opened) ∨
      (opened.find? path = none ∧ surroundings.image? path = none ∧
        openAnswer surroundings opened path = .error (.loadFailed path notALibrary) ∧
        openLeft surroundings opened path = opened) ∨
      ∃ image, opened.find? path = none ∧ surroundings.image? path = some image ∧
        openAnswer surroundings opened path = .ok ⟨opened.count, image⟩ ∧
        openLeft surroundings opened path = (opened.insert path image).2 := by
  rw [openAnswer, openLeft]
  cases found : opened.find? path with
  | some library => exact Or.inl ⟨library, rfl, rfl, rfl⟩
  | none =>
    cases loadable : surroundings.image? path with
    | none => exact Or.inr (Or.inl ⟨rfl, rfl, rfl, rfl⟩)
    | some image => exact Or.inr (Or.inr ⟨image, rfl, rfl, rfl, rfl⟩)

end SearchPath

end NativeBoundary
