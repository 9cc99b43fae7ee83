import NativeBoundary.Loading.SearchPath

/-!
# What a name stands for

A name that is a path stands for itself.  Any other name stands for the first file
that exists among its two file names in each directory, one directory after the other.
A name stands for one path at most, and for nothing if none of its files exists: so it
comes to one or the other, and never to both.  That is what the search finds.
-/

namespace NativeBoundary

namespace SearchPath

/-- None of the files that a short name stands for exists in a directory. -/
def Lacks (surroundings : Surroundings) (name : String) (directory : Path) : Prop :=
  surroundings.pathExists (directory.joinName ("lib" ++ name ++ ".so")) = false ∧
    surroundings.pathExists (directory.joinName (name ++ ".so")) = false

/-- A name that is absolute or has more than one component. -/
def NamesPath (name : String) : Prop :=
  (Path.ofText name).isAbsolute = true ∨ 1 < (Path.ofText name).components.length

/-- The path that a name stands for. -/
inductive StandsFor (surroundings : Surroundings) (directories : List Path) (name : String) :
    Path → Prop
  /-- A path stands for itself. -/
  | itself (isPath : NamesPath name)
      (exist : surroundings.pathExists (Path.ofText name) = true) :
      StandsFor surroundings directories name (Path.ofText name)
  /-- The likelier file of the first directory that does not lack both. -/
  | likelier {before after : List Path} {directory : Path} (short : ¬ NamesPath name)
      (split : directories = before ++ directory :: after)
      (lacking : ∀ earlier ∈ before, Lacks surroundings name earlier)
      (exist : surroundings.pathExists (directory.joinName ("lib" ++ name ++ ".so")) = true) :
      StandsFor surroundings directories name (directory.joinName ("lib" ++ name ++ ".so"))
  /-- Its other file, if it lacks the likelier one. -/
  | other {before after : List Path} {directory : Path} (short : ¬ NamesPath name)
      (split : directories = before ++ directory :: after)
      (lacking : ∀ earlier ∈ before, Lacks surroundings name earlier)
      (missing : surroundings.pathExists (directory.joinName ("lib" ++ name ++ ".so")) = false)
      (exist : surroundings.pathExists (directory.joinName (name ++ ".so")) = true) :
      StandsFor surroundings directories name (directory.joinName (name ++ ".so"))

/-- Nothing exists that a name could stand for. -/
def StandsForNothing (surroundings : Surroundings) (directories : List Path) (name : String) :
    Prop :=
  (NamesPath name → surroundings.pathExists (Path.ofText name) = false) ∧
    (¬ NamesPath name → ∀ directory ∈ directories, Lacks surroundings name directory)

theorem isPath_iff (name : String) : isPath name = true ↔ NamesPath name := by
  simp [isPath, NamesPath]

variable {surroundings : Surroundings} {searchPath : SearchPath} {name : String} {path : Path}

/-- The file that is found in one directory. -/
def inDirectory? (surroundings : Surroundings) (name : String) (directory : Path) : Option Path :=
  ((candidates name).map directory.joinName).find? surroundings.pathExists

theorem inDirectory?_eq_none_iff {directory : Path} :
    inDirectory? surroundings name directory = none ↔ Lacks surroundings name directory := by
  simp [inDirectory?, candidates, Lacks]

theorem inDirectory?_eq_some_iff {directory : Path} :
    inDirectory? surroundings name directory = some path ↔
      surroundings.pathExists (directory.joinName ("lib" ++ name ++ ".so")) = true ∧
          directory.joinName ("lib" ++ name ++ ".so") = path ∨
        surroundings.pathExists (directory.joinName ("lib" ++ name ++ ".so")) = false ∧
          surroundings.pathExists (directory.joinName (name ++ ".so")) = true ∧
          directory.joinName (name ++ ".so") = path := by
  unfold inDirectory? candidates
  cases likelier : surroundings.pathExists (directory.joinName ("lib" ++ name ++ ".so")) <;>
    cases other : surroundings.pathExists (directory.joinName (name ++ ".so")) <;>
      simp [likelier, other]

theorem resolve?_of_path (isPath : NamesPath name) :
    searchPath.resolve? surroundings name =
      if surroundings.pathExists (Path.ofText name) then some (Path.ofText name) else none := by
  rw [resolve?, trials, if_pos ((isPath_iff name).mpr isPath)]
  cases exist : surroundings.pathExists (Path.ofText name) <;> simp [exist]

theorem resolve?_of_short (short : ¬ NamesPath name) :
    searchPath.resolve? surroundings name =
      searchPath.directories.findSome? (inDirectory? surroundings name) := by
  rw [resolve?, trials, if_neg (fun isPath => short ((isPath_iff name).mp isPath)),
    List.find?_flatMap]
  rfl

theorem resolve?_eq_some_iff :
    searchPath.resolve? surroundings name = some path ↔
      StandsFor surroundings searchPath.directories name path := by
  by_cases isPath : NamesPath name
  · rw [resolve?_of_path isPath]
    constructor
    · intro resolved
      split at resolved
      · rename_i exist
        cases resolved
        exact .itself isPath exist
      · cases resolved
    · intro stands
      cases stands with
      | itself _ exist => rw [if_pos exist]
      | likelier short | other short => exact absurd isPath short
  · rw [resolve?_of_short isPath, List.findSome?_eq_some_iff]
    constructor
    · rintro ⟨before, directory, after, split, found, none⟩
      have lacking : ∀ earlier ∈ before, Lacks surroundings name earlier :=
        fun earlier member => inDirectory?_eq_none_iff.mp (none earlier member)
      rcases inDirectory?_eq_some_iff.mp found with ⟨exist, rfl⟩ | ⟨missing, exist, rfl⟩
      · exact .likelier isPath split lacking exist
      · exact .other isPath split lacking missing exist
    · intro stands
      cases stands with
      | itself named _ => exact absurd named isPath
      | @likelier before after directory _ split lacking exist =>
        refine ⟨before, directory, after, split, ?_, ?_⟩
        · exact inDirectory?_eq_some_iff.mpr (.inl ⟨exist, rfl⟩)
        · exact fun earlier member => inDirectory?_eq_none_iff.mpr (lacking earlier member)
      | @other before after directory _ split lacking missing exist =>
        refine ⟨before, directory, after, split, ?_, ?_⟩
        · exact inDirectory?_eq_some_iff.mpr (.inr ⟨missing, exist, rfl⟩)
        · exact fun earlier member => inDirectory?_eq_none_iff.mpr (lacking earlier member)

theorem resolve?_eq_none_iff :
    searchPath.resolve? surroundings name = none ↔
      StandsForNothing surroundings searchPath.directories name := by
  by_cases isPath : NamesPath name
  · rw [resolve?_of_path isPath]
    simp [StandsForNothing, isPath]
  · rw [resolve?_of_short isPath, List.findSome?_eq_none_iff]
    simp [StandsForNothing, isPath, inDirectory?_eq_none_iff]

variable {directories : List Path}

theorem StandsFor.exist (stands : StandsFor surroundings directories name path) :
    surroundings.pathExists path = true := by
  cases stands with
  | itself _ exist | likelier _ _ _ exist | other _ _ _ _ exist => exact exist

/-- What a name comes to: the path that it stands for, or no path where it stands for nothing. -/
inductive ComesTo (surroundings : Surroundings) (directories : List Path) (name : String) :
    Option Path → Prop
  | path {path : Path} (stands : StandsFor surroundings directories name path) :
      ComesTo surroundings directories name (some path)
  | nothing (nothing : StandsForNothing surroundings directories name) :
      ComesTo surroundings directories name none

/-- The search finds what the name comes to. -/
theorem resolve?_eq_iff {found? : Option Path} :
    searchPath.resolve? surroundings name = found? ↔
      ComesTo surroundings searchPath.directories name found? := by
  cases found? with
  | none =>
    rw [resolve?_eq_none_iff]
    constructor
    · exact .nothing
    · rintro (_ | nothing)
      exact nothing
  | some path =>
    rw [resolve?_eq_some_iff]
    constructor
    · exact .path
    · rintro (stands | _)
      exact stands

/-- A name comes to one thing alone. -/
theorem ComesTo.unique {found? other? : Option Path}
    (comes : ComesTo surroundings directories name found?)
    (also : ComesTo surroundings directories name other?) : other? = found? := by
  have resolved : resolve? ⟨directories⟩ surroundings name = found? := resolve?_eq_iff.mpr comes
  exact (resolve?_eq_iff.mpr also).symm.trans resolved

theorem StandsFor.unique (stands : StandsFor surroundings directories name path) {other : Path}
    (also : StandsFor surroundings directories name other) : other = path :=
  Option.some.inj (ComesTo.unique (.path stands) (.path also))

/-- A name does not stand for something and for nothing. -/
theorem StandsFor.elim (stands : StandsFor surroundings directories name path)
    (nothing : StandsForNothing surroundings directories name) : False := by
  cases ComesTo.unique (.path stands) (.nothing nothing)

end SearchPath

end NativeBoundary
