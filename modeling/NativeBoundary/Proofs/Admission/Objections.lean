import NativeBoundary.Gateway.Loaded
import NativeBoundary.Proofs.Opening.Candidates

/-!
# Objections to a library

Up to five things may be wrong with a library that is asked for: its name stands for
nothing, the file that it stands for is no library, the library has no guard, its guard
reports another surface, or it lacks an export.  Each of them is told here by itself,
whatever else is wrong, and the first objection in this order is the one that counts.
-/

namespace NativeBoundary

/-- A value, unless something is objected. -/
def unlessObjected {ε α : Type} (objection? : Option ε) (value : α) : Except ε α :=
  match objection? with
  | some objection => .error objection
  | none => .ok value

@[simp]
theorem unlessObjected_none {ε α : Type} (value : α) :
    unlessObjected (none : Option ε) value = .ok value := rfl

@[simp]
theorem unlessObjected_some {ε α : Type} (objection : ε) (value : α) :
    unlessObjected (some objection) value = .error objection := rfl

namespace Image

variable (image : Image)

/-- The guard is not exported. -/
def unguarded? : Option InitError :=
  if image.exported .surfaceGuard then none
  else some (.load (.symbolNotFound "ferrule_api_guard" undefinedSymbol))

/-- The guard reports another hash than the expected one. -/
def mismatched? : Option InitError :=
  if image.hash = Surface.expectedHash then none
  else some (.mismatch Surface.expectedHash image.hash)

/-- An export is missing: the first one in the order of the table. -/
def incomplete? : Option InitError :=
  image.firstMissing?.map fun symbol => .load (.symbolNotFound symbol.name undefinedSymbol)

def objections : List (Option InitError) :=
  [image.unguarded?, image.mismatched?, image.incomplete?]

def firstObjection? : Option InitError :=
  image.objections.findSome? id

theorem firstMissing?_eq_none_iff :
    image.firstMissing? = none ↔ ∀ symbol, image.exported symbol = true := by
  simp [firstMissing?, Symbol.mem_all]

/-- Nothing is objected to a library whose guard reports the expected hash and that exports
everything. -/
theorem firstObjection?_eq_none_iff :
    image.firstObjection? = none ↔
      image.hash = Surface.expectedHash ∧ ∀ symbol, image.exported symbol = true := by
  have each :
      image.firstObjection? = none ↔
        image.unguarded? = none ∧ image.mismatched? = none ∧ image.incomplete? = none := by
    simp [firstObjection?, objections, List.findSome?_eq_none_iff]
  rw [each, incomplete?, Option.map_eq_none_iff, firstMissing?_eq_none_iff]
  constructor
  · rintro ⟨-, matched, complete⟩
    refine ⟨Decidable.byContradiction fun differs => ?_, complete⟩
    rw [mismatched?, if_neg differs] at matched
    cases matched
  · rintro ⟨agrees, complete⟩
    exact ⟨if_pos (complete .surfaceGuard), if_pos agrees, complete⟩

end Image

namespace Gateway

/-- The directories that a library is searched in: further ones, then the current one, if it can be
told, and those of the system. -/
def searched (surroundings : Surroundings) (extra : List Path) : List Path :=
  extra ++ (surroundings.currentPath?.toList ++ SearchPath.systemDirectories)

theorem directories_extended_eq_searched (surroundings : Surroundings) (extra : List Path) :
    (SearchPath.extended surroundings.currentPath? extra).directories =
      searched surroundings extra :=
  SearchPath.directories_extended surroundings.currentPath? extra

variable (surroundings : Surroundings) (name : String) (extra : List Path) (found? : Option Path)

/-- What is asked for comes to a path, or to nothing. -/
def ComesTo : Prop :=
  SearchPath.ComesTo surroundings (searched surroundings extra) name found?

/-- The search behind a load finds what is asked for. -/
theorem resolve?_eq_iff :
    (SearchPath.extended surroundings.currentPath? extra).resolve? surroundings name = found? ↔
      ComesTo surroundings name extra found? := by
  rw [SearchPath.resolve?_eq_iff, directories_extended_eq_searched, ComesTo]

/-- The library behind the path. -/
def foundImage? : Option Image :=
  found?.bind surroundings.image?

/-- The name stands for nothing in any of the directories. -/
def notFound? : Option InitError :=
  match found? with
  | none => some (.load (.libraryNotFound name (searched surroundings extra).length))
  | some _ => none

/-- The path does not lead to a library that can be loaded. -/
def notLoadable? : Option InitError :=
  found?.bind fun path =>
    match surroundings.image? path with
    | none => some (.load (.loadFailed path SearchPath.notALibrary))
    | some _ => none

/-- What may be wrong, in the order in which it counts. -/
def objections : List (Option InitError) :=
  [notFound? surroundings name extra found?,
   notLoadable? surroundings found?,
   (foundImage? surroundings found?).bind Image.unguarded?,
   (foundImage? surroundings found?).bind Image.mismatched?,
   (foundImage? surroundings found?).bind Image.incomplete?]

def firstObjection? : Option InitError :=
  (objections surroundings name extra found?).findSome? id

variable {surroundings name extra}

theorem firstObjection?_of_nothing :
    firstObjection? surroundings name extra none =
      some (.load (.libraryNotFound name (searched surroundings extra).length)) := rfl

theorem firstObjection?_of_unloadable {path : Path} (unloadable : surroundings.image? path = none) :
    firstObjection? surroundings name extra (some path) =
      some (.load (.loadFailed path SearchPath.notALibrary)) := by
  simp [firstObjection?, objections, notFound?, notLoadable?, unloadable]

/-- Once a library is found, only objections to the library itself are left. -/
theorem firstObjection?_of_image {path : Path} {image : Image}
    (loadable : surroundings.image? path = some image) :
    firstObjection? surroundings name extra (some path) = image.firstObjection? := by
  have opens : notLoadable? surroundings (some path) = none := by
    rw [notLoadable?, Option.bind_some, loadable]
  have sought : foundImage? surroundings (some path) = some image := loadable
  simp only [firstObjection?, objections, notFound?, opens, sought, Option.bind_some,
    List.findSome?_cons, id, Image.firstObjection?, Image.objections]

end Gateway

end NativeBoundary
