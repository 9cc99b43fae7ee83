import NativeBoundary.Crossing
import NativeBoundary.Failure
import NativeBoundary.Loading.SearchPath

/-!
# Opened libraries

A host opens a library once and keeps it.  What it has opened is found again
under the path where it was found first, however that path is written, so that
the number of opened libraries is the number of different paths.
-/

namespace NativeBoundary

open NativeBoundary.Log

/-- An opened library: its place in the order of opening, and what it exports. -/
structure Library where
  place : Nat
  image : Image

/-- The libraries that a host has opened, the oldest first, by their paths. -/
structure OpenedLibraries where
  entries : List (Path × Image)

namespace OpenedLibraries

def none : OpenedLibraries := ⟨[]⟩

def count (opened : OpenedLibraries) : Nat :=
  opened.entries.length

def find? (opened : OpenedLibraries) (path : Path) : Option Library :=
  (opened.entries.zipIdx.find? fun entry => entry.1.1.same path).map fun entry =>
    ⟨entry.2, entry.1.2⟩

def insert (opened : OpenedLibraries) (path : Path) (image : Image) :
    Library × OpenedLibraries :=
  (⟨opened.count, image⟩, ⟨opened.entries ++ [(path, image)]⟩)

@[simp]
theorem count_none : none.count = 0 := rfl

@[simp]
theorem count_insert (opened : OpenedLibraries) (path : Path) (image : Image) :
    (opened.insert path image).2.count = opened.count + 1 := by
  simp [insert, count]

end OpenedLibraries

/-- The library behind a path.  A path without a slash is no more than a file name to the system,
which looks for it in directories of its own and not in the current one. -/
def Surroundings.image? (surroundings : Surroundings) (path : Path) : Option Image :=
  if path.segments.length ≤ 1 then surroundings.systemImage? path.text
  else
    match surroundings.content path with
    | .ok content => content.image?
    | .error _ => .none

namespace SearchPath

def openedRecord (path : Path) : Record :=
  Source.loader.record .info "native library loaded" [("path", .shown path.text)]

def reusedRecord (path : Path) : Record :=
  Source.loader.record .debug "reusing loaded library" [("path", .shown path.text)]

def notALibrary : String := "not a loadable library"

/-- Open the library that a path leads to, unless that was done before. -/
def openPath (surroundings : Surroundings) (path : Path) :
    Crossing OpenedLibraries (Except LoadError Library) := do
  match (← Crossing.world).find? path with
  | some library => do
    Crossing.raise (reusedRecord path)
    pure (.ok library)
  | none =>
    match surroundings.image? path with
    | none => pure (.error (.loadFailed path notALibrary))
    | some image => do
      Crossing.raise (openedRecord path)
      let library ← Crossing.inside (modifyGet fun opened => opened.insert path image)
      pure (.ok library)

def load (searchPath : SearchPath) (surroundings : Surroundings) (name : String) :
    Crossing OpenedLibraries (Except LoadError Library) :=
  match searchPath.resolve? surroundings name with
  | none => pure (.error (.libraryNotFound name searchPath.directories.length))
  | some path => openPath surroundings path

end SearchPath

end NativeBoundary
