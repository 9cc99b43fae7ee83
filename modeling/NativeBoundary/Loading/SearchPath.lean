import NativeBoundary.Surroundings

/-!
# Search paths

A library is asked for by a short name or by a path.  A short name stands for
two file names, which are tried directory by directory; the first one that
exists is final.  Whatever is absolute or has more than one component is a path
and is never searched.
-/

namespace NativeBoundary

/-- The directories in which libraries are searched, the first one first. -/
structure SearchPath where
  directories : List Path
deriving DecidableEq, Repr

namespace SearchPath

def systemDirectories : List Path :=
  ["/usr/local/lib", "/usr/lib", "/lib", "/usr/lib64", "/lib64"].map Path.ofText

/-- The search path that nobody has to ask for: the current directory, if it can be told, and those
of the system. -/
def standard (current? : Option Path) : SearchPath :=
  ⟨current?.toList ++ systemDirectories⟩

def prepend (searchPath : SearchPath) (directory : Path) : SearchPath :=
  ⟨directory :: searchPath.directories⟩

/-- The standard search path with further directories in front of it, in their order. -/
def extended (current? : Option Path) (extra : List Path) : SearchPath :=
  extra.foldr (fun directory searchPath => searchPath.prepend directory) (standard current?)

/-- The names of the files that a short name stands for, the likelier one first. -/
def candidates (name : String) : List String :=
  ["lib" ++ name ++ ".so", name ++ ".so"]

/-- Whether a name is a path, which is not searched. -/
def isPath (name : String) : Bool :=
  (Path.ofText name).isAbsolute || 1 < (Path.ofText name).components.length

/-- The paths that a name may stand for, in the order in which they are tried. -/
def trials (searchPath : SearchPath) (name : String) : List Path :=
  if isPath name then [Path.ofText name]
  else searchPath.directories.flatMap fun directory =>
    (candidates name).map directory.joinName

/-- The path that a name stands for: the first one that leads anywhere. -/
def resolve? (searchPath : SearchPath) (surroundings : Surroundings) (name : String) :
    Option Path :=
  (searchPath.trials name).find? surroundings.pathExists

@[simp]
theorem directories_prepend (searchPath : SearchPath) (directory : Path) :
    (searchPath.prepend directory).directories = directory :: searchPath.directories := rfl

theorem directories_extended (current? : Option Path) (extra : List Path) :
    (extended current? extra).directories = extra ++ (current?.toList ++ systemDirectories) := by
  induction extra with
  | nil => rfl
  | cons directory rest hypothesis =>
    simpa [extended] using hypothesis

end SearchPath

end NativeBoundary
