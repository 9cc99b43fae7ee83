import NativeBoundary.Loading.Image
import NativeBoundary.Storage

/-!
# Surroundings

What a host finds around itself: a storage, the current directory in it, the
variables of its environment and a home directory.  All of it can change while
the host goes on.  A variable holds any bytes; it is read as a text, and where its
bytes encode no text it counts as one that is not set.  The current directory can be
told only as long as it stands in the storage, and there may be no home directory.

Beside the storage stands what the system itself finds when it is asked for a library by
a file name alone.  Nothing is said of the directories that it looks into, so that this is
an assumption on the surroundings and may be any at all.
-/

namespace NativeBoundary

/-- The home directory, where there is one. -/
abbrev HomeDirectory := Option Path

def HomeDirectory.ofText (text : String) : HomeDirectory :=
  some (Path.ofText text)

/-- What a host finds around itself. -/
structure Surroundings where
  storage : Storage Content
  current : List String
  /-- The bytes of each variable that is set. -/
  environment : String → Option (List UInt8)
  home : HomeDirectory
  /-- The library that the system finds under a file name, in directories of its own choice. -/
  systemImage? : String → Option Image := fun _ => none

/-- A change of the surroundings. -/
inductive Change
  | addFile (place : List String) (content : Content)
  | addDirectory (place : List String)
  | remove (place : List String)
  | setVariable (name : String) (value : Option (List UInt8))
  | setHome (home : Path)
  | loseHome

namespace Surroundings

def currentPath (surroundings : Surroundings) : Path :=
  Path.absolute surroundings.current

/-- The path of the current directory, unless the directory was removed. -/
def currentPath? (surroundings : Surroundings) : Option Path :=
  match surroundings.storage surroundings.current with
  | some .directory => some surroundings.currentPath
  | _ => none

theorem currentPath?_of_directory {surroundings : Surroundings}
    (told : surroundings.storage surroundings.current = some .directory) :
    surroundings.currentPath? = some surroundings.currentPath := by
  rw [currentPath?, told]

theorem currentPath?_of_missing {surroundings : Surroundings}
    (untold : surroundings.storage surroundings.current ≠ some .directory) :
    surroundings.currentPath? = none := by
  unfold currentPath?
  split
  · rename_i told
    exact absurd told untold
  · rfl

def apply (surroundings : Surroundings) : Change → Surroundings
  | .addFile place content =>
    { surroundings with storage := surroundings.storage.addFile place content }
  | .addDirectory place =>
    { surroundings with storage := surroundings.storage.addDirectory place }
  | .remove place => { surroundings with storage := surroundings.storage.remove place }
  | .setVariable name value =>
    { surroundings with
      environment := fun other =>
        if other = name then value else surroundings.environment other }
  | .setHome home => { surroundings with home := some home }
  | .loseHome => { surroundings with home := none }

/-- The text of a variable that is set to one. -/
def variableText? (surroundings : Surroundings) (name : String) : Option String :=
  (surroundings.environment name).bind Text.ofBytes?

def pathExists (surroundings : Surroundings) (path : Path) : Bool :=
  surroundings.storage.pathExists surroundings.current path

def content (surroundings : Surroundings) (path : Path) : Except ReadFault Content :=
  surroundings.storage.content surroundings.current path

end Surroundings

end NativeBoundary
