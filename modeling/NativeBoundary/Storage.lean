import NativeBoundary.Path
import NativeBoundary.Text.Bytes

/-!
# Storage

A storage is a tree of directories and files.  A place in it is the list of
names that lead there from the root.  A path is followed segment by segment: a
directory is needed wherever it goes on, two dots lead to the directory above,
and a path that is not absolute starts at the current directory.
-/

namespace NativeBoundary

/-- What stands at a place. -/
inductive Stored (C : Type) where
  | directory
  | file (content : C)

/-- What stands at each place, by the names that lead there. -/
abbrev Storage (C : Type) := List String → Option (Stored C)

/-- Why a path leads nowhere. -/
inductive PathFault
  | missing
  | notDirectory
  | nameTooLong
  | zeroByte
deriving DecidableEq, Repr

/-- Why a file cannot be read as a text. -/
inductive ReadFault
  | path (fault : PathFault)
  | isDirectory
  | notText
deriving DecidableEq, Repr

def PathFault.message : PathFault → String
  | .missing => "No such file or directory (os error 2)"
  | .notDirectory => "Not a directory (os error 20)"
  | .nameTooLong => "File name too long (os error 36)"
  | .zeroByte => "file name contained an unexpected NUL byte"

/-- The wording of the system for a file that cannot be read as a text. -/
def ReadFault.message : ReadFault → String
  | .path fault => fault.message
  | .isDirectory => "Is a directory (os error 21)"
  | .notText => "stream did not contain valid UTF-8"

namespace Storage

variable {C : Type}

/-- A storage with nothing but its root. -/
def empty : Storage C := fun place => if place.isEmpty then some .directory else none

/-- The number of bytes that a name may have. -/
def nameLimit : Nat := 255

/-- The number of bytes that a path stays below. -/
def pathLimit : Nat := 4096

/-- Where one segment leads from a place. -/
def follow (storage : Storage C) (place : List String) (segment : String) :
    Except PathFault (List String) :=
  match storage place with
  | some .directory =>
    if segment = "" ∨ segment = "." then .ok place
    else if segment = ".." then .ok place.dropLast
    else if nameLimit < segment.utf8ByteSize then .error .nameTooLong
    else
      match storage (place ++ [segment]) with
      | some _ => .ok (place ++ [segment])
      | none => .error .missing
  | some (.file _) => .error .notDirectory
  | none => .error .missing

def locate (storage : Storage C) (current : List String) (path : Path) :
    Except PathFault (List String) :=
  if path.text.toList.contains '\x00' then .error .zeroByte
  else if path.segments.all (· == "") ∧ ¬ path.isAbsolute then .error .missing
  else if pathLimit ≤ path.text.utf8ByteSize then .error .nameTooLong
  else path.segments.foldlM storage.follow (if path.isAbsolute then [] else current)

def pathExists (storage : Storage C) (current : List String) (path : Path) : Bool :=
  match storage.locate current path with
  | .ok _ => true
  | .error _ => false

def content (storage : Storage C) (current : List String) (path : Path) :
    Except ReadFault C :=
  match storage.locate current path with
  | .error fault => .error (.path fault)
  | .ok place =>
    match storage place with
    | some (.file content) => .ok content
    | some .directory => .error .isDirectory
    | none => .error (.path .missing)

/-! ## Changes -/

/-- Put a directory at a place and at every place on the way to it. -/
def addDirectory (storage : Storage C) (place : List String) : Storage C := fun other =>
  if other.isPrefixOf place then
    match storage other with
    | some node => some node
    | none => some .directory
  else storage other

def addFile (storage : Storage C) (place : List String) (content : C) : Storage C :=
  fun other =>
    if other = place then some (.file content)
    else storage.addDirectory place.dropLast other

def remove (storage : Storage C) (place : List String) : Storage C := fun other =>
  if place.isPrefixOf other then none else storage other

def placeBelow (directory : List String) (path : Path) : List String :=
  path.segments.foldl
    (fun place segment =>
      if segment = "" ∨ segment = "." then place
      else if segment = ".." then place.dropLast
      else place ++ [segment])
    (if path.isAbsolute then [] else directory)

end Storage

end NativeBoundary
