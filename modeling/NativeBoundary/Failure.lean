import NativeBoundary.Path
import NativeBoundary.Word.Hexadecimal

/-!
# Why a library cannot be used

A library may not be found, not be loadable, lack an export, report another
surface than its callers were written against, or be named by settings that are
at fault themselves.
-/

namespace NativeBoundary

/-- Why a library was not loaded. -/
inductive LoadError
  /-- No candidate exists in any of the searched directories. -/
  | libraryNotFound (name : String) (searched : Nat)
  /-- The file is not a loadable library. -/
  | loadFailed (path : Path) (reason : String)
  /-- The library does not export the symbol. -/
  | symbolNotFound (symbol : String) (reason : String)
deriving DecidableEq, Repr

def LoadError.message : LoadError → String
  | .libraryNotFound name searched =>
    "Library not found: " ++ name ++ " (searched " ++ toString searched ++ " directories)"
  | .loadFailed path reason => "Failed to load library " ++ path.text ++ ": " ++ reason
  | .symbolNotFound symbol reason => "Symbol '" ++ symbol ++ "' not found: " ++ reason

/-- Why a library was not taken into use. -/
inductive InitError
  /-- The library reports another surface. -/
  | mismatch (expected actual : UInt64)
  | load (error : LoadError)
  /-- The settings that name the library are at fault. -/
  | settings (message : String)
deriving DecidableEq, Repr

/-- The text of a fingerprint: the mark and sixteen digits. -/
def hashText (hash : UInt64) : String :=
  Word.Hexadecimal.render 16 hash.toNat

def InitError.message : InitError → String
  | .mismatch expected actual =>
    "native API mismatch: bindings expect " ++ hashText expected ++
      ", library reports " ++ hashText actual
  | .load error => error.message
  | .settings message => "configuration error: " ++ message

end NativeBoundary
