import NativeBoundary.Surface
import NativeBoundary.Symbol
import NativeBoundary.Text.Bytes

/-!
# Contents of files

A file holds bytes, or it is a library that can be loaded.  All that is known of
a library before it is called is which symbols it exports and which hash its
guard reports.
-/

namespace NativeBoundary

/-- A library in a file. -/
structure Image where
  hash : UInt64
  exported : Symbol → Bool

namespace Image

/-- A library that exports everything and reports the expected hash. -/
def complete : Image := ⟨Surface.expectedHash, fun _ => true⟩

def exporting (hash : UInt64) (symbols : List Symbol) : Image :=
  ⟨hash, fun symbol => symbols.contains symbol⟩

def firstMissing? (image : Image) : Option Symbol :=
  Symbol.all.find? fun symbol => !image.exported symbol

end Image

/-- The content of a file. -/
inductive Content
  | bytes (values : List UInt8)
  | library (image : Image)

namespace Content

/-- The text of a file; a library is no text. -/
def text? : Content → Option String
  | .bytes values => Text.ofBytes? values
  | .library _ => none

def image? : Content → Option Image
  | .bytes _ => none
  | .library image => some image

end Content

end NativeBoundary
