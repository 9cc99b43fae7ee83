/-!
# The bytes of a text

Texts cross the boundary as the bytes of their UTF-8 form.
-/

namespace NativeBoundary.Text

def bytes (text : String) : List UInt8 :=
  text.toList.flatMap String.utf8EncodeChar

/-- The text that a sequence of bytes encodes, if they are well formed. -/
def ofBytes? (bytes : List UInt8) : Option String :=
  String.fromUTF8? ⟨bytes.toArray⟩

def byteCount (text : String) : Nat :=
  (bytes text).length

/-- Where the first zero byte stands, if there is one. -/
def firstZero? (bytes : List UInt8) : Option Nat :=
  bytes.findIdx? (· == 0)

@[simp]
theorem bytes_empty : bytes "" = [] := by
  simp [bytes]

theorem bytes_append (first second : String) :
    bytes (first ++ second) = bytes first ++ bytes second := by
  simp [bytes, List.flatMap_append]

end NativeBoundary.Text
