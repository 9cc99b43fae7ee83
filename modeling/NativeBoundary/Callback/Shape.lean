import NativeBoundary.Wire.Descriptor
import NativeBoundary.Word.Single

/-!
# The shapes of callbacks

The library calls back through bare functions of five shapes.  A shape fixes
what crosses the boundary, what a closure sees of it, what the closure answers,
and what the library is left with afterwards.
-/

namespace NativeBoundary.Callback

open NativeBoundary.Word
open NativeBoundary.Wire

/-- The five shapes of callbacks. -/
inductive Shape
  /-- From a byte to a byte. -/
  | byte
  /-- From a word of 32 bits to another one. -/
  | word
  /-- From a lent buffer of bytes to a byte. -/
  | slice
  /-- Over a lent buffer of bytes that the closure may change. -/
  | sliceMut
  /-- From a lent buffer of vectors to a vector. -/
  | vectors
deriving DecidableEq, Repr, Inhabited

namespace Shape

def all : List Shape := [.byte, .word, .slice, .sliceMut, .vectors]

def name : Shape → String
  | .byte => "u8"
  | .word => "u32"
  | .slice => "slice"
  | .sliceMut => "slice_mut"
  | .vectors => "vec"

def ofName? (name : String) : Option Shape :=
  all.find? fun shape => shape.name == name

@[simp]
theorem ofName?_name (shape : Shape) : ofName? shape.name = some shape := by
  cases shape <;> rfl

/-- What the library hands over. -/
abbrev Argument : Shape → Type
  | .byte => UInt8
  | .word => UInt32
  | .slice => Descriptor UInt8
  | .sliceMut => Descriptor UInt8
  | .vectors => Descriptor Vector3

/-- What a closure sees of it. -/
abbrev View : Shape → Type
  | .byte => UInt8
  | .word => UInt32
  | .slice => List UInt8
  | .sliceMut => List UInt8
  | .vectors => List Vector3

/-- What a closure answers. -/
abbrev Answer : Shape → Type
  | .byte => UInt8
  | .word => UInt32
  | .slice => UInt8
  | .sliceMut => Unit
  | .vectors => Vector3

/-- What the library is left with: the answer, or the changed buffer. -/
abbrev Reply : Shape → Type
  | .byte => UInt8
  | .word => UInt32
  | .slice => UInt8
  | .sliceMut => List UInt8
  | .vectors => Vector3

def view : (shape : Shape) → shape.Argument → shape.View
  | .byte, argument => argument
  | .word, argument => argument
  | .slice, argument => argument.elements
  | .sliceMut, argument => argument.elements
  | .vectors, argument => argument.elements

/-- The bytes that a closure of the shape may change. -/
def lent : (shape : Shape) → shape.Argument → List UInt8
  | .sliceMut, argument => argument.elements
  | .byte, _ => []
  | .word, _ => []
  | .slice, _ => []
  | .vectors, _ => []

def defaultAnswer : (shape : Shape) → shape.Answer
  | .byte => 0
  | .word => 0
  | .slice => 0
  | .sliceMut => ()
  | .vectors => Vector3.zero

/-- What the library is left with after an answer and the changes to the lent bytes. -/
def reply : (shape : Shape) → shape.Answer → List UInt8 → shape.Reply
  | .byte, answer, _ => answer
  | .word, answer, _ => answer
  | .slice, answer, _ => answer
  | .sliceMut, _, left => left
  | .vectors, answer, _ => answer

/-- What the library is left with when no closure runs. -/
def defaultReply (shape : Shape) (argument : shape.Argument) : shape.Reply :=
  shape.reply shape.defaultAnswer (shape.lent argument)

end Shape

end NativeBoundary.Callback
