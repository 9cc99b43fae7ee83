import NativeBoundary.Callback.Shape

/-!
# Rules by which scripted closures answer

A scripted closure computes its answer from what it sees by a rule of its shape.
A closure on bytes computes in words of 32 bits and answers the low byte.
-/

namespace NativeBoundary.Callback

open NativeBoundary.Word

/-- A rule on words of 32 bits. -/
inductive WordRule
  | same
  | constant (value : UInt32)
  | add (value : UInt32)
  | multiply (value : UInt32)
  | exclusiveOr (value : UInt32)
deriving DecidableEq, Repr

def WordRule.apply : WordRule → UInt32 → UInt32
  | .same, word => word
  | .constant value, _ => value
  | .add value, word => word + value
  | .multiply value, word => word * value
  | .exclusiveOr value, word => word ^^^ value

/-- A rule on a buffer of bytes. -/
inductive SliceRule
  | length
  | sum
  | element (index : Nat)
  | constant (value : UInt8)
deriving DecidableEq, Repr

/-- The answer of a rule on bytes; a missing element counts as the greatest byte. -/
def SliceRule.apply : SliceRule → List UInt8 → UInt8
  | .length, bytes => bytes.length.toUInt8
  | .sum, bytes => bytes.foldl (· + ·) 0
  | .element index, bytes => bytes[index]?.getD 255
  | .constant value, _ => value

/-- A rule on a buffer of vectors. -/
inductive VectorRule
  | count
  | element (index : Nat)
  | constant (value : Vector3)
deriving DecidableEq, Repr

/-- The answer of a rule on vectors; a missing element counts as three negative units. -/
def VectorRule.apply : VectorRule → List Vector3 → Vector3
  | .count, vectors => ⟨.ofNat vectors.length, .zero, .zero⟩
  | .element index, vectors => vectors[index]?.getD (.splat .minusOne)
  | .constant value, _ => value

/-- The rules of a shape. -/
abbrev Shape.Rule : Shape → Type
  | .byte => WordRule
  | .word => WordRule
  | .slice => SliceRule
  | .sliceMut => Unit
  | .vectors => VectorRule

def Shape.answer : (shape : Shape) → shape.Rule → shape.View → shape.Answer
  | .byte, rule, view => (WordRule.apply rule view.toUInt32).toUInt8
  | .word, rule, view => WordRule.apply rule view
  | .slice, rule, view => SliceRule.apply rule view
  | .sliceMut, _, _ => ()
  | .vectors, rule, view => VectorRule.apply rule view

end NativeBoundary.Callback
