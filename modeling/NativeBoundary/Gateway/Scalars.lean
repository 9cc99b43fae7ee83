import NativeBoundary.Gateway.Basic
import NativeBoundary.Wire.SignClass

/-!
# Calls with scalars and records

A call with an optional reference hands over a null pointer for an absent one.
A span of time is handed over in whole milliseconds, and one that does not fit
into 64 bits as the greatest number that does.  There is no span whose seconds do
not fit into 64 bits.
-/

namespace NativeBoundary

open NativeBoundary.Wire
open NativeBoundary.Word

/-- A span of time: seconds, and nanoseconds below one second. -/
structure Span where
  seconds : UInt64
  nanoseconds : UInt32
  isBelowSecond : nanoseconds.toNat < 1000000000
deriving DecidableEq, Repr

namespace Span

/-- The span of some seconds and of nanoseconds that may make up further seconds, unless there
are more seconds then than fit into 64 bits. -/
def ofParts? (seconds : UInt64) (nanoseconds : UInt32) : Option Span :=
  let whole := seconds.toNat + nanoseconds.toNat / 1000000000
  if whole < UInt64.size then
    some ⟨whole.toUInt64, nanoseconds % 1000000000, Nat.mod_lt nanoseconds.toNat (by decide)⟩
  else none

/-- What the panic says when there is no such span. -/
def overflowMessage : String := "overflow in Duration::new"

/-- Nanoseconds below one second are kept as they are. -/
theorem ofParts?_of_lt (seconds : UInt64) {nanoseconds : UInt32}
    (below : nanoseconds.toNat < 1000000000) :
    ofParts? seconds nanoseconds = some ⟨seconds, nanoseconds, below⟩ := by
  have whole : nanoseconds.toNat / 1000000000 = 0 := Nat.div_eq_of_lt below
  have fits : seconds.toNat < UInt64.size := seconds.toNat_lt
  have same : nanoseconds % 1000000000 = nanoseconds :=
    UInt32.toNat_inj.mp (Nat.mod_eq_of_lt below)
  simp [ofParts?, whole, fits, same]

/-- The whole milliseconds of a span, counted in 128 bits. -/
def wholeMilliseconds (span : Span) : BitVec 128 :=
  span.seconds.toBitVec.setWidth 128 * 1000#128 +
    (span.nanoseconds / 1000000).toBitVec.setWidth 128

/-- The number of 64 bits that a wider one is equal to, if there is one. -/
def narrowed? (wide : BitVec 128) : Option UInt64 :=
  if wide.toNat < UInt64.size then some (.ofBitVec (wide.setWidth 64)) else none

def greatest : UInt64 := .ofNat (UInt64.size - 1)

/-- The milliseconds that are handed over: all of them, or as many as fit into 64 bits. -/
def milliseconds (span : Span) : UInt64 :=
  (narrowed? span.wholeMilliseconds).getD greatest

end Span

namespace Gateway

variable {W : Type} (gateway : Gateway W)

def primitiveVoid : Crossing W Unit :=
  Crossing.native .primitiveVoid none gateway.exports.primitiveVoid

def primitiveBool (value : Bool) : Crossing W Bool :=
  Crossing.native .primitiveBool none (gateway.exports.primitiveBool value)

def primitiveU8 (value : UInt8) : Crossing W UInt8 :=
  Crossing.native .primitiveU8 none (gateway.exports.primitiveU8 value)

def primitiveU16 (value : UInt16) : Crossing W UInt16 :=
  Crossing.native .primitiveU16 none (gateway.exports.primitiveU16 value)

def primitiveU32 (value : UInt32) : Crossing W UInt32 :=
  Crossing.native .primitiveU32 none (gateway.exports.primitiveU32 value)

def primitiveU64 (value : UInt64) : Crossing W UInt64 :=
  Crossing.native .primitiveU64 none (gateway.exports.primitiveU64 value)

def primitiveI8 (value : Int8) : Crossing W Int8 :=
  Crossing.native .primitiveI8 none (gateway.exports.primitiveI8 value)

def primitiveI16 (value : Int16) : Crossing W Int16 :=
  Crossing.native .primitiveI16 none (gateway.exports.primitiveI16 value)

def primitiveI32 (value : Int32) : Crossing W Int32 :=
  Crossing.native .primitiveI32 none (gateway.exports.primitiveI32 value)

def primitiveI64 (value : Int64) : Crossing W Int64 :=
  Crossing.native .primitiveI64 none (gateway.exports.primitiveI64 value)

def manyArgs5 (first second third fourth fifth : Int64) : Crossing W Int64 :=
  Crossing.native .manyArgs5 none
    (gateway.exports.manyArgs5 first second third fourth fifth)

def refOption (value : Option Int64) : Crossing W Bool :=
  Crossing.native .refOption none (gateway.exports.refOption value)

def refMutOption (value : Option Int64) : Crossing W (Bool × Option Int64) :=
  Crossing.native .refMutOption none (gateway.exports.refMutOption value)

def tupled (value : UInt8) : Crossing W UInt8 :=
  Crossing.native .tupled none (gateway.exports.tupled value)

/-- An element of sixteen bytes that are handed over by value. -/
def array1 (bytes : Vector UInt8 16) : Crossing W UInt8 :=
  Crossing.native .array1 none (gateway.exports.array1 bytes)

/-- The sign class of a number; a discriminant that names none is an error. -/
def documented (number : Single) : Crossing W (CallResult SignClass) := do
  let discriminant ←
    Crossing.native .documented none (gateway.exports.documented number)
  pure (SignClass.ofDiscriminant discriminant)

def complexArgs1 (vector : Vector3) (given : Bool) : Crossing W (CallResult Unit) := do
  let status ← Crossing.native .complexArgs1 none (gateway.exports.complexArgs1 vector given)
  pure status.toResult

def panics : Crossing W (CallResult Unit) := do
  let status ← Crossing.native .panics none gateway.exports.panics
  pure status.toResult

/-- Let the library wait; the answer is the number of milliseconds that it was given. -/
def sleep (span : Span) : Crossing W UInt64 := do
  Crossing.native .sleep none (gateway.exports.sleep span.milliseconds)
  pure span.milliseconds

end Gateway

end NativeBoundary
