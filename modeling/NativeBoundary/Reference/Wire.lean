import NativeBoundary.Status
import NativeBoundary.Wire.Presence

/-!
# How the reference library reads and writes optional values

The library has its own coding of optional values and flags over the shared
wire forms.
-/

namespace NativeBoundary.Reference

open NativeBoundary.Wire

variable {α : Type}

/-- The library's form of a value that may be absent. -/
def encodeOptional [Inhabited α] (value : Option α) : Optional α :=
  match value with
  | some payload => ⟨payload, 1⟩
  | none => ⟨default, 0⟩

/-- The library reads a payload only behind the byte one. -/
def decodeOptional (wire : Optional α) : Option α :=
  match wire.presence with
  | 1 => some wire.payload
  | _ => none

def encodeFlag : Bool → Flag
  | true => ⟨1⟩
  | false => ⟨0⟩

/-- The library takes only the byte one for true. -/
def isSet (flag : Flag) : Bool :=
  match flag.byte with
  | 1 => true
  | _ => false

/-- The status that the library reports for a method that succeeded or not. -/
def statusOf {ε : Type} : Except ε Unit → Status
  | .ok _ => .ok
  | .error _ => .failed

end NativeBoundary.Reference
