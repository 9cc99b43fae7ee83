import NativeBoundary.Gateway.Basic
import NativeBoundary.Lending.Pins
import NativeBoundary.Owner

/-!
# Calls on objects

A service and a plain instance are each held by an owner.  Every method asks the
owner for its handle after its buffers were pinned and before the library is
called, so that a method of a destroyed object panics, gives its pins back and
never reaches the library.
-/

namespace NativeBoundary

open NativeBoundary.Lending
open NativeBoundary.Wire

/-- The two kinds of objects. -/
inductive ObjectKind
  | service
  | plain
deriving DecidableEq, Repr, Inhabited

namespace ObjectKind

/-- The name under which objects of a kind are spoken of. -/
def typeName : ObjectKind → String
  | .service => "SimpleService"
  | .plain => "SimpleClass"

def destroySymbol : ObjectKind → Symbol
  | .service => .simpleServiceDestroy
  | .plain => .simpleClassDestroy

end ObjectKind

/-- How an object is made. -/
inductive Factory
  | serviceWith (value : UInt32)
  | serviceWithout
  | serviceFailing (value : UInt8)
  | plain
deriving DecidableEq, Repr

def Factory.kind : Factory → ObjectKind
  | .serviceWith _ => .service
  | .serviceWithout => .service
  | .serviceFailing _ => .service
  | .plain => .plain

/-- An object in the hands of its owner. -/
structure OwnedObject where
  kind : ObjectKind
  owner : Owner
deriving DecidableEq, Repr

namespace Gateway

variable {W : Type} (gateway : Gateway W)

def runFactory (factory : Factory) (slot : Slot) : Crossing W (Status × Slot) :=
  match factory with
  | .serviceWith value =>
    Crossing.native .simpleServiceNewWith none
      (gateway.exports.simpleServiceNewWith slot value)
  | .serviceWithout =>
    Crossing.native .simpleServiceNewWithout none
      (gateway.exports.simpleServiceNewWithout slot)
  | .serviceFailing value =>
    Crossing.native .simpleServiceNewFailing none
      (gateway.exports.simpleServiceNewFailing slot value)
  | .plain =>
    Crossing.native .simpleClassCreate none (gateway.exports.simpleClassCreate slot)

def runDestroy (kind : ObjectKind) (handle : Handle) : Crossing W (Status × Slot) :=
  Crossing.native kind.destroySymbol (some handle)
    (match kind with
    | .service => gateway.exports.simpleServiceDestroy (some handle)
    | .plain => gateway.exports.simpleClassDestroy (some handle))

def create (factory : Factory) : Crossing W (CallResult OwnedObject) := do
  let result ← Owner.create factory.kind.typeName (gateway.runFactory factory)
  pure (result.map fun owner => ⟨factory.kind, owner⟩)

/-- Destroy an object now; doing so again does nothing. -/
def destroy (object : OwnedObject) : Crossing W (CallResult Unit × OwnedObject) := do
  let (result, owner) ← object.owner.destroy (gateway.runDestroy object.kind)
  pure (result, { object with owner })

def drop (object : OwnedObject) : Crossing W Unit :=
  object.owner.drop (gateway.runDestroy object.kind)

/-- Call an export on the handle of an owner. -/
def onHandle {α : Type} (owner : Owner) (symbol : Symbol) (work : Handle → StateM W α) :
    Crossing W α := do
  let handle ← owner.handle
  Crossing.native symbol (some handle) (work handle)

def statusOnHandle (owner : Owner) (symbol : Symbol) (work : Handle → StateM W Status) :
    Crossing W (CallResult Unit) := do
  let status ← onHandle owner symbol work
  pure status.toResult

/-! ## Services -/

namespace Service

variable (owner : Owner)

def methodResult (argument : UInt32) : Crossing W (CallResult Unit) :=
  statusOnHandle owner .simpleServiceMethodResult
    (gateway.exports.simpleServiceMethodResult · argument)

def methodValue (argument : UInt32) : Crossing W UInt32 :=
  onHandle owner .simpleServiceMethodValue
    (gateway.exports.simpleServiceMethodValue · argument)

def methodVoid : Crossing W Unit :=
  onHandle owner .simpleServiceMethodVoid gateway.exports.simpleServiceMethodVoid

def stats : Crossing W UInt32 :=
  onHandle owner .simpleServiceStats gateway.exports.simpleServiceStats

def methodMutSelf (buffer : List UInt8) : Crossing W UInt8 :=
  pinned [buffer.length]
    (onHandle owner .simpleServiceMethodMutSelf
      (gateway.exports.simpleServiceMethodMutSelf · (.lent buffer)))

def methodMutSelfVoid (values : List Bool) : Crossing W Unit :=
  pinned [values.length]
    (onHandle owner .simpleServiceMethodMutSelfVoid
      (gateway.exports.simpleServiceMethodMutSelfVoid · (.lent (values.map Flag.encode))))

def trueFlags : Crossing W UInt32 :=
  onHandle owner .simpleServiceTrueFlags gateway.exports.simpleServiceTrueFlags

/-- A call with a byte to read and a byte to write; the answer holds the written one. -/
def methodMutSelfRef (source target : UInt8) : Crossing W (UInt8 × UInt8) := do
  let (returned, left) ←
    onHandle owner .simpleServiceMethodMutSelfRef
      (gateway.exports.simpleServiceMethodMutSelfRef · (some source) (some target))
  pure (returned, left.getD target)

def methodMutSelfRefSlice (source target : UInt8) (buffer : List UInt8) :
    Crossing W (UInt8 × UInt8) :=
  pinned [buffer.length] do
    let (returned, left) ←
      onHandle owner .simpleServiceMethodMutSelfRefSlice
        (gateway.exports.simpleServiceMethodMutSelfRefSlice · (some source) (some target)
          (.lent buffer))
    pure (returned, left.getD target)

def methodMutSelfRefSliceLimited (source target : UInt8) (first second : List UInt8) :
    Crossing W (UInt8 × UInt8) :=
  pinned [first.length, second.length] do
    let (returned, left) ←
      onHandle owner .simpleServiceMethodMutSelfRefSliceLimited
        (gateway.exports.simpleServiceMethodMutSelfRefSliceLimited · (some source)
          (some target) (.lent first) (.lent second))
    pure (returned, left.getD target)

/-- A call that may change a buffer; the answer holds the buffer afterwards. -/
def methodMutSelfFfiError (buffer : List UInt8) :
    Crossing W (CallResult Unit × List UInt8) :=
  pinned [buffer.length] do
    let (status, left) ←
      onHandle owner .simpleServiceMethodMutSelfFfiError
        (gateway.exports.simpleServiceMethodMutSelfFfiError · (.lent buffer))
    pure (status.toResult, left.elements)

def methodMutSelfNoError (buffer : List UInt8) :
    Crossing W (CallResult Unit × List UInt8) :=
  pinned [buffer.length] do
    let (status, left) ←
      onHandle owner .simpleServiceMethodMutSelfNoError
        (gateway.exports.simpleServiceMethodMutSelfNoError · (.lent buffer))
    pure (status.toResult, left.elements)

def methodVoidFfiError : Crossing W (CallResult Unit) :=
  statusOnHandle owner .simpleServiceMethodVoidFfiError
    gateway.exports.simpleServiceMethodVoidFfiError

end Service

/-! ## Plain instances -/

namespace Plain

variable (owner : Owner)

def result (argument : UInt32) : Crossing W (CallResult Unit) :=
  statusOnHandle owner .simpleClassResult (gateway.exports.simpleClassResult · argument)

def value (argument : UInt32) : Crossing W UInt32 :=
  onHandle owner .simpleClassValue (gateway.exports.simpleClassValue · argument)

def mutSelf (argument : UInt32) : Crossing W UInt32 :=
  onHandle owner .simpleClassMutSelf (gateway.exports.simpleClassMutSelf · argument)

def extraMethod : Crossing W UInt32 :=
  onHandle owner .simpleClassExtraMethod gateway.exports.simpleClassExtraMethod

end Plain

end Gateway

end NativeBoundary
