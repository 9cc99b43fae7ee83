import NativeBoundary.Callback.Rule
import NativeBoundary.Callback.Thread
import NativeBoundary.Gateway.Closures

/-!
# Scripts

A script is an action as data: it logs notes of any type, panics, catches panics,
installs closures that are scripts themselves, calls back as the library would,
and makes the calls of a gateway that take a closure.  Everything it does is an
event.
-/

namespace NativeBoundary.Callback

open NativeBoundary.Word

/-- The calls of a gateway that take a closure. -/
inductive ClosureCall
  | callback (value : UInt8)
  | callback1 (value : UInt32)
  | slice3 (bytes : List UInt8)
  | slice6 (bytes : List UInt8)
  | delegate
  | delegateHuge
deriving DecidableEq, Repr

abbrev ClosureCall.shape : ClosureCall → Shape
  | .callback _ => .byte
  | .callback1 _ => .word
  | .slice3 _ => .sliceMut
  | .slice6 _ => .byte
  | .delegate => .slice
  | .delegateHuge => .vectors

def ClosureCall.name : ClosureCall → String
  | .callback _ => "callback"
  | .callback1 _ => "callback_1"
  | .slice3 _ => "ffi_slice_3"
  | .slice6 _ => "ffi_slice_6"
  | .delegate => "ffi_slice_delegate"
  | .delegateHuge => "ffi_slice_delegate_huge"

/-- A little program over closures. -/
inductive Script (Note : Type) where
  | stop
  | log (note : Note) (rest : Script Note)
  | panic (message : String)
  | attempt (body rest : Script Note)
  /-- Write a byte of the lent buffer, if there is one at the index. -/
  | set (index : Nat) (value : UInt8) (rest : Script Note)
  /-- Install a closure while the body runs; it does its work and answers by its rule. -/
  | scope (shape : Shape) (work : Script Note) (rule : shape.Rule) (body rest : Script Note)
  | invoke (shape : Shape) (argument : shape.Argument) (rest : Script Note)
  | call (made : ClosureCall) (work : Script Note) (rule : made.shape.Rule) (rest : Script Note)

/-- What a script did. -/
inductive Event (Note : Type) where
  | logged (note : Note)
  | entered (shape : Shape) (view : shape.View)
  /-- A part ended, and its panic was caught if it had one. -/
  | caught (message : Option String)
  | scopeBegan (shape : Shape)
  | scopeEnded (shape : Shape)
  | invoked (shape : Shape) (reply : shape.Reply)
  | answered (made : ClosureCall) (answer : made.shape.Answer)
  | left (made : ClosureCall) (bytes : List UInt8)
  | unwound (made : ClosureCall) (bytes : List UInt8)

namespace Script

variable {Note : Type}

/-- How many closures a script holds.  Calls back of closures that do not run themselves again
are never nested deeper. -/
def closureCount : Script Note → Nat
  | .stop => 0
  | .log _ rest => rest.closureCount
  | .panic _ => 0
  | .attempt body rest => body.closureCount + rest.closureCount
  | .set _ _ rest => rest.closureCount
  | .scope _ work _ body rest =>
    work.closureCount + body.closureCount + rest.closureCount + 1
  | .invoke _ _ rest => rest.closureCount
  | .call _ work _ rest => work.closureCount + rest.closureCount + 1

abbrev Events (Note : Type) := List (Event Note)

def emit {α : Type} (event : Event Note) (next : Action (Events Note) α) : Action (Events Note) α :=
  .change (event :: ·) next

/-- Tell what became of a call with a buffer, and go on with its panic if it had one. -/
def settle (made : ClosureCall) (next : Action (Events Note) Unit) :
    Outcome Unit × List UInt8 → Action (Events Note) Unit
  | (.returned (), bytes) => emit (.left made bytes) next
  | (.panicked message, bytes) => emit (.unwound made bytes) (.panic message)

/-- A closure that tells of its call, does its work and answers by its rule. -/
def closure (shape : Shape) (work : Action (Events Note) Unit) (rule : shape.Rule) :
    Closure (Events Note) shape := fun view =>
  emit (.entered shape view) (work.andThen fun _ => .done (shape.answer rule view))

def isWritable (shape : Shape) : Bool :=
  shape == .sliceMut

variable {W : Type} (gateway : Gateway W)

def perform (made : ClosureCall) (installed : Closure (Events Note) made.shape)
    (next : Action (Events Note) Unit) : Action (Events Note) Unit :=
  match made with
  | .callback value =>
    (gateway.callback installed value).andThen fun answer =>
      emit (.answered (.callback value) answer) next
  | .callback1 value =>
    (gateway.callback1 installed value).andThen fun answer =>
      emit (.answered (.callback1 value) answer) next
  | .slice3 bytes =>
    (gateway.ffiSlice3 bytes installed).andThen (settle (.slice3 bytes) next)
  | .slice6 bytes =>
    (gateway.ffiSlice6 bytes installed).andThen (settle (.slice6 bytes) next)
  | .delegate =>
    (gateway.ffiSliceDelegate installed).andThen fun answer =>
      emit (.answered .delegate answer) next
  | .delegateHuge =>
    (gateway.ffiSliceDelegateHuge installed).andThen fun answer =>
      emit (.answered .delegateHuge answer) next

/-- The action of a script; `writable` tells whether bytes are lent to it that it may write. -/
def action (writable : Bool) : Script Note → Action (Events Note) Unit
  | .stop => .done ()
  | .log note rest => emit (.logged note) (action writable rest)
  | .panic message => .panic message
  | .attempt body rest =>
    .attempt (action writable body) fun outcome =>
      emit
        (.caught (match outcome with
          | .returned () => none
          | .panicked message => some message))
        (action writable rest)
  | .set index value rest =>
    if writable then .edit (·.set index value) (action writable rest)
    else action writable rest
  | .scope shape work rule body rest =>
    emit (.scopeBegan shape)
      (.enter shape (closure shape (action (isWritable shape) work) rule)
        (action false body)
        fun _ => emit (.scopeEnded shape) (action writable rest))
  | .invoke shape argument rest =>
    .invoke shape argument fun reply =>
      emit (.invoked shape reply) (action writable rest)
  | .call made work rule rest =>
    perform gateway made
      (closure made.shape (action (isWritable made.shape) work) rule)
      (action writable rest)

/-- The events of a script that ran to its end, the oldest first, and how it ended. -/
structure Report (Note : Type) where
  events : List (Event Note)
  outcome : Outcome Unit
  journal : Journal

/-- Run a script on a fresh thread.  There is no report when a closure runs itself again. -/
def report? (script : Script Note) (journal : Journal) : Option (Report Note) :=
  (execute (script.closureCount + 1) (script.action gateway false)
    (Thread.fresh ⟨[], journal⟩)).map fun (outcome, thread) =>
      ⟨thread.session.world.reverse, outcome, thread.session.journal⟩

end Script

end NativeBoundary.Callback
