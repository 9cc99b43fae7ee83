import NativeBoundary.Callback.Action
import NativeBoundary.Gateway.Basic
import NativeBoundary.Lending.Pins

/-!
# Calls with closures

A closure is installed for exactly one call of the library.  A buffer that goes
with it is pinned for the whole call, and is handed back as the library left it
also when the call panics.
-/

namespace NativeBoundary.Gateway

open NativeBoundary.Callback
open NativeBoundary.Lending
open NativeBoundary.Wire
open NativeBoundary.Word

variable {W V : Type} (gateway : Gateway W)

def callback (closure : Closure V .byte) (value : UInt8) : Action V UInt8 :=
  .enter .byte closure (.native .callback (gateway.exports.callback true value)) .done

def callback1 (closure : Closure V .word) (value : UInt32) : Action V UInt32 :=
  .enter .word closure
    (.native .patternCallback1 (gateway.exports.patternCallback1 true value)) .done

/-- Lend bytes to a part of a call under a pin. -/
def lending (bytes : List UInt8) (body : Action V Unit) :
    Action V (Outcome Unit × List UInt8) :=
  let held := Pins.none.acquire
  .note (.raised (held.acquiredRecord bytes.length))
    (.lend bytes body fun outcome left =>
      .note (.raised held.release.releasedRecord) (.done (outcome, left)))

/-- Leave the elements of a descriptor in the lent bytes. -/
def leaveElements (descriptor : Descriptor UInt8) : Action V Unit :=
  .edit (fun _ => descriptor.elements) (.done ())

/-- The library adds one to the first byte and lends the buffer to the closure; the answer tells
how the call ended and what is left in the buffer. -/
def ffiSlice3 (bytes : List UInt8) (closure : Closure V .sliceMut) :
    Action V (Outcome Unit × List UInt8) :=
  lending bytes
    (.enter .sliceMut closure
      ((Action.native .patternFfiSlice3
        (gateway.exports.patternFfiSlice3 (.lent bytes) true)).andThen leaveElements)
      .done)

/-- The library replaces every byte by what the closure answers for it. -/
def ffiSlice6 (bytes : List UInt8) (closure : Closure V .byte) :
    Action V (Outcome Unit × List UInt8) :=
  lending bytes
    (.enter .byte closure
      ((Action.native .patternFfiSlice6
        (gateway.exports.patternFfiSlice6 (some (.lent bytes)) true)).andThen fun left =>
          leaveElements (left.getD (.lent bytes)))
      .done)

def ffiSliceDelegate (closure : Closure V .slice) : Action V UInt8 :=
  .enter .slice closure
    (.native .patternFfiSliceDelegate (gateway.exports.patternFfiSliceDelegate true)) .done

def ffiSliceDelegateHuge (closure : Closure V .vectors) : Action V Vector3 :=
  .enter .vectors closure
    (.native .patternFfiSliceDelegateHuge (gateway.exports.patternFfiSliceDelegateHuge true))
    .done

end NativeBoundary.Gateway
