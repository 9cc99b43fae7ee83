import NativeBoundary.Exports
import NativeBoundary.Lending.Pins
import NativeBoundary.Lending.Strings

/-!
# A context with named pins and texts

A longer exchange with the library keeps its pins and texts under names.  A new
pin under a taken name is acquired before the old one is released.  Texts stay
where they are as long as the context lives, and a name refers to one of them by
its place.
-/

namespace NativeBoundary.Lending

open NativeBoundary.Wire

/-- The elements of a pinned buffer. -/
inductive Elements
  | bytes (values : List UInt8)
  | words (values : List UInt32)
deriving DecidableEq, Repr

def Elements.length : Elements → Nat
  | .bytes values => values.length
  | .words values => values.length

/-- A pin that is held: on a buffer to be read, or on one that may be changed. -/
structure HeldPin where
  elements : Elements
  isExclusive : Bool
deriving DecidableEq, Repr

/-- The pins and texts of an exchange. -/
structure Context where
  pins : Pins := {}
  held : List (String × HeldPin) := []
  strings : List (List UInt8) := []
  /-- The places of the named texts. -/
  names : List (String × Nat) := []
deriving Repr

/-- What a step of an exchange answers. -/
inductive Exchanged
  | nothing
  /-- The length of a pinned buffer, the length of its descriptor, and its elements. -/
  | inspected (length described : Nat) (elements : Elements)
  | bytes (value : List UInt8)
  | invalidText (position : Nat)
  /-- The measured length, or why there is none, and the target afterwards. -/
  | measured (result : CallResult UInt32) (target : List UInt8)
  /-- How filling a buffer ended, and the buffer afterwards. -/
  | filled (result : CallResult Unit) (buffer : List UInt8)
  /-- The panic that unwound through the pins. -/
  | unwound (message : String)
  | noSuchPin
  | noSuchString

/-- A step of an exchange. -/
inductive ExchangeStep
  | pin (name : String) (pin : HeldPin)
  | inspect (name : String)
  | unpin (name : String)
  | copy (source target : String)
  | keepText (name text : String)
  | readText (name : String)
  | copyThenMeasure (source target : List UInt8) (label : String)
  | fillWithoutService (buffer : List UInt8)
  | unwind (pins : Nat) (buffer : List UInt8) (message : String)

namespace Context

def held? (context : Context) (name : String) : Option HeldPin :=
  (context.held.find? fun entry => entry.1 == name).map (·.2)

def setHeld (context : Context) (name : String) (pin : HeldPin) : Context :=
  { context with
    held := (name, pin) :: context.held.filter fun entry => entry.1 != name }

def dropHeld (context : Context) (name : String) : Context :=
  { context with held := context.held.filter fun entry => entry.1 != name }

def textAt? (context : Context) (place : Nat) : Option (List UInt8) :=
  context.strings[place]?

def text? (context : Context) (name : String) : Option (List UInt8) :=
  (context.names.find? fun entry => entry.1 == name).bind fun entry =>
    context.textAt? entry.2

/-- Hand a text over: it gets the next place, unless it holds a zero byte. -/
def keep (context : Context) (text : String) : Except Nat (Nat × Context) :=
  (terminated text).map fun bytes =>
    (context.strings.length, { context with strings := context.strings ++ [bytes] })

def setName (context : Context) (name : String) (place : Nat) : Context :=
  { context with
    names := (name, place) :: context.names.filter fun entry => entry.1 != name }

variable {W : Type} (table : Exports W)

def pin (context : Context) (name : String) (pin : HeldPin) : Crossing W Context := do
  let taken ← acquire context.pins pin.elements.length
  match context.held? name with
  | some _ => return { context.setHeld name pin with pins := ← release taken }
  | none => return { context.setHeld name pin with pins := taken }

def copy (context : Context) (source target : String) : Crossing W (Exchanged × Context) :=
  match context.held? source, context.held? target with
  | some ⟨.bytes sourceBytes, false⟩, some ⟨.bytes targetBytes, true⟩ => do
    let left ←
      Crossing.native .patternFfiSlice4 none
        (table.patternFfiSlice4 (.lent sourceBytes) (.lent targetBytes))
    pure (.bytes left.elements,
      { context with
        held := context.held.map fun entry =>
          if entry.1 = target then (entry.1, ⟨.bytes left.elements, true⟩) else entry })
  | _, _ => pure (.noSuchPin, context)

/-- Copy a source into a target and measure a label, all under pins that end with the step. -/
def copyThenMeasure (context : Context) (source target : List UInt8) (label : String) :
    Crossing W (Exchanged × Context) := do
  let (outcome, pins) ←
    pinnedOver context.pins [source.length, target.length] (do
      match context.keep label with
      | .error position =>
        pure (Exchanged.measured (.error (.zeroByte position)) target, context)
      | .ok (place, kept) =>
        let left ←
          Crossing.native .patternFfiSlice4 none
            (table.patternFfiSlice4 (.lent source) (.lent target))
        let length ←
          Crossing.native .patternAsciiPointer1 none
            (table.patternAsciiPointer1 (kept.textAt? place))
        pure (.measured (.ok length) left.elements, kept))
  match outcome with
  | .returned (answer, left) => pure (answer, { left with pins })
  | .panicked message => pure (.unwound message, { context with pins })

/-- Have a buffer filled by a service that does not exist. -/
def fillWithoutService (context : Context) (buffer : List UInt8) :
    Crossing W (Exchanged × Context) := do
  let (outcome, pins) ←
    pinnedOver context.pins [buffer.length]
      (Crossing.native .simpleServiceMethodMutSelfFfiError (some .null)
        (table.simpleServiceMethodMutSelfFfiError .null (.lent buffer)))
  let after := { context with pins }
  match outcome with
  | .returned (status, left) => pure (.filled status.toResult left.elements, after)
  | .panicked message => pure (.unwound message, after)

def unwind (context : Context) (count : Nat) (buffer : List UInt8) (message : String) :
    Crossing W (Exchanged × Context) := do
  let (outcome, pins) ←
    pinnedOver context.pins (List.replicate count buffer.length)
      (Crossing.panic message : Crossing W Unit)
  let after := { context with pins }
  match outcome with
  | .returned () => pure (.nothing, after)
  | .panicked message => pure (.unwound message, after)

def step (context : Context) : ExchangeStep → Crossing W (Exchanged × Context)
  | .pin name pin => return (.nothing, ← context.pin name pin)
  | .inspect name =>
    match context.held? name with
    | none => pure (.noSuchPin, context)
    | some pin =>
      let length := pin.elements.length
      pure (.inspected length length pin.elements, context)
  | .unpin name =>
    match context.held? name with
    | none => pure (.noSuchPin, context)
    | some _ => do
      let pins ← release context.pins
      pure (.nothing, { context.dropHeld name with pins })
  | .copy source target => context.copy table source target
  | .keepText name text =>
    match context.keep text with
    | .error position => pure (.invalidText position, context)
    | .ok (place, kept) => pure (.nothing, kept.setName name place)
  | .readText name =>
    match context.text? name with
    | none => pure (.noSuchString, context)
    | some bytes => pure (.bytes bytes, context)
  | .copyThenMeasure source target label =>
    context.copyThenMeasure table source target label
  | .fillWithoutService buffer => context.fillWithoutService table buffer
  | .unwind count buffer message => context.unwind count buffer message

/-- Make steps in order; each answer comes with the pins after its step. -/
def steps (context : Context) : List ExchangeStep → Crossing W (List (Exchanged × Pins) × Context)
  | [] => pure ([], context)
  | first :: rest => do
    let (answer, after) ← context.step table first
    let (answers, last) ← steps after rest
    pure ((answer, after.pins) :: answers, last)

def close (context : Context) : Crossing W Pins :=
  context.held.foldlM (fun pins _ => release pins) context.pins

/-- Make steps in a new context and release what is left; the answer holds the last counts. -/
def exchange (steps : List ExchangeStep) : Crossing W (List (Exchanged × Pins) × Pins) := do
  let (answers, context) ← Context.steps table {} steps
  let pins ← context.close
  pure (answers, pins)

end Context

end NativeBoundary.Lending
