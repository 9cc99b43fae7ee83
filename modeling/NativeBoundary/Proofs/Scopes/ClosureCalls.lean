import NativeBoundary.Callback.Script
import NativeBoundary.Proofs.Scopes.Confined
import NativeBoundary.Reference.Table

/-!
# Calls with closures and their panics

A gateway installs a closure for one call of the library.  The panic of a closure
is kept from the library and goes on in the caller: the call ends with the first
panic of its closure, the closure is not run again after it, and the library gets
defaults from then on.  Without a panic the call returns what the library has
computed from the answers.  Either way nothing of the call stays on the thread.
-/

namespace NativeBoundary

open NativeBoundary.Callback
open NativeBoundary.Lending
open NativeBoundary.Wire
open NativeBoundary.Word

variable {V W : Type}

namespace Callback.ClosureCall

/-- What a call returns beside the buffer that goes with it. -/
abbrev Result : ClosureCall → Type
  | .callback _ => UInt8
  | .callback1 _ => UInt32
  | .slice3 _ => Unit
  | .slice6 _ => Unit
  | .delegate => UInt8
  | .delegateHuge => Vector3

def symbol : ClosureCall → Symbol
  | .callback _ => .callback
  | .callback1 _ => .patternCallback1
  | .slice3 _ => .patternFfiSlice3
  | .slice6 _ => .patternFfiSlice6
  | .delegate => .patternFfiSliceDelegate
  | .delegateHuge => .patternFfiSliceDelegateHuge

/-- The buffer that a call lends to the library. -/
def buffer? : ClosureCall → Option (List UInt8)
  | .slice3 bytes => some bytes
  | .slice6 bytes => some bytes
  | .callback _ => none
  | .callback1 _ => none
  | .delegate => none
  | .delegateHuge => none

/-- The session in which the library code of a call begins. -/
def opened (made : ClosureCall) (session : Session V) : Session V :=
  match made.buffer? with
  | none => session.noted (.called made.symbol none)
  | some bytes =>
    (session.noted (.raised (Pins.none.acquire.acquiredRecord bytes.length))).noted
      (.called made.symbol none)

/-- The session after a call, when the library code left another one. -/
def closed (made : ClosureCall) (session : Session V) : Session V :=
  match made.buffer? with
  | none => session
  | some _ => session.noted (.raised Pins.none.acquire.release.releasedRecord)

/-- The library code of a call: what it returns, and what it leaves in the buffer. -/
def code (gateway : Gateway W) :
    (made : ClosureCall) → Foreign made.shape (made.Result × List UInt8)
  | .callback value => (gateway.exports.callback true value).map fun answer => (answer, [])
  | .callback1 value =>
    (gateway.exports.patternCallback1 true value).map fun answer => (answer, [])
  | .slice3 bytes =>
    (gateway.exports.patternFfiSlice3 (.lent bytes) true).map fun left => ((), left.elements)
  | .slice6 bytes =>
    (gateway.exports.patternFfiSlice6 (some (.lent bytes)) true).map fun left =>
      ((), (left.getD (.lent bytes)).elements)
  | .delegate =>
    (gateway.exports.patternFfiSliceDelegate true).map fun answer => (answer, [])
  | .delegateHuge =>
    (gateway.exports.patternFfiSliceDelegateHuge true).map fun answer => (answer, [])

end Callback.ClosureCall

namespace Gateway

/-- Make a call with a closure: how it ends, and what is left in the buffer that goes with it. -/
def closureCall (gateway : Gateway W) :
    (made : ClosureCall) → Closure V made.shape → Action V (Outcome made.Result × List UInt8)
  | .callback value, closure =>
    .attempt (gateway.callback closure value) fun outcome => .done (outcome, [])
  | .callback1 value, closure =>
    .attempt (gateway.callback1 closure value) fun outcome => .done (outcome, [])
  | .slice3 bytes, closure => gateway.ffiSlice3 bytes closure
  | .slice6 bytes, closure => gateway.ffiSlice6 bytes closure
  | .delegate, closure =>
    .attempt (gateway.ffiSliceDelegate closure) fun outcome => .done (outcome, [])
  | .delegateHuge, closure =>
    .attempt (gateway.ffiSliceDelegateHuge closure) fun outcome => .done (outcome, [])

variable (gateway : Gateway W)

/-! ## Calls with closures are confined -/

/-- Leaving the elements of a descriptor in the lent bytes is inert. -/
theorem inert_leaveElements (descriptor : Descriptor UInt8) :
    Inert (leaveElements descriptor : Action V Unit) :=
  .edit .done

/-- A part of a call that is confined stays so under a pin. -/
theorem confined_lending {bytes : List UInt8} {body : Action V Unit} (confined : Confined body) :
    Confined (lending bytes body) :=
  .work fun _ => .lend confined fun _ _ => .work fun _ => .done

/-- A closure may make calls with closures itself. -/
theorem confined_closureCall {made : ClosureCall} {closure : Closure V made.shape}
    (called : ∀ view, Confined (closure view)) :
    Confined (gateway.closureCall made closure) := by
  cases made with
  | callback value => exact .attempt (.native called fun _ => .done) fun _ => .done
  | callback1 value => exact .attempt (.native called fun _ => .done) fun _ => .done
  | slice3 bytes =>
    exact confined_lending (.crossing called inert_leaveElements fun _ => .done)
  | slice6 bytes =>
    exact confined_lending (.crossing called (fun _ => inert_leaveElements _) fun _ => .done)
  | delegate => exact .attempt (.native called fun _ => .done) fun _ => .done
  | delegateHuge => exact .attempt (.native called fun _ => .done) fun _ => .done

/-! ## How a call with a closure ends -/

section

variable {chain : Chain V} {shape : Shape} {closure : Closure V shape} {ρ : Type}
  {symbol : Symbol} {code : Foreign shape ρ} {session after : Session V}
  {log : List (Outcome shape.Answer)} {result : ρ} {lent : List UInt8}

/-- A call without a buffer ends as its conversation ends. -/
theorem evaluates_unbuffered (contained : ∀ view, (closure view).SelfContained)
    (talks : Conversation closure code (session.noted (.called symbol none)) log result after) :
    Evaluates false chain
      (.attempt (.enter shape closure (.native symbol code) .done) fun outcome =>
        (.done (outcome, []) : Action V (Outcome ρ × List UInt8)))
      ⟨session, none, lent⟩ (.returned (endOf log result, [])) ⟨after, none, lent⟩ := by
  rw [← Action.andThen_done (Action.native symbol code)]
  exact .attempt (talks.crossing contained fun parked => .done) .done

/-- A call with a buffer ends as its conversation ends, and tells what is left in the buffer. -/
theorem evaluates_buffered {bytes : List UInt8} {left : ρ → Descriptor UInt8}
    (contained : ∀ view, (closure view).SelfContained)
    (talks :
      Conversation closure code
        ((session.noted (.raised (Pins.none.acquire.acquiredRecord bytes.length))).noted
          (.called symbol none)) log result after) :
    Evaluates false chain
      (lending bytes
        (.enter shape closure
          ((Action.native symbol code).andThen fun result => leaveElements (left result)) .done))
      ⟨session, none, lent⟩ (.returned (endOf log (), (left result).elements))
      ⟨after.noted (.raised Pins.none.acquire.release.releasedRecord), none, lent⟩ := by
  have finished : ∀ parked,
      Evaluates false (⟨shape, closure⟩ :: chain) (leaveElements (left result))
        ⟨after, parked, bytes⟩ (.returned ()) ⟨after, parked, (left result).elements⟩ :=
    fun parked => .edit .done
  exact .work (.lend (talks.crossing contained finished) (.work .done))

end

/-- A call with a closure holds a conversation of its library code with the closure and ends as
the conversation ends, whatever scopes are open around it. -/
theorem closureCall_evaluates (made : ClosureCall) {closure : Closure V made.shape}
    (contained : ∀ view, (closure view).SelfContained) (session : Session V) :
    ∃ log result after,
      Conversation closure (made.code gateway) (made.opened session) log result after ∧
        ∀ lent chain,
          Evaluates false chain (gateway.closureCall made closure) ⟨session, none, lent⟩
            (.returned (endOf log result.1, result.2)) ⟨made.closed after, none, lent⟩ := by
  cases made with
  | callback value =>
    rcases exists_conversation contained (gateway.exports.callback true value)
      (session.noted (.called .callback none)) with ⟨log, result, after, talks⟩
    exact ⟨log, (result, []), after, talks.map _, fun lent chain =>
      evaluates_unbuffered contained talks⟩
  | callback1 value =>
    rcases exists_conversation contained (gateway.exports.patternCallback1 true value)
      (session.noted (.called .patternCallback1 none)) with ⟨log, result, after, talks⟩
    exact ⟨log, (result, []), after, talks.map _, fun lent chain =>
      evaluates_unbuffered contained talks⟩
  | slice3 bytes =>
    rcases exists_conversation contained
      (gateway.exports.patternFfiSlice3 (.lent bytes) true)
      ((ClosureCall.slice3 bytes).opened session) with ⟨log, result, after, talks⟩
    exact ⟨log, ((), result.elements), after, talks.map _, fun lent chain =>
      evaluates_buffered contained talks⟩
  | slice6 bytes =>
    rcases exists_conversation contained
      (gateway.exports.patternFfiSlice6 (some (.lent bytes)) true)
      ((ClosureCall.slice6 bytes).opened session) with ⟨log, result, after, talks⟩
    exact ⟨log, ((), (result.getD (.lent bytes)).elements), after, talks.map _,
      fun lent chain => evaluates_buffered contained talks⟩
  | delegate =>
    rcases exists_conversation contained (gateway.exports.patternFfiSliceDelegate true)
      (session.noted (.called .patternFfiSliceDelegate none)) with ⟨log, result, after, talks⟩
    exact ⟨log, (result, []), after, talks.map _, fun lent chain =>
      evaluates_unbuffered contained talks⟩
  | delegateHuge =>
    rcases exists_conversation contained (gateway.exports.patternFfiSliceDelegateHuge true)
      (session.noted (.called .patternFfiSliceDelegateHuge none)) with
      ⟨log, result, after, talks⟩
    exact ⟨log, (result, []), after, talks.map _, fun lent chain =>
      evaluates_unbuffered contained talks⟩

/-- The panics of a closure cross the library faithfully, on every thread that is not unwinding
and on which no panic is parked.  The library code of the call holds a conversation with the
closure.  Either every call of the closure has answered and the call returns what the library
code has computed, or exactly the last call of the closure has panicked and the call ends with
that panic.  The thread is left as it was, so that whatever confined action comes next, another
call with a closure among them, ends as on a fresh thread. -/
theorem closure_panics_cross (made : ClosureCall) (closure : Closure V made.shape)
    (confined : ∀ view, Confined (closure view)) (thread : Thread V)
    (calm : thread.isUnwinding = false) (clear : thread.parked = none) :
    ∃ (log : List (Outcome made.shape.Answer)) (result : made.Result × List UInt8)
      (between : Session V) (ended : Outcome made.Result) (after : Thread V),
      Conversation closure (made.code gateway) (made.opened thread.session) log result between ∧
      (∃ depth,
        execute depth (gateway.closureCall made closure) thread =
          some (.returned (ended, result.2), after)) ∧
      after = { thread with session := made.closed between } ∧
      ((∃ answers : List made.shape.Answer,
          log = answers.map .returned ∧ ended = .returned result.1) ∨
        ∃ (answers : List made.shape.Answer) (message : String),
          log = answers.map .returned ++ [.panicked message] ∧ ended = .panicked message) ∧
      ∀ (β : Type) (next : Action V β), Confined next →
        ∃ outcome later left,
          (∃ depth,
            execute depth next after =
              some (outcome, { after with session := later, lent := left })) ∧
          next.EndsAlone after.session after.lent outcome later left := by
  have contained : ∀ view, (closure view).SelfContained :=
    fun view => (confined view).selfContained
  rcases gateway.closureCall_evaluates made contained thread.session with
    ⟨log, result, between, talks, everywhere⟩
  refine ⟨log, result, between, endOf log result.1, { thread with session := made.closed between },
    talks, ?_, rfl, ?_, ?_⟩
  · exact Action.execute_of_evaluates calm clear (everywhere thread.lent thread.chain)
  · rcases talks.log_cases with ⟨none, answers, same⟩ | ⟨message, panics, answers, same⟩
    · refine .inl ⟨answers, same, ?_⟩
      rw [endOf, none]
    · refine .inr ⟨answers, message, same, ?_⟩
      rw [endOf, panics]
  · intro β next furtherConfined
    rcases furtherConfined.selfContained.exists_endsAlone (made.closed between) thread.lent with
      ⟨outcome, later, left, alone⟩
    refine ⟨outcome, later, left, ?_, alone⟩
    exact Action.execute_of_evaluates calm clear
      (furtherConfined.selfContained.evaluates alone _)

end Gateway

/-- A closure on bytes that panics on a two, after a call with a closure of its own. -/
def stopping : Closure Unit .byte := fun view =>
  (Gateway.closureCall ⟨Reference.table, false⟩ (.callback1 7) fun word => .done (word * 2)).andThen
    fun _ => if view = 2 then .panic "stop" else .done (view * 10)

theorem closure_panics_cross_stopping :
    (∀ view, Confined (stopping view)) ∧
    ∃ log between,
      Conversation stopping (ClosureCall.code ⟨Reference.table, false⟩ (.slice6 [1, 2, 3]))
        (ClosureCall.opened (.slice6 [1, 2, 3]) ⟨(), []⟩) log ((), [10, 0, 0]) between ∧
      (∃ depth after,
        execute depth (Gateway.closureCall ⟨Reference.table, false⟩ (.slice6 [1, 2, 3]) stopping)
          (Thread.fresh ⟨(), []⟩) = some (.returned (.panicked "stop", [10, 0, 0]), after)) ∧
      ∃ answers : List UInt8, log = answers.map .returned ++ [.panicked "stop"] := by
  have confined : ∀ view, Confined (stopping view) := by
    intro view
    refine Confined.andThen (Gateway.confined_closureCall _ fun _ => .done) ?_
    intro _
    by_cases two : view = 2
    · rw [if_pos two]
      exact .panic
    · rw [if_neg two]
      exact .done
  refine ⟨confined, ?_⟩
  rcases Gateway.closure_panics_cross ⟨Reference.table, false⟩ (.slice6 [1, 2, 3]) stopping confined
    (Thread.fresh ⟨(), []⟩) rfl rfl with
    ⟨log, result, between, ended, after, talks, ⟨depth, ran⟩, same, ends, further⟩
  have shown :
      (execute 2 (Gateway.closureCall ⟨Reference.table, false⟩ (.slice6 [1, 2, 3]) stopping)
        (Thread.fresh ⟨(), []⟩)).map Prod.fst =
          some (.returned (.panicked "stop", [10, 0, 0])) := by
    decide +kernel
  rcases Option.map_eq_some_iff.mp shown with ⟨finished, ranWithin, first⟩
  rw [← execute_unique ran ranWithin] at first
  injection first with answered
  have panicked : ended = .panicked "stop" := congrArg Prod.fst answered
  have left : result.2 = [10, 0, 0] := congrArg Prod.snd answered
  have whole : result = ((), [10, 0, 0]) := Prod.ext rfl left
  rw [panicked, left] at ran
  rw [whole] at talks
  refine ⟨log, between, talks, ⟨depth, after, ran⟩, ?_⟩
  rcases ends with ⟨answers, _, returned⟩ | ⟨answers, message, listed, other⟩
  · rw [panicked] at returned
    cases returned
  · rw [panicked] at other
    cases other
    exact ⟨answers, listed⟩

end NativeBoundary
