import NativeBoundary.Overrides
import NativeBoundary.Proofs.Scopes.ClosureCalls
import NativeBoundary.Reference.Table

/-!
# Buffers that closures map and change

Two calls of the reference library hand the bytes of a buffer to a closure.  One
replaces every byte by the answer of the closure, the other lends the whole
buffer to the closure after it has added one to the first byte.  This module
tells what the buffer holds afterwards, how often the closure was invoked and on
what, and how the call ends, for every closure and on every thread.

The calls end exactly if the invocations that they make end.  An invocation may
leave a panic parked without panicking itself: it can call back into the closure
of another scope, whose panic waits on the thread then.  So what stops a mapping
is a panic that waits, and not only a panic of the closure.
-/

namespace NativeBoundary

open NativeBoundary.Callback
open NativeBoundary.Lending
open NativeBoundary.Wire

variable {V : Type}

namespace Callback

/-! ## Invocations in a scope -/

/-- How an invocation of a closure ends while its scope is open on a thread and no panic is
parked, and what it leaves behind. -/
def Thread.Invokes (thread : Thread V) {shape : Shape} (closure : Closure V shape)
    (view : shape.View) (session : Session V) (lent : List UInt8)
    (outcome : Outcome shape.Answer) (left : Store V) : Prop :=
  ∃ depth,
    execute depth (closure view) (Store.onto ⟨session, none, lent⟩ (thread.push shape closure)) =
      some (outcome, left.onto (thread.push shape closure))

section

variable {thread : Thread V} {shape : Shape} {closure : Closure V shape} {session : Session V}
  {lent : List UInt8}

/-- An invocation is an evaluation under the scope of the closure and those around it. -/
theorem Thread.invokes_iff_evaluates {view : shape.View} {outcome : Outcome shape.Answer}
    {left : Store V} :
    thread.Invokes closure view session lent outcome left ↔
      Evaluates thread.isUnwinding (⟨shape, closure⟩ :: thread.chain) (closure view)
        ⟨session, none, lent⟩ outcome left := by
  have lists := thread.chain_lists.push shape closure
  constructor
  · rintro ⟨depth, finished⟩
    rcases execute_lexical (lists.onto _) finished with ⟨reached, same, evaluated⟩
    have sameStore : left = reached := congrArg Thread.store same
    rw [sameStore]
    exact evaluated
  · intro evaluated
    exact evaluated.finishes (thread.push shape closure) lists rfl

/-- In the scope of a closure, a call back is one invocation of it. -/
theorem Thread.evaluates_callBack_iff {argument : shape.Argument} {α : Type}
    {next : shape.Reply → Action V α} {outcome : Outcome α} {after : Store V} :
    Evaluates thread.isUnwinding (⟨shape, closure⟩ :: thread.chain) (.invoke shape argument next)
        ⟨session, none, lent⟩ outcome after ↔
      ∃ ended left,
        thread.Invokes closure (shape.view argument) session (shape.lent argument) ended left ∧
          Evaluates thread.isUnwinding (⟨shape, closure⟩ :: thread.chain)
            (next (shape.reply (ended.answer shape.defaultAnswer) left.lent))
            ⟨left.session, ended.waiting? left.parked, lent⟩ outcome after := by
  simp only [Thread.invokes_iff_evaluates]
  exact evaluates_invoke_iff (Chain.innermost?_cons_same shape closure thread.chain)

end

/-! ## Mapping bytes -/

/-- A closure is invoked on bytes one after the other.  Every invocation begins where the one
before it has ended, answers, and leaves no panic waiting. -/
inductive Answers (thread : Thread V) (closure : Closure V .byte) :
    Session V → (bytes answers : List UInt8) → Session V → Prop
  | nil {session : Session V} : Answers thread closure session [] [] session
  | cons {session between after : Session V} {byte answer : UInt8}
      {bytes answers lent : List UInt8}
      (invoked : thread.Invokes closure byte session [] (.returned answer) ⟨between, none, lent⟩)
      (rest : Answers thread closure between bytes answers after) :
      Answers thread closure session (byte :: bytes) (answer :: answers) after

theorem Answers.length_answers {thread : Thread V} {closure : Closure V .byte}
    {session after : Session V} {bytes answers : List UInt8}
    (answered : Answers thread closure session bytes answers after) :
    answers.length = bytes.length := by
  induction answered with
  | nil => rfl
  | cons invoked rest hypothesis => rw [List.length_cons, List.length_cons, hypothesis]

/-- What becomes of bytes that are mapped through a closure, from the panic that is parked before
to the one that waits afterwards. -/
inductive Mapping (thread : Thread V) (closure : Closure V .byte) :
    (parked : Option String) → Session V → (bytes left : List UInt8) → Session V →
      (waiting : Option String) → Prop
  /-- Every byte is replaced by its answer. -/
  | answered {session after : Session V} {bytes answers : List UInt8}
      (all : Answers thread closure session bytes answers after) :
      Mapping thread closure none session bytes answers after none
  /-- An invocation is the first behind which a panic waits, and the last one at all.  The bytes
  before hold their answers, and so does its own byte unless it panicked; the others are zero. -/
  | stopped {session between : Session V} {before answers rest : List UInt8} {byte : UInt8}
      {ended : Outcome UInt8} {left : Store V} {message : String}
      (earlier : Answers thread closure session before answers between)
      (invoked : thread.Invokes closure byte between [] ended left)
      (waits : ended.waiting? left.parked = some message) :
      Mapping thread closure none session (before ++ byte :: rest)
        (answers ++ ended.answer 0 :: List.replicate rest.length 0) left.session (some message)
  /-- While a panic is parked the closure is not invoked at all. -/
  | silent {session : Session V} {bytes : List UInt8} {message : String} :
      Mapping thread closure (some message) session bytes (List.replicate bytes.length 0) session
        (some message)

namespace Mapping

variable {thread : Thread V} {closure : Closure V .byte} {session between after : Session V}
  {byte : UInt8} {bytes left : List UInt8} {parked waiting : Option String}

/-- A buffer keeps its length. -/
theorem length_left (mapping : Mapping thread closure parked session bytes left after waiting) :
    left.length = bytes.length := by
  cases mapping with
  | answered all => exact all.length_answers
  | stopped earlier invoked waits => simp [earlier.length_answers]
  | silent => simp

/-- An answer goes before what becomes of the bytes after it. -/
theorem cons {answer : UInt8} {lent : List UInt8}
    (invoked : thread.Invokes closure byte session [] (.returned answer) ⟨between, none, lent⟩)
    (mapping : Mapping thread closure none between bytes left after waiting) :
    Mapping thread closure none session (byte :: bytes) (answer :: left) after waiting := by
  cases mapping with
  | answered all => exact .answered (.cons invoked all)
  | stopped earlier stopping waits => exact .stopped (.cons invoked earlier) stopping waits

/-- Without bytes nothing happens. -/
theorem nil_iff :
    Mapping thread closure none session [] left after waiting ↔
      left = [] ∧ after = session ∧ waiting = none := by
  constructor
  · intro mapping
    generalize whole : [] = all at mapping
    cases mapping with
    | answered answers =>
      subst whole
      cases answers
      exact ⟨rfl, rfl, rfl⟩
    | stopped earlier invoked waits => simp at whole
  · rintro ⟨rfl, rfl, rfl⟩
    exact .answered .nil

/-- Behind the first byte the mapping goes on with what its invocation has left, be it that a
panic waits or not. -/
theorem cons_iff :
    Mapping thread closure none session (byte :: bytes) left after waiting ↔
      ∃ ended reached others,
        thread.Invokes closure byte session [] ended reached ∧
          Mapping thread closure (ended.waiting? reached.parked) reached.session bytes others after
            waiting ∧
          left = ended.answer 0 :: others := by
  constructor
  · intro mapping
    generalize whole : byte :: bytes = all at mapping
    cases mapping with
    | answered answers =>
      subst whole
      cases answers with
      | cons invoked rest => exact ⟨_, _, _, invoked, .answered rest, rfl⟩
    | @stopped _ between before answers rest stopping ended reached message earlier invoked waits =>
      cases earlier with
      | nil =>
        cases whole
        refine ⟨ended, reached, _, invoked, ?_, rfl⟩
        rw [waits]
        exact .silent
      | cons first earlier =>
        cases whole
        exact ⟨_, _, _, first, .stopped earlier invoked waits, rfl⟩
  · rintro ⟨ended, ⟨after, parked, lent⟩, others, invoked, mapping, rfl⟩
    cases waits : ended.waiting? parked with
    | none =>
      obtain ⟨rfl, answer, rfl⟩ := Outcome.waiting?_eq_none_iff.mp waits
      exact mapping.cons invoked
    | some message =>
      rw [waits] at mapping
      cases mapping
      exact .stopped .nil invoked waits

end Mapping

/-! ## The loop over the bytes -/

/-- Library code whose result is changed goes on with the changed result. -/
theorem Action.ofForeign_map_andThen {shape : Shape} {ρ σ α : Type} (transform : ρ → σ)
    (code : Foreign shape ρ) (next : σ → Action V α) :
    (Action.ofForeign (code.map transform)).andThen next =
      (Action.ofForeign code).andThen fun result => next (transform result) := by
  induction code with
  | finish result => rfl
  | call argument further hypothesis =>
    exact congrArg (Action.invoke shape argument) (funext hypothesis)

/-- With nothing but defaults, every byte that is not finished becomes zero. -/
theorem answeredBy_replaceBytes (finished bytes : List UInt8) :
    (Reference.replaceBytes finished bytes).answeredBy (Shape.defaultReply .byte) =
      finished.reverse ++ List.replicate bytes.length 0 := by
  induction bytes generalizing finished with
  | nil => simp [Reference.replaceBytes, Foreign.answeredBy]
  | cons byte rest hypothesis =>
    refine (hypothesis (0 :: finished)).trans ?_
    simp [List.replicate_succ]

section

variable {thread : Thread V} {closure : Closure V .byte} {α : Type}
  {next : List UInt8 → Action V α} {outcome : Outcome α} {last : Store V} {lent : List UInt8}

/-- The loop over the bytes while a panic is parked. -/
theorem Thread.evaluates_replaceBytes_parked_iff {finished bytes : List UInt8}
    {session : Session V} {message : String} :
    Evaluates thread.isUnwinding (⟨.byte, closure⟩ :: thread.chain)
        ((Action.ofForeign (Reference.replaceBytes finished bytes)).andThen next)
        ⟨session, some message, lent⟩ outcome last ↔
      ∃ left after waiting,
        Mapping thread closure (some message) session bytes left after waiting ∧
          Evaluates thread.isUnwinding (⟨.byte, closure⟩ :: thread.chain)
            (next (finished.reverse ++ left)) ⟨after, waiting, lent⟩ outcome last := by
  rw [evaluates_ofForeign_parked_iff, answeredBy_replaceBytes]
  constructor
  · intro rest
    exact ⟨_, _, _, .silent, rest⟩
  · rintro ⟨left, after, waiting, mapping, rest⟩
    cases mapping
    exact rest

/-- In the scope of a closure, the loop over the bytes maps them through it and goes on with the
bytes that this leaves, behind the finished ones. -/
theorem Thread.evaluates_replaceBytes_iff (finished bytes : List UInt8) (session : Session V)
    (parked : Option String) :
    Evaluates thread.isUnwinding (⟨.byte, closure⟩ :: thread.chain)
        ((Action.ofForeign (Reference.replaceBytes finished bytes)).andThen next)
        ⟨session, parked, lent⟩ outcome last ↔
      ∃ left after waiting,
        Mapping thread closure parked session bytes left after waiting ∧
          Evaluates thread.isUnwinding (⟨.byte, closure⟩ :: thread.chain)
            (next (finished.reverse ++ left)) ⟨after, waiting, lent⟩ outcome last := by
  induction bytes generalizing finished session parked with
  | nil =>
    cases parked with
    | some message => exact evaluates_replaceBytes_parked_iff
    | none =>
      constructor
      · intro rest
        refine ⟨[], session, none, Mapping.nil_iff.mpr ⟨rfl, rfl, rfl⟩, ?_⟩
        rw [List.append_nil]
        exact rest
      · rintro ⟨left, after, waiting, mapping, rest⟩
        obtain ⟨rfl, rfl, rfl⟩ := Mapping.nil_iff.mp mapping
        rw [List.append_nil] at rest
        exact rest
  | cons byte rest hypothesis =>
    cases parked with
    | some message => exact evaluates_replaceBytes_parked_iff
    | none =>
      refine evaluates_callBack_iff.trans ?_
      constructor
      · rintro ⟨ended, reached, invoked, evaluated⟩
        obtain ⟨others, after, waiting, mapping, further⟩ := (hypothesis _ _ _).mp evaluated
        rw [List.reverse_cons, List.append_assoc] at further
        have longer := Mapping.cons_iff.mpr ⟨ended, reached, others, invoked, mapping, rfl⟩
        exact ⟨_, after, waiting, longer, further⟩
      · rintro ⟨left, after, waiting, mapping, further⟩
        obtain ⟨ended, reached, others, invoked, remaining, rfl⟩ := Mapping.cons_iff.mp mapping
        refine ⟨ended, reached, invoked, (hypothesis _ _ _).mpr ?_⟩
        refine ⟨others, after, waiting, remaining, ?_⟩
        rw [List.reverse_cons, List.append_assoc]
        exact further

end

/-! ## Changing a buffer -/

theorem bumpFirst_eq_modifyHead (bytes : List UInt8) :
    Reference.bumpFirst bytes = bytes.modifyHead (· + 1) := by
  cases bytes <;> rfl

/-- What becomes of a buffer that is lent to a closure after one was added to its first byte, from
the panic that is parked before to the one that waits afterwards. -/
inductive Changing (thread : Thread V) (closure : Closure V .sliceMut) :
    (parked : Option String) → Session V → (bytes left : List UInt8) → Session V →
      (waiting : Option String) → Prop
  /-- The closure is invoked once, and the buffer is as the closure has left it, be it that it
  panicked or not. -/
  | invoked {session : Session V} {bytes : List UInt8} {ended : Outcome Unit} {left : Store V}
      (once :
        thread.Invokes closure (bytes.modifyHead (· + 1)) session (bytes.modifyHead (· + 1))
          ended left) :
      Changing thread closure none session bytes left.lent left.session
        (ended.waiting? left.parked)
  /-- While a panic is parked the closure is not invoked at all. -/
  | silent {session : Session V} {bytes : List UInt8} {message : String} :
      Changing thread closure (some message) session bytes (bytes.modifyHead (· + 1)) session
        (some message)

/-- In the scope of a closure, the code that lends it a buffer goes on with the buffer as the
closure leaves it. -/
theorem Thread.evaluates_changeBytes_iff {thread : Thread V} {closure : Closure V .sliceMut}
    {α : Type} {next : Descriptor UInt8 → Action V α} {outcome : Outcome α} {last : Store V}
    {lent : List UInt8} (bytes : List UInt8) (session : Session V) (parked : Option String) :
    Evaluates thread.isUnwinding (⟨.sliceMut, closure⟩ :: thread.chain)
        ((Action.ofForeign
          (Reference.callbackExports.patternFfiSlice3 (.lent bytes) true)).andThen next)
        ⟨session, parked, lent⟩ outcome last ↔
      ∃ left after waiting,
        Changing thread closure parked session bytes left after waiting ∧
          Evaluates thread.isUnwinding (⟨.sliceMut, closure⟩ :: thread.chain)
            (next (.lent left)) ⟨after, waiting, lent⟩ outcome last := by
  have code :
      Reference.callbackExports.patternFfiSlice3 (.lent bytes) true =
        .call (.lent (bytes.modifyHead (· + 1))) fun left => .finish (.lent left) := by
    rw [← bumpFirst_eq_modifyHead]
    rfl
  rw [code]
  cases parked with
  | some message =>
    refine evaluates_ofForeign_parked_iff.trans ?_
    constructor
    · intro rest
      exact ⟨_, _, _, .silent, rest⟩
    · rintro ⟨left, after, waiting, changing, rest⟩
      cases changing
      exact rest
  | none =>
    refine evaluates_callBack_iff.trans ?_
    constructor
    · rintro ⟨ended, left, invoked, rest⟩
      exact ⟨_, _, _, .invoked invoked, rest⟩
    · rintro ⟨left, after, waiting, changing, rest⟩
      cases changing with
      | invoked once => exact ⟨_, _, once, rest⟩

end Callback

namespace Gateway

/-! ## Calls with a buffer -/

/-- Leaving the elements of a descriptor in the lent bytes changes nothing else. -/
theorem evaluates_leaveElements_iff {unwinding : Bool} {chain : Chain V}
    {descriptor : Descriptor UInt8} {store after : Store V} {outcome : Outcome Unit} :
    Evaluates unwinding chain (leaveElements descriptor) store outcome after ↔
      outcome = .returned () ∧ after = { store with lent := descriptor.elements } :=
  evaluates_edit_iff.trans evaluates_done_iff

/-- A call with a buffer ends as its library code and the panic that waits behind it let it end,
and tells what the library code leaves in the buffer. -/
theorem execute_buffered_iff {shape : Shape} {closure : Closure V shape} {ρ : Type}
    {symbol : Symbol} {code : Foreign shape ρ} {descriptor : ρ → Descriptor UInt8}
    {bytes : List UInt8} {thread last : Thread V} {ended : Outcome (Outcome Unit × List UInt8)} :
    (∃ depth,
      execute depth
        (lending bytes
          (.enter shape closure
            ((Action.native symbol code).andThen fun result =>
              leaveElements (descriptor result)) .done)) thread = some (ended, last)) ↔
      ∃ outcome between,
        Evaluates thread.isUnwinding (⟨shape, closure⟩ :: thread.chain)
            ((Action.ofForeign code).andThen fun result => leaveElements (descriptor result))
            ⟨(thread.session.noted (.raised (Pins.none.acquire.acquiredRecord bytes.length))).noted
              (.called symbol none), thread.parked, bytes⟩ outcome between ∧
          ended =
            .returned (outcome.leaving thread.isUnwinding between.parked, between.lent) ∧
          last =
            { thread with
              session := between.session.noted (.raised Pins.none.acquire.release.releasedRecord)
              parked := none } := by
  rw [execute_iff_evaluates]
  simp only [lending, evaluates_note_iff, evaluates_lend_iff, evaluates_enter_iff,
    evaluates_done_iff]
  constructor
  · rintro ⟨left, rfl, outcome, between, ⟨ended, reached, body, rfl, rfl⟩, rfl, rfl⟩
    exact ⟨ended, reached, evaluates_note_iff.mp body, rfl, rfl⟩
  · rintro ⟨outcome, between, body, rfl, rfl⟩
    exact ⟨_, rfl, _, _, ⟨outcome, between, evaluates_note_iff.mpr body, rfl, rfl⟩, rfl, rfl⟩

/-- Buffers pass through closures, whatever scopes are open on a thread and whatever is parked on
it.  The mapping call ends exactly if the bytes can be mapped through the closure, and leaves as
many bytes as it got; the changing call ends exactly if the closure can be invoked on the whole
buffer, and leaves what the closure has left.  A panic that waits then ends the call, unless the
thread was unwinding before, and nothing of the call stays on the thread. -/
theorem buffers_pass_through_closures (changes : Overrides) (isDynamic : Bool)
    (bytes : List UInt8) (thread : Thread V) :
    let gateway : Gateway Reference.Heap := ⟨changes.apply Reference.table, isDynamic⟩
    (∀ (closure : Closure V .byte) ended last,
      (∃ depth,
        execute depth (gateway.ffiSlice6 bytes closure) thread = some (ended, last)) ↔
        ∃ left after waiting,
          Mapping thread closure thread.parked
              ((ClosureCall.slice6 bytes).opened thread.session) bytes left after waiting ∧
            left.length = bytes.length ∧
            ended =
              .returned ((Outcome.returned ()).leaving thread.isUnwinding waiting, left) ∧
            last =
              { thread with
                session := (ClosureCall.slice6 bytes).closed after, parked := none }) ∧
    ∀ (closure : Closure V .sliceMut) ended last,
      (∃ depth,
        execute depth (gateway.ffiSlice3 bytes closure) thread = some (ended, last)) ↔
        ∃ left after waiting,
          Changing thread closure thread.parked
              ((ClosureCall.slice3 bytes).opened thread.session) bytes left after waiting ∧
            ended =
              .returned ((Outcome.returned ()).leaving thread.isUnwinding waiting, left) ∧
            last =
              { thread with
                session := (ClosureCall.slice3 bytes).closed after, parked := none } := by
  intro gateway
  constructor
  · intro closure ended last
    refine execute_buffered_iff.trans ?_
    have code :
        gateway.exports.patternFfiSlice6 (some (.lent bytes)) true =
          (Reference.replaceBytes [] bytes).map fun left => some (.lent left) := rfl
    rw [code]
    simp only [Action.ofForeign_map_andThen, Thread.evaluates_replaceBytes_iff,
      evaluates_leaveElements_iff]
    constructor
    · rintro ⟨outcome, between, ⟨left, after, waiting, mapping, rfl, rfl⟩, rfl, rfl⟩
      exact ⟨left, after, waiting, mapping, mapping.length_left, rfl, rfl⟩
    · rintro ⟨left, after, waiting, mapping, -, rfl, rfl⟩
      exact ⟨_, _, ⟨left, after, waiting, mapping, rfl, rfl⟩, rfl, rfl⟩
  · intro closure ended last
    refine execute_buffered_iff.trans ?_
    have code :
        gateway.exports.patternFfiSlice3 (.lent bytes) true =
          Reference.callbackExports.patternFfiSlice3 (.lent bytes) true := rfl
    rw [code]
    simp only [Thread.evaluates_changeBytes_iff, evaluates_leaveElements_iff]
    constructor
    · rintro ⟨outcome, between, ⟨left, after, waiting, changing, rfl, rfl⟩, rfl, rfl⟩
      exact ⟨left, after, waiting, changing, rfl, rfl⟩
    · rintro ⟨left, after, waiting, changing, rfl, rfl⟩
      exact ⟨_, _, ⟨left, after, waiting, changing, rfl, rfl⟩, rfl, rfl⟩

/-- A closure on bytes that notes what it is invoked on and panics on a two. -/
def noting : Closure (List UInt8) .byte := fun byte =>
  .change (byte :: ·) (if byte = 2 then .panic "two" else .done (byte * 10))

theorem buffers_pass_through_closures_noting :
    ∃ depth last,
      execute depth (ffiSlice6 ⟨({} : Overrides).apply Reference.table, false⟩ [1, 2, 3] noting)
          (Thread.fresh ⟨[], []⟩) = some (.returned (.panicked "two", [10, 0, 0]), last) ∧
        last.session.world = [2, 1] := by
  let thread : Thread (List UInt8) := Thread.fresh ⟨[], []⟩
  let opened := (ClosureCall.slice6 [1, 2, 3]).opened thread.session
  have first :
      thread.Invokes noting 1 opened [] (.returned 10) ⟨{ opened with world := [1] }, none, []⟩ :=
    ⟨0, rfl⟩
  have second :
      thread.Invokes noting 2 { opened with world := [1] } [] (.panicked "two")
        ⟨{ opened with world := [2, 1] }, none, []⟩ :=
    ⟨0, rfl⟩
  have mapping : Mapping thread noting none opened [1, 2, 3] [10, 0, 0] _ (some "two") :=
    @Mapping.stopped _ thread noting opened _ [1] [10] [3] 2 _ _ _ (.cons first .nil) second rfl
  obtain ⟨depth, ran⟩ :=
    ((buffers_pass_through_closures {} false [1, 2, 3] thread).1 noting _ _).mpr
      ⟨_, _, _, mapping, rfl, rfl, rfl⟩
  exact ⟨depth, _, ran, rfl⟩

/-- What a closure has written into the buffer stays there when it panics afterwards. -/
example :
    (execute 1
      (ffiSlice3 ⟨Reference.table, false⟩ [255, 1, 2] fun _ =>
        (.edit (·.set 1 9) (.panic "late") : Callback.Action Unit Unit))
      (Thread.fresh ⟨(), []⟩)).map Prod.fst =
        some (.returned (.panicked "late", [0, 9, 2])) := by
  decide +kernel

/-! ## Panics of others -/

/-- Make the mapping call and keep what it leaves in the buffer. -/
def keepMapped (bytes : List UInt8) (closure : Closure (List UInt8) .byte) :
    Action (List UInt8) Unit :=
  (ffiSlice6 ⟨Reference.table, false⟩ bytes closure).andThen fun result =>
    .change (fun _ => result.2) (.done ())

/-- It is not so that a mapping through a closure that always answers replaces every byte by its
answer: not behind a panic of the scope around it, and not when the closure calls back into such
a scope.  Nor does a panic always end the call: not when the thread unwinds already. -/
theorem not_forall_bytes_are_mapped :
    (¬ ∀ (outer : Closure (List UInt8) .byte) (bytes : List UInt8) (answer : UInt8 → UInt8),
      ∃ depth outcome last,
        execute depth
            (.enter .byte outer
              (.invoke .byte 1 fun _ => keepMapped bytes fun byte => .done (answer byte)) .done)
            (Thread.fresh ⟨[], []⟩) = some (outcome, last) ∧
          last.session.world = bytes.map answer) ∧
    (¬ ∀ (outer : Closure (List UInt8) .word) (bytes : List UInt8) (answer : UInt8 → UInt8),
      ∃ depth outcome last,
        execute depth
            (.enter .word outer
              (keepMapped bytes fun byte => .invoke .word 7 fun _ => .done (answer byte)) .done)
            (Thread.fresh ⟨[], []⟩) = some (outcome, last) ∧
          last.session.world = bytes.map answer) ∧
    ¬ ∀ (bytes : List UInt8) (message : String) (thread : Thread Unit), bytes ≠ [] →
      ∃ depth left last,
        execute depth (ffiSlice6 ⟨Reference.table, false⟩ bytes fun _ => .panic message) thread =
          some (.returned (.panicked message, left), last) := by
  refine ⟨?_, ?_, ?_⟩
  · intro mapped
    obtain ⟨depth, outcome, last, ran, world⟩ := mapped (fun _ => .panic "boom") [1, 2, 3] (· + 1)
    have zeros : last.session.world = [0, 0, 0] :=
      execute_shows 2 (fun result => result.2.session.world) ran (by decide +kernel)
    rw [zeros] at world
    exact absurd world (by decide)
  · intro mapped
    obtain ⟨depth, outcome, last, ran, world⟩ := mapped (fun _ => .panic "boom") [1, 2, 3] (· + 1)
    have stopped : last.session.world = [2, 0, 0] :=
      execute_shows 2 (fun result => result.2.session.world) ran (by decide +kernel)
    rw [stopped] at world
    exact absurd world (by decide)
  · intro unwinds
    obtain ⟨depth, left, last, ran⟩ :=
      unwinds [1] "boom" { Thread.fresh ⟨(), []⟩ with isUnwinding := true } (by decide)
    have returned :
        (.returned (.panicked "boom", left) : Outcome (Outcome Unit × List UInt8)) =
          .returned (.returned (), [0]) :=
      execute_shows 1 Prod.fst ran (by decide +kernel)
    cases returned

end Gateway

end NativeBoundary
