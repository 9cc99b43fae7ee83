import NativeBoundary.Proofs.Scopes.Marks

/-!
# Parked panics that are swallowed

The panic of a closure is parked in the one place that all scopes share, and the first scope that
ends takes it from there.  So it ends the scope of its closure by unwinding unless a scope
inside took it and the unwinding of that one was caught before; then the scope of the closure may
return as if nothing had happened.
-/

namespace NativeBoundary.Callback

variable {W : Type}

/-- A scope ended by unwinding, and a panic was caught after that. -/
def Swallowed (marks : List Mark) : Prop :=
  ∃ earlier level later, marks = earlier ++ .unwound level :: later ∧ .caught ∈ later

namespace Swallowed

variable {marks : List Mark}

theorem append_left (swallowed : Swallowed marks) (before : List Mark) :
    Swallowed (before ++ marks) := by
  obtain ⟨earlier, level, later, rfl, caught⟩ := swallowed
  exact ⟨before ++ earlier, level, later, by rw [List.append_assoc], caught⟩

theorem append_right (swallowed : Swallowed marks) (further : List Mark) :
    Swallowed (marks ++ further) := by
  obtain ⟨earlier, level, later, rfl, caught⟩ := swallowed
  exact ⟨earlier, level, later ++ further, by rw [List.append_assoc, List.cons_append],
    List.mem_append_left _ caught⟩

/-- The unwinding of a part is caught when a panic is caught behind it. -/
theorem of_caught {level : Nat} (unwound : .unwound level ∈ marks) (further : List Mark) :
    Swallowed (marks ++ .caught :: further) := by
  obtain ⟨earlier, later, rfl⟩ := List.append_of_mem unwound
  exact ⟨earlier, level, later ++ .caught :: further, by rw [List.append_assoc, List.cons_append],
    List.mem_append_right _ List.mem_cons_self⟩

end Swallowed

/-! ## What becomes of a parked panic -/

/-- What an action with these marks has made of a panic that was parked before them: it is still
parked, or a scope has taken it and the action ends by unwinding, or it was swallowed. -/
inductive Fate {α : Type} (marks : List Mark) (outcome : Outcome α) (after : Store W) : Prop
  | parked (waiting : after.parked ≠ none)
  | passed {message : String} {level : Nat} (panics : outcome = .panicked message)
      (taken : .unwound level ∈ marks)
  | swallowed (caught : Swallowed marks)

namespace Fate

variable {α β : Type} {marks further : List Mark} {ended : Outcome β} {outcome : Outcome α}
  {between after : Store W}

theorem append_left (fate : Fate further outcome after) (marks : List Mark) :
    Fate (marks ++ further) outcome after := by
  cases fate with
  | parked waiting => exact .parked waiting
  | passed panics taken => exact .passed panics (List.mem_append_right _ taken)
  | swallowed caught => exact .swallowed (caught.append_left marks)

/-- A scope that ends by unwinding passes a panic on. -/
theorem unwound (marks : List Mark) (level : Nat) (message : String) :
    Fate (marks ++ [.unwound level]) (.panicked message : Outcome α) after :=
  .passed rfl (List.mem_append_right _ (List.mem_singleton_self _))

/-- Behind a part whose panic is caught, the panic is still parked or was swallowed. -/
theorem attempt (first : Fate marks ended between)
    (rest : between.parked ≠ none → Fate further outcome after) :
    Fate (marks ++ (Mark.ofEnd ended ++ further)) outcome after := by
  cases first with
  | parked waiting => exact ((rest waiting).append_left _).append_left _
  | passed panics taken =>
    subst panics
    exact .swallowed (.of_caught taken further)
  | swallowed caught => exact .swallowed (caught.append_right _)

/-- So it is behind a part that returned. -/
theorem returned {value : β} (first : Fate marks (.returned value) between)
    (rest : between.parked ≠ none → Fate further outcome after) :
    Fate (marks ++ further) outcome after :=
  first.attempt rest

end Fate

variable {chain : Chain W} {α : Type} {action : Action W α} {store after : Store W}
  {marks : List Mark} {outcome : Outcome α}

/-- An action begins with a parked panic: it is kept, passed on or swallowed. -/
theorem Traced.fate (traced : Traced chain action store marks outcome after)
    (waiting : store.parked ≠ none) : Fate marks outcome after := by
  induction traced with
  | done => exact .parked waiting
  | panic => exact .parked waiting
  | work rest hypothesis => exact hypothesis waiting
  | edit rest hypothesis => exact hypothesis waiting
  | attempt first rest firstHypothesis restHypothesis =>
    exact (firstHypothesis waiting).attempt restHypothesis
  | lend first rest firstHypothesis restHypothesis =>
    exact (firstHypothesis waiting).attempt restHypothesis
  | unwound first hypothesis => exact .unwound _ _ _
  | resumed first waiting hypothesis => exact .unwound _ _ _
  | left first quiet rest firstHypothesis restHypothesis =>
    exact (firstHypothesis waiting).returned restHypothesis
  | unanswered idle rest hypothesis => exact hypothesis waiting
  | answered clear innermost called rest calledHypothesis restHypothesis =>
    exact absurd clear waiting
  | trapped clear innermost called rest calledHypothesis restHypothesis =>
    exact absurd clear waiting

theorem mem_of_eq_append_cons {marks before rest : List Mark} {mark : Mark}
    (written : marks = before ++ mark :: rest) : mark ∈ marks := by
  rw [written]
  exact List.mem_append_right _ List.mem_cons_self

/-- A mark of two parts in a row is one of the first or one of the second part. -/
theorem split_of_append_eq {first second before rest : List Mark} {mark : Mark}
    (written : first ++ second = before ++ mark :: rest) :
    (∃ later, first = before ++ mark :: later ∧ rest = later ++ second) ∨
      ∃ earlier, second = earlier ++ mark :: rest := by
  rcases List.append_eq_append_iff.mp written with ⟨earlier, -, behind⟩ | ⟨later, ahead, behind⟩
  · exact .inr ⟨earlier, behind⟩
  · rcases List.cons_eq_append_iff.mp behind with ⟨-, same⟩ | ⟨left, rfl, rfl⟩
    · exact .inr ⟨[], same⟩
    · exact .inl ⟨left, ahead, rfl⟩

/-- The panic of a closure was parked on the way of an action: from then on it is kept, passed on
or swallowed. -/
theorem Traced.fate_of_trapped (traced : Traced chain action store marks outcome after)
    {before rest : List Mark} {level : Nat} (written : marks = before ++ .trapped level :: rest) :
    Fate rest outcome after := by
  induction traced generalizing before rest with
  | done => simp at written
  | panic => simp at written
  | work _ hypothesis => exact hypothesis written
  | edit _ hypothesis => exact hypothesis written
  | attempt first second firstHypothesis restHypothesis =>
    rcases split_of_append_eq written with ⟨later, ahead, rfl⟩ | ⟨earlier, behind⟩
    · exact (firstHypothesis ahead).attempt second.fate
    · rcases split_of_append_eq behind with ⟨later, ahead, -⟩ | ⟨earlier, behind⟩
      · cases Mark.eq_caught_of_mem_ofEnd (mem_of_eq_append_cons ahead)
      · exact restHypothesis behind
  | lend first second firstHypothesis restHypothesis =>
    rcases split_of_append_eq written with ⟨later, ahead, rfl⟩ | ⟨earlier, behind⟩
    · exact (firstHypothesis ahead).attempt second.fate
    · rcases split_of_append_eq behind with ⟨later, ahead, -⟩ | ⟨earlier, behind⟩
      · cases Mark.eq_caught_of_mem_ofEnd (mem_of_eq_append_cons ahead)
      · exact restHypothesis behind
  | unwound first hypothesis =>
    rcases split_of_append_eq written with ⟨later, ahead, rfl⟩ | ⟨earlier, behind⟩
    · exact .unwound _ _ _
    · cases List.mem_singleton.mp (mem_of_eq_append_cons behind)
  | resumed first waiting hypothesis =>
    rcases split_of_append_eq written with ⟨later, ahead, rfl⟩ | ⟨earlier, behind⟩
    · exact .unwound _ _ _
    · cases List.mem_singleton.mp (mem_of_eq_append_cons behind)
  | left first quiet second firstHypothesis restHypothesis =>
    rcases split_of_append_eq written with ⟨later, ahead, rfl⟩ | ⟨earlier, behind⟩
    · exact (firstHypothesis ahead).returned second.fate
    · exact restHypothesis behind
  | unanswered idle _ hypothesis => exact hypothesis written
  | answered clear innermost called second calledHypothesis restHypothesis =>
    rcases split_of_append_eq written with ⟨later, ahead, rfl⟩ | ⟨earlier, behind⟩
    · exact (calledHypothesis ahead).returned second.fate
    · exact restHypothesis behind
  | trapped clear innermost called second calledHypothesis restHypothesis =>
    have parked := second.fate (Option.some_ne_none _)
    rcases split_of_append_eq written with ⟨later, ahead, rfl⟩ | ⟨earlier, behind⟩
    · exact (parked.append_left [_]).append_left later
    · rcases List.append_eq_cons_iff.mp behind.symm with ⟨-, same⟩ | ⟨left, -, same⟩
      · obtain rfl := (List.cons.inj same).2
        exact parked
      · exact restHypothesis same

/-! ## The scope of the closure -/

/-- A scope in which the panic of a closure was parked ends by unwinding, or the panic was swallowed
inside. -/
theorem Traced.panicked_or_swallowed {shape : Shape} {closure : Closure W shape} {β : Type}
    {body : Action W β} {outcome : Outcome β}
    (traced : Traced chain (.enter shape closure body .done) store marks outcome after)
    {before rest : List Mark} {level : Nat} (written : marks = before ++ .trapped level :: rest) :
    (∃ message, outcome = .panicked message) ∨
      ∃ earlier inner later, rest = earlier ++ .unwound inner :: later ∧ chain.length < inner ∧
        .caught ∈ later := by
  cases traced with
  | unwound first => exact .inl ⟨_, rfl⟩
  | resumed first waiting => exact .inl ⟨_, rfl⟩
  | left first quiet further =>
    cases further
    rw [List.append_nil] at written
    cases first.fate_of_trapped written with
    | parked waiting => exact absurd quiet waiting
    | passed panics taken => cases panics
    | swallowed caught =>
      obtain ⟨earlier, inner, later, rfl, caught⟩ := caught
      refine .inr ⟨earlier, inner, later, rfl, ?_, caught⟩
      refine first.le_of_unwound_mem ?_
      rw [written]
      simp

/-- On a thread that is not unwinding, the runs of a scope are its evaluations with marks.  Once the
panic of a closure is parked while the body runs, be it the closure of the scope itself or of
another one, the scope ends by unwinding, unless a scope inside has unwound after that and a panic
was caught behind it. -/
theorem parked_panic_ends_scope_unless_caught {shape : Shape} {β : Type}
    (closure : Closure W shape) (body : Action W β) (thread : Thread W)
    (calm : thread.isUnwinding = false) :
    (∀ outcome finished,
      (∃ depth,
        execute depth (.enter shape closure body .done) thread = some (outcome, finished)) ↔
        ∃ marks left, finished = Store.onto left thread ∧
          Traced thread.chain (.enter shape closure body .done) thread.store marks outcome left) ∧
    ∀ marks outcome left,
      Traced thread.chain (.enter shape closure body .done) thread.store marks outcome left →
        ∀ before level rest, marks = before ++ .trapped level :: rest →
          (∃ message, outcome = .panicked message) ∨
            ∃ earlier inner later, rest = earlier ++ .unwound inner :: later ∧
              thread.chain.length < inner ∧ .caught ∈ later := by
  refine ⟨fun outcome finished => execute_iff_traced calm, ?_⟩
  intro marks outcome left traced before level rest written
  exact traced.panicked_or_swallowed written

/-- A closure that panics on every byte. -/
def boom : Closure Unit .byte := fun _ => .panic "boom"

/-- In the scope of that closure a call back parks its panic. -/
theorem traced_boom {rest : Action Unit Unit} {marks : List Mark} {left : Store Unit}
    (traced : Traced [⟨.byte, boom⟩] rest ⟨⟨(), []⟩, some "boom", []⟩ marks (.returned ()) left) :
    Traced [⟨.byte, boom⟩] (.invoke .byte 1 fun _ => rest) ⟨⟨(), []⟩, none, []⟩
      (.trapped 0 :: marks) (.returned ()) left :=
  @Traced.trapped _ [] [] _ .byte 1 (fun _ => rest) _ _ _ [] _ _ boom "boom" rfl rfl .panic traced

theorem parked_panic_ends_scope_unless_caught_boom :
    let scope : Action Unit Unit :=
      .enter .byte boom (.invoke .byte 1 fun _ => .done ()) .done
    (∃ marks left, Traced [] scope ⟨⟨(), []⟩, none, []⟩ marks (.panicked "boom") left) ∧
    ((∃ message, (.panicked "boom" : Outcome Unit) = .panicked message) ∨
      ∃ earlier inner later, [Mark.unwound 0] = earlier ++ .unwound inner :: later ∧
        0 < inner ∧ .caught ∈ later) := by
  intro scope
  obtain ⟨runs, ends⟩ :=
    parked_panic_ends_scope_unless_caught boom (.invoke .byte 1 fun _ => .done ())
      (Thread.fresh ⟨(), []⟩) rfl
  obtain ⟨marks, left, -, traced⟩ := (runs (.panicked "boom") _).mp ⟨2, rfl⟩
  have marked :
      Traced [] scope ⟨⟨(), []⟩, none, []⟩ ([.trapped 0] ++ [.unwound 0]) (.panicked "boom")
        ⟨⟨(), []⟩, none, []⟩ :=
    .resumed (traced_boom .done) rfl
  exact ⟨⟨marks, left, traced⟩, ends _ _ _ marked [] 0 [.unwound 0] rfl⟩

/-- A panic may be swallowed by the scope of its closure: it is not so that this scope always ends
by unwinding. -/
theorem not_forall_parked_panic_ends_scope :
    ¬ ∀ (shape : Shape) (closure : Closure Unit shape) (body : Action Unit Unit)
      (thread : Thread Unit), thread.isUnwinding = false →
        ∀ marks outcome left,
          Traced thread.chain (.enter shape closure body .done) thread.store marks outcome left →
            .trapped thread.chain.length ∈ marks → ∃ message, outcome = .panicked message := by
  intro ends
  -- Behind the call back a scope on words is unwound, and the panic of its body is caught.
  have distracted :
      Traced [⟨.byte, boom⟩]
        (.attempt (.enter .word .done (.panic "other") .done : Action Unit Unit) fun _ => .done ())
        ⟨⟨(), []⟩, some "boom", []⟩ (([] ++ [.unwound 1]) ++ ([.caught] ++ []))
        (.returned ()) ⟨⟨(), []⟩, none, []⟩ :=
    .attempt (.unwound .panic) .done
  have traced := Traced.left (traced_boom distracted) rfl .done
  obtain ⟨message, impossible⟩ :=
    ends .byte boom _ (Thread.fresh ⟨(), []⟩) rfl _ _ _ traced List.mem_cons_self
  cases impossible

end NativeBoundary.Callback
