import NativeBoundary.Proofs.Scopes.Discipline

/-!
# One step of an action, told by equivalences

How an action ends is settled by its first step and by what is left of it.  For
the steps of a call with a closure this is an equivalence: noting an entry,
changing the lent bytes, lending bytes, opening a scope, and calling back while
the scope is open, with a panic parked and without one.
-/

namespace NativeBoundary

/-! ## Panics that wait -/

namespace Outcome

variable {α : Type}

/-- The answer of a call back; a closure that panicked leaves the library with the default. -/
def answer (default : α) : Outcome α → α
  | .returned value => value
  | .panicked _ => default

/-- The panic that is parked behind a call back.  One that was parked while the closure ran comes
before a panic of the closure itself. -/
def waiting? (parked : Option String) : Outcome α → Option String
  | .returned _ => parked
  | .panicked message => some (parked.getD message)

/-- How a scope ends whose body ended so.  A parked panic goes on from there, but a thread that
unwinds already drops it. -/
def leaving (unwinding : Bool) (parked : Option String) : Outcome α → Outcome α
  | .panicked message => .panicked message
  | .returned value =>
    match unwinding, parked with
    | false, some message => .panicked message
    | _, _ => .returned value

@[simp]
theorem waiting?_returned (parked : Option String) (value : α) :
    (returned value).waiting? parked = parked := rfl

@[simp]
theorem waiting?_panicked (parked : Option String) (message : String) :
    (panicked message : Outcome α).waiting? parked = some (parked.getD message) := rfl

/-- No panic waits where the closure answered and left none. -/
theorem waiting?_eq_none_iff {parked : Option String} {outcome : Outcome α} :
    outcome.waiting? parked = none ↔ parked = none ∧ ∃ value, outcome = .returned value := by
  cases outcome <;> simp

@[simp]
theorem leaving_waiting (message : String) (value : α) :
    (returned value).leaving false (some message) = .panicked message := rfl

theorem leaving_quiet {unwinding : Bool} {parked : Option String}
    (quiet : unwinding = true ∨ parked = none) (value : α) :
    (returned value).leaving unwinding parked = .returned value := by
  rcases quiet with rfl | rfl
  · rfl
  · cases unwinding <;> rfl

end Outcome

namespace Callback

variable {W : Type} {unwinding : Bool} {chain : Chain W} {α β : Type}
  {store after : Store W} {outcome : Outcome α}

/-! ## Steps without a scope -/

theorem evaluates_done_iff {value : α} :
    Evaluates unwinding chain (.done value) store outcome after ↔
      outcome = .returned value ∧ after = store := by
  constructor
  · intro evaluated
    cases evaluated
    exact ⟨rfl, rfl⟩
  · rintro ⟨rfl, rfl⟩
    exact .done

theorem evaluates_note_iff {entry : Entry} {next : Action W α} :
    Evaluates unwinding chain (.note entry next) store outcome after ↔
      Evaluates unwinding chain next
        { store with
          session := { store.session with journal := entry :: store.session.journal } }
        outcome after := by
  constructor
  · intro evaluated
    cases evaluated with
    | work rest => exact rest
  · intro rest
    exact .work rest

theorem evaluates_edit_iff {change : List UInt8 → List UInt8} {next : Action W α} :
    Evaluates unwinding chain (.edit change next) store outcome after ↔
      Evaluates unwinding chain next { store with lent := change store.lent } outcome after := by
  constructor
  · intro evaluated
    cases evaluated with
    | edit rest => exact rest
  · intro rest
    exact .edit rest

theorem evaluates_lend_iff {bytes : List UInt8} {body : Action W β}
    {next : Outcome β → List UInt8 → Action W α} :
    Evaluates unwinding chain (.lend bytes body next) store outcome after ↔
      ∃ ended between,
        Evaluates unwinding chain body { store with lent := bytes } ended between ∧
          Evaluates unwinding chain (next ended between.lent) { between with lent := store.lent }
            outcome after := by
  constructor
  · intro evaluated
    cases evaluated with
    | lend first rest => exact ⟨_, _, first, rest⟩
  · rintro ⟨ended, between, first, rest⟩
    exact .lend first rest

/-! ## Opening a scope -/

/-- A scope ends as its body and the panic that is parked then let it end, and no panic stays
parked. -/
theorem evaluates_enter_iff {shape : Shape} {closure : Closure W shape} {body : Action W α} :
    Evaluates unwinding chain (.enter shape closure body .done) store outcome after ↔
      ∃ ended between,
        Evaluates unwinding (⟨shape, closure⟩ :: chain) body store ended between ∧
          outcome = ended.leaving unwinding between.parked ∧
            after = { between with parked := none } := by
  constructor
  · intro evaluated
    cases evaluated with
    | unwound first => exact ⟨_, _, first, rfl, rfl⟩
    | resumed first calm waiting =>
      refine ⟨_, _, first, ?_, rfl⟩
      rw [calm, waiting, Outcome.leaving_waiting]
    | left first quiet rest =>
      obtain ⟨rfl, rfl⟩ := evaluates_done_iff.mp rest
      exact ⟨_, _, first, (Outcome.leaving_quiet quiet _).symm, rfl⟩
  · rintro ⟨ended, between, first, rfl, rfl⟩
    cases ended with
    | panicked message => exact .unwound first
    | returned value =>
      by_cases quiet : unwinding = true ∨ between.parked = none
      · rw [Outcome.leaving_quiet quiet]
        exact .left first quiet .done
      · rcases not_or.mp quiet with ⟨notUnwinding, busy⟩
        have calm : unwinding = false := Bool.eq_false_iff.mpr notUnwinding
        rcases Option.ne_none_iff_exists'.mp busy with ⟨message, waiting⟩
        have goesOn :
            (Outcome.returned value).leaving unwinding between.parked = .panicked message := by
          rw [calm, waiting, Outcome.leaving_waiting]
        rw [goesOn]
        exact .resumed first calm waiting

/-! ## Calling back -/

section

variable {shape : Shape} {closure : Closure W shape} {session : Session W} {lent : List UInt8}
  {message : String}

/-- While no panic is parked, the innermost closure runs once, and the library goes on with its
answer and with the panic that it leaves waiting. -/
theorem evaluates_invoke_iff {argument : shape.Argument} {next : shape.Reply → Action W α}
    (innermost : chain.innermost? shape = some closure) :
    Evaluates unwinding chain (.invoke shape argument next) ⟨session, none, lent⟩ outcome after ↔
      ∃ ended between,
        Evaluates unwinding chain (closure (shape.view argument))
            ⟨session, none, shape.lent argument⟩ ended between ∧
          Evaluates unwinding chain
            (next (shape.reply (ended.answer shape.defaultAnswer) between.lent))
            ⟨between.session, ended.waiting? between.parked, lent⟩ outcome after := by
  constructor
  · intro evaluated
    cases evaluated with
    | unanswered idle rest =>
      rcases idle with busy | missing
      · exact absurd rfl busy
      · rw [innermost] at missing
        cases missing
    | answered clear found called rest =>
      cases innermost.symm.trans found
      exact ⟨_, _, called, rest⟩
    | trapped clear found called rest =>
      cases innermost.symm.trans found
      exact ⟨_, _, called, rest⟩
  · rintro ⟨ended, between, called, rest⟩
    cases ended with
    | returned answer => exact .answered rfl innermost called rest
    | panicked message => exact .trapped rfl innermost called rest

/-- While a panic is parked, no closure runs and the library goes on with the default. -/
theorem evaluates_invoke_parked_iff {argument : shape.Argument}
    {next : shape.Reply → Action W α} :
    Evaluates unwinding chain (.invoke shape argument next) ⟨session, some message, lent⟩ outcome
        after ↔
      Evaluates unwinding chain (next (shape.defaultReply argument)) ⟨session, some message, lent⟩
        outcome after := by
  constructor
  · intro evaluated
    cases evaluated with
    | unanswered idle rest => exact rest
    | answered clear found called rest => cases clear
    | trapped clear found called rest => cases clear
  · intro rest
    exact .unanswered (.inl (Option.some_ne_none message)) rest

/-- While a panic is parked, library code gets nothing but defaults. -/
theorem evaluates_ofForeign_parked_iff {ρ : Type} {code : Foreign shape ρ}
    {next : ρ → Action W α} :
    Evaluates unwinding chain ((Action.ofForeign code).andThen next) ⟨session, some message, lent⟩
        outcome after ↔
      Evaluates unwinding chain (next (code.answeredBy shape.defaultReply))
        ⟨session, some message, lent⟩ outcome after := by
  induction code with
  | finish result => exact Iff.rfl
  | call argument further hypothesis =>
    exact evaluates_invoke_parked_iff.trans (hypothesis (shape.defaultReply argument))

end

end Callback

end NativeBoundary
