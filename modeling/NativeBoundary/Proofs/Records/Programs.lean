import NativeBoundary.Gateway.Shared
import NativeBoundary.Proofs.Records.Levels
import NativeBoundary.Proofs.Scopes.ClosureCalls
import NativeBoundary.Proofs.Scopes.Pairs

/-!
# Programs of a host

A host does its work in any order: it sets the writing of records up, loads libraries,
makes gateways, shares one, makes calls and steps with objects, and makes calls with
closures, which are programs themselves.  It decides what comes next by all that was
answered, it panics, and it catches panics.  A host never sees the records.

Two programs that differ in nothing but the sections that they hand to their set-ups are
alike: they answer the same, and their journals differ in those sections alone.  No
program runs forever.
-/

namespace NativeBoundary

open NativeBoundary.Callback

variable {V W : Type}

/-! ## Operations and programs -/

/-- How a gateway is made: over a loaded library, or over a table. -/
inductive Construction (W : Type) where
  | loaded (surroundings : Surroundings) (name : String) (extra : List Path)
  | linked (table : Exports W)

def Construction.crossing (code : Exports W) :
    Construction W → Crossing (Host W) (Except InitError (Gateway W))
  | .loaded surroundings name extra => Host.onOpened (Gateway.load code surroundings name extra)
  | .linked table => Host.onMemory (Gateway.establish table)

/-- What a host does without a closure, and what it is answered. -/
inductive Operation (W : Type) : Type → Type where
  | setUp (part : LoggingSection) : Operation W Unit
  | load (searchPath : SearchPath) (surroundings : Surroundings) (name : String) :
      Operation W (Except LoadError Library)
  | make (construction : Construction W) : Operation W (Except InitError (Gateway W))
  /-- Decide what is shared, unless that was done before. -/
  | settle (shared : Shared W) (construction : Construction W) :
      Operation W (Shared.Settlement W × Shared W)
  /-- Ask for the gateway that is shared. -/
  | ask (shared : Shared W) : Operation W (Gateway W)
  | step (gateway : Gateway W) (objects : Objects) (step : Step) : Operation W (Reported × Objects)

namespace Operation

/-- What an operation does while no variable of the environment holds a filter. -/
def crossing (code : Exports W) : {α : Type} → Operation W α → Crossing (Host W) α
  | _, .setUp part => Log.Writer.setUp none part
  | _, .load searchPath surroundings name => Host.onOpened (searchPath.load surroundings name)
  | _, .make construction => construction.crossing code
  | _, .settle shared construction => shared.settle (construction.crossing code)
  | _, .ask shared => shared.gateway
  | _, .step gateway objects taken => Host.onMemory (gateway.step objects taken)

/-- The same operation with another section, if it is a set-up. -/
def mapSection (transform : LoggingSection → LoggingSection) :
    {α : Type} → Operation W α → Operation W α
  | _, .setUp part => .setUp (transform part)
  | _, .load searchPath surroundings name => .load searchPath surroundings name
  | _, .make construction => .make construction
  | _, .settle shared construction => .settle shared construction
  | _, .ask shared => .ask shared
  | _, .step gateway objects taken => .step gateway objects taken

end Operation

/-- What a host does, with a state of its own. -/
inductive Program (V W : Type) : Type → Type 1 where
  | done {α : Type} (value : α) : Program V W α
  | panic {α : Type} (message : String) : Program V W α
  /-- Work on the host's own state. -/
  | own {α β : Type} (work : StateM V β) (next : β → Program V W α) : Program V W α
  /-- Change the bytes that are lent to a closure. -/
  | edit {α : Type} (change : List UInt8 → List UInt8) (next : Program V W α) : Program V W α
  /-- Run a part and go on with how it ended. -/
  | attempt {α β : Type} (body : Program V W β) (next : Outcome β → Program V W α) : Program V W α
  | perform {α β : Type} (operation : Operation W β) (next : β → Program V W α) : Program V W α
  /-- Make a call with a closure, and go on with how it ended and what is left in its buffer. -/
  | call {α : Type} (gateway : Gateway W) (made : ClosureCall)
      (closure : made.shape.View → Program V W made.shape.Answer)
      (next : Outcome made.Result × List UInt8 → Program V W α) : Program V W α

/-- Run a computation, and go on with its answer or its panic. -/
def Callback.Action.ofCrossing {α : Type} (body : Crossing W α) : Action W α :=
  .work body.run .resume

namespace Program

def onOwn {α : Type} (work : StateM V α) : Crossing (V × Host W) α :=
  (Crossing.inside work).focus Prod.fst fun own state => (own, state.2)

def onHost {α : Type} (body : Crossing (Host W) α) : Crossing (V × Host W) α :=
  body.focus Prod.snd fun host state => (state.1, host)

/-- The action of a program; all libraries that it loads share their code. -/
def action (code : Exports W) : {α : Type} → Program V W α → Action (V × Host W) α
  | _, .done value => .done value
  | _, .panic message => .panic message
  | _, .own work next =>
    (Action.ofCrossing (onOwn work)).andThen fun value => (next value).action code
  | _, .edit change next => .edit change (next.action code)
  | _, .attempt body next => .attempt (body.action code) fun outcome => (next outcome).action code
  | _, .perform operation next =>
    (Action.ofCrossing (onHost (operation.crossing code))).andThen fun value =>
      (next value).action code
  | _, .call gateway made closure next =>
    (gateway.closureCall made fun view => (closure view).action code).andThen fun ended =>
      (next ended).action code

/-- The same program with other sections for its set-ups. -/
def mapSections (transform : LoggingSection → LoggingSection) :
    {α : Type} → Program V W α → Program V W α
  | _, .done value => .done value
  | _, .panic message => .panic message
  | _, .own work next => .own work fun value => (next value).mapSections transform
  | _, .edit change next => .edit change (next.mapSections transform)
  | _, .attempt body next =>
    .attempt (body.mapSections transform) fun outcome => (next outcome).mapSections transform
  | _, .perform operation next =>
    .perform (operation.mapSection transform) fun value => (next value).mapSections transform
  | _, .call gateway made closure next =>
    .call gateway made (fun view => (closure view).mapSections transform) fun ended =>
      (next ended).mapSections transform

/-- The same program with another level in all its set-ups. -/
def atLevel {α : Type} (level : Option Log.Severity) (program : Program V W α) : Program V W α :=
  program.mapSections fun part => { part with level }

/-- How a program ends in a fresh process, and the journal that it leaves. -/
def Ends {α : Type} (program : Program V W α) (code : Exports W) (own : V) (memory : W)
    (outcome : Outcome α) (journal : Journal) : Prop :=
  ∃ state left,
    (program.action code).EndsAlone ⟨(own, .fresh memory), []⟩ [] outcome ⟨state, journal⟩ left

/-- How a program ends in a fresh process and the journal that it leaves, if its calls back are
nested at most so deep. -/
def run? {α : Type} (depth : Nat) (program : Program V W α) (code : Exports W) (own : V)
    (memory : W) : Option (Outcome α × Journal) :=
  (execute depth (program.action code) (Thread.fresh ⟨(own, .fresh memory), []⟩)).map fun last =>
    (last.1, last.2.session.journal)

end Program

theorem Operation.mapSection_id {α : Type} (operation : Operation W α) :
    operation.mapSection id = operation := by
  cases operation <;> rfl

theorem Program.mapSections_id {α : Type} (program : Program V W α) :
    program.mapSections id = program := by
  induction program with
  | done value => rfl
  | panic message => rfl
  | own work next hypothesis => exact congrArg (Program.own work) (funext hypothesis)
  | edit change next hypothesis => exact congrArg (Program.edit change) hypothesis
  | attempt body next bodyHypothesis nextHypothesis =>
    rw [mapSections, bodyHypothesis]
    exact congrArg (Program.attempt body) (funext nextHypothesis)
  | perform operation next hypothesis =>
    rw [mapSections, operation.mapSection_id]
    exact congrArg (Program.perform operation) (funext hypothesis)
  | call gateway made closure next closureHypothesis nextHypothesis =>
    rw [mapSections, funext closureHypothesis]
    exact congrArg (Program.call gateway made closure) (funext nextHypothesis)

/-! ## Every program ends -/

theorem Callback.Confined.ofCrossing {α : Type} (body : Crossing W α) :
    Confined (Action.ofCrossing body) := by
  refine .work fun outcome => ?_
  cases outcome with
  | returned value => exact .done
  | panicked message => exact .panic

theorem Program.confined_action {α : Type} (code : Exports W) (program : Program V W α) :
    Confined (program.action code) := by
  induction program with
  | done value => exact .done
  | panic message => exact .panic
  | own work next hypothesis => exact (Confined.ofCrossing _).andThen hypothesis
  | edit change next hypothesis => exact .edit hypothesis
  | attempt body next bodyHypothesis nextHypothesis => exact .attempt bodyHypothesis nextHypothesis
  | perform operation next hypothesis => exact (Confined.ofCrossing _).andThen hypothesis
  | call gateway made closure next closureHypothesis nextHypothesis =>
    exact (gateway.confined_closureCall closureHypothesis).andThen nextHypothesis

theorem Program.exists_ends {α : Type} (program : Program V W α) (code : Exports W) (own : V)
    (memory : W) : ∃ outcome journal, program.Ends code own memory outcome journal := by
  rcases (program.confined_action code).selfContained.exists_endsAlone
    ⟨(own, .fresh memory), []⟩ [] with ⟨outcome, ⟨state, journal⟩, left, ends⟩
  exact ⟨outcome, journal, state, left, ends⟩

theorem Program.Ends.unique {α : Type} {program : Program V W α} {code : Exports W} {own : V}
    {memory : W} {outcome ended : Outcome α} {journal seen : Journal}
    (ends : program.Ends code own memory outcome journal)
    (endsToo : program.Ends code own memory ended seen) : outcome = ended ∧ journal = seen := by
  rcases ends with ⟨state, left, ends⟩
  rcases endsToo with ⟨other, remaining, endsToo⟩
  rcases ends.unique endsToo with ⟨same, sessions⟩
  exact ⟨same, congrArg Session.journal sessions⟩

/-- How a program ends can be computed. -/
theorem Program.Ends.eq_of_run? {α : Type} {program : Program V W α} {code : Exports W} {own : V}
    {memory : W} {outcome ended : Outcome α} {journal seen : Journal} {depth : Nat}
    (ends : program.Ends code own memory outcome journal)
    (ran : program.run? depth code own memory = some (ended, seen)) :
    outcome = ended ∧ journal = seen := by
  rcases ends with ⟨state, left, deep, finished⟩
  have same := execute_shows depth _ finished ran
  exact ⟨congrArg Prod.fst same, congrArg Prod.snd same⟩

/-! ## Programs that differ in their set-ups -/

section

variable {α : Type} {one other : LoggingSection → LoggingSection}

/-- Sessions in the same state whose journals differ only in what was handed to the set-ups. -/
def Session.Corresponds (one other : LoggingSection → LoggingSection)
    (first second : Session W) : Prop :=
  first.world = second.world ∧ Entry.AllCorrespond one other first.journal second.journal

/-- Both sessions are in the same state after an entry that sets nothing up. -/
theorem Session.Corresponds.noted {first second : Session W} {entry : Entry}
    (sessions : Session.Corresponds one other first second)
    (within : entry.IsWithin fun _ => True) :
    Session.Corresponds one other (first.noted entry) (second.noted entry) :=
  ⟨sessions.1, .cons (.same within) sessions.2⟩

/-- Computations that answer the same and keep sessions related. -/
def Crossing.Alike (related : Session W → Session W → Prop) (first second : Crossing W α) : Prop :=
  ∀ before earlier, related before earlier →
    (first.run before).1 = (second.run earlier).1 ∧
      related (first.run before).2 (second.run earlier).2

/-- A computation that sets nothing up does the same in corresponding sessions. -/
theorem Crossing.Within.alike {calls : Symbol → Prop} {body : Crossing W α}
    (within : Crossing.Within calls body) :
    Crossing.Alike (Session.Corresponds one other) body body := by
  rintro ⟨world, journal⟩ ⟨_, seen⟩ ⟨rfl, corresponds⟩
  rcases within world with ⟨outcome, after, added, fits, ran⟩
  rw [ran, ran]
  exact ⟨rfl, rfl, List.rel_append (Entry.AllCorrespond.of_within fits) corresponds⟩

theorem Crossing.Alike.focus {get : V → W} {set : W → V → V} {first second : Crossing W α}
    (alike : Crossing.Alike (Session.Corresponds one other) first second) :
    Crossing.Alike (Session.Corresponds one other) (first.focus get set)
      (second.focus get set) := by
  rintro ⟨world, journal⟩ ⟨_, seen⟩ ⟨rfl, corresponds⟩
  rcases alike ⟨get world, journal⟩ ⟨get world, seen⟩ ⟨rfl, corresponds⟩ with
    ⟨same, worlds, journals⟩
  exact ⟨same, congrArg (set · world) worlds, journals⟩

/-- Without a filter in the environment a set-up only enters its section into the journal. -/
theorem Log.Writer.run_setUp (part : LoggingSection) (session : Session W) :
    (Log.Writer.setUp none part).run session =
      (.returned (), session.noted (.configured part)) := by
  rw [Log.Writer.setUp, Crossing.run_bind_of_returned (Crossing.run_journal session)]
  cases session.journal.isConfigured <;> rfl

theorem Crossing.Within.onOpened {calls : Symbol → Prop} {body : Crossing OpenedLibraries α}
    (within : Crossing.Within calls body) :
    Crossing.Within calls (Host.onOpened body : Crossing (Host W) α) :=
  within.focus

theorem Crossing.Within.onMemory {calls : Symbol → Prop} {body : Crossing W α}
    (within : Crossing.Within calls body) : Crossing.Within calls (Host.onMemory body) :=
  within.focus

/-- A gateway is made by calls of its guard at most. -/
theorem Construction.crossing_within (code : Exports W) (construction : Construction W) :
    Crossing.Within (· = .surfaceGuard) (construction.crossing code) := by
  cases construction with
  | loaded surroundings name extra =>
    exact (Gateway.load_within code surroundings name extra).onOpened
  | linked table => exact (Gateway.establish_within table).onMemory

theorem Shared.settle_within {calls : Symbol → Prop} (shared : Shared W)
    {initializer : Crossing V (Except InitError (Gateway W))}
    (within : Crossing.Within calls initializer) :
    Crossing.Within calls (shared.settle initializer) := by
  unfold Shared.settle
  cases shared.decided with
  | some result => exact .pure _
  | none => exact within.bind fun _ => .pure _

theorem Shared.gateway_within {calls : Symbol → Prop} (shared : Shared W) :
    Crossing.Within calls (shared.gateway : Crossing V (Gateway W)) := by
  unfold Shared.gateway
  cases shared.decided with
  | none => exact .panic _
  | some result =>
    cases result with
    | ok gateway => exact .pure _
    | error error => exact .panic _

/-- Set-ups with corresponding sections are alike, and all other operations are so to themselves. -/
theorem Operation.crossing_alike (code : Exports W) (operation : Operation W α) :
    Crossing.Alike (Session.Corresponds one other) ((operation.mapSection one).crossing code)
      ((operation.mapSection other).crossing code) := by
  cases operation with
  | setUp part =>
    intro first second sessions
    simp only [mapSection, crossing, Log.Writer.run_setUp]
    exact ⟨trivial, sessions.1, .cons (.configured part) sessions.2⟩
  | load searchPath surroundings name =>
    have within : Crossing.Within (fun _ => True) (searchPath.load surroundings name) :=
      Gateway.searchPath_load_within searchPath surroundings name
    exact within.onOpened.alike
  | make construction => exact (construction.crossing_within code).alike
  | settle shared construction =>
    exact (shared.settle_within (construction.crossing_within code)).alike
  | ask shared =>
    have within : Crossing.Within (fun _ => True) (shared.gateway : Crossing (Host W) _) :=
      shared.gateway_within
    exact within.alike
  | step gateway objects taken => exact (gateway.step_within objects taken).onMemory.alike

theorem Callback.Action.Alike.ofCrossing {related : Session W → Session W → Prop}
    {first second : Crossing W α} (alike : Crossing.Alike related first second) :
    Action.Alike related (Action.ofCrossing first) (Action.ofCrossing second) := by
  refine .work alike fun outcome => ?_
  cases outcome with
  | returned value => exact .done
  | panicked message => exact .panic

theorem Callback.Action.Alike.native {shape : Shape} {ρ : Type} (symbol : Symbol)
    (code : Foreign shape ρ) :
    Action.Alike (Session.Corresponds one other) (Action.native symbol code : Action W ρ)
      (Action.native symbol code) :=
  .note (fun _ _ sessions => sessions.noted trivial) (.ofForeign code)

/-- The records of a pin are records of this library. -/
theorem Gateway.lending_alike {bytes : List UInt8} {body further : Action V Unit}
    (alike : Action.Alike (Session.Corresponds one other) body further) :
    Action.Alike (Session.Corresponds one other) (lending bytes body) (lending bytes further) := by
  refine .note (fun _ _ sessions => sessions.noted ⟨.lending, rfl⟩) (.lend alike fun _ _ => ?_)
  exact .note (fun _ _ sessions => sessions.noted ⟨.lending, rfl⟩) .done

/-- Calls with closures that are alike are alike themselves. -/
theorem Gateway.closureCall_alike (gateway : Gateway W) (made : ClosureCall)
    {closure installed : Closure V made.shape}
    (called : Closure.Alike (Session.Corresponds one other) closure installed) :
    Action.Alike (Session.Corresponds one other) (gateway.closureCall made closure)
      (gateway.closureCall made installed) := by
  cases made with
  | callback value => exact .attempt (.enter called (.native _ _) fun _ => .done) fun _ => .done
  | callback1 value => exact .attempt (.enter called (.native _ _) fun _ => .done) fun _ => .done
  | slice3 bytes =>
    exact lending_alike
      (.enter called ((Action.Alike.native _ _).andThen fun _ => .edit .done) fun _ => .done)
  | slice6 bytes =>
    exact lending_alike
      (.enter called ((Action.Alike.native _ _).andThen fun _ => .edit .done) fun _ => .done)
  | delegate => exact .attempt (.enter called (.native _ _) fun _ => .done) fun _ => .done
  | delegateHuge => exact .attempt (.enter called (.native _ _) fun _ => .done) fun _ => .done

/-- Programs that differ in the sections of their set-ups are alike. -/
theorem Program.action_alike (code : Exports W) (program : Program V W α) :
    Action.Alike (Session.Corresponds one other) ((program.mapSections one).action code)
      ((program.mapSections other).action code) := by
  induction program with
  | done value => exact .done
  | panic message => exact .panic
  | own work next hypothesis =>
    have within : Crossing.Within (fun _ => True) (Crossing.inside work) := .inside work
    exact (Action.Alike.ofCrossing within.focus.alike).andThen hypothesis
  | edit change next hypothesis => exact .edit hypothesis
  | attempt body next bodyHypothesis nextHypothesis => exact .attempt bodyHypothesis nextHypothesis
  | perform operation next hypothesis =>
    exact (Action.Alike.ofCrossing (operation.crossing_alike code).focus).andThen hypothesis
  | call gateway made closure next closureHypothesis nextHypothesis =>
    exact (gateway.closureCall_alike made closureHypothesis).andThen nextHypothesis

/-- Programs that differ in the sections of their set-ups end alike. -/
theorem Program.Ends.corresponding {program : Program V W α} {code : Exports W} {own : V}
    {memory : W} {outcome : Outcome α} {journal : Journal}
    (ends : (program.mapSections one).Ends code own memory outcome journal)
    (other : LoggingSection → LoggingSection) :
    ∃ seen, (program.mapSections other).Ends code own memory outcome seen ∧
      Entry.AllCorrespond one other journal seen := by
  rcases ends with ⟨state, left, ends⟩
  rcases ((program.mapSections one).confined_action code).selfContained.endsAlone_of_alike
    (program.action_alike code) ⟨rfl, .nil⟩ ends with ⟨⟨reached, seen⟩, ⟨_, corresponds⟩, endsToo⟩
  exact ⟨seen, ⟨reached, left, endsToo⟩, corresponds⟩

end

end NativeBoundary
