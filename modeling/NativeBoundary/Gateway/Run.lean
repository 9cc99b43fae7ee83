import NativeBoundary.Gateway.Call

/-!
# Runs

A run is a list of steps over objects that are held under names.  A new object
under a name that is taken replaces the old one, which is let go after the new
one was made.  A step that panics leaves the objects as they are.  At the end of
a run the remaining objects are let go in the order of their names.
-/

namespace NativeBoundary

/-- The objects of a run, in the order of their names. -/
abbrev Objects := List (String × OwnedObject)

namespace Objects

def get? (objects : Objects) (name : String) : Option OwnedObject :=
  (List.find? (fun entry => entry.1 == name) objects).map fun entry => entry.2

def erase (objects : Objects) (name : String) : Objects :=
  List.filter (fun entry => entry.1 != name) objects

def insert (objects : Objects) (name : String) (object : OwnedObject) : Objects :=
  let others := erase objects name
  List.takeWhile (fun entry => entry.1 < name) others ++
    (name, object) :: List.dropWhile (fun entry => entry.1 < name) others

end Objects

/-- A step of a run. -/
inductive Step
  | call (call : Call)
  | create (name : String) (factory : Factory)
  | service (name : String) (call : ServiceCall)
  | plain (name : String) (call : PlainCall)
  /-- Ask whether an object of a kind was not destroyed yet. -/
  | isLive (name : String) (kind : ObjectKind)
  | destroy (name : String) (kind : ObjectKind)
  | drop (name : String)

/-- How often each kind of object was destroyed by the library so far. -/
structure DestroyCounts where
  services : Nat
  plains : Nat
deriving DecidableEq, Repr

/-- The calls of destroy exports in a journal. -/
def Journal.destroyCounts (journal : Journal) : DestroyCounts :=
  ⟨journal.callCount .simpleServiceDestroy, journal.callCount .simpleClassDestroy⟩

/-- What a step reports: its answer, and the destroy calls so far. -/
structure StepReport where
  reported : Reported
  destroys : DestroyCounts

namespace Gateway

variable {W : Type} (gateway : Gateway W)

/-- Work on the object of a kind that a name stands for. -/
def onObject (objects : Objects) (name : String) (kind : ObjectKind)
    (work : OwnedObject → Crossing W (Reported × Objects)) :
    Crossing W (Reported × Objects) :=
  match objects.get? name with
  | some object =>
    if object.kind = kind then work object else pure (.error .noSuchObject, objects)
  | none => pure (.error .noSuchObject, objects)

/-- Make an object and let the one that it replaces go. -/
def replace (objects : Objects) (name : String) (factory : Factory) :
    Crossing W (Reported × Objects) := do
  match ← gateway.create factory with
  | .error error => pure (.error (.call error), objects)
  | .ok object =>
    match objects.get? name with
    | some old => gateway.drop old
    | none => pure ()
    pure (.ok (.flag object.owner.isLive), objects.insert name object)

def step (objects : Objects) : Step → Crossing W (Reported × Objects)
  | .call call => return (← gateway.perform call, objects)
  | .create name factory => gateway.replace objects name factory
  | .service name call =>
    onObject objects name .service fun object => do
      return (← gateway.performService object.owner call, objects)
  | .plain name call =>
    onObject objects name .plain fun object => do
      return (← gateway.performPlain object.owner call, objects)
  | .isLive name kind =>
    onObject objects name kind fun object =>
      pure (.ok (.flag object.owner.isLive), objects)
  | .destroy name kind =>
    onObject objects name kind fun object => do
      let (result, left) ← gateway.destroy object
      pure (.ofResult result fun _ => .unit, objects.insert name left)
  | .drop name =>
    match objects.get? name with
    | none => pure (.error .noSuchObject, objects)
    | some object => do
      gateway.drop object
      pure (.ok .unit, objects.erase name)

/-- Make one step; a panic is its report, and leaves the objects as they are. -/
def guardedStep (objects : Objects) (step : Step) : Crossing W (StepReport × Objects) := do
  let outcome ← Crossing.attempt (gateway.step objects step)
  let journal ← Crossing.journal
  let destroys := journal.destroyCounts
  match outcome with
  | .returned (reported, left) => pure (⟨reported, destroys⟩, left)
  | .panicked message => pure (⟨.error (.panic message), destroys⟩, objects)

def steps (objects : Objects) : List Step → Crossing W (List StepReport × Objects)
  | [] => pure ([], objects)
  | step :: rest => do
    let (report, left) ← gateway.guardedStep objects step
    let (reports, last) ← steps left rest
    pure (report :: reports, last)

/-- Let all objects go, in the order of their names. -/
def dropAll (objects : Objects) : Crossing W Unit :=
  List.forM objects fun entry => gateway.drop entry.2

/-- Make steps from nothing and let all remaining objects go at the end. -/
def run (steps : List Step) : Crossing W (List StepReport) := do
  let (reports, objects) ← gateway.steps [] steps
  gateway.dropAll objects
  pure reports

/-- Establish a gateway over a table, make a run through it, and answer the gateway's refusal or
the reports of the run. -/
def runOver (table : Exports W) (steps : List Step) :
    Crossing W (Except InitError (List StepReport)) := do
  match ← establish table with
  | .error error => pure (.error error)
  | .ok gateway => return .ok (← gateway.run steps)

end Gateway

end NativeBoundary
