import NativeBoundary.Overrides
import NativeBoundary.Proofs.Ownership.Ledger
import NativeBoundary.Reference.Table

/-!
# Every object is destroyed exactly once

A step keeps the objects as they are, makes one, destroys one or lets one go, and
in each case the handles that are held and those that were destroyed account for
everything that was delivered.  By induction this holds after every run over any
table, whatever its factories and destroy exports report and write, and when the
remaining objects are let go at the end, every delivered handle was destroyed
once.
-/

namespace NativeBoundary

variable {W : Type}

def Objects.heldUnder (objects : Objects) (name : String) (kind : ObjectKind) : List Handle :=
  match objects.get? name with
  | some object => object.held kind
  | none => []

/-- Whether a step can put another object under a name, or take it away. -/
def Step.givesAway (name : String) : Step → Bool
  | .create other _ => other == name
  | .drop other => other == name
  | _ => false

/-- Whether a step destroys an object of a kind under a name. -/
def Step.destroys (name : String) (kind : ObjectKind) : Step → Bool
  | .destroy other chosen => other == name && chosen == kind
  | _ => false

theorem Step.eq_of_destroys {name : String} {kind : ObjectKind} {step : Step}
    (destroys : step.destroys name kind = true) : step = .destroy name kind := by
  cases step with
  | destroy other chosen =>
    obtain ⟨rfl, rfl⟩ : other = name ∧ chosen = kind := by simpa [Step.destroys] using destroys
    rfl
  | _ => cases destroys

namespace Gateway

variable (gateway : Gateway W)

/-- What a step can do to the objects, and which handles it destroys on the way. -/
inductive Moves (standing : Standing W) : Step → Standing W → Prop
  /-- The objects stay as they are, and nothing is delivered or destroyed. -/
  | kept {step : Step} {after : Session W}
      (nothing : ∀ kind, gateway.stepDeliveries kind standing step = [])
      (calls : ∀ kind : ObjectKind,
        after.journal.handles kind.destroySymbol =
          standing.session.journal.handles kind.destroySymbol) :
      Moves standing step ⟨standing.objects, after⟩
  /-- A delivered object takes a name, and the one that it replaces is destroyed. -/
  | made {name : String} {factory : Factory} {handle : Handle} {after : Session W}
      (delivered : gateway.delivered? factory standing.session = some handle)
      (calls : ∀ kind : ObjectKind,
        after.journal.handles kind.destroySymbol =
          (standing.objects.heldUnder name kind).map some ++
            standing.session.journal.handles kind.destroySymbol) :
      Moves standing (.create name factory)
        ⟨standing.objects.insert name
          ⟨factory.kind, factory.kind.typeName, .live handle⟩, after⟩
  /-- The object under a name is destroyed and stays there. -/
  | destroyed {name : String} {object : OwnedObject} {after : Session W}
      (found : standing.objects.get? name = some object)
      (calls : ∀ kind : ObjectKind,
        after.journal.handles kind.destroySymbol =
          (object.held kind).map some ++
            standing.session.journal.handles kind.destroySymbol) :
      Moves standing (.destroy name object.kind)
        ⟨standing.objects.insert name object.ended, after⟩
  /-- The object under a name is destroyed and taken away. -/
  | dropped {name : String} {object : OwnedObject} {after : Session W}
      (found : standing.objects.get? name = some object)
      (calls : ∀ kind : ObjectKind,
        after.journal.handles kind.destroySymbol =
          (object.held kind).map some ++
            standing.session.journal.handles kind.destroySymbol) :
      Moves standing (.drop name) ⟨standing.objects.erase name, after⟩

/-- A step that answers out of a computation which destroys nothing keeps the objects. -/
theorem moves_of_avoids {standing : Standing W} {step : Step} {body : Crossing W Reported}
    (does :
      gateway.step standing.objects step =
        body >>= fun reported => pure (reported, standing.objects))
    (avoids : ∀ kind : ObjectKind, Crossing.Avoids kind.destroySymbol body)
    (nothing : ∀ kind, gateway.stepDeliveries kind standing step = []) :
    gateway.Moves standing step (gateway.advance standing step).2 := by
  have calls := fun kind => avoids kind standing.session
  simp only [advance, does, Crossing.run_bind]
  rcases ran : body.run standing.session with ⟨outcome, after⟩
  simp only [ran] at calls
  cases outcome with
  | returned reported => exact .kept nothing calls
  | panicked message => exact .kept nothing calls

/-- A step that finds no object keeps the objects. -/
theorem moves_of_missing {standing : Standing W} {step : Step}
    (does :
      gateway.step standing.objects step = pure (.error .noSuchObject, standing.objects))
    (nothing : ∀ kind, gateway.stepDeliveries kind standing step = []) :
    gateway.Moves standing step (gateway.advance standing step).2 := by
  have avoids : ∀ kind : ObjectKind,
      Crossing.Avoids kind.destroySymbol (pure (.error .noSuchObject) : Crossing W Reported) :=
    fun _ => Crossing.Avoids.pure _
  refine gateway.moves_of_avoids ?_ avoids nothing
  exact does

/-- A step that asks the object of a kind under a name keeps the objects, whether or not there is
such an object. -/
theorem moves_onObject {standing : Standing W} {step : Step} {name : String}
    {wanted : ObjectKind} {body : OwnedObject → Crossing W Reported}
    (does :
      gateway.step standing.objects step =
        onObject standing.objects name wanted fun object =>
          body object >>= fun reported => pure (reported, standing.objects))
    (avoids : ∀ object (kind : ObjectKind), Crossing.Avoids kind.destroySymbol (body object))
    (nothing : ∀ kind, gateway.stepDeliveries kind standing step = []) :
    gateway.Moves standing step (gateway.advance standing step).2 := by
  by_cases present : ∃ object, standing.objects.get? name = some object ∧ object.kind = wanted
  · rcases present with ⟨object, found, rfl⟩
    rw [onObject_found found] at does
    exact gateway.moves_of_avoids does (avoids object) nothing
  · rw [onObject_missing fun object found same => present ⟨object, found, same⟩] at does
    exact gateway.moves_of_missing does nothing

/-- A factory that refuses leaves the objects as they are and destroys nothing. -/
theorem advance_create_refused {standing : Standing W} {name : String} {factory : Factory}
    (refused : gateway.delivered? factory standing.session = none) :
    ∃ status after,
      gateway.advance standing (.create name factory) =
        (⟨.error (.call (.callFailed status)), after.journal.destroyCounts⟩,
          ⟨standing.objects, after⟩) ∧
      ∀ kind : ObjectKind,
        after.journal.handles kind.destroySymbol =
          standing.session.journal.handles kind.destroySymbol := by
  rcases gateway.run_create factory standing.session with ⟨status, after, ran, calls⟩
  simp only [refused] at ran
  refine ⟨status, after, ?_, calls⟩
  simp only [advance, step, replace, Crossing.run_bind, ran]
  rfl

/-- A factory that delivers makes a live object, and the one that it replaces is let go. -/
theorem advance_create_delivered {standing : Standing W} {name : String} {factory : Factory}
    {handle : Handle} (delivered : gateway.delivered? factory standing.session = some handle) :
    ∃ after,
      gateway.advance standing (.create name factory) =
        (⟨.ok (.flag true), after.journal.destroyCounts⟩,
          ⟨standing.objects.insert name
            ⟨factory.kind, factory.kind.typeName, .live handle⟩, after⟩) ∧
      ∀ kind : ObjectKind,
        after.journal.handles kind.destroySymbol =
          (standing.objects.heldUnder name kind).map some ++
            standing.session.journal.handles kind.destroySymbol := by
  rcases gateway.run_create factory standing.session with ⟨status, created, ran, untouched⟩
  simp only [delivered] at ran
  cases found : standing.objects.get? name with
  | none =>
    refine ⟨created, ?_, fun kind => ?_⟩
    · simp only [advance, step, replace, Crossing.run_bind, ran, found]
      rfl
    · simp [Objects.heldUnder, found, untouched]
  | some old =>
    rcases gateway.run_drop old created with ⟨after, dropped, calls⟩
    refine ⟨after, ?_, fun kind => ?_⟩
    · simp only [advance, step, replace, Crossing.run_bind, ran, found, dropped]
      rfl
    · simp [Objects.heldUnder, found, calls, untouched]

/-- Destroying an object under a name ends it, and it stays under the name. -/
theorem advance_destroy {standing : Standing W} {name : String} {object : OwnedObject}
    (found : standing.objects.get? name = some object) :
    ∃ (result : CallResult Unit) (after : Session W),
      gateway.advance standing (.destroy name object.kind) =
        (⟨.ofResult result fun _ => .unit, after.journal.destroyCounts⟩,
          ⟨standing.objects.insert name object.ended, after⟩) ∧
      ∀ kind : ObjectKind,
        after.journal.handles kind.destroySymbol =
          (object.held kind).map some ++
            standing.session.journal.handles kind.destroySymbol := by
  rcases gateway.run_destroy object standing.session with ⟨result, after, ran, calls⟩
  refine ⟨result, after, ?_, calls⟩
  simp only [advance, step, onObject_found found, Crossing.run_bind, ran]
  rfl

/-- Every step makes one of the moves. -/
theorem advance_moves (standing : Standing W) (step : Step) :
    gateway.Moves standing step (gateway.advance standing step).2 := by
  cases step with
  | call call =>
    exact gateway.moves_of_avoids rfl
      (fun kind => gateway.perform_avoids kind.isReserved_destroySymbol call) fun _ => rfl
  | create name factory =>
    cases delivered : gateway.delivered? factory standing.session with
    | none =>
      rcases gateway.advance_create_refused delivered with ⟨status, after, advanced, calls⟩
      rw [advanced]
      refine .kept (fun kind => ?_) calls
      simp [stepDeliveries, delivered]
    | some handle =>
      rcases gateway.advance_create_delivered delivered with ⟨after, advanced, calls⟩
      rw [advanced]
      exact .made delivered calls
  | service name call =>
    exact gateway.moves_onObject rfl
      (fun object kind =>
        gateway.performService_avoids kind.isReserved_destroySymbol object.owner call)
      fun _ => rfl
  | plain name call =>
    exact gateway.moves_onObject rfl
      (fun object kind =>
        gateway.performPlain_avoids kind.isReserved_destroySymbol object.owner call)
      fun _ => rfl
  | isLive name kind =>
    have avoids : ∀ (object : OwnedObject) (kind : ObjectKind),
        Crossing.Avoids kind.destroySymbol
          (pure (.ok (.flag object.owner.isLive)) : Crossing W Reported) :=
      fun _ _ => Crossing.Avoids.pure _
    have does :
        gateway.step standing.objects (.isLive name kind) =
          onObject standing.objects name kind fun object =>
            (pure (.ok (.flag object.owner.isLive)) : Crossing W Reported) >>= fun reported =>
              pure (reported, standing.objects) := rfl
    exact gateway.moves_onObject does avoids fun _ => rfl
  | destroy name wanted =>
    by_cases present : ∃ object, standing.objects.get? name = some object ∧ object.kind = wanted
    · rcases present with ⟨object, found, rfl⟩
      rcases gateway.advance_destroy found with ⟨result, after, advanced, calls⟩
      rw [advanced]
      exact .destroyed found calls
    · refine gateway.moves_of_missing ?_ fun _ => rfl
      exact onObject_missing fun object found same => present ⟨object, found, same⟩
  | drop name =>
    cases found : standing.objects.get? name with
    | none =>
      refine gateway.moves_of_missing ?_ fun _ => rfl
      simp only [Gateway.step, found]
    | some object =>
      rcases gateway.run_drop object standing.session with ⟨after, ran, calls⟩
      have advanced :
          (gateway.advance standing (.drop name)).2 =
            ⟨standing.objects.erase name, after⟩ := by
        simp only [advance, Gateway.step, found, Crossing.run_bind, ran]
        rfl
      rw [advanced]
      exact .dropped found calls

variable {gateway} in
theorem Moves.distinct {standing after : Standing W} {step : Step}
    (moves : gateway.Moves standing step after) (distinct : standing.objects.Distinct) :
    after.objects.Distinct := by
  cases moves with
  | kept nothing calls => exact distinct
  | made delivered calls => exact distinct.insert _ _
  | destroyed found calls => exact distinct.insert _ _
  | dropped found calls => exact distinct.erase _

theorem advance_distinct {standing : Standing W} (step : Step)
    (distinct : standing.objects.Distinct) :
    (gateway.advance standing step).2.objects.Distinct :=
  (gateway.advance_moves standing step).distinct distinct

theorem reach_distinct {standing : Standing W} (distinct : standing.objects.Distinct)
    (steps : List Step) : (gateway.reach standing steps).objects.Distinct :=
  gateway.reach_induction (motive := fun reached => reached.objects.Distinct) distinct
    (fun _ step => gateway.advance_distinct step) steps

/-- Letting all objects go gives every handle that is still held to its destroy export. -/
theorem run_dropAll (objects : Objects) (session : Session W) :
    ∃ after,
      (gateway.dropAll objects).run session = (.returned (), after) ∧
      ∀ kind : ObjectKind,
        List.Perm (after.journal.handles kind.destroySymbol)
          ((objects.held kind).map some ++ session.journal.handles kind.destroySymbol) := by
  induction objects generalizing session with
  | nil => exact ⟨session, rfl, fun kind => List.Perm.refl _⟩
  | cons entry rest hypothesis =>
    rcases gateway.run_drop entry.2 session with ⟨between, dropped, first⟩
    rcases hypothesis between with ⟨after, finished, others⟩
    refine ⟨after, ?_, fun kind => ?_⟩
    · have unfolded :
          gateway.dropAll (entry :: rest) =
            gateway.drop entry.2 >>= fun _ => gateway.dropAll rest :=
        List.forM_cons
      rw [unfolded, Crossing.run_bind, dropped]
      exact finished
    · calc
        List.Perm (after.journal.handles kind.destroySymbol)
            ((Objects.held rest kind).map some ++
              ((entry.2.held kind).map some ++
                session.journal.handles kind.destroySymbol)) :=
          first kind ▸ others kind
        List.Perm _
            ((entry.2.held kind).map some ++
              ((Objects.held rest kind).map some ++
                session.journal.handles kind.destroySymbol)) :=
          List.perm_append_comm_assoc _ _ _
        _ = (Objects.held (entry :: rest) kind).map some ++
              session.journal.handles kind.destroySymbol := by
          simp [Objects.held]

/-! ## Objects that stay under their names -/

variable {gateway} in
/-- An object stays under its name unless a step gives the name away, and stays as it is unless it
is live and the step destroys it. -/
theorem Moves.get?_stays {standing after : Standing W} {step : Step}
    (moves : gateway.Moves standing step after) (distinct : standing.objects.Distinct)
    {name : String} {object : OwnedObject} (found : standing.objects.get? name = some object)
    (leaves : step.givesAway name = false)
    (spared : object.owner.state = .destroyed ∨ step.destroys name object.kind = false) :
    after.objects.get? name = some object := by
  cases moves with
  | kept nothing calls => exact found
  | @made other factory handle after delivered calls =>
    have different : name ≠ other := by
      rintro rfl
      simp [Step.givesAway] at leaves
    rw [distinct.get?_insert_other different, found]
  | @destroyed other destroyed after foundOther calls =>
    by_cases same : name = other
    · subst same
      obtain rfl : object = destroyed := Option.some.inj (found.symm.trans foundOther)
      have ended : object.owner.state = .destroyed := by
        refine spared.resolve_right fun untouched => ?_
        simp [Step.destroys] at untouched
      rw [distinct.get?_insert_same, object.ended_eq_self ended]
    · rw [distinct.get?_insert_other same, found]
  | @dropped other dropped after foundOther calls =>
    have different : name ≠ other := by
      rintro rfl
      simp [Step.givesAway] at leaves
    rw [distinct.get?_erase_other different, found]

/-- An object stays under its name until a step gives the name away, and a live one stays live until
a step destroys it. -/
theorem reach_get?_stays {standing : Standing W} (distinct : standing.objects.Distinct)
    {name : String} {object : OwnedObject} (found : standing.objects.get? name = some object)
    (steps : List Step) (leaves : ∀ step ∈ steps, step.givesAway name = false)
    (spared :
      object.owner.state = .destroyed ∨
        ∀ step ∈ steps, step.destroys name object.kind = false) :
    (gateway.reach standing steps).objects.get? name = some object := by
  induction steps generalizing standing with
  | nil => exact found
  | cons step rest hypothesis =>
    have kept :=
      (gateway.advance_moves standing step).get?_stays distinct found
        (leaves step List.mem_cons_self)
        (spared.imp_right fun untouched => untouched step List.mem_cons_self)
    exact hypothesis (gateway.advance_distinct step distinct) kept
      (fun later member => leaves later (List.mem_cons_of_mem step member))
      (spared.imp_right fun untouched later member =>
        untouched later (List.mem_cons_of_mem step member))

/-- A destroyed object stays under its name until a step gives the name away. -/
theorem reach_get?_ended {standing : Standing W} (distinct : standing.objects.Distinct)
    {name : String} {object : OwnedObject} (found : standing.objects.get? name = some object)
    (ended : object.owner.state = .destroyed) (steps : List Step)
    (leaves : ∀ step ∈ steps, step.givesAway name = false) :
    (gateway.reach standing steps).objects.get? name = some object :=
  gateway.reach_get?_stays distinct found steps leaves (.inl ended)

/-- An object under a name is live, with the handle that it was made with, until a step destroys
it. -/
theorem reach_get?_live {standing : Standing W} (distinct : standing.objects.Distinct)
    {name typeName : String} {kind : ObjectKind} {handle : Handle}
    (found : standing.objects.get? name = some ⟨kind, typeName, .live handle⟩)
    (steps : List Step) (leaves : ∀ step ∈ steps, step.givesAway name = false) :
    (gateway.reach standing steps).objects.get? name =
      some ⟨kind, typeName,
        if steps.any (·.destroys name kind) then .destroyed else .live handle⟩ := by
  induction steps generalizing standing with
  | nil => exact found
  | cons step rest hypothesis =>
    have distinctAfter := gateway.advance_distinct step distinct
    have leavesRest : ∀ later ∈ rest, later.givesAway name = false :=
      fun later member => leaves later (List.mem_cons_of_mem step member)
    by_cases destroys : step.destroys name kind = true
    · obtain rfl := Step.eq_of_destroys destroys
      rcases gateway.advance_destroy found with ⟨result, after, advanced, -⟩
      have ended :
          (gateway.advance standing (.destroy name kind)).2.objects.get? name =
            some ⟨kind, typeName, .destroyed⟩ := by
        rw [advanced]
        exact distinct.get?_insert_same
      rw [List.any_cons, destroys, Bool.true_or, if_pos rfl]
      exact gateway.reach_get?_ended distinctAfter ended rfl rest leavesRest
    · have untouched : step.destroys name kind = false := Bool.eq_false_iff.mpr destroys
      have kept :=
        (gateway.advance_moves standing step).get?_stays distinct found
          (leaves step List.mem_cons_self) (.inr untouched)
      rw [List.any_cons, untouched, Bool.false_or]
      exact hypothesis distinctAfter kept leavesRest

end Gateway

/-! ## A run with a destroy export that reports failures -/

/-- The reference library, where destroying a service reports a failure all the same. -/
def Gateway.grudging : Gateway Reference.Heap :=
  ⟨Overrides.apply { serviceDestroy := some .failed } Reference.table, false⟩

/-- Steps that make four objects, destroy one and replace another one. -/
def Step.mixed : List Step :=
  [.create "first" (.serviceWith 7), .create "second" .plain, .destroy "first" .service,
    .create "second" (.serviceFailing 3), .create "third" .serviceWithout]

/-- The standing to which these steps lead. -/
def Standing.mixed : Standing Reference.Heap :=
  Gateway.grudging.reach ⟨[], ⟨.empty, []⟩⟩ Step.mixed

end NativeBoundary
