import NativeBoundary.Proofs.Histories.Isolation

/-!
# Runs keep track of the lives

Every step of a run over the reference library keeps track of the lives under all
names: a factory begins a life, a method goes on with it, a destroy export ends
it, and what is done under one name leaves the others alone.
-/

namespace NativeBoundary

open Gateway
open NativeBoundary.Reference

/-! ## Steps that find an object -/

namespace Gateway

open Crossing

variable {objects : Objects} {name : String} {heap after : Heap} {object : OwnedObject}
  {reported : Reported}

theorem serviceStep_yields (found : objects.get? name = some object)
    (kind : object.kind = .service) {call : ServiceCall}
    (yields : Yields (linked.performService object.owner call) heap reported after) :
    Yields (linked.step objects (.service name call)) heap (reported, objects) after := by
  rcases object with ⟨_, owner⟩
  cases kind
  rw [step, onObject_found found]
  exact yields.bind (.pure _)

theorem plainStep_yields (found : objects.get? name = some object)
    (kind : object.kind = .plain) {call : PlainCall}
    (yields : Yields (linked.performPlain object.owner call) heap reported after) :
    Yields (linked.step objects (.plain name call)) heap (reported, objects) after := by
  rcases object with ⟨_, owner⟩
  cases kind
  rw [step, onObject_found found]
  exact yields.bind (.pure _)

end Gateway

/-! ## Steps keep track of the lives -/

/-- The lives under all names after one more step. -/
def Life.followAll (lives : String → Option Life) (step : Step) : String → Option Life :=
  fun name => Life.follow name (lives name) step

/-- A step that asks an object of a kind under a name, and what it makes of the lives. -/
structure Asks (lives : String → Option Life) (objects : Objects) (step : Step) (name : String)
    (wanted : ObjectKind) (body : OwnedObject → Crossing Heap Reported)
    (change : Life → Life) : Prop where
  does :
    linked.step objects step =
      onObject objects name wanted fun object =>
        body object >>= fun reported => pure (reported, objects)
  follows : ∀ other,
    Life.followAll lives step other = if name = other then (lives other).map change else lives other
  /-- Only the life of a live object of the kind goes on. -/
  idles : ∀ life, ¬(life.isLive = true ∧ life.factory.kind = wanted) → change life = life

namespace Asks

variable {lives : String → Option Life} {objects : Objects} {step : Step} {name : String}
  {wanted : ObjectKind} {body : OwnedObject → Crossing Heap Reported} {change : Life → Life}

theorem otherLives (asks : Asks lives objects step name wanted body change) :
    ∀ other, other ≠ name → Life.followAll lives step other = lives other := by
  intro other different
  rw [asks.follows, if_neg different.symm]

theorem ownLife (asks : Asks lives objects step name wanted body change) :
    Life.followAll lives step name = (lives name).map change := by
  rw [asks.follows, if_pos rfl]

/-- If the life under the name does not go on, no life does. -/
theorem unchanged (asks : Asks lives objects step name wanted body change)
    (same : ∀ life, lives name = some life →
      ¬(life.isLive = true ∧ life.factory.kind = wanted)) :
    ∀ other, Life.followAll lives step other = lives other := by
  intro other
  by_cases own : other = name
  · rw [own, asks.ownLife]
    cases known : lives name with
    | none => rfl
    | some life => rw [Option.map_some, asks.idles life (same life known)]
  · exact asks.otherLives other own

theorem does_found (asks : Asks lives objects step name wanted body change)
    {object : OwnedObject} (found : objects.get? name = some object)
    (kind : object.kind = wanted) :
    linked.step objects step = body object >>= fun reported => pure (reported, objects) := by
  subst kind
  rw [asks.does, onObject_found found]

end Asks

/-- A standing of which track is kept. -/
def Tracked (lives : String → Option Life) (standing : Standing Heap) : Prop :=
  Tracks lives standing.objects standing.session.world

namespace Tracked

variable {lives : String → Option Life} {standing : Standing Heap} {step : Step}
  {name : String}

/-- A step that does nothing to the objects, the heap and the lives. -/
theorem idled (tracks : Tracked lives standing)
    (objects : (linked.advance standing step).2.objects = standing.objects)
    (world : (linked.advance standing step).2.session.world = standing.session.world)
    (same : ∀ other, Life.followAll lives step other = lives other) :
    Tracked (Life.followAll lives step) (linked.advance standing step).2 := by
  rw [Tracked, objects, world]
  exact tracks.of_same same

section

variable {wanted : ObjectKind} {body : OwnedObject → Crossing Heap Reported}
  {change : Life → Life} {object : OwnedObject} {life : Life}

/-- A live object of the kind answers, and its life goes on. -/
theorem asked_live {handle : Handle} {reported : Reported} {after : Heap}
    (tracks : Tracked lives standing)
    (asks : Asks lives standing.objects step name wanted body change)
    (found : standing.objects.get? name = some object) (kind : object.kind = wanted)
    (live : object.owner.state = .live handle) (known : lives name = some life)
    (yields : Crossing.Yields (body object) standing.session.world reported after)
    (beside : Heap.Beside (some handle.address) standing.session.world after)
    (fits : (change life).Fits after object) :
    Tracked (Life.followAll lives step) (linked.advance standing step).2 := by
  have stepYields :
      Crossing.Yields (linked.step standing.objects step) standing.session.world
        (reported, standing.objects) after := by
    rw [asks.does_found found kind]
    exact yields.bind (.pure _)
  rcases advance_of_yields stepYields with ⟨-, objects, world⟩
  rw [Tracked, objects, world]
  have address : object.address? = some handle.address := by
    rw [OwnedObject.address?, live]
  refine tracks.of_object found (address ▸ beside) asks.otherLives ?_ fits
  rw [asks.ownLife, known, Option.map_some]

/-- A destroyed object panics, and nothing changes. -/
theorem asked_destroyed {message : String} {left : Journal}
    (tracks : Tracked lives standing)
    (asks : Asks lives standing.objects step name wanted body change)
    (found : standing.objects.get? name = some object) (kind : object.kind = wanted)
    (destroyed : object.owner.state = .destroyed)
    (ran :
      (body object).run standing.session =
        (.panicked message, ⟨standing.session.world, left⟩)) :
    Tracked (Life.followAll lives step) (linked.advance standing step).2 := by
  have panics :
      (linked.step standing.objects step).run standing.session =
        (.panicked message, ⟨standing.session.world, left⟩) := by
    rw [asks.does_found found kind, Crossing.run_bind, ran]
  rcases advance_of_panicked panics with ⟨objects, world⟩
  refine tracks.idled objects world (asks.unchanged ?_)
  rintro life known ⟨live, _⟩
  rcases tracks.fits name object found with ⟨other, alsoKnown, fits⟩
  rw [known] at alsoKnown
  cases alsoKnown
  rw [← fits.isLive, Owner.isLive, destroyed] at live
  cases live

/-- Where no object of the kind has the name, nothing is asked and nothing changes. -/
theorem asked_missing (tracks : Tracked lives standing)
    (asks : Asks lives standing.objects step name wanted body change)
    (absent : ∀ object, standing.objects.get? name = some object → object.kind ≠ wanted) :
    Tracked (Life.followAll lives step) (linked.advance standing step).2 := by
  have stepYields :
      Crossing.Yields (linked.step standing.objects step) standing.session.world
        (.error .noSuchObject, standing.objects) standing.session.world := by
    rw [asks.does, onObject_missing absent]
    exact .pure _
  rcases advance_of_yields stepYields with ⟨-, objects, world⟩
  refine tracks.idled objects world (asks.unchanged ?_)
  rintro life known ⟨_, kind⟩
  cases found : standing.objects.get? name with
  | none =>
    rw [tracks.missing name found] at known
    cases known
  | some object =>
    rcases tracks.fits name object found with ⟨other, alsoKnown, fits⟩
    rw [known] at alsoKnown
    cases alsoKnown
    exact absent object found (fits.kind.trans kind)

/-- A step that asks an object keeps track of the lives. -/
theorem asked (tracks : Tracked lives standing)
    (asks : Asks lives standing.objects step name wanted body change)
    (answers : ∀ life object handle, life.Fits standing.session.world object →
      object.kind = wanted → object.owner.state = .live handle →
        ∃ reported after,
          Crossing.Yields (body object) standing.session.world reported after ∧
          Heap.Beside (some handle.address) standing.session.world after ∧
          (change life).Fits after object)
    (halts : ∀ object, object.owner.state = .destroyed →
      ∃ message left,
        (body object).run standing.session =
          (.panicked message, ⟨standing.session.world, left⟩)) :
    Tracked (Life.followAll lives step) (linked.advance standing step).2 := by
  by_cases present : ∃ object, standing.objects.get? name = some object ∧ object.kind = wanted
  · rcases present with ⟨object, found, kind⟩
    cases state : object.owner.state with
    | live handle =>
      rcases tracks.fits name object found with ⟨life, known, fits⟩
      rcases answers life object handle fits kind state with
        ⟨reported, after, yields, beside, goesOn⟩
      exact tracks.asked_live asks found kind state known yields beside goesOn
    | destroyed =>
      rcases halts object state with ⟨message, left, ran⟩
      exact tracks.asked_destroyed asks found kind state ran
  · exact tracks.asked_missing asks fun object found same => present ⟨object, found, same⟩

end

theorem advance_call (call : Call) :
    (linked.advance standing (.call call)).2.objects = standing.objects ∧
      (linked.advance standing (.call call)).2.session.world = standing.session.world := by
  have kept := perform_world call standing.session
  simp only [advance, Gateway.step, Crossing.run_bind]
  rcases ran : (linked.perform call).run standing.session with ⟨outcome, last⟩
  rw [ran] at kept
  cases outcome <;> exact ⟨rfl, kept⟩

theorem advance_isLive (kind : ObjectKind) :
    (linked.advance standing (.isLive name kind)).2.objects = standing.objects ∧
      (linked.advance standing (.isLive name kind)).2.session.world =
        standing.session.world := by
  simp only [advance, Gateway.step, onObject]
  cases standing.objects.get? name with
  | none => exact ⟨rfl, rfl⟩
  | some object =>
    by_cases same : object.kind = kind
    · simp only [if_pos same]
      exact ⟨rfl, rfl⟩
    · simp only [if_neg same]
      exact ⟨rfl, rfl⟩

/-- A new object under a name begins a life, wherever it was put. -/
theorem begins (tracks : Tracked lives standing)
    {factory : Factory} {after : Heap} (accepted : factory.isAccepted = true)
    (beside : Heap.Beside (standing.objects.address? name) standing.session.world after)
    (fits : (Life.begun factory).Fits after (factory.product standing.session.world)) :
    Tracks (Life.followAll lives (.create name factory))
      (standing.objects.insert name (factory.product standing.session.world)) after := by
  refine tracks.of_beside beside (tracks.distinct.insert _ _) ?_ ?_ ?_ ?_ ?_
  · intro other different
    exact tracks.distinct.get?_insert_other different
  · intro other different
    exact if_neg fun same => different same.1.symm
  · intro absent
    rw [tracks.distinct.get?_insert_same] at absent
    cases absent
  · intro object found
    rw [tracks.distinct.get?_insert_same] at found
    cases found
    exact ⟨Life.begun factory, if_pos ⟨rfl, accepted⟩, fits⟩
  · intro address stands
    rw [Objects.address?_of_get? tracks.distinct.get?_insert_same] at stands
    cases stands
    exact .inr (Nat.le_refl _)

/-- An accepted factory begins a life, and the object that it replaces is gone. -/
theorem made (tracks : Tracked lives standing) {factory : Factory}
    (accepted : factory.isAccepted = true) :
    Tracked (Life.followAll lives (.create name factory))
      (linked.advance standing (.create name factory)).2 := by
  have created := create_yields_product accepted tracks.positive
  have fits := Life.fits_begun factory tracks.positive
  have beside :=
    standing.session.world.beside_created (standing.objects.address? name) factory
  cases found : standing.objects.get? name with
  | none =>
    have stepYields :
        Crossing.Yields (linked.step standing.objects (.create name factory))
          standing.session.world
          (.ok (.flag true),
            standing.objects.insert name (factory.product standing.session.world))
          (standing.session.world.created factory) := by
      refine Crossing.Yields.bind created ?_
      simp only [found]
      exact Crossing.Yields.bind (.pure _) (.pure _)
    rcases advance_of_yields stepYields with ⟨-, objects, world⟩
    rw [Tracked, objects, world]
    exact tracks.begins accepted beside fits
  | some old =>
    rcases tracks.fits name old found with ⟨life, known, oldFits⟩
    have stepYields :
        Crossing.Yields (linked.step standing.objects (.create name factory))
          standing.session.world
          (.ok (.flag true),
            standing.objects.insert name (factory.product standing.session.world))
          ((standing.session.world.created factory).without old) := by
      refine Crossing.Yields.bind created ?_
      simp only [found]
      exact Crossing.Yields.bind (drop_yields oldFits.named) (.pure _)
    rcases advance_of_yields stepYields with ⟨-, objects, world⟩
    rw [Tracked, objects, world]
    have released := (standing.session.world.created factory).beside_without old
    rw [← Objects.address?_of_get? found] at released
    refine tracks.begins accepted (beside.trans released) (fits.beside released ?_)
    -- The old object stood below the address of the new one.
    intro address new own
    cases new
    exact Nat.lt_irrefl _ (tracks.address_lt own)

/-- A factory that is refused changes nothing. -/
theorem refused (tracks : Tracked lives standing)
    {factory : Factory} (notAccepted : factory.isAccepted = false) :
    Tracked (Life.followAll lives (.create name factory))
      (linked.advance standing (.create name factory)).2 := by
  have stepYields :
      Crossing.Yields (linked.step standing.objects (.create name factory))
        standing.session.world (.error (.call (.callFailed .failed)), standing.objects)
        standing.session.world :=
    Crossing.Yields.bind (create_yields_of_refused notAccepted) (.pure _)
  rcases advance_of_yields stepYields with ⟨-, objects, world⟩
  refine tracks.idled objects world ?_
  intro other
  refine if_neg ?_
  rintro ⟨_, accepted⟩
  exact Bool.false_ne_true (notAccepted.symm.trans accepted)

/-- Destroying an object ends its life. -/
theorem destroyed (tracks : Tracked lives standing)
    {object : OwnedObject} (found : standing.objects.get? name = some object) :
    Tracked (Life.followAll lives (.destroy name object.kind))
      (linked.advance standing (.destroy name object.kind)).2 := by
  rcases tracks.fits name object found with ⟨life, known, fits⟩
  have stepYields :
      Crossing.Yields (linked.step standing.objects (.destroy name object.kind))
        standing.session.world (.ok .unit, standing.objects.insert name object.ended)
        (standing.session.world.without object) := by
    rw [Gateway.step, onObject_found found]
    exact Crossing.Yields.bind (destroy_yields fits.named) (.pure _)
  rcases advance_of_yields stepYields with ⟨-, objects, world⟩
  rw [Tracked, objects, world]
  have beside := standing.session.world.beside_without object
  rw [← Objects.address?_of_get? found] at beside
  refine tracks.of_beside beside (tracks.distinct.insert _ _) ?_ ?_ ?_ ?_ ?_
  · intro other different
    exact tracks.distinct.get?_insert_other different
  · intro other different
    exact if_neg different.symm
  · intro absent
    rw [tracks.distinct.get?_insert_same] at absent
    cases absent
  · intro left foundLeft
    rw [tracks.distinct.get?_insert_same] at foundLeft
    cases foundLeft
    refine ⟨life.ended object.kind, ?_, fits.ended _⟩
    simp only [Life.followAll, Life.follow, known, if_pos]
    rfl
  · intro address stands
    rw [Objects.address?_of_get? tracks.distinct.get?_insert_same] at stands
    cases stands

/-- Where no object of a kind has the name, there is nothing to destroy. -/
theorem undestroyed (tracks : Tracked lives standing)
    {kind : ObjectKind}
    (absent : ∀ object, standing.objects.get? name = some object → object.kind ≠ kind) :
    Tracked (Life.followAll lives (.destroy name kind))
      (linked.advance standing (.destroy name kind)).2 := by
  have stepYields :
      Crossing.Yields (linked.step standing.objects (.destroy name kind))
        standing.session.world (.error .noSuchObject, standing.objects)
        standing.session.world := by
    rw [Gateway.step, onObject_missing absent]
    exact .pure _
  rcases advance_of_yields stepYields with ⟨-, objects, world⟩
  refine tracks.idled objects world ?_
  intro other
  by_cases own : name = other
  · subst own
    simp only [Life.followAll, Life.follow, if_pos]
    cases found : standing.objects.get? name with
    | none =>
      rw [tracks.missing name found]
      rfl
    | some object =>
      rcases tracks.fits name object found with ⟨life, known, fits⟩
      have otherKind : life.factory.kind ≠ kind := fits.kind ▸ absent object found
      rw [known, Option.map_some, Life.ended, if_neg otherKind]
  · exact if_neg own

/-- An object that is let go is gone together with its life. -/
theorem dropped (tracks : Tracked lives standing)
    {object : OwnedObject} (found : standing.objects.get? name = some object) :
    Tracked (Life.followAll lives (.drop name)) (linked.advance standing (.drop name)).2 := by
  rcases tracks.fits name object found with ⟨life, known, fits⟩
  have stepYields :
      Crossing.Yields (linked.step standing.objects (.drop name)) standing.session.world
        (.ok .unit, standing.objects.erase name) (standing.session.world.without object) := by
    simp only [Gateway.step, found]
    exact Crossing.Yields.bind (drop_yields fits.named) (.pure _)
  rcases advance_of_yields stepYields with ⟨-, objects, world⟩
  rw [Tracked, objects, world]
  have beside := standing.session.world.beside_without object
  rw [← Objects.address?_of_get? found] at beside
  refine tracks.of_beside beside (tracks.distinct.erase _) ?_ ?_ ?_ ?_ ?_
  · intro other different
    exact tracks.distinct.get?_erase_other different
  · intro other different
    exact if_neg different.symm
  · intro absent
    exact if_pos rfl
  · intro left foundLeft
    rw [Objects.get?_erase_same] at foundLeft
    cases foundLeft
  · intro address stands
    rw [Objects.address?, Objects.get?_erase_same] at stands
    cases stands

/-- Every step keeps track of the lives. -/
theorem advance (tracks : Tracked lives standing) (step : Step) :
    Tracked (Life.followAll lives step) (linked.advance standing step).2 := by
  cases step with
  | call call =>
    rcases advance_call call with ⟨objects, world⟩
    exact tracks.idled objects world fun _ => rfl
  | isLive name kind =>
    rcases advance_isLive kind with ⟨objects, world⟩
    exact tracks.idled objects world fun _ => rfl
  | create name factory =>
    cases accepted : factory.isAccepted with
    | true => exact tracks.made accepted
    | false => exact tracks.refused accepted
  | service name call =>
    refine tracks.asked ⟨rfl, fun _ => rfl, fun life idle => if_neg idle⟩ ?_ ?_
    · intro life object handle fits kind live
      exact ⟨_, _, fits.performService_yields kind live call,
        Heap.beside_setService _ _ _, fits.served kind live call⟩
    · intro object state
      exact performService_world_of_destroyed state call standing.session
  | plain name call =>
    refine tracks.asked ⟨rfl, fun _ => rfl, fun life idle => if_neg idle⟩ ?_ ?_
    · intro life object handle fits kind live
      exact ⟨_, _, fits.performPlain_yields kind live call,
        Heap.beside_setInstance _ _ _, fits.handled kind live call⟩
    · intro object state
      exact performPlain_world_of_destroyed state call standing.session
  | destroy name kind =>
    by_cases present :
        ∃ object, standing.objects.get? name = some object ∧ object.kind = kind
    · rcases present with ⟨object, found, rfl⟩
      exact tracks.destroyed found
    · exact tracks.undestroyed fun object found same => present ⟨object, found, same⟩
  | drop name =>
    cases found : standing.objects.get? name with
    | some object => exact tracks.dropped found
    | none =>
      have stepYields :
          Crossing.Yields (linked.step standing.objects (.drop name)) standing.session.world
            (.error .noSuchObject, standing.objects) standing.session.world := by
        simp only [Gateway.step, found]
        exact .pure _
      rcases advance_of_yields stepYields with ⟨-, objects, world⟩
      refine tracks.idled objects world ?_
      intro other
      by_cases own : name = other
      · subst own
        rw [tracks.missing name found]
        exact if_pos rfl
      · exact if_neg own

/-- A run keeps track of the lives that its steps make. -/
theorem reach (steps : List Step)
    (tracks : Tracked lives standing) :
    Tracked (fun name => steps.foldl (Life.follow name) (lives name))
      (linked.reach standing steps) := by
  induction steps generalizing lives standing with
  | nil => exact tracks
  | cons step rest hypothesis => exact hypothesis (tracks.advance step)

end Tracked

end NativeBoundary
