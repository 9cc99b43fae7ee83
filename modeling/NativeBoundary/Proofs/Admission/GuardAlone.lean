import NativeBoundary.Proofs.Run.Avoidance

/-!
# The guard alone before the gateway, and never behind it

A gateway is established by one call, that of the guard.  Whatever is done with the
gateway afterwards leaves the calls of the guard in the journal as they are: every
call and every method, objects that are made, replaced, destroyed and let go, and a
whole run of such steps.
-/

namespace NativeBoundary

variable {W α : Type}

namespace Gateway

open Crossing

variable (gateway : Gateway W)

/-- No step calls the guard. -/
theorem step_avoids_guard (objects : Objects) (step : Step) :
    Avoids .surfaceGuard (gateway.step objects step) :=
  (gateway.step_within objects step).avoids fun differs => differs rfl

/-- Neither does a step that is kept from panicking. -/
theorem guardedStep_avoids_guard (objects : Objects) (step : Step) :
    Avoids .surfaceGuard (gateway.guardedStep objects step) := by
  refine Avoids.bind (gateway.step_avoids_guard objects step).attempt fun outcome => ?_
  have asked : Avoids .surfaceGuard (Crossing.journal : Crossing W Journal) := fun _ => rfl
  refine Avoids.bind asked fun journal => ?_
  cases outcome with
  | returned reported => exact Avoids.pure _
  | panicked message => exact Avoids.pure _

theorem steps_avoids_guard (objects : Objects) (steps : List Step) :
    Avoids .surfaceGuard (gateway.steps objects steps) := by
  induction steps generalizing objects with
  | nil => exact Avoids.pure _
  | cons step rest hypothesis =>
    refine Avoids.bind (gateway.guardedStep_avoids_guard objects step) fun reported => ?_
    exact Avoids.bind (hypothesis reported.2) fun _ => Avoids.pure _

theorem dropAll_avoids_guard (objects : Objects) :
    Avoids .surfaceGuard (gateway.dropAll objects) := by
  induction objects with
  | nil => exact Avoids.pure _
  | cons entry rest hypothesis =>
    have dropped : Avoids .surfaceGuard (gateway.drop entry.2) :=
      (gateway.drop_within entry.2).avoids fun differs => differs rfl
    exact Avoids.bind dropped fun _ => hypothesis

/-- A run through a gateway never calls the guard. -/
theorem run_avoids_guard (steps : List Step) : Avoids .surfaceGuard (gateway.run steps) := by
  refine Avoids.bind (gateway.steps_avoids_guard [] steps) fun ended => ?_
  exact Avoids.bind (gateway.dropAll_avoids_guard ended.2) fun _ => Avoids.pure _

end Gateway

end NativeBoundary
