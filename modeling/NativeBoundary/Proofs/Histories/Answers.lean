import NativeBoundary.Proofs.Histories.Tracking

/-!
# Answers from histories

At every point of a run over the reference library the answer of a live object is
told by the argument it was made with and by its own earlier calls, whatever was
done to other objects in between.
-/

namespace NativeBoundary

open Gateway
open NativeBoundary.Reference

def Step.about (name : String) (steps : List Step) : List Step :=
  steps.filter fun step => step.name? == some name

/-- A life is made by its own steps alone. -/
theorem Life.under_about (name : String) (steps : List Step) :
    Life.under name (Step.about name steps) = Life.under name steps := by
  have general : ∀ life,
      (Step.about name steps).foldl (follow name) life = steps.foldl (follow name) life := by
    induction steps with
    | nil => exact fun _ => rfl
    | cons step rest hypothesis =>
      intro life
      by_cases own : step.name? = some name
      · have kept : Step.about name (step :: rest) = step :: Step.about name rest := by
          simp [Step.about, own]
        rw [kept]
        exact hypothesis (follow name life step)
      · have skipped : Step.about name (step :: rest) = Step.about name rest := by
          simp [Step.about, own]
        rw [skipped, List.foldl_cons, Life.follow_other own]
        exact hypothesis life
  exact general none

/-- In every run over the reference library, from every heap on which the null address is not
handed out, the answers of a live object are told by its life, and its life is made by the steps
that are about its name alone. -/
theorem answers_follow_history (session : Session Heap) (positive : 0 < session.world.next)
    (steps : List Step) :
    let start : Standing Heap := ⟨[], session⟩
    let reports := linked.reports start steps
    (linked.steps [] steps).run session =
        (.returned (reports, (linked.reach start steps).objects),
          (linked.reach start steps).session) ∧
      ∀ index name object,
        (linked.reach start (steps.take index)).objects.get? name = some object →
        object.owner.isLive = true →
          ∃ life,
            Life.under name (Step.about name (steps.take index)) = some life ∧
            life.factory.kind = object.kind ∧ life.isLive = true ∧
            (∀ call, object.kind = .service → steps[index]? = some (.service name call) →
              ∃ report, reports[index]? = some report ∧
                call.AnsweredBy life.factory.argument life.serviceCalls report.reported) ∧
            ∀ call, object.kind = .plain → steps[index]? = some (.plain name call) →
              ∃ report, reports[index]? = some report ∧
                call.AnsweredBy life.plainCalls report.reported := by
  intro start reports
  refine ⟨linked.run_steps start steps, ?_⟩
  intro index name object found live
  have first : Tracked (fun _ => none) start := Tracks.nil positive
  have tracks := first.reach (steps.take index)
  rcases tracks.fits name object found with ⟨life, known, fits⟩
  rw [Life.under_about]
  have holds : ∃ handle, object.owner.state = .live handle := by
    cases state : object.owner.state with
    | live handle => exact ⟨handle, rfl⟩
    | destroyed =>
      rw [Owner.isLive, state] at live
      cases live
  rcases holds with ⟨handle, state⟩
  refine ⟨life, known, fits.kind.symm, fits.isLive.symm.trans live, ?_, ?_⟩
  · intro call kind made
    refine ⟨_, (linked.getElem?_reports start steps index).trans (by rw [made]; rfl), ?_⟩
    have yields := serviceStep_yields found kind (fits.performService_yields kind state call)
    rw [(advance_of_yields yields).1]
    exact life.service_answer call
  · intro call kind made
    refine ⟨_, (linked.getElem?_reports start steps index).trans (by rw [made]; rfl), ?_⟩
    have yields := plainStep_yields found kind (fits.performPlain_yields kind state call)
    rw [(advance_of_yields yields).1]
    exact life.plain_answer call

/-- Steps on two objects in turn, while a third one comes and goes. -/
def Step.interleaved : List Step :=
  [.create "first" (.serviceWith 300), .create "second" .plain, .service "first" .methodVoid,
    .plain "second" (.mutSelf 5), .create "third" .plain, .plain "third" (.mutSelf 9),
    .drop "third", .service "first" .stats]

theorem answers_follow_history_interleaved :
    0 < Heap.empty.next ∧
    (linked.reach ⟨[], ⟨.empty, []⟩⟩ (Step.interleaved.take 7)).objects.get? "first" =
      some ⟨.service, "SimpleService", .live ⟨1⟩⟩ ∧
    ∃ report, (linked.reports ⟨[], ⟨.empty, []⟩⟩ Step.interleaved)[7]? = some report ∧
      report.reported = .ok (.number 1) := by
  have positive : 0 < Heap.empty.next := by decide
  have found :
      (linked.reach ⟨[], ⟨.empty, []⟩⟩ (Step.interleaved.take 7)).objects.get? "first" =
        some ⟨.service, "SimpleService", .live ⟨1⟩⟩ := by decide
  refine ⟨positive, found, ?_⟩
  rcases answers_follow_history ⟨.empty, []⟩ positive Step.interleaved with ⟨-, answers⟩
  rcases answers 7 "first" _ found rfl with ⟨life, known, -, -, served, -⟩
  rcases served .stats rfl rfl with ⟨report, reported, answered⟩
  refine ⟨report, reported, ?_⟩
  have lived :
      Life.under "first" (Step.about "first" (Step.interleaved.take 7)) =
        some ⟨.serviceWith 300, [.methodVoid], [], true⟩ := by
    simp [Life.under, Step.about, Step.interleaved, Step.name?, Life.follow, Life.begun,
      Life.served, Factory.isAccepted, Factory.kind]
  rw [lived] at known
  cases known
  exact answered (by decide)

end NativeBoundary
