import NativeBoundary.Proofs.Layering.Precedence

/-!
# A loader that is asked again

Between the calls of one loader everything around it may change: the files, the environment and
the home directory.  A loader that was made for a file of the user keeps to that file.  Any other
one takes the file below the home directory of the first call that gets past its project, and
keeps to this one in every later call; a call that fails at its project decides nothing, and
neither does one that is made without a home directory.  So what a loader did before shows in
that file alone: each answer is that of a fresh loader for the file, asked at the same moment.
-/

namespace NativeBoundary

namespace SettingsLoader

/-- A call of a loader, with all that surrounds it at that moment. -/
structure Call where
  surroundings : Surroundings
  request : LoadRequest

namespace Call

variable (call : Call)

/-- The layer of the project comes without an error. -/
def Passes : Prop :=
  (projectOf call.surroundings call.request).isOk = true

instance : Decidable call.Passes :=
  inferInstanceAs (Decidable ((projectOf call.surroundings call.request).isOk = true))

/-- The file of the user below the home directory of that moment, if there is one. -/
def homeFile? : Option Path :=
  call.surroundings.home.map fun home =>
    (home.joinName Settings.userDirectoryName).joinName Settings.userFileName

/-- What a fresh loader for a file of the user answers at that moment. -/
def answerWith (file : Path) : Except SettingsError Config :=
  (SettingsLoader.serve ⟨some file⟩ call.surroundings call.request).1

/-- What a fresh loader for no file in particular answers. -/
def answerAlone : Except SettingsError Config :=
  (SettingsLoader.serve {} call.surroundings call.request).1

theorem answerWith_eq (file : Path) :
    call.answerWith file =
      projectOf call.surroundings call.request >>= assemble call.surroundings (some file) := by
  rw [answerWith, serve_eq_loadOver, answer_loadOver]
  rfl

/-- A loader without a file takes the one below the home directory. -/
theorem userFileOf_eq_homeFile? : userFileOf call.surroundings {} = call.homeFile? := by
  unfold userFileOf userDirectory homeFile?
  cases call.surroundings.home <;> rfl

end Call

/-! ## One call -/

section

variable {call : Call}

/-- A call that gets past its project answers with the file that the loader has or takes now, and
leaves it with that file. -/
theorem serve_of_passes {loader : SettingsLoader} {file : Path} (passes : call.Passes)
    (placed : loader.userFileOf call.surroundings = some file) :
    loader.serve call.surroundings call.request = (call.answerWith file, ⟨some file⟩) := by
  rw [Call.answerWith_eq, serve_eq_loadOver]
  unfold Call.Passes at passes
  cases laid : projectOf call.surroundings call.request with
  | error error =>
    rw [laid] at passes
    cases passes
  | ok layer =>
    simp only [loadOver, placed]
    rfl

/-- A call that fails at its project answers in one way for all files, and leaves the loader as it
is. -/
theorem serve_of_not_passes (loader : SettingsLoader) (fails : ¬ call.Passes) (file : Path) :
    loader.serve call.surroundings call.request = (call.answerWith file, loader) := by
  rw [Call.answerWith_eq, serve_eq_loadOver]
  unfold Call.Passes at fails
  cases laid : projectOf call.surroundings call.request with
  | error error => rfl
  | ok layer =>
    rw [laid] at fails
    exact absurd rfl fails

/-- A loader without a file is left without one by a call that fails at its project, and by one
that is made without a home directory. -/
theorem serve_of_waiting (waiting : ¬ call.Passes ∨ call.homeFile? = none) :
    SettingsLoader.serve {} call.surroundings call.request = (call.answerAlone, {}) := by
  rw [Call.answerAlone, serve_eq_loadOver]
  cases laid : projectOf call.surroundings call.request with
  | error error => rfl
  | ok layer =>
    have homeless : call.homeFile? = none := by
      refine waiting.resolve_left fun fails => fails ?_
      rw [Call.Passes, laid]
      rfl
    simp only [loadOver, call.userFileOf_eq_homeFile?, homeless]

end

/-! ## Many calls -/

/-- What a loader answers to calls one after the other. -/
def answers (loader : SettingsLoader) : List Call → List (Except SettingsError Config)
  | [] => []
  | call :: later =>
    (loader.serve call.surroundings call.request).1 ::
      answers (loader.serve call.surroundings call.request).2 later

/-- The loader after calls. -/
def after (loader : SettingsLoader) (calls : List Call) : SettingsLoader :=
  calls.foldl (fun loader call => (loader.serve call.surroundings call.request).2) loader

theorem after_append (loader : SettingsLoader) (earlier later : List Call) :
    after loader (earlier ++ later) = after (after loader earlier) later :=
  List.foldl_append

theorem answers_append (loader : SettingsLoader) (earlier later : List Call) :
    answers loader (earlier ++ later) =
      answers loader earlier ++ answers (after loader earlier) later := by
  induction earlier generalizing loader with
  | nil => rfl
  | cons call rest hypothesis => exact congrArg _ (hypothesis _)

/-- A loader with a file keeps to it. -/
theorem answers_fixed (file : Path) (calls : List Call) :
    answers ⟨some file⟩ calls = calls.map (Call.answerWith · file) ∧
      after ⟨some file⟩ calls = ⟨some file⟩ := by
  induction calls with
  | nil => exact ⟨rfl, rfl⟩
  | cons call later hypothesis =>
    have kept : SettingsLoader.serve ⟨some file⟩ call.surroundings call.request =
        (call.answerWith file, ⟨some file⟩) := by
      by_cases passes : call.Passes
      · exact serve_of_passes passes rfl
      · exact serve_of_not_passes ⟨some file⟩ passes file
    rw [answers, after, List.foldl_cons, kept]
    exact ⟨congrArg _ hypothesis.1, hypothesis.2⟩

/-- Calls that fail at their projects leave every loader as it is, and would be answered so by a
loader for any file. -/
theorem answers_failing {calls : List Call} (fails : ∀ call ∈ calls, ¬ call.Passes)
    (loader : SettingsLoader) :
    after loader calls = loader ∧
      ∀ file, answers loader calls = calls.map (Call.answerWith · file) := by
  induction calls with
  | nil => exact ⟨rfl, fun _ => rfl⟩
  | cons call later hypothesis =>
    obtain ⟨failsFirst, failsLater⟩ := List.forall_mem_cons.mp fails
    obtain ⟨kept, answered⟩ := hypothesis failsLater
    refine ⟨?_, fun file => ?_⟩
    · rw [after, List.foldl_cons, serve_of_not_passes loader failsFirst .empty]
      exact kept
    · rw [answers, serve_of_not_passes loader failsFirst file]
      exact congrArg _ (answered file)

/-- Calls that fail at their projects, or are made without a home directory, leave a loader without
a file, and each is answered as by a fresh one. -/
theorem answers_waiting {calls : List Call}
    (waiting : ∀ call ∈ calls, ¬ call.Passes ∨ call.homeFile? = none) :
    after {} calls = {} ∧ answers {} calls = calls.map Call.answerAlone := by
  induction calls with
  | nil => exact ⟨rfl, rfl⟩
  | cons call later hypothesis =>
    obtain ⟨first, further⟩ := List.forall_mem_cons.mp waiting
    obtain ⟨kept, answered⟩ := hypothesis further
    rw [answers, after, List.foldl_cons, serve_of_waiting first]
    exact ⟨kept, congrArg _ answered⟩

/-- The first call that gets past its project decides on the file, for all calls. -/
theorem answers_of_first {failing later : List Call} {first : Call} {file : Path}
    (fails : ∀ call ∈ failing, ¬ call.Passes) (passes : first.Passes)
    (placed : first.homeFile? = some file) :
    after {} (failing ++ first :: later) = ⟨some file⟩ ∧
      answers {} (failing ++ first :: later) =
        (failing ++ first :: later).map (Call.answerWith · file) := by
  have taken : SettingsLoader.serve {} first.surroundings first.request =
      (first.answerWith file, ⟨some file⟩) :=
    serve_of_passes passes (first.userFileOf_eq_homeFile?.trans placed)
  obtain ⟨kept, answered⟩ := answers_failing fails {}
  obtain ⟨answeredLater, fixed⟩ := answers_fixed file later
  constructor
  · rw [after_append, kept, after, List.foldl_cons, taken]
    exact fixed
  · rw [answers_append, kept, answered file, answers, taken, answeredLater,
      List.map_append, List.map_cons]

/-! ## The calls of a session -/

/-- The calls that the steps of a session make, each at its moment. -/
def Call.ofSteps (surroundings : Surroundings) : List LoaderStep → List Call
  | [] => []
  | .change change :: rest => ofSteps (surroundings.apply change) rest
  | .load request :: rest => ⟨surroundings, request⟩ :: ofSteps surroundings rest
  | .userDirectory :: rest => ofSteps surroundings rest

/-- What was loaded, if that was asked for. -/
def loaded? : LoaderAnswer → Option (Except SettingsError Config)
  | .loaded result => some result
  | .path _ => none

/-- What a session loads is what its calls are answered. -/
theorem filterMap_session (loader : SettingsLoader) (surroundings : Surroundings)
    (steps : List LoaderStep) :
    (session loader surroundings steps).filterMap loaded? =
      answers loader (Call.ofSteps surroundings steps) := by
  induction steps generalizing loader surroundings with
  | nil => rfl
  | cons step rest hypothesis =>
    cases step with
    | change change => exact hypothesis loader (surroundings.apply change)
    | load request => exact congrArg _ (hypothesis _ surroundings)
    | userDirectory => exact hypothesis loader surroundings

/-- A loader fixes the file of the user once.  One that was made for a file answers every call as a
fresh loader for this file does.  Any other one answers as a fresh loader for the file below the
home directory of the first call that gets past its project, and keeps to this file whatever the
home directory is later.  Calls that fail at their projects leave a loader as it is, and as long as
there is no home directory nothing is fixed either.  What a session loads is what such calls are
answered. -/
theorem reused_loader_fixes_file_once (calls : List Call) :
    (∀ file, answers ⟨some file⟩ calls = calls.map (Call.answerWith · file) ∧
      after ⟨some file⟩ calls = ⟨some file⟩) ∧
    (∀ failing first later file, calls = failing ++ first :: later →
      (∀ call ∈ failing, ¬ call.Passes) → first.Passes → first.homeFile? = some file →
        after {} calls = ⟨some file⟩ ∧
        answers {} calls = calls.map (Call.answerWith · file)) ∧
    ((∀ call ∈ calls, ¬ call.Passes) → ∀ loader, after loader calls = loader ∧
      ∀ file, answers loader calls = calls.map (Call.answerWith · file)) ∧
    (∀ waiting later, calls = waiting ++ later →
      (∀ call ∈ waiting, ¬ call.Passes ∨ call.homeFile? = none) →
        after {} waiting = {} ∧
        answers {} calls = waiting.map Call.answerAlone ++ answers {} later) ∧
    ∀ loader surroundings steps, calls = Call.ofSteps surroundings steps →
      (session loader surroundings steps).filterMap loaded? = answers loader calls := by
  refine ⟨fun file => answers_fixed file calls, ?_, answers_failing, ?_, ?_⟩
  · rintro failing first later file rfl fails passes placed
    exact answers_of_first fails passes placed
  · rintro waiting later rfl undecided
    obtain ⟨kept, answered⟩ := answers_waiting undecided
    exact ⟨kept, by rw [answers_append, kept, answered]⟩
  · rintro loader surroundings steps rfl
    exact filterMap_session loader surroundings steps

/-- Two directories with a file of the user each, and no project.  The home directory may be one of
them, or there is none. -/
def atHome (home : Option String) : Surroundings where
  storage := Storage.empty
    |>.addFile ["first", ".ferrule", "config.toml"]
      (.bytes "[logging]\nlevel = \"warn\"".toUTF8.toList)
    |>.addFile ["second", ".ferrule", "config.toml"]
      (.bytes "[logging]\nlevel = \"error\"".toUTF8.toList)
  current := []
  environment _ := none
  home := home.map Path.ofText

/-- The first call is made without a home directory and the second one fails, so the home directory
of the third one decides; that of the fourth one is not looked at any more. -/
theorem reused_loader_fixes_file_once_at_first :
    let homeless : Call := ⟨atHome none, .directory (Path.ofText ".")⟩
    let calls : List Call :=
      [⟨atHome "/second", .file (Path.ofText "missing.toml")⟩,
        ⟨atHome "/first", .directory (Path.ofText ".")⟩,
        ⟨atHome "/second", .directory (Path.ofText ".")⟩]
    after {} calls = ⟨some (Path.ofText "/first/.ferrule/config.toml")⟩ ∧
      answers {} (homeless :: calls) = [.ok ⟨.empty, none⟩,
        .error (.notFound (Path.ofText "missing.toml")),
        .ok ⟨⟨none, some ⟨some .warn, none⟩⟩, none⟩,
        .ok ⟨⟨none, some ⟨some .warn, none⟩⟩, none⟩] := by
  intro homeless calls
  obtain ⟨-, decided, -⟩ := reused_loader_fixes_file_once calls
  obtain ⟨-, -, -, undecided, -⟩ := reused_loader_fixes_file_once (homeless :: calls)
  have fails : ∀ call ∈ calls.take 1, ¬ call.Passes := by decide +kernel
  have passes : Call.Passes ⟨atHome "/first", .directory (Path.ofText ".")⟩ := by decide +kernel
  have waits : ∀ call ∈ [homeless], ¬ call.Passes ∨ call.homeFile? = none := by
    intro call inside
    rw [List.mem_singleton.mp inside]
    exact .inr rfl
  obtain ⟨fixed, answered⟩ := decided (calls.take 1) _ _ _ rfl fails passes rfl
  obtain ⟨-, whole⟩ := undecided [homeless] calls rfl waits
  rw [fixed, whole, answered]
  decide +kernel

end SettingsLoader

end NativeBoundary
