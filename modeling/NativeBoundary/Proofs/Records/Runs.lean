import NativeBoundary.Overrides
import NativeBoundary.Proofs.Records.Programs

/-!
# Records of runs

The writing of records is set up once.  Whatever a host does in a fresh process where no
variable holds a filter, nothing is written before its first set-up.  From then on
exactly the records are written that are at least as severe as the level of that set-up,
in the order in which they are raised and in the format of that set-up.  All further
set-ups are without an effect.

Whether a program is run under a strict or under a lax level, it ends in the same way and
raises the same records, and the strict level lets a part of those through that the lax
one lets through.
-/

namespace NativeBoundary

open NativeBoundary.Log
open NativeBoundary.Callback

variable {V W α : Type}

/-! ## What is written at a moment -/

namespace Journal

variable {after before journal moment : Journal}

theorem any_reverse_of_unset (unset : isConfigured journal = false) :
    journal.reverse.any Entry.isSetUp = false := by
  rw [List.any_reverse, ← isConfigured_eq]
  exact unset

theorem written_of_unset (unset : isConfigured journal = false) : written none journal = [] :=
  Writer.writeAll_none_of_unset (any_reverse_of_unset unset)

/-- After the first set-up the records of this library are written that pass its level. -/
theorem written_of_first (own : ∀ record ∈ records after, record.IsOwn)
    (unset : isConfigured before = false) (part : LoggingSection) :
    written none (after ++ .configured part :: before) = passing part (records after) := by
  rw [records_eq] at own ⊢
  rw [written, List.reverse_append, List.reverse_cons, List.append_assoc, List.singleton_append,
    Writer.writeAll_none_of_first (any_reverse_of_unset unset), Writer.writeAll_some,
    filterMap_write?_ofPart part own]

/-- What was written at some moment stays written. -/
theorem written_prefix (past : moment <:+ journal) :
    written none moment <+: written none journal := by
  rcases past with ⟨later, rfl⟩
  rw [written, written, List.reverse_append]
  exact Writer.writeAll_prefix none moment.reverse later.reverse

/-- The records of a part of a journal are records of the journal. -/
theorem mem_records_of_suffix {rest : List Entry} (split : after ++ rest <:+ journal)
    {record : Record} (member : record ∈ records after) : record ∈ records journal := by
  rw [records_eq, List.mem_filterMap] at member ⊢
  rcases member with ⟨entry, listed, raised⟩
  refine ⟨entry, List.mem_reverse.mpr (split.mem ?_), raised⟩
  exact List.mem_append_left rest (List.mem_reverse.mp listed)

end Journal

/-! ## Runs of programs -/

section

variable {program : Program V W α} {code : Exports W} {own : V} {memory : W} {outcome : Outcome α}
  {journal : Journal}

/-- Every record that a program makes the library raise has a target of this library. -/
theorem Program.Ends.isOwn (ends : program.Ends code own memory outcome journal) {record : Record}
    (member : record ∈ Journal.records journal) : record.IsOwn := by
  rw [← program.mapSections_id] at ends
  rcases ends.corresponding id with ⟨seen, -, corresponds⟩
  rw [Journal.records_eq] at member
  exact Entry.AllCorrespond.isOwn (List.forall₂_reverse_iff.mpr corresponds) member

/-- Other sections for the set-ups change neither how a program ends nor the records. -/
theorem Program.Ends.mapSections (ends : program.Ends code own memory outcome journal)
    (transform : LoggingSection → LoggingSection) :
    ∃ seen, (program.mapSections transform).Ends code own memory outcome seen ∧
      Journal.records seen = Journal.records journal := by
  rw [← program.mapSections_id] at ends
  rcases ends.corresponding transform with ⟨seen, endsToo, corresponds⟩
  refine ⟨seen, endsToo, ?_⟩
  rw [Journal.records_eq, Journal.records_eq]
  exact (Entry.AllCorrespond.records_eq (List.forall₂_reverse_iff.mpr corresponds)).symm

/-- A stricter level lets a part of those records through that a laxer one lets through. -/
theorem Program.Ends.written_sublist {strict lax : Option Severity}
    (below : lax.getD .info ≤ strict.getD .info) {stricter laxer : Journal} {ended : Outcome α}
    (ends : (program.atLevel strict).Ends code own memory outcome stricter)
    (endsToo : (program.atLevel lax).Ends code own memory ended laxer) :
    (Journal.written none stricter).Sublist (Journal.written none laxer) := by
  rcases ends.corresponding (fun part => { part with level := lax }) with
    ⟨seen, reached, corresponds⟩
  rw [(endsToo.unique reached).2]
  exact Entry.AllCorrespond.writeAll_sublist (List.forall₂_reverse_iff.mpr corresponds)
    (fun part => rfl) fun part => below

end

/-- In a fresh process every program ends, and in one way.  At no moment before its first set-up
anything is written.  At every later moment exactly those records are written that were raised since
then and are at least as severe as the level of the first set-up, in order and in its format, and
what was written stays written.  Under any two levels the program ends alike and raises the same
records, and what the stricter level writes is a subsequence of what the laxer one writes. -/
theorem Program.first_level_filters_records (program : Program V W α) (code : Exports W) (own : V)
    (memory : W) :
    ∃ outcome journal,
      program.Ends code own memory outcome journal ∧
      (∀ ended seen, program.Ends code own memory ended seen →
        ended = outcome ∧ seen = journal) ∧
      (∀ moment : Journal, moment <:+ journal →
        moment.written none <+: journal.written none ∧
        (moment.isConfigured = false → moment.written none = []) ∧
        ∀ (part : LoggingSection) (after before : Journal),
          moment = after ++ .configured part :: before → before.isConfigured = false →
            moment.written none =
              (after.records.filter fun record => part.level.getD .info ≤ record.severity).map
                fun record => record.write (part.format.getD .compact)) ∧
      ∀ strict lax : Option Severity, lax.getD .info ≤ strict.getD .info →
        ∃ stricter laxer,
          (program.atLevel strict).Ends code own memory outcome stricter ∧
          (program.atLevel lax).Ends code own memory outcome laxer ∧
          stricter.records = journal.records ∧ laxer.records = journal.records ∧
          (stricter.written none).Sublist (laxer.written none) := by
  rcases program.exists_ends code own memory with ⟨outcome, journal, ends⟩
  refine ⟨outcome, journal, ends, ?_, ?_, ?_⟩
  · intro ended seen endsToo
    exact endsToo.unique ends
  · intro moment past
    refine ⟨Journal.written_prefix past, Journal.written_of_unset, ?_⟩
    rintro part after before rfl unset
    exact Journal.written_of_first
      (fun record member => ends.isOwn (Journal.mem_records_of_suffix past member)) unset part
  · intro strict lax below
    rcases ends.mapSections fun part => { part with level := strict } with
      ⟨stricter, endsStrict, sameStrict⟩
    rcases ends.mapSections fun part => { part with level := lax } with ⟨laxer, endsLax, sameLax⟩
    exact ⟨stricter, laxer, endsStrict, endsLax, sameStrict, sameLax,
      Program.Ends.written_sublist below endsStrict endsLax⟩

/-! ## A service that cannot be destroyed -/

/-- A gateway to a library that reports a failure whenever a service is destroyed. -/
def Gateway.stubborn : Gateway Reference.Heap :=
  ⟨({ serviceDestroy := some .null } : Overrides).apply Reference.table, false⟩

/-- Make a service, let it go, and go on. -/
def Program.discarding (next : Program Unit Reference.Heap α) : Program Unit Reference.Heap α :=
  .perform (.step .stubborn [] (.create "service" (.serviceWith 7))) fun made =>
    .perform (.step .stubborn made.2 (.drop "service")) fun _ => next

/-- What the service at an address leaves in the journal when it is made and let go. -/
def Program.discarded (address : Nat) : Journal :=
  [.raised (Owner.dropFailed "SimpleService" (.callFailed .null)),
    .raised (Owner.handleDestroyed "SimpleService" .null),
    .called .simpleServiceDestroy (some ⟨address⟩),
    .raised (Owner.handleCreated "SimpleService"),
    .called .simpleServiceNewWith none]

/-- Set the writing of warnings up between two services, and the writing of everything later on,
from within a closure. -/
def Program.warning : Program Unit Reference.Heap Unit :=
  .discarding <|
    .perform (.setUp ⟨some .warn, some .json⟩) fun _ =>
      .call .stubborn (.slice6 [1])
        (fun byte => .perform (.setUp ⟨some .trace, none⟩) fun _ => .done (byte + 1)) fun _ =>
          .discarding (.done ())

theorem Program.first_level_filters_records_warning :
    ∃ journal after before : Journal,
      warning.Ends Gateway.stubborn.exports () .empty (.returned ()) journal ∧
      journal = after ++ .configured ⟨some .warn, some .json⟩ :: before ∧
      before.isConfigured = false ∧ after.isConfigured = true ∧
      before.records.map Record.severity = [.debug, .debug, .warn] ∧
      after.records.map Record.severity = [.trace, .trace, .debug, .debug, .warn] ∧
      before.written none = [] ∧
      journal.written none = [.object (Owner.dropFailed "SimpleService" (.callFailed .null))] ∧
      ∃ stricter laxer,
        (warning.atLevel (some .error)).Ends Gateway.stubborn.exports () .empty (.returned ())
          stricter ∧
        (warning.atLevel none).Ends Gateway.stubborn.exports () .empty (.returned ()) laxer ∧
        (stricter.written none).Sublist (laxer.written none) := by
  let before : Journal := discarded 1
  let after : Journal :=
    discarded 2 ++
      [.raised Lending.Pins.none.acquire.release.releasedRecord,
        .configured ⟨some .trace, none⟩,
        .called .patternFfiSlice6 none,
        .raised (Lending.Pins.none.acquire.acquiredRecord 1)]
  rcases warning.first_level_filters_records Gateway.stubborn.exports () .empty with
    ⟨outcome, journal, ends, -, moments, levels⟩
  have ran :
      warning.run? 2 Gateway.stubborn.exports () .empty =
        some (.returned (), after ++ .configured ⟨some .warn, some .json⟩ :: before) := by
    decide +kernel
  rcases ends.eq_of_run? ran with ⟨rfl, rfl⟩
  have unset : before.isConfigured = false := rfl
  have passed :
      (after.records.filter fun record => Severity.warn ≤ record.severity).map
          (fun record => record.write .json) =
        [.object (Owner.dropFailed "SimpleService" (.callFailed .null))] := by
    decide +kernel
  have written := (moments _ List.suffix_rfl).2.2 _ after before rfl unset
  have past : before <:+ after ++ .configured ⟨some .warn, some .json⟩ :: before :=
    (List.suffix_cons _ before).trans (List.suffix_append after _)
  have early := (moments before past).2.1 unset
  have below : (none : Option Severity).getD .info ≤ (some Severity.error).getD .info := by decide
  rcases levels (some .error) none below with ⟨stricter, laxer, endsStrict, endsLax, -, -, part⟩
  exact ⟨_, after, before, ends, rfl, unset, rfl, rfl, rfl, early, written.trans passed, stricter,
    laxer, endsStrict, endsLax, part⟩

end NativeBoundary
