import Mathlib.Data.List.Forall2
import NativeBoundary.Log.Writer
import NativeBoundary.Proofs.Run.Footprints

/-!
# Records that pass a level

A configured level becomes a filter of two rules.  The one for the target of this
library is the more specific one, so the level decides about every record of this
library, also where it lets less through than the rule for all other targets.

The main statements read what is written off a list of entries.  Before the first set-up
nothing is written.  From then on the records of this library are written whose severity
is at least the level, and further set-ups change nothing.  Two lists of entries that
differ in what is handed to the set-ups hold the same records, and the stricter one
writes a part of what the laxer one writes.
-/

namespace NativeBoundary

namespace Log

/-! ## One record under a level -/

/-- The rules of a configured level, the rule for this library first. -/
theorem Filter.rules_ofLevel (level : Severity) :
    (Filter.ofLevel level).rules =
      [⟨some level, some Filter.ownTarget, []⟩, ⟨some .warn, none, []⟩] := by
  cases level <;> decide +kernel

/-- The targets of this library begin with the target that a configured level governs. -/
theorem Source.isPrefixOf_target (source : Source) :
    Filter.ownTarget.toList.isPrefixOf source.target.toList = true := by
  cases source <;> decide

variable {record : Record}

/-- A level decides about every record of this library. -/
theorem Record.IsOwn.admits_ofLevel (own : record.IsOwn) (level : Severity) :
    (Filter.ofLevel level).admits record = decide (level ≤ record.severity) := by
  rcases own with ⟨source, target⟩
  have applies : Rule.applies ⟨some level, some Filter.ownTarget, []⟩ record = true := by
    simp only [Rule.applies, target, source.isPrefixOf_target, List.all_nil, Bool.and_true]
  simp only [Filter.admits, Filter.rules_ofLevel, List.find?_cons_of_pos, applies]
  rfl

/-- The records that are written for a section, in its format: those whose severity is at least
its level. -/
def passing (part : LoggingSection) (records : List Record) : List Written :=
  (records.filter fun record => part.level.getD .info ≤ record.severity).map
    (·.write (part.format.getD .compact))

/-- The writer of a section when no variable holds a filter. -/
def Writer.ofPart (part : LoggingSection) : Writer :=
  ⟨.ofLevel (part.level.getD .info), part.format.getD .compact⟩

theorem Record.IsOwn.write?_ofPart (own : record.IsOwn) (part : LoggingSection) :
    (Writer.ofPart part).write? record =
      if part.level.getD .info ≤ record.severity then
        some (record.write (part.format.getD .compact))
      else none := by
  simp only [Writer.write?, Writer.ofPart, own.admits_ofLevel, decide_eq_true_eq]

theorem filterMap_write?_ofPart (part : LoggingSection) {records : List Record}
    (own : ∀ record ∈ records, record.IsOwn) :
    records.filterMap (Writer.ofPart part).write? = passing part records := by
  induction records with
  | nil => rfl
  | cons record rest hypothesis =>
    have others := hypothesis fun other member => own other (List.mem_cons_of_mem record member)
    have head := (own record List.mem_cons_self).write?_ofPart part
    by_cases passes : part.level.getD .info ≤ record.severity
    · simp [head, passes, passing, others]
    · simp [head, passes, passing, others]

end Log

open NativeBoundary.Log

/-! ## Entries in order -/

/-- The record of an entry that raises one. -/
def Entry.record? : Entry → Option Record
  | .raised record => some record
  | _ => none

def Entry.isSetUp : Entry → Bool
  | .configured _ => true
  | _ => false

theorem Entry.IsWithin.isSetUp_eq_false {calls : Symbol → Prop} {entry : Entry}
    (within : entry.IsWithin calls) : entry.isSetUp = false := by
  cases entry with
  | configured part => cases within
  | called symbol handle => rfl
  | looked symbol => rfl
  | raised record => rfl

theorem Entry.IsWithin.isOwn {calls : Symbol → Prop} {entry : Entry}
    (within : entry.IsWithin calls) {record : Record} (raised : entry.record? = some record) :
    record.IsOwn := by
  cases entry with
  | raised record =>
    cases raised
    exact within
  | called symbol handle => cases raised
  | looked symbol => cases raised
  | configured part => cases raised

theorem Journal.records_eq (journal : Journal) :
    journal.records = journal.reverse.filterMap Entry.record? :=
  List.filterMap_reverse.symm

theorem Journal.isConfigured_eq (journal : Journal) :
    journal.isConfigured = List.any journal Entry.isSetUp := rfl

namespace Log.Writer

variable {text : Option String} {entries first second : List Entry}

/-- Before the first set-up an entry that is none leaves everything as it is. -/
theorem writeAll_none_cons {entry : Entry} (unset : entry.isSetUp = false) (rest : List Entry) :
    writeAll text none (entry :: rest) = writeAll text none rest := by
  cases entry with
  | configured part => cases unset
  | called symbol handle => rfl
  | looked symbol => rfl
  | raised record => rfl

/-- After a set-up an entry counts by its record alone. -/
theorem writeAll_some_cons (writer : Writer) (entry : Entry) (rest : List Entry) :
    writeAll text (some writer) (entry :: rest) =
      (entry.record?.bind writer.write?).toList ++ writeAll text (some writer) rest := by
  cases entry <;> rfl

/-- Nothing is written before the first set-up. -/
theorem writeAll_none_of_unset (unset : entries.any Entry.isSetUp = false) :
    writeAll text none entries = [] := by
  induction entries with
  | nil => rfl
  | cons entry rest hypothesis =>
    rw [List.any_cons, Bool.or_eq_false_iff] at unset
    rw [writeAll_none_cons unset.1]
    exact hypothesis unset.2

/-- The first set-up decides how records are written from then on. -/
theorem writeAll_none_of_first (unset : first.any Entry.isSetUp = false) (part : LoggingSection) :
    writeAll none none (first ++ .configured part :: second) =
      writeAll none (some (ofPart part)) second := by
  induction first with
  | nil => rfl
  | cons entry rest hypothesis =>
    rw [List.any_cons, Bool.or_eq_false_iff] at unset
    rw [List.cons_append, writeAll_none_cons unset.1]
    exact hypothesis unset.2

/-- From a set-up on, every record is written that the filter admits. -/
theorem writeAll_some (writer : Writer) (entries : List Entry) :
    writeAll text (some writer) entries =
      (entries.filterMap Entry.record?).filterMap writer.write? := by
  induction entries with
  | nil => rfl
  | cons entry rest hypothesis =>
    rw [writeAll_some_cons, hypothesis, List.filterMap_filterMap, List.filterMap_filterMap,
      List.filterMap_cons]
    cases entry.record?.bind writer.write? <;> rfl

/-- What was written stays written. -/
theorem writeAll_prefix (writer : Option Writer) (first second : List Entry) :
    writeAll text writer first <+: writeAll text writer (first ++ second) := by
  induction first generalizing writer with
  | nil => exact List.nil_prefix
  | cons entry rest hypothesis =>
    rw [List.cons_append]
    cases writer with
    | some writer =>
      rw [writeAll_some_cons, writeAll_some_cons]
      exact (List.prefix_append_right_inj _).mpr (hypothesis (some writer))
    | none =>
      cases entry with
      | configured part =>
        rw [writeAll, writeAll]
        cases ofSection text part with
        | returned writer => exact hypothesis (some writer)
        | panicked message => exact hypothesis none
      | called symbol handle => exact hypothesis none
      | looked symbol => exact hypothesis none
      | raised record => exact hypothesis none

end Log.Writer

/-! ## Two lists of entries -/

/-- Entries that differ only in what is handed to a set-up, which is the value of one function or
the other at the same section. -/
inductive Entry.Corresponds (one other : LoggingSection → LoggingSection) : Entry → Entry → Prop
  | same {entry : Entry} (within : entry.IsWithin fun _ => True) :
      Entry.Corresponds one other entry entry
  | configured (part : LoggingSection) :
      Entry.Corresponds one other (.configured (one part)) (.configured (other part))

/-- Lists of entries that differ only in what is handed to the set-ups. -/
abbrev Entry.AllCorrespond (one other : LoggingSection → LoggingSection) :
    List Entry → List Entry → Prop :=
  List.Forall₂ (Entry.Corresponds one other)

namespace Entry.AllCorrespond

variable {one other : LoggingSection → LoggingSection} {first second : List Entry}

/-- Entries that set nothing up correspond to themselves. -/
theorem of_within {calls : Symbol → Prop} {added : List Entry}
    (within : ∀ entry ∈ added, Entry.IsWithin calls entry) :
    Entry.AllCorrespond one other added added :=
  List.forall₂_same.mpr fun entry member => .same ((within entry member).imp fun _ _ => trivial)

theorem records_eq (corresponds : Entry.AllCorrespond one other first second) :
    first.filterMap Entry.record? = second.filterMap Entry.record? := by
  induction corresponds with
  | nil => rfl
  | cons head rest hypothesis =>
    cases head with
    | same within => rw [List.filterMap_cons, List.filterMap_cons, hypothesis]
    | configured part => exact hypothesis

theorem isOwn (corresponds : Entry.AllCorrespond one other first second) {record : Record}
    (member : record ∈ first.filterMap Entry.record?) : record.IsOwn := by
  rcases List.mem_filterMap.mp member with ⟨entry, listed, raised⟩
  clear member
  induction corresponds with
  | nil => cases listed
  | cons head rest hypothesis =>
    rcases List.mem_cons.mp listed with rfl | later
    · cases head with
      | same within => exact within.isOwn raised
      | configured part => cases raised
    · exact hypothesis later

/-- A stricter writer writes a part of what a laxer one writes. -/
theorem writeAll_some_sublist (corresponds : Entry.AllCorrespond one other first second)
    {strict lax : LoggingSection} (sameFormat : strict.format = lax.format)
    (below : lax.level.getD .info ≤ strict.level.getD .info) :
    (Writer.writeAll none (some (.ofPart strict)) first).Sublist
      (Writer.writeAll none (some (.ofPart lax)) second) := by
  have own : ∀ record ∈ second.filterMap Entry.record?, record.IsOwn := by
    rw [← corresponds.records_eq]
    exact fun record member => corresponds.isOwn member
  rw [Writer.writeAll_some, Writer.writeAll_some, corresponds.records_eq,
    filterMap_write?_ofPart strict own, filterMap_write?_ofPart lax own, passing, passing,
    sameFormat]
  refine (List.monotone_filter_right _ fun record passes => ?_).map _
  exact decide_eq_true (Nat.le_trans below (of_decide_eq_true passes))

/-- Stricter set-ups lead to a part of what laxer ones lead to. -/
theorem writeAll_sublist (corresponds : Entry.AllCorrespond one other first second)
    (sameFormat : ∀ part, (one part).format = (other part).format)
    (below : ∀ part, (other part).level.getD .info ≤ (one part).level.getD .info) :
    (Writer.writeAll none none first).Sublist (Writer.writeAll none none second) := by
  induction corresponds with
  | nil => exact List.Sublist.refl _
  | cons head rest hypothesis =>
    cases head with
    | configured part => exact writeAll_some_sublist rest (sameFormat part) (below part)
    | same within =>
      rw [Writer.writeAll_none_cons within.isSetUp_eq_false,
        Writer.writeAll_none_cons within.isSetUp_eq_false]
      exact hypothesis

end Entry.AllCorrespond

end NativeBoundary
