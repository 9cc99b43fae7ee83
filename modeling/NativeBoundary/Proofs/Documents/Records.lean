import NativeBoundary.Proofs.Layering.Overlay
import NativeBoundary.Settings.Schema

/-!
# Tables as records

A table with two known keys is decoded entry by entry: each of them sets its own part, and a
key that is not known ends the decoding.  Where no key is there twice, the entries come out as
if both parts were looked up by their keys.
-/

namespace NativeBoundary

namespace Toml.Entries

variable {entries : Entries} {key : String}

theorem get?_cons_same (value : Value) : get? ((key, value) :: entries) key = some value := by
  simp [get?]

theorem get?_cons_other {other : String} (different : other ≠ key) (value : Value) :
    get? ((other, value) :: entries) key = entries.get? key := by
  simp [get?, different]

theorem get?_eq_none_iff : entries.get? key = none ↔ key ∉ entries.map Prod.fst := by
  rw [get?, Option.map_eq_none_iff, List.find?_eq_none, List.mem_map]
  constructor
  · rintro absent ⟨entry, inside, same⟩
    exact absent entry inside (beq_iff_eq.mpr same)
  · intro absent entry inside same
    exact absent ⟨entry, inside, beq_iff_eq.mp same⟩

theorem mem_of_get?_eq_some {value : Value} (found : entries.get? key = some value) :
    (key, value) ∈ entries := by
  obtain ⟨⟨_, _⟩, first, rfl⟩ := Option.map_eq_some_iff.mp found
  have same := List.find?_some first
  obtain rfl := beq_iff_eq.mp same
  exact List.mem_of_find?_eq_some first

end Toml.Entries

namespace Settings.Schema

open NativeBoundary.Toml

/-! ## Two known keys -/

section

variable {α β σ : Type}

/-- Entries are decoded into a record of two parts, either of which may be missing. -/
structure IsRecord (entry : σ → String × Value → Decoded σ) (build : Option α → Option β → σ)
    (first second : String) (readFirst : Value → Decoded α) (readSecond : Value → Decoded β) :
    Prop where
  different : first ≠ second
  atFirst : ∀ first? second? value, entry (build first? second?) (first, value) =
    (readFirst value).map fun read => build (some read) second?
  atSecond : ∀ first? second? value, entry (build first? second?) (second, value) =
    (readSecond value).map fun read => build first? (some read)
  elsewhere : ∀ state key value, key ≠ first → key ≠ second →
    ∃ offence, entry state (key, value) = .error offence

/-- A value is read if it is there, and nothing otherwise. -/
abbrev ReadsAs (read : Value → Decoded α) : Option Value → Option α → Prop :=
  Option.Rel fun value taken => read value = .ok taken

/-- No key is unknown, and a record is what is looked up under the known ones, over what its parts
were before. -/
def LookedUp (build : Option α → Option β → σ) (first second : String)
    (readFirst : Value → Decoded α) (readSecond : Value → Decoded β) (entries : Entries)
    (first? : Option α) (second? : Option β) (result : σ) : Prop :=
  (∀ entry ∈ entries, entry.1 = first ∨ entry.1 = second) ∧
    ∃ read? further?, ReadsAs readFirst (entries.get? first) read? ∧
      ReadsAs readSecond (entries.get? second) further? ∧
      result = build (read?.or first?) (further?.or second?)

variable {entry : σ → String × Value → Decoded σ} {build : Option α → Option β → σ}
  {first second : String} {readFirst : Value → Decoded α} {readSecond : Value → Decoded β}
  {value : Value} {rest : Entries} {first? : Option α} {second? : Option β} {result : σ}

theorem lookedUp_swap {entries : Entries} :
    LookedUp (fun second? first? => build first? second?) second first readSecond readFirst entries
        second? first? result ↔
      LookedUp build first second readFirst readSecond entries first? second? result := by
  refine and_congr (forall₂_congr fun _ _ => or_comm) ?_
  rw [exists_comm]
  exact exists₂_congr fun read? further? => and_left_comm

theorem lookedUp_nil :
    LookedUp build first second readFirst readSecond [] first? second? result ↔
      result = build first? second? := by
  constructor
  · rintro ⟨-, read?, further?, read, further, rfl⟩
    cases read
    cases further
    rfl
  · intro kept
    exact ⟨List.forall_mem_nil _, none, none, .none, .none, kept⟩

/-- An entry under the first key, which is not there again, decides on the first part. -/
theorem lookedUp_cons_first (different : first ≠ second) (new : first ∉ rest.map Prod.fst) :
    LookedUp build first second readFirst readSecond ((first, value) :: rest) first? second?
        result ↔
      ∃ read, readFirst value = .ok read ∧
        LookedUp build first second readFirst readSecond rest (some read) second? result := by
  have missing : Entries.get? rest first = none := Entries.get?_eq_none_iff.mpr new
  unfold LookedUp
  rw [Entries.get?_cons_same, Entries.get?_cons_other different, missing, List.forall_mem_cons]
  constructor
  · rintro ⟨⟨-, known⟩, read?, further?, read, further, rfl⟩
    cases read with
    | some took => exact ⟨_, took, known, none, further?, .none, further, rfl⟩
  · rintro ⟨read, took, known, read?, further?, absent, further, rfl⟩
    cases absent
    exact ⟨⟨.inl rfl, known⟩, some read, further?, .some took, further, rfl⟩

namespace IsRecord

variable (record : IsRecord entry build first second readFirst readSecond)

include record

/-- The two keys may change places. -/
theorem swap :
    IsRecord entry (fun second? first? => build first? second?) second first readSecond
      readFirst where
  different := record.different.symm
  atFirst second? first? := record.atSecond first? second?
  atSecond second? first? := record.atFirst first? second?
  elsewhere state key value notSecond notFirst :=
    record.elsewhere state key value notFirst notSecond

/-- Decoding an entry under the first key sets the first part. -/
theorem foldlM_cons_first :
    List.foldlM entry (build first? second?) ((first, value) :: rest) = .ok result ↔
      ∃ read, readFirst value = .ok read ∧
        List.foldlM entry (build (some read) second?) rest = .ok result := by
  rw [List.foldlM_cons, record.atFirst]
  constructor
  · intro decoded
    obtain ⟨state, taken, further⟩ := exists_of_bind_eq_ok decoded
    obtain ⟨read, took, rfl⟩ := exists_of_map_eq_ok taken
    exact ⟨read, took, further⟩
  · rintro ⟨read, took, further⟩
    rw [took]
    exact further

/-- Decoding entries one by one is looking up both keys. -/
theorem foldlM_eq_ok_iff {entries : Entries} (distinct : (entries.map Prod.fst).Nodup)
    (first? : Option α) (second? : Option β) :
    List.foldlM entry (build first? second?) entries = .ok result ↔
      LookedUp build first second readFirst readSecond entries first? second? result := by
  -- What was decoded so far stands in the two parts, and a key that comes only once decides on its
  -- part; the second key is treated as the first one with both changing places.
  induction entries generalizing first? second? with
  | nil =>
    rw [lookedUp_nil]
    constructor
    · intro decoded
      exact (Except.ok.inj decoded).symm
    · rintro rfl
      rfl
  | cons head rest hypothesis =>
    obtain ⟨new, others⟩ := List.nodup_cons.mp distinct
    obtain ⟨key, value⟩ := head
    by_cases atFirst : key = first
    · subst atFirst
      rw [record.foldlM_cons_first, lookedUp_cons_first record.different new]
      exact exists_congr fun read => and_congr_right fun _ => hypothesis others _ _
    · by_cases atSecond : key = second
      · subst atSecond
        rw [record.swap.foldlM_cons_first, ← lookedUp_swap,
          lookedUp_cons_first record.swap.different new]
        refine exists_congr fun read => and_congr_right fun _ => ?_
        rw [lookedUp_swap]
        exact hypothesis others _ _
      · obtain ⟨offence, refused⟩ :=
          record.elsewhere (build first? second?) key value atFirst atSecond
        rw [List.foldlM_cons, refused]
        constructor
        · intro impossible
          cases impossible
        · rintro ⟨known, -⟩
          exact ((List.forall_mem_cons.mp known).1.elim atFirst atSecond).elim

/-- An entry that is decoded has a known key, and a value that its reader takes. -/
theorem cases_of_foldlM_cons {head : String × Value}
    (decoded : List.foldlM entry (build first? second?) (head :: rest) = .ok result) :
    (head.1 = first ∧ ∃ read, readFirst head.2 = .ok read ∧
        List.foldlM entry (build (some read) second?) rest = .ok result) ∨
      (head.1 = second ∧ ∃ read, readSecond head.2 = .ok read ∧
        List.foldlM entry (build first? (some read)) rest = .ok result) := by
  obtain ⟨key, value⟩ := head
  by_cases atFirst : key = first
  · subst atFirst
    exact .inl ⟨rfl, record.foldlM_cons_first.mp decoded⟩
  · by_cases atSecond : key = second
    · subst atSecond
      exact .inr ⟨rfl, record.swap.foldlM_cons_first.mp decoded⟩
    · obtain ⟨offence, refused⟩ :=
        record.elsewhere (build first? second?) key value atFirst atSecond
      rw [List.foldlM_cons, refused] at decoded
      cases decoded

/-- Entries are decoded if each of them has a known key and a value that its reader takes. -/
theorem exists_foldlM_eq_ok_iff {entries : Entries} (first? : Option α) (second? : Option β) :
    (∃ result, List.foldlM entry (build first? second?) entries = .ok result) ↔
      ∀ item ∈ entries, (item.1 = first ∧ ∃ read, readFirst item.2 = .ok read) ∨
        (item.1 = second ∧ ∃ read, readSecond item.2 = .ok read) := by
  induction entries generalizing first? second? with
  | nil => exact iff_of_true ⟨_, rfl⟩ (List.forall_mem_nil _)
  | cons head rest hypothesis =>
    rw [List.forall_mem_cons]
    constructor
    · rintro ⟨result, decoded⟩
      rcases record.cases_of_foldlM_cons decoded with
        ⟨known, read, took, further⟩ | ⟨known, read, took, further⟩
      · exact ⟨.inl ⟨known, read, took⟩, (hypothesis _ _).mp ⟨result, further⟩⟩
      · exact ⟨.inr ⟨known, read, took⟩, (hypothesis _ _).mp ⟨result, further⟩⟩
    · obtain ⟨key, value⟩ := head
      rintro ⟨⟨rfl, read, took⟩ | ⟨rfl, read, took⟩, others⟩
      · obtain ⟨result, further⟩ := (hypothesis _ _).mpr others
        exact ⟨result, record.foldlM_cons_first.mpr ⟨read, took, further⟩⟩
      · obtain ⟨result, further⟩ := (hypothesis _ _).mpr others
        exact ⟨result, record.swap.foldlM_cons_first.mpr ⟨read, took, further⟩⟩

end IsRecord

end

end Settings.Schema

end NativeBoundary
