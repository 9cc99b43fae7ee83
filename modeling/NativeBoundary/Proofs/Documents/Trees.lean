import Mathlib.Data.List.Nodup
import NativeBoundary.Toml.Draft

/-!
# Trees of values

In a tree of values no table has a key twice, and what was written under a repeated header
is a list of at least one table.  Drafts keep to that at every step: whatever is put into a
table in the making goes under a key that is free or takes the place of what stood there, so
what a draft is finished to is a tree.
-/

namespace NativeBoundary.Toml

/-- A value whose tables have no key twice. -/
inductive Value.IsTree : Value → Prop
  | string (text : String) : IsTree (.string text)
  | integer (value : Int) : IsTree (.integer value)
  | float (value : Decimal.Binary64) : IsTree (.float value)
  | boolean (value : Bool) : IsTree (.boolean value)
  | moment : IsTree .moment
  | array {items : List Value} (parts : ∀ item ∈ items, IsTree item) : IsTree (.array items)
  | tables {items : List Value} (some : items ≠ [])
      (tables : ∀ item ∈ items, ∃ entries, item = .table entries)
      (parts : ∀ item ∈ items, IsTree item) : IsTree (.tables items)
  | table {entries : List (String × Value)} (distinct : (entries.map Prod.fst).Nodup)
      (parts : ∀ entry ∈ entries, IsTree entry.2) : IsTree (.table entries)

/-- The entries of a document that is a tree. -/
def Entries.IsTree (entries : Entries) : Prop :=
  (Value.table entries).IsTree

namespace Entries.IsTree

variable {entries : Entries}

theorem distinct (tree : entries.IsTree) : (entries.map Prod.fst).Nodup := by
  cases tree with
  | table distinct parts => exact distinct

theorem part (tree : entries.IsTree) {entry : String × Value} (inside : entry ∈ entries) :
    entry.2.IsTree := by
  cases tree with
  | table distinct parts => exact parts entry inside

end Entries.IsTree

/-! ## Tables in the making -/

/-- What every step keeps, a loop over steps that may fail keeps. -/
theorem holds_of_foldlM_eq_some {σ τ : Type} (holds : σ → Prop) {step : σ → τ → Option σ}
    {items : List τ}
    (kept : ∀ item ∈ items, ∀ state next, holds state → step state item = some next → holds next)
    {state result : σ} (initial : holds state) (folded : items.foldlM step state = some result) :
    holds result := by
  induction items generalizing state with
  | nil =>
    obtain rfl := Option.some.inj folded
    exact initial
  | cons item rest hypothesis =>
    obtain ⟨keptFirst, keptLater⟩ := List.forall_mem_cons.mp kept
    rw [List.foldlM_cons] at folded
    obtain ⟨next, first, later⟩ := Option.bind_eq_some_iff.mp folded
    exact hypothesis keptLater (keptFirst state next initial first) later

theorem finishEntries_eq_map (entries : List (String × Node)) :
    finishEntries entries = entries.map fun entry => (entry.1, entry.2.finish) := by
  induction entries with
  | nil => rw [finishEntries, List.map_nil]
  | cons entry rest hypothesis => rw [finishEntries, hypothesis, List.map_cons]

theorem finishTables_eq_map (tables : List (List (String × Node))) :
    finishTables tables = tables.map fun entries => .table (finishEntries entries) := by
  induction tables with
  | nil => rw [finishTables, List.map_nil]
  | cons entries rest hypothesis => rw [finishTables, hypothesis, List.map_cons]

namespace Draft

/-- No key is there twice, and all that is there is finished to trees. -/
structure Sound (draft : Draft) : Prop where
  distinct : (draft.map Prod.fst).Nodup
  parts : ∀ entry ∈ draft, entry.2.finish.IsTree

theorem sound_nil : Sound [] where
  distinct := List.nodup_nil
  parts _ inside := nomatch inside

theorem sound_iff {draft : Draft} :
    (Value.table (finishEntries draft)).IsTree ↔ draft.Sound := by
  have keys : (finishEntries draft).map Prod.fst = draft.map Prod.fst := by
    rw [finishEntries_eq_map, List.map_map]
    rfl
  constructor
  · intro tree
    cases tree with
    | table distinct parts =>
      refine ⟨keys ▸ distinct, fun entry inside => ?_⟩
      rw [finishEntries_eq_map] at parts
      exact parts _ (List.mem_map_of_mem inside)
  · rintro ⟨distinct, parts⟩
    refine .table (keys ▸ distinct) fun finished inside => ?_
    rw [finishEntries_eq_map] at inside
    obtain ⟨entry, before, rfl⟩ := List.mem_map.mp inside
    exact parts entry before

/-- The tables under a repeated header are finished to a tree if each of them is sound. -/
theorem sound_tables_iff {earlier : List (List (String × Node))} {last : List (String × Node)} :
    (Node.tables earlier last).finish.IsTree ↔
      (∀ entries ∈ earlier, Sound entries) ∧ Sound last := by
  rw [Node.finish, finishTables_eq_map]
  constructor
  · intro tree
    cases tree with
    | tables some tables parts =>
      refine ⟨fun entries inside => sound_iff.mp (parts _ ?_), sound_iff.mp (parts _ ?_)⟩
      · exact List.mem_append_left _ (List.mem_map_of_mem inside)
      · exact List.mem_append_right _ (List.mem_singleton_self _)
  · rintro ⟨before, sound⟩
    have all : ∀ item ∈ earlier.map (fun entries => Value.table (finishEntries entries)) ++
        [.table (finishEntries last)], ∃ entries, item = .table (finishEntries entries) ∧
          Sound entries := by
      intro item inside
      rcases List.mem_append.mp inside with earlierOne | lastOne
      · obtain ⟨entries, member, rfl⟩ := List.mem_map.mp earlierOne
        exact ⟨entries, rfl, before entries member⟩
      · exact ⟨last, List.mem_singleton.mp lastOne, sound⟩
    refine .tables (by simp) (fun item inside => ?_) fun item inside => ?_
    · obtain ⟨entries, rfl, -⟩ := all item inside
      exact ⟨_, rfl⟩
    · obtain ⟨entries, rfl, sound⟩ := all item inside
      exact sound_iff.mpr sound

namespace Sound

variable {draft : Draft} {key : String} {node : Node}

theorem isTree_of_get? (sound : draft.Sound) (found : draft.get? key = some node) :
    node.finish.IsTree := by
  obtain ⟨entry, sought, rfl⟩ := Option.map_eq_some_iff.mp found
  exact sound.parts entry (List.mem_of_find?_eq_some sought)

theorem put (sound : draft.Sound) (tree : node.finish.IsTree) : (draft.put key node).Sound := by
  unfold Draft.put
  split
  · -- In its place the node changes no key.
    have keys : ((draft.map fun entry => if entry.1 == key then (key, node) else entry).map
        Prod.fst) = draft.map Prod.fst := by
      rw [List.map_map]
      refine List.map_congr_left fun entry inside => ?_
      by_cases same : entry.1 = key <;> simp [same]
    refine ⟨keys ▸ sound.distinct, fun entry inside => ?_⟩
    obtain ⟨before, member, rfl⟩ := List.mem_map.mp inside
    split
    · exact tree
    · exact sound.parts before member
  · rename_i free
    have new : key ∉ draft.map Prod.fst := by
      intro present
      obtain ⟨entry, inside, same⟩ := List.mem_map.mp present
      exact free (List.any_eq_true.mpr ⟨entry, inside, beq_iff_eq.mpr same⟩)
    refine ⟨?_, List.forall_mem_append.mpr ⟨sound.parts, List.forall_mem_singleton.mpr tree⟩⟩
    rw [List.map_append, List.map_singleton, ← List.concat_eq_append]
    exact sound.distinct.concat new

theorem erase (sound : draft.Sound) : (draft.erase key).Sound where
  distinct := sound.distinct.sublist (List.filter_sublist.map Prod.fst)
  parts entry inside := sound.parts entry (List.mem_filter.mp inside).1

theorem table (sound : draft.Sound) (origin : Origin) :
    (Node.table origin draft).finish.IsTree := by
  rw [Node.finish]
  exact sound_iff.mpr sound

/-- Work on a table inside a draft keeps the draft sound if it keeps that table sound. -/
theorem within {isDotted : Bool} {work : Origin → Draft → Option Draft}
    (kept : ∀ origin before after, Sound before → work origin before = some after → after.Sound)
    {origin : Origin} {path : List String} {result : Draft} (sound : draft.Sound)
    (worked : Draft.within isDotted origin work path draft = some result) : result.Sound := by
  induction path generalizing origin draft result with
  | nil => exact kept origin draft result sound worked
  | cons key path hypothesis =>
    rw [Draft.within] at worked
    cases found : draft.get? key with
    | none =>
      -- A free key is given a table of its own.
      rw [found] at worked
      obtain ⟨entries, inner, rfl⟩ := Option.map_eq_some_iff.mp worked
      exact sound.put ((hypothesis sound_nil inner).table _)
    | some node =>
      have tree := sound.isTree_of_get? found
      rw [found] at worked
      cases node with
      | value value => cases worked
      | tables earlier last =>
        -- Under a repeated header the work is on the last table.
        obtain ⟨before, soundLast⟩ := sound_tables_iff.mp tree
        obtain ⟨entries, inner, rfl⟩ := Option.map_eq_some_iff.mp worked
        exact sound.put (sound_tables_iff.mpr ⟨before, hypothesis soundLast inner⟩)
      | table origin entries =>
        rw [Node.finish] at tree
        dsimp only at worked
        split at worked
        · cases worked
        · obtain ⟨left, inner, rfl⟩ := Option.map_eq_some_iff.mp worked
          exact sound.put ((hypothesis (sound_iff.mp tree) inner).table _)

end Sound

theorem sound_of_assign {isDotted : Bool} {key : String} {value : Value} (tree : value.IsTree)
    {origin : Origin} {draft result : Draft} (sound : draft.Sound)
    (assigned : assign isDotted key value origin draft = some result) : result.Sound := by
  unfold assign at assigned
  split at assigned
  · cases assigned
  · split at assigned
    · cases assigned
    · obtain rfl := Option.some.inj assigned
      exact sound.put (by rwa [Node.finish])

/-- Assignments of trees keep a draft sound. -/
theorem Sound.applyAll {draft result : Draft} (sound : draft.Sound) {assignments : List Assignment}
    (trees : ∀ assignment ∈ assignments, assignment.value.IsTree)
    (applied : draft.applyAll assignments = some result) : result.Sound := by
  refine holds_of_foldlM_eq_some Sound (fun assignment inside state next sound assigned => ?_)
    sound applied
  exact sound.within (fun _ _ _ => sound_of_assign (trees assignment inside)) assigned

/-- So does a header whose body assigns trees. -/
theorem Sound.placeSection {parent result : Draft} (sound : parent.Sound) {header : Section}
    (trees : ∀ assignment ∈ header.body, assignment.value.IsTree)
    (placed : placeSection header parent = some result) : result.Sound := by
  unfold Draft.placeSection at placed
  split at placed
  · obtain ⟨entries, filled, rfl⟩ := Option.map_eq_some_iff.mp placed
    refine sound.put (sound_tables_iff.mpr ⟨fun _ inside => (nomatch inside), ?_⟩)
    exact sound_nil.applyAll trees filled
  · rename_i earlier last _ found
    obtain ⟨before, soundLast⟩ := sound_tables_iff.mp (sound.isTree_of_get? found)
    obtain ⟨entries, filled, rfl⟩ := Option.map_eq_some_iff.mp placed
    refine sound.put (sound_tables_iff.mpr ⟨?_, sound_nil.applyAll trees filled⟩)
    exact List.forall_mem_append.mpr ⟨before, List.forall_mem_singleton.mpr soundLast⟩
  · obtain ⟨entries, filled, rfl⟩ := Option.map_eq_some_iff.mp placed
    exact sound.put ((sound_nil.applyAll trees filled).table _)
  · rename_i entries _ found
    have tree := sound.isTree_of_get? found
    rw [Node.finish] at tree
    obtain ⟨left, filled, rfl⟩ := Option.map_eq_some_iff.mp placed
    exact sound.erase.put (((sound_iff.mp tree).applyAll trees filled).table _)
  · cases placed

theorem Sound.addSection {draft result : Draft} (sound : draft.Sound) {header : Section}
    (trees : ∀ assignment ∈ header.body, assignment.value.IsTree)
    (added : draft.addSection header = some result) : result.Sound :=
  sound.within (fun _ _ _ kept => kept.placeSection trees) added

end Draft

/-- What a sound draft is finished to is a tree. -/
theorem Draft.Sound.isTree_finish {draft : Draft} (sound : draft.Sound) :
    Entries.IsTree draft.finish :=
  Draft.sound_iff.mpr sound

end NativeBoundary.Toml
