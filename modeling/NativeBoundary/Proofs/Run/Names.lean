import NativeBoundary.Gateway.Run

/-!
# Objects under names

The objects of a run are a list of entries, and a run never holds two entries
under one name.  With distinct names, the object under a name is the one entry
of that name, and putting an object under a name or taking one away changes
nothing about the other names.
-/

namespace NativeBoundary.Objects

variable {objects : Objects} {name other : String} {object : OwnedObject}

def Distinct (objects : Objects) : Prop :=
  (List.map Prod.fst objects).Nodup

theorem distinct_nil : Distinct [] := List.nodup_nil

theorem mem_erase_iff {entry : String × OwnedObject} :
    entry ∈ objects.erase name ↔ entry ∈ objects ∧ entry.1 ≠ name := by
  simp [erase]

/-- A new entry stands beside the entries of the other names. -/
theorem insert_perm (objects : Objects) (name : String) (object : OwnedObject) :
    List.Perm (objects.insert name object) ((name, object) :: objects.erase name) := by
  have whole :
      List.takeWhile (fun entry => entry.1 < name) (objects.erase name) ++
          List.dropWhile (fun entry => entry.1 < name) (objects.erase name) =
        objects.erase name :=
    List.takeWhile_append_dropWhile
  calc
    List.Perm (objects.insert name object)
        ((name, object) ::
          (List.takeWhile (fun entry => entry.1 < name) (objects.erase name) ++
            List.dropWhile (fun entry => entry.1 < name) (objects.erase name))) :=
      List.perm_middle
    _ = (name, object) :: objects.erase name := by rw [whole]

theorem Distinct.erase (distinct : Distinct objects) (name : String) :
    Distinct (objects.erase name) :=
  distinct.sublist (List.filter_sublist.map Prod.fst)

theorem Distinct.insert (distinct : Distinct objects) (name : String) (object : OwnedObject) :
    Distinct (objects.insert name object) := by
  have names := (insert_perm objects name object).map Prod.fst
  refine names.nodup_iff.mpr (List.nodup_cons.mpr ⟨?_, distinct.erase name⟩)
  intro member
  rcases List.mem_map.mp member with ⟨entry, kept, same⟩
  exact (mem_erase_iff.mp kept).2 same

/-- With distinct names, the object under a name is the one that is listed under it. -/
theorem Distinct.get?_eq_some_iff (distinct : Distinct objects) :
    objects.get? name = some object ↔ (name, object) ∈ objects := by
  induction objects with
  | nil => simp [get?]
  | cons head rest hypothesis =>
    rcases List.nodup_cons.mp distinct with ⟨fresh, distinctRest⟩
    by_cases same : head.1 = name
    · subst same
      have absent : (head.1, object) ∉ rest := fun member =>
        fresh (List.mem_map.mpr ⟨_, member, rfl⟩)
      simp [get?, absent, Prod.ext_iff, eq_comm]
    · have skipped : get? (head :: rest) name = get? rest name := by
        simp [get?, same]
      have differs : (name, object) ≠ head := by
        rintro rfl
        exact same rfl
      rw [skipped, hypothesis distinctRest, List.mem_cons]
      exact ⟨Or.inr, fun member => member.resolve_left differs⟩

theorem get?_eq_none_iff :
    objects.get? name = none ↔ ∀ object, (name, object) ∉ objects := by
  simp only [get?, Option.map_eq_none_iff, List.find?_eq_none, beq_iff_eq]
  constructor
  · intro none object member
    exact none _ member rfl
  · rintro absent ⟨found, object⟩ member rfl
    exact absent object member

/-- Two lists of objects with the same entries under a name have the same object under it. -/
theorem Distinct.get?_congr {first second : Objects} (distinctFirst : Distinct first)
    (distinctSecond : Distinct second)
    (agree : ∀ object, (name, object) ∈ first ↔ (name, object) ∈ second) :
    first.get? name = second.get? name := by
  ext object
  rw [distinctFirst.get?_eq_some_iff, distinctSecond.get?_eq_some_iff]
  exact agree object

theorem Distinct.get?_insert_same (distinct : Distinct objects) :
    (objects.insert name object).get? name = some object := by
  rw [(distinct.insert name object).get?_eq_some_iff]
  exact (insert_perm objects name object).mem_iff.mpr List.mem_cons_self

theorem Distinct.get?_insert_other (distinct : Distinct objects) (different : other ≠ name) :
    (objects.insert name object).get? other = objects.get? other := by
  refine (distinct.insert name object).get?_congr distinct fun found => ?_
  rw [(insert_perm objects name object).mem_iff, List.mem_cons, mem_erase_iff]
  simp [different]

theorem get?_erase_same : (objects.erase name).get? name = none :=
  get?_eq_none_iff.mpr fun _ member => (mem_erase_iff.mp member).2 rfl

theorem Distinct.get?_erase_other (distinct : Distinct objects) (different : other ≠ name) :
    (objects.erase name).get? other = objects.get? other := by
  refine (distinct.erase name).get?_congr distinct fun found => ?_
  rw [mem_erase_iff]
  exact ⟨And.left, fun member => ⟨member, different⟩⟩

/-- Taking away a name that is not taken changes nothing. -/
theorem erase_eq_self (absent : objects.get? name = none) : objects.erase name = objects := by
  refine List.filter_eq_self.mpr ?_
  rintro ⟨found, object⟩ member
  have different : found ≠ name := by
    rintro rfl
    exact get?_eq_none_iff.mp absent object member
  simpa using different

/-- The object under a name stands beside the entries of the other names. -/
theorem Distinct.perm_cons_erase (distinct : Distinct objects)
    (found : objects.get? name = some object) :
    List.Perm objects ((name, object) :: objects.erase name) := by
  have member := distinct.get?_eq_some_iff.mp found
  rcases List.append_of_mem member with ⟨before, after, rfl⟩
  have names : (List.map Prod.fst ((name, object) :: (before ++ after))).Nodup :=
    ((List.perm_middle.map Prod.fst).nodup_iff).mp distinct
  have fresh := (List.nodup_cons.mp names).1
  have rest : Objects.erase (before ++ (name, object) :: after) name = before ++ after := by
    have kept : Objects.erase (before ++ after) name = before ++ after := by
      refine erase_eq_self (get?_eq_none_iff.mpr fun left member => fresh ?_)
      exact List.mem_map.mpr ⟨_, member, rfl⟩
    simpa [Objects.erase] using kept
  rw [rest]
  exact List.perm_middle

end NativeBoundary.Objects
