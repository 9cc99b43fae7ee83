import NativeBoundary.Proofs.Documents.Trees
import NativeBoundary.Toml.Document

/-!
# What is read is a tree

Whatever a text is read as, no table in it has a key twice: a text that would define a key a
second time is refused.  What a reader gives is told by a predicate that holds of its values,
whatever it is applied to, and the predicate of a composed reader follows from those of its
parts.
-/

namespace NativeBoundary.Toml

namespace Reader

variable {α β : Type} {holds : α → Prop} {reader : Reader α}

/-- Whatever text a reader is applied to, something holds of the value it gives. -/
def Gives (reader : Reader α) (holds : α → Prop) : Prop :=
  ∀ chars value rest, reader chars = some (value, rest) → holds value

theorem Gives.pure {value : α} (held : holds value) : Gives (Pure.pure value) holds := by
  intro chars given rest read
  obtain ⟨rfl, -⟩ := Prod.mk.inj (Option.some.inj read)
  exact held

theorem gives_refuse : Gives (refuse : Reader α) holds := by
  intro chars value rest read
  cases read

theorem Gives.bind {holdsThen : β → Prop} {next : α → Reader β} (first : Gives reader holds)
    (second : ∀ value, holds value → Gives (next value) holdsThen) :
    Gives (reader >>= next) holdsThen := by
  intro chars value rest read
  obtain ⟨⟨between, left⟩, readFirst, readSecond⟩ := Option.bind_eq_some_iff.mp read
  exact second between (first chars between left readFirst) left value rest readSecond

/-- What is read first may not matter. -/
theorem gives_behind {holdsThen : β → Prop} {next : α → Reader β}
    (second : ∀ value, Gives (next value) holdsThen) : Gives (reader >>= next) holdsThen := by
  have any : Gives reader fun _ => True := fun _ _ _ _ => trivial
  exact any.bind fun value _ => second value

theorem Gives.optional (gives : Gives reader holds) :
    Gives (Reader.optional reader) fun read? => ∀ value, read? = some value → holds value := by
  intro chars read? rest read value told
  unfold Reader.optional at read
  split at read
  · rename_i given left taken
    obtain ⟨rfl, -⟩ := Prod.mk.inj (Option.some.inj read)
    obtain rfl := Option.some.inj told
    exact gives chars given left taken
  · obtain ⟨rfl, -⟩ := Prod.mk.inj (Option.some.inj read)
    cases told

theorem Gives.either {other : Reader α} (first : Gives reader holds)
    (second : Gives other holds) : Gives (Reader.either reader other) holds := by
  intro chars value rest read
  unfold Reader.either at read
  split at read
  · rename_i result taken
    exact first chars value rest (taken.trans read)
  · exact second chars value rest read

theorem Gives.repeatedOnto (gives : Gives reader holds) (bound : Nat) {read : List α}
    (before : ∀ value ∈ read, holds value) :
    Gives (Reader.repeatedOnto bound reader read) fun values => ∀ value ∈ values, holds value := by
  induction bound generalizing read with
  | zero => exact Gives.pure before
  | succ bound hypothesis =>
    refine gives.optional.bind fun read? given => ?_
    cases read? with
    | none => exact Gives.pure before
    | some value => exact hypothesis (List.forall_mem_cons.mpr ⟨given value rfl, before⟩)

theorem Gives.repeated (gives : Gives reader holds) (bound : Nat) :
    Gives (Reader.repeated bound reader) fun values => ∀ value ∈ values, holds value := by
  refine (gives.repeatedOnto bound (List.forall_mem_nil holds)).bind fun values given => ?_
  exact Gives.pure fun value inside => given value (List.mem_reverse.mp inside)

theorem Gives.separated (gives : Gives reader holds) (bound : Nat) (separator : Reader Unit) :
    Gives (Reader.separated bound separator reader) fun values =>
      ∀ value ∈ values, holds value := by
  refine gives.bind fun first given => ?_
  refine Gives.bind (Gives.repeated (gives_behind fun _ => gives) bound) fun rest further => ?_
  exact Gives.pure (List.forall_mem_cons.mpr ⟨given, further⟩)

/-! ## Values -/

section

variable {value : Reader Value} (bound : Nat)

theorem gives_scalar : Gives (scalar bound) Value.IsTree := by
  refine gives_behind fun next => ?_
  split
  · exact gives_behind fun text => .pure (.string text)
  · exact gives_behind fun text => .pure (.string text)
  · exact gives_behind fun _ => .pure (.boolean true)
  · exact gives_behind fun _ => .pure (.boolean false)
  · exact gives_behind fun number => .pure (.float number)
  · exact gives_behind fun number => .pure (.float number)
  · refine .either (gives_behind fun _ => .pure .moment) (.either ?_ ?_)
    · exact gives_behind fun number => .pure (.float number)
    · exact gives_behind fun number => .pure (.integer number)

theorem gives_items (gives : Gives value Value.IsTree) :
    Gives (items bound value) fun values => ∀ item ∈ values, item.IsTree := by
  have item : Gives (do
      gap bound
      let taken ← value
      gap bound
      pure taken) Value.IsTree :=
    gives_behind fun _ => gives.bind fun taken tree => gives_behind fun _ => .pure tree
  exact (item.separated bound _).bind fun values trees => gives_behind fun _ => .pure trees

theorem gives_array (gives : Gives value Value.IsTree) :
    Gives (array bound value) Value.IsTree := by
  refine gives_behind fun _ => (gives_items bound gives).optional.bind fun taken? given => ?_
  refine gives_behind fun _ => gives_behind fun _ => .pure (.array ?_)
  cases taken? with
  | none => exact List.forall_mem_nil Value.IsTree
  | some taken => exact given taken rfl

theorem gives_assignment (gives : Gives value Value.IsTree) :
    Gives (assignment bound value) fun assignment => assignment.value.IsTree := by
  refine gives_behind fun (path, name) => gives_behind fun _ => gives_behind fun _ => ?_
  exact gives.bind fun taken tree => .pure tree

theorem gives_braces (gives : Gives value Value.IsTree) :
    Gives (braces bound value) Value.IsTree := by
  have entry : Gives (do
      let taken ← assignment bound value
      blanks
      pure taken) fun assignment => assignment.value.IsTree :=
    (gives_assignment bound gives).bind fun taken tree => gives_behind fun _ => .pure tree
  refine gives_behind fun _ => (entry.separated bound _).optional.bind fun entries? given => ?_
  refine gives_behind fun _ => gives_behind fun _ => ?_
  split
  · rename_i draft applied
    have trees : ∀ assignment ∈ entries?.getD [], assignment.value.IsTree := by
      cases entries? with
      | none => exact List.forall_mem_nil _
      | some entries => exact given entries rfl
    exact .pure (Draft.sound_nil.applyAll trees applied).isTree_finish
  · exact gives_refuse

/-- However deep values are nested, they are trees. -/
theorem gives_valueWithin (depth : Nat) : Gives (valueWithin bound depth) Value.IsTree := by
  induction depth with
  | zero => exact gives_scalar bound
  | succ depth hypothesis =>
    refine gives_behind fun next => ?_
    split
    · exact gives_array bound hypothesis
    · exact gives_braces bound hypothesis
    · exact gives_scalar bound

end

end Reader

/-! ## Documents -/

/-- What a line assigns, if it assigns anything, is a tree. -/
def Line.IsTree : Line → Prop
  | .assignment taken => taken.value.IsTree
  | .empty => True
  | .header _ _ _ => True

namespace Reader

theorem gives_header (bound : Nat) : Gives (header bound) Line.IsTree := by
  refine gives_behind fun _ => gives_behind fun _ => gives_behind fun _ => ?_
  refine gives_behind fun _ => ?_
  split
  · exact gives_behind fun _ => gives_behind fun _ => .pure trivial
  · exact gives_behind fun _ => .pure trivial

theorem gives_line (bound : Nat) : Gives (line bound) Line.IsTree := by
  refine gives_behind fun next => ?_
  split
  · exact gives_refuse
  · exact gives_behind fun _ => gives_behind fun _ => .pure trivial
  · exact gives_header bound
  · exact gives_behind fun _ => .pure trivial
  · exact gives_behind fun _ => .pure trivial
  · refine (gives_assignment bound (gives_valueWithin bound _)).bind fun taken tree => ?_
    exact gives_behind fun _ => .pure tree

theorem gives_lines (bound : Nat) :
    Gives (lines bound) fun lines => ∀ line ∈ lines, line.IsTree := by
  have entry : Gives (do
      let taken ← line bound
      blanks
      pure taken) Line.IsTree :=
    (gives_line bound).bind fun taken tree => gives_behind fun _ => .pure tree
  refine gives_behind fun _ => (entry.repeated bound).bind fun taken trees => ?_
  exact gives_behind fun _ => .pure trees

end Reader

namespace Outline

/-- Everything that an outline assigns is a tree. -/
structure IsSound (outline : Outline) : Prop where
  root : ∀ assignment ∈ outline.root, assignment.value.IsTree
  sections : ∀ header ∈ outline.sections, ∀ assignment ∈ header.body, assignment.value.IsTree

theorem isSound_nil : IsSound {} where
  root := List.forall_mem_nil _
  sections := List.forall_mem_nil _

namespace IsSound

variable {outline : Outline}

theorem add (sound : outline.IsSound) {line : Line} (tree : line.IsTree) :
    (outline.add line).IsSound := by
  cases line with
  | empty => exact sound
  | header isRepeated path key =>
    exact ⟨sound.root, List.forall_mem_cons.mpr ⟨List.forall_mem_nil _, sound.sections⟩⟩
  | assignment taken =>
    have sections := sound.sections
    cases written : outline.sections with
    | nil =>
      simp only [Outline.add, written]
      exact ⟨List.forall_mem_cons.mpr ⟨tree, sound.root⟩, List.forall_mem_nil _⟩
    | cons last earlier =>
      rw [written] at sections
      obtain ⟨body, others⟩ := List.forall_mem_cons.mp sections
      simp only [Outline.add, written]
      exact ⟨sound.root,
        List.forall_mem_cons.mpr ⟨List.forall_mem_cons.mpr ⟨tree, body⟩, others⟩⟩

theorem addAll (sound : outline.IsSound) {lines : List Line} (trees : ∀ line ∈ lines, line.IsTree) :
    (lines.foldl Outline.add outline).IsSound := by
  induction lines generalizing outline with
  | nil => exact sound
  | cons line rest hypothesis =>
    obtain ⟨tree, further⟩ := List.forall_mem_cons.mp trees
    exact hypothesis (sound.add tree) further

/-- The headers of an outline keep a draft sound. -/
theorem foldlM_addSection {headers : List Draft.Section} {draft result : Draft}
    (sound : draft.Sound)
    (trees : ∀ header ∈ headers, ∀ assignment ∈ header.body, assignment.value.IsTree)
    (added : headers.foldlM
      (fun draft header => Draft.addSection draft { header with body := header.body.reverse })
      draft = some result) : result.Sound := by
  refine holds_of_foldlM_eq_some Draft.Sound
    (fun header inside state next sound placed => ?_) sound added
  refine sound.addSection (fun assignment within => ?_) placed
  exact trees header inside assignment (List.mem_reverse.mp within)

theorem isTree_build? (sound : outline.IsSound) {entries : Entries}
    (built : outline.build? = some entries) : entries.IsTree := by
  obtain ⟨root, filled, built⟩ := Option.bind_eq_some_iff.mp built
  obtain ⟨draft, added, built⟩ := Option.bind_eq_some_iff.mp built
  obtain rfl := Option.some.inj built
  have soundRoot : root.Sound :=
    Draft.sound_nil.applyAll
      (fun assignment inside => sound.root assignment (List.mem_reverse.mp inside)) filled
  refine (foldlM_addSection soundRoot (fun header inside => ?_) added).isTree_finish
  exact sound.sections header (List.mem_reverse.mp inside)

end IsSound

end Outline

/-- A text that is read is read as a tree. -/
theorem isTree_of_read? {text : String} {entries : Entries} (read : read? text = some entries) :
    entries.IsTree := by
  unfold read? at read
  dsimp only at read
  split at read
  · rename_i lines rest taken
    have trees := Reader.gives_lines _ _ lines rest taken
    exact (Outline.isSound_nil.addAll trees).isTree_build? read
  · cases read

end NativeBoundary.Toml
