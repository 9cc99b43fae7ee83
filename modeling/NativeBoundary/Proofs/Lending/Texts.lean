import NativeBoundary.Gateway.Buffers
import NativeBoundary.Lending.Context
import NativeBoundary.Overrides
import NativeBoundary.Proofs.Run.Yields
import NativeBoundary.Reference.Table

/-!
# Texts on their way to the library

A text reaches the library whole or not at all.  It is refused exactly if it holds a
zero character, and the error tells at which byte of its UTF-8 form the first one
stands.  Any other text lies before its terminator byte for byte as UTF-8 spells it,
and goes on lying there as long as its exchange lasts, whatever texts and pins come
after it.  The library counts the bytes of a text in words of 32 bits, and is not asked
if a text is refused.
-/

namespace NativeBoundary

namespace Text

/-! ## The UTF-8 form of a text -/

/-- The first zero character of a text stands at this byte. -/
def FirstZeroAt (text : String) (position : Nat) : Prop :=
  ∃ before after : String,
    text = before ++ String.singleton '\x00' ++ after ∧ '\x00' ∉ before.toList ∧
      before.utf8ByteSize = position

theorem bytes_eq_toUTF8 (text : String) : bytes text = text.toUTF8.data.toList := by
  rw [String.toUTF8_eq_toByteArray, ← String.utf8Encode_toList, List.utf8Encode,
    List.toList_data_toByteArray, bytes]

theorem length_bytes (text : String) : (bytes text).length = text.utf8ByteSize := by
  rw [bytes_eq_toUTF8, Array.length_toList, String.toUTF8_eq_toByteArray]
  rfl

theorem zero_eq_ofNat_iff (number : Nat) : 0 = UInt8.ofNat number ↔ number % 256 = 0 := by
  rw [← UInt8.toNat_inj, UInt8.toNat_ofNat']
  exact eq_comm

/-- Of all characters, only the zero character has a zero byte in its UTF-8 form. -/
theorem zero_mem_utf8EncodeChar (character : Char) :
    0 ∈ String.utf8EncodeChar character ↔ character = '\x00' := by
  constructor
  · intro member
    have zero : character.val.toNat = 0 := by
      -- The bytes of a longer form are at least 128: a marker, and a remainder too small to
      -- carry it over.
      revert member
      fun_cases String.utf8EncodeChar character with
      | case1 number _ | case2 number _ _ | case3 number _ _ _ | case4 number _ _ _ =>
        simp only [List.mem_cons, List.not_mem_nil, zero_eq_ofNat_iff, or_false]
        omega
    exact Char.ext (UInt32.toNat_inj.mp zero)
  · rintro rfl
    decide

theorem zero_mem_bytes (text : String) : 0 ∈ bytes text ↔ '\x00' ∈ text.toList := by
  simp only [bytes, List.mem_flatMap, zero_mem_utf8EncodeChar, exists_eq_right]

/-- Whoever reads a text up to the first zero byte finds all of it, whatever memory comes after its
terminator. -/
theorem takeWhile_bytes {text : String} (absent : '\x00' ∉ text.toList) (beyond : List UInt8) :
    (bytes text ++ 0 :: beyond).takeWhile (· != 0) = bytes text := by
  have others : ∀ byte ∈ bytes text, (byte != 0) = true := by
    intro byte member
    refine bne_iff_ne.mpr fun zero => absent ?_
    exact (zero_mem_bytes text).mp (zero ▸ member)
  rw [List.takeWhile_append_of_pos others]
  simp

theorem firstZero?_eq_none_iff (text : String) :
    firstZero? (bytes text) = none ↔ '\x00' ∉ text.toList := by
  rw [firstZero?, List.findIdx?_eq_none_iff, ← zero_mem_bytes]
  simp only [beq_eq_false_iff_ne]
  constructor
  · intro others member
    exact others 0 member rfl
  · intro absent byte member zero
    exact absent (zero ▸ member)

/-- The first zero byte of a text belongs to its first zero character. -/
theorem FirstZeroAt.firstZero?_eq {text : String} {position : Nat}
    (first : FirstZeroAt text position) : firstZero? (bytes text) = some position := by
  rcases first with ⟨before, after, rfl, absent, rfl⟩
  have zero : bytes (String.singleton '\x00') = [0] := by decide
  have none : (bytes before).findIdx? (· == 0) = none :=
    (firstZero?_eq_none_iff before).mpr absent
  rw [firstZero?, bytes_append, bytes_append, zero, List.append_assoc, List.findIdx?_append,
    none, length_bytes]
  simp [List.findIdx?_cons]

theorem FirstZeroAt.mem {text : String} {position : Nat} (first : FirstZeroAt text position) :
    '\x00' ∈ text.toList := by
  rcases first with ⟨before, after, rfl, -, -⟩
  simp

theorem exists_firstZeroAt {text : String} (member : '\x00' ∈ text.toList) :
    ∃ position, FirstZeroAt text position := by
  rcases List.eq_append_cons_of_mem member with ⟨before, after, split, absent⟩
  refine ⟨_, String.ofList before, String.ofList after, ?_, ?_, rfl⟩
  · rw [← String.toList_inj, split]
    simp
  · rwa [String.toList_ofList]

end Text

namespace Lending

open Text

variable {W : Type}

/-! ## Texts that are refused, and texts that are not -/

theorem terminated_of_firstZeroAt {text : String} {position : Nat}
    (first : FirstZeroAt text position) : terminated text = .error position := by
  simp only [terminated, first.firstZero?_eq]

theorem terminated_of_absent {text : String} (absent : '\x00' ∉ text.toList) :
    terminated text = .ok (bytes text) := by
  simp only [terminated, (firstZero?_eq_none_iff text).mpr absent]

theorem terminated_eq_error_iff (text : String) (position : Nat) :
    terminated text = .error position ↔ FirstZeroAt text position := by
  refine ⟨fun refused => ?_, terminated_of_firstZeroAt⟩
  by_cases member : '\x00' ∈ text.toList
  · rcases exists_firstZeroAt member with ⟨other, first⟩
    rw [terminated_of_firstZeroAt first] at refused
    cases refused
    exact first
  · rw [terminated_of_absent member] at refused
    cases refused

theorem handOver_of_firstZeroAt {text : String} {position : Nat}
    (first : FirstZeroAt text position) : handOver text = .error (.zeroByte position) := by
  rw [handOver, terminated_of_firstZeroAt first]

theorem handOver_of_absent {text : String} (absent : '\x00' ∉ text.toList) :
    handOver text = .ok (bytes text) := by
  rw [handOver, terminated_of_absent absent]

namespace Context

theorem keep_of_firstZeroAt {text : String} {position : Nat} (first : FirstZeroAt text position)
    (context : Context) : context.keep text = .error position := by
  rw [keep, terminated_of_firstZeroAt first]
  rfl

theorem keep_of_absent {text : String} (absent : '\x00' ∉ text.toList) (context : Context) :
    context.keep text =
      .ok (context.strings.length,
        { context with strings := context.strings ++ [bytes text] }) := by
  rw [keep, terminated_of_absent absent]
  rfl

theorem keep_eq_error_iff (context : Context) (text : String) (position : Nat) :
    context.keep text = .error position ↔ FirstZeroAt text position := by
  by_cases member : '\x00' ∈ text.toList
  · rcases exists_firstZeroAt member with ⟨other, first⟩
    rw [keep_of_firstZeroAt first, ← terminated_eq_error_iff, terminated_of_firstZeroAt first,
      Except.error.injEq, Except.error.injEq]
  · rw [keep_of_absent member]
    refine iff_of_false nofun fun first => member first.mem

/-! ## Texts that stay where they are -/

/-- Every text of one context lies at its place in another one. -/
def KeptBy (context other : Context) : Prop :=
  ∀ place bytes, context.textAt? place = some bytes → other.textAt? place = some bytes

variable {context middle last : Context}

theorem KeptBy.refl (context : Context) : context.KeptBy context :=
  fun _ _ found => found

theorem KeptBy.trans (first : context.KeptBy middle) (second : middle.KeptBy last) :
    context.KeptBy last :=
  fun place bytes found => second place bytes (first place bytes found)

theorem keptBy_of_append {bytes : List (List UInt8)}
    (grown : last.strings = context.strings ++ bytes) : context.KeptBy last := by
  intro place found present
  rw [textAt?] at present
  rcases List.getElem?_eq_some_iff.mp present with ⟨bound, -⟩
  rw [textAt?, grown, List.getElem?_append_left bound, present]

/-- A context with the same texts keeps them. -/
theorem keptBy_of_same (same : last.strings = context.strings) : context.KeptBy last :=
  keptBy_of_append (same.trans (List.append_nil _).symm)

theorem keptBy_of_keep {text : String} {place : Nat} {kept : Context}
    (crossed : context.keep text = .ok (place, kept)) : context.KeptBy kept := by
  by_cases member : '\x00' ∈ text.toList
  · rcases exists_firstZeroAt member with ⟨position, first⟩
    rw [keep_of_firstZeroAt first] at crossed
    cases crossed
  · rw [keep_of_absent member] at crossed
    cases crossed
    exact keptBy_of_append rfl

/-- Whatever a step does, it answers, and every text stays where it is. -/
theorem exists_run_step (table : Exports W) (context : Context) (step : ExchangeStep)
    (session : Session W) :
    ∃ answer left after,
      (context.step table step).run session = (.returned (answer, left), after) ∧
        context.KeptBy left := by
  cases step with
  | pin name pin =>
    rw [Context.step, Context.pin]
    cases context.held? name with
    | none => exact ⟨_, _, _, rfl, keptBy_of_same rfl⟩
    | some _ => exact ⟨_, _, _, rfl, keptBy_of_same rfl⟩
  | inspect name =>
    rw [Context.step]
    cases context.held? name with
    | none => exact ⟨_, _, _, rfl, .refl context⟩
    | some _ => exact ⟨_, _, _, rfl, .refl context⟩
  | unpin name =>
    rw [Context.step]
    cases context.held? name with
    | none => exact ⟨_, _, _, rfl, .refl context⟩
    | some _ => exact ⟨_, _, _, rfl, keptBy_of_same rfl⟩
  | copy source target =>
    rw [Context.step, Context.copy]
    split
    · exact ⟨_, _, _, rfl, keptBy_of_same rfl⟩
    · exact ⟨_, _, _, rfl, .refl context⟩
  | keepText name text =>
    rw [Context.step]
    cases crossed : context.keep text with
    | error position => exact ⟨_, _, _, rfl, .refl context⟩
    | ok taken =>
      exact ⟨_, _, _, rfl, (keptBy_of_keep crossed).trans (keptBy_of_same rfl)⟩
  | readText name =>
    rw [Context.step]
    cases context.text? name with
    | none => exact ⟨_, _, _, rfl, .refl context⟩
    | some _ => exact ⟨_, _, _, rfl, .refl context⟩
  | copyThenMeasure source target label =>
    rw [Context.step, Context.copyThenMeasure]
    cases crossed : context.keep label with
    | error position =>
      rcases Crossing.exists_run_pinnedOver context.pins [source.length, target.length] _ session
        with ⟨between, pins, after, ran⟩
      rw [Crossing.run_bind_of_returned ran]
      exact ⟨_, _, _, rfl, keptBy_of_same rfl⟩
    | ok taken =>
      rcases Crossing.exists_run_pinnedOver context.pins [source.length, target.length] _ session
        with ⟨between, pins, after, ran⟩
      rw [Crossing.run_bind_of_returned ran]
      exact ⟨_, _, _, rfl, (keptBy_of_keep crossed).trans (keptBy_of_same rfl)⟩
  | fillWithoutService buffer =>
    rcases Crossing.exists_run_pinnedOver context.pins [buffer.length] _ session
      with ⟨between, pins, after, ran⟩
    rw [Context.step, Context.fillWithoutService, Crossing.run_bind_of_returned ran]
    exact ⟨_, _, _, rfl, keptBy_of_same rfl⟩
  | unwind count buffer message =>
    rcases Crossing.exists_run_pinnedOver context.pins (List.replicate count buffer.length) _
        session with ⟨between, pins, after, ran⟩
    rw [Context.step, Context.unwind, Crossing.run_bind_of_returned ran]
    exact ⟨_, _, _, rfl, keptBy_of_same rfl⟩

/-- The texts of a context outlast all later steps. -/
theorem exists_run_steps (table : Exports W) (context : Context) (steps : List ExchangeStep)
    (session : Session W) :
    ∃ answers last after,
      (context.steps table steps).run session = (.returned (answers, last), after) ∧
        context.KeptBy last := by
  induction steps generalizing context session with
  | nil => exact ⟨[], context, session, rfl, .refl context⟩
  | cons step rest hypothesis =>
    rcases exists_run_step table context step session with ⟨answer, left, between, ran, kept⟩
    rcases hypothesis left between with ⟨answers, last, after, finished, further⟩
    refine ⟨(answer, left.pins) :: answers, last, after, ?_, kept.trans further⟩
    rw [Context.steps, Crossing.run_bind_of_returned ran,
      Crossing.run_bind_of_returned finished]
    rfl

end Context

end Lending

/-! ## Calls that measure texts -/

namespace Gateway

open Lending Text

variable {W : Type}

/-- The first of some texts that holds a zero character has its first one at this byte. -/
def FirstRefusedAt : List String → Nat → Prop
  | [], _ => False
  | text :: rest, position =>
    FirstZeroAt text position ∨ '\x00' ∉ text.toList ∧ FirstRefusedAt rest position

/-- How many bytes the UTF-8 forms of some texts have together. -/
def byteCount : List String → Nat
  | [] => 0
  | text :: rest => text.utf8ByteSize + byteCount rest

/-- A call that measures texts.  With a text that is refused it ends before the library is called,
and else it calls one export and answers how many bytes the texts have together. -/
def Measures (call : Crossing W (CallResult UInt32)) (symbol : Symbol) (texts : List String) :
    Prop :=
  ∀ session,
    (∀ position, FirstRefusedAt texts position →
      call.run session = (.returned (.error (.zeroByte position)), session)) ∧
    ((∀ text ∈ texts, '\x00' ∉ text.toList) →
      ∃ length,
        call.run session =
            (.returned (.ok length),
              ⟨session.world, .called symbol none :: session.journal⟩) ∧
          length.toNat = byteCount texts % UInt32.size)

theorem toNat_textLength (text : String) :
    (Reference.textLength (some (bytes text))).toNat = text.utf8ByteSize % UInt32.size := by
  rw [← length_bytes]
  exact UInt32.toNat_ofNat'

variable (changes : Overrides) (isDynamic : Bool)

theorem measures_asciiPointer1 (text : String) :
    Measures (asciiPointer1 ⟨changes.apply Reference.table, isDynamic⟩ text)
      .patternAsciiPointer1 [text] := by
  intro session
  constructor
  · rintro position (first | ⟨-, none⟩)
    · rw [asciiPointer1, handOver_of_firstZeroAt first]
      rfl
    · cases none
  · intro absent
    rw [asciiPointer1, handOver_of_absent (absent text (List.mem_singleton_self text))]
    refine ⟨Reference.textLength (some (bytes text)), rfl, ?_⟩
    simp [toNat_textLength, byteCount]

theorem measures_asciiPointerLen (first second : String) :
    Measures (asciiPointerLen ⟨changes.apply Reference.table, isDynamic⟩ first second)
      .patternAsciiPointerLen [first, second] := by
  intro session
  constructor
  · rintro position (refused | ⟨absent, refused | ⟨-, none⟩⟩)
    · rw [asciiPointerLen, handOver_of_firstZeroAt refused]
      rfl
    · rw [asciiPointerLen, handOver_of_absent absent, handOver_of_firstZeroAt refused]
      rfl
    · cases none
  · intro absent
    rw [asciiPointerLen, handOver_of_absent (absent first List.mem_cons_self),
      handOver_of_absent (absent second (List.mem_cons_of_mem first List.mem_cons_self))]
    refine
      ⟨Reference.textLength (some (bytes first)) + Reference.textLength (some (bytes second)),
        rfl, ?_⟩
    rw [UInt32.toNat_add, toNat_textLength, toNat_textLength]
    simp [byteCount]

/-! ## The main statement -/

/-- In every context, a text is refused exactly if it holds a zero character, with the byte at which
the first one stands in its UTF-8 form, and nothing has changed then.  Any other text gets a place
of its own.  A reader who stops at the first zero byte finds its UTF-8 form there, after any
further steps, and finds every earlier text at its place as well.

Calls that measure texts answer with the first of these errors before they reach the library, or
with the number of bytes in a word of 32 bits. -/
theorem texts_cross_exactly (changes : Overrides) (isDynamic : Bool) (context : Context)
    (text second : String) :
    let gateway : Gateway Reference.Heap := ⟨changes.apply Reference.table, isDynamic⟩
    let spelled := text.toUTF8.data.toList
    ((∃ position, context.keep text = .error position) ↔ '\x00' ∈ text.toList) ∧
    (∀ position, FirstZeroAt text position →
      context.keep text = .error position ∧
        ∀ (W : Type) (table : Exports W) (session : Session W) (name : String),
          (context.step table (.keepText name text)).run session =
            (.returned (.invalidText position, context), session)) ∧
    ('\x00' ∉ text.toList →
      (∀ beyond, (spelled ++ 0 :: beyond).takeWhile (· != 0) = spelled) ∧
        ∃ place kept,
          context.keep text = .ok (place, kept) ∧
            context.textAt? place = none ∧
            ∀ (W : Type) (table : Exports W) (session : Session W) (name : String)
              (later : List ExchangeStep),
              ∃ answers last after,
                (context.steps table (.keepText name text :: later)).run session =
                    (.returned ((.nothing, context.pins) :: answers, last), after) ∧
                  last.textAt? place = some spelled ∧
                  context.KeptBy last) ∧
    Measures (gateway.asciiPointer1 text) .patternAsciiPointer1 [text] ∧
    Measures (gateway.asciiPointerLen text second) .patternAsciiPointerLen [text, second] := by
  intro gateway spelled
  refine
    ⟨?_, ?_, ?_, measures_asciiPointer1 changes isDynamic text,
      measures_asciiPointerLen changes isDynamic text second⟩
  · constructor
    · rintro ⟨position, refused⟩
      exact ((context.keep_eq_error_iff text position).mp refused).mem
    · intro member
      rcases exists_firstZeroAt member with ⟨position, first⟩
      exact ⟨position, Context.keep_of_firstZeroAt first context⟩
  · intro position first
    have refused := Context.keep_of_firstZeroAt first context
    refine ⟨refused, fun W table session name => ?_⟩
    rw [Context.step, refused]
    rfl
  · intro absent
    have same : spelled = bytes text := (bytes_eq_toUTF8 text).symm
    have crossed := Context.keep_of_absent absent context
    refine ⟨?_, _, _, crossed, List.getElem?_eq_none (Nat.le_refl _), ?_⟩
    · rw [same]
      exact takeWhile_bytes absent
    · intro W table session name later
      let kept : Context := { context with strings := context.strings ++ [bytes text] }
      have stepped :
          (context.step table (.keepText name text)).run session =
            (.returned (.nothing, kept.setName name context.strings.length), session) := by
        rw [Context.step, crossed]
        rfl
      rcases Context.exists_run_steps table (kept.setName name context.strings.length) later
          session with ⟨answers, last, after, ran, stays⟩
      refine ⟨answers, last, after, ?_, ?_, ?_⟩
      · rw [Context.steps, Crossing.run_bind_of_returned stepped,
          Crossing.run_bind_of_returned ran]
        rfl
      · refine stays _ _ ?_
        rw [same]
        exact List.getElem?_concat_length
      · exact (Context.keptBy_of_append rfl).trans stays

/-- An accented text beside an earlier one, and the same text with zero characters after it. -/
theorem texts_cross_exactly_accented :
    let context : Context := { pins := ⟨1, 1, 0⟩, strings := [[104]] }
    let later : List ExchangeStep :=
      [.keepText "other" "zwei", .pin "buffer" ⟨.bytes [1, 2], true⟩, .keepText "name" "drei"]
    let start : Session Reference.Heap := ⟨.empty, []⟩
    FirstZeroAt "né\x00x\x00" 3 ∧
      '\x00' ∉ "né".toList ∧
      context.keep "né\x00x\x00" = .error 3 ∧
      (asciiPointerLen ⟨Reference.table, false⟩ "né" "né\x00x\x00").run start =
        (.returned (.error (.zeroByte 3)), start) ∧
      ∃ place answers last after,
        (context.steps Reference.table (.keepText "name" "né" :: later)).run start =
            (.returned ((.nothing, ⟨1, 1, 0⟩) :: answers, last), after) ∧
          last.textAt? place = some [110, 195, 169] ∧
          last.textAt? 0 = some [104] := by
  intro context later start
  have refused : FirstZeroAt "né\x00x\x00" 3 := ⟨"né", "x\x00", by decide, by decide, by decide⟩
  have absent : '\x00' ∉ "né".toList := by decide
  rcases texts_cross_exactly {} false context "né\x00x\x00" "" with ⟨-, zero, -⟩
  rcases texts_cross_exactly {} false context "né" "né\x00x\x00" with ⟨-, -, plain, -, both⟩
  rcases plain absent with ⟨-, place, kept, -, -, stays⟩
  rcases stays _ Reference.table start "name" later with
    ⟨answers, last, after, ran, found, earlier⟩
  exact
    ⟨refused, absent, (zero 3 refused).1, (both start).1 3 (.inr ⟨absent, .inl refused⟩), place,
      answers, last, after, ran, found, earlier 0 [104] rfl⟩

end Gateway

end NativeBoundary
