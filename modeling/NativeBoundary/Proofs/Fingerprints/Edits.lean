import NativeBoundary.Guard
import NativeBoundary.Proofs.Fingerprints.Absorption
import NativeBoundary.Reference.Surface

/-!
# Fingerprints of edited surfaces

A fingerprint is the FNV-1a hash of one stream of bytes, in which every entry of
the surface is closed by a line feed.  It is the same on both sides of the
boundary.  An edit that replaces at most three adjacent bytes of the stream by as
many others always changes the fingerprint, so that the guard refuses a library
whose declared signatures were edited in this way.
-/

namespace NativeBoundary.Surface

open NativeBoundary.Reference (stream)

/-! ## One stream of bytes -/

theorem stream_append (first second : List String) :
    stream (first ++ second) = stream first ++ stream second := by
  simp [stream, List.flatMap_append]

theorem absorbEntry_eq_foldl (hash : UInt64) (entry : String) :
    absorbEntry hash entry = (Text.bytes entry ++ [terminator]).foldl absorb hash := by
  rw [List.foldl_append]
  rfl

/-- Hashing entry by entry is hashing the stream. -/
theorem foldl_absorbEntry_eq_foldl_stream (hash : UInt64) (surface : List String) :
    surface.foldl absorbEntry hash = (stream surface).foldl absorb hash := by
  induction surface generalizing hash with
  | nil => rfl
  | cons entry rest hypothesis =>
    have split : (stream (entry :: rest)).foldl absorb hash =
        (stream rest).foldl absorb ((Text.bytes entry ++ [terminator]).foldl absorb hash) :=
      List.foldl_append
    rw [List.foldl_cons, hypothesis, absorbEntry_eq_foldl, split]

theorem fingerprint_eq_foldl_stream (surface : List String) :
    fingerprint surface = (stream surface).foldl absorb offset :=
  foldl_absorbEntry_eq_foldl_stream offset surface

/-- Both sides of the boundary compute the same fingerprint. -/
theorem reference_fingerprint_eq (surface : List String) :
    Reference.fingerprint surface = fingerprint surface :=
  (fingerprint_eq_foldl_stream surface).symm

/-- A step of FNV-1a over the natural numbers, of which 64 bits are kept. -/
def mixIn (hash : Nat) (byte : UInt8) : Nat :=
  (hash ^^^ byte.toNat) * 0x100000001b3 % 0x10000000000000000

theorem toNat_absorb (hash : UInt64) (byte : UInt8) :
    (absorb hash byte).toNat = mixIn hash.toNat byte := by
  rw [absorb, UInt64.toNat_mul, UInt64.toNat_xor, UInt8.toNat_toUInt64]
  rfl

theorem toNat_foldl_absorb (hash : UInt64) (bytes : List UInt8) :
    (bytes.foldl absorb hash).toNat = bytes.foldl mixIn hash.toNat := by
  induction bytes generalizing hash with
  | nil => rfl
  | cons byte rest hypothesis =>
    rw [List.foldl_cons, List.foldl_cons, hypothesis, toNat_absorb]

/-! ## Edits inside a window -/

/-- Two streams of one length that differ, but only inside a window of adjacent bytes. -/
structure EditedWithin (width : Nat) (first second : List UInt8) : Prop where
  length_eq : first.length = second.length
  different : first ≠ second
  agree : ∃ start, ∀ index, index < start ∨ start + width ≤ index →
    first[index]? = second[index]?

variable {width : Nat} {first second before window other after : List UInt8}

/-- Outside of the window the streams are made of the same bytes. -/
theorem EditedWithin.exists_windows (edited : EditedWithin width first second) :
    ∃ before window other after,
      first = before ++ window ++ after ∧ second = before ++ other ++ after ∧
        window.length = other.length ∧ window.length ≤ width := by
  rcases edited.agree with ⟨start, agree⟩
  have front : first.take start = second.take start := by
    apply List.ext_getElem?
    intro index
    by_cases inside : index < start
    · rw [List.getElem?_take_of_lt inside, List.getElem?_take_of_lt inside]
      exact agree index (Or.inl inside)
    · have beyond : start ≤ index := Nat.le_of_not_lt inside
      rw [List.getElem?_take_eq_none beyond, List.getElem?_take_eq_none beyond]
  have back : first.drop (start + width) = second.drop (start + width) := by
    apply List.ext_getElem?
    intro index
    rw [List.getElem?_drop, List.getElem?_drop]
    exact agree _ (Or.inr (Nat.le_add_right _ _))
  have parts (bytes : List UInt8) :
      bytes =
        bytes.take start ++ (bytes.drop start).take width ++ bytes.drop (start + width) := by
    rw [List.append_assoc, ← List.drop_drop, List.take_append_drop, List.take_append_drop]
  refine ⟨first.take start, (first.drop start).take width, (second.drop start).take width,
    first.drop (start + width), parts first, ?_, ?_, ?_⟩
  · rw [front, back]
    exact parts second
  · simp [edited.length_eq]
  · exact List.length_take_le width _

/-- A window that was replaced by another one of its length. -/
theorem EditedWithin.of_windows (lengths : window.length = other.length)
    (short : window.length ≤ width) (different : window ≠ other) :
    EditedWithin width (before ++ window ++ after) (before ++ other ++ after) where
  length_eq := by simp [lengths]
  different := by
    intro same
    exact different (List.append_cancel_left (List.append_cancel_right same))
  agree := by
    refine ⟨before.length, fun index outside => ?_⟩
    rcases outside with ahead | behind
    · simp [List.append_assoc, List.getElem?_append_left ahead]
    · have past : (before ++ window).length ≤ index := by
        simp only [List.length_append]
        omega
      have pastOther : (before ++ other).length ≤ index := by
        simp only [List.length_append] at past ⊢
        omega
      rw [List.getElem?_append_right past, List.getElem?_append_right pastOther]
      simp [lengths]

/-- An edit inside a window of three bytes changes the hash of a stream from every state. -/
theorem foldl_absorb_ne_of_editedWithin {hash : UInt64} (edited : EditedWithin 3 first second) :
    first.foldl absorb hash ≠ second.foldl absorb hash := by
  intro together
  apply edited.different
  rcases edited.exists_windows with ⟨before, window, other, after, rfl, rfl, lengths, short⟩
  rw [List.foldl_append, List.foldl_append, List.foldl_append, List.foldl_append] at together
  have merged :
      window.foldl absorb (before.foldl absorb hash) =
        other.foldl absorb (before.foldl absorb hash) :=
    foldl_absorb_injective after together
  rw [eq_of_foldl_absorb_eq lengths short merged]

/-- The guard refuses every hash but the expected one. -/
theorem run_verify_of_ne {W : Type} {actual : UInt64} (different : actual ≠ expectedHash)
    (session : Session W) :
    (Guard.verify actual).run session =
      (.returned (.error (.mismatch expectedHash actual)),
        { session with journal := .raised (Guard.refusedRecord actual) :: session.journal }) := by
  have refused : Guard.record actual = Guard.refusedRecord actual := if_neg different
  have judged : Guard.judge actual = .error (.mismatch expectedHash actual) := if_neg different
  rw [Guard.verify, Crossing.run_bind, Crossing.run_raise, refused, judged]
  rfl

/-- A fingerprint is the FNV-1a hash of 64 bits over the stream of its surface, on both sides of
the boundary.  Surfaces whose streams are edited inside a window of three adjacent bytes have
different fingerprints, and the guard refuses a library whose surface is such an edit of the
declared one. -/
theorem fingerprint_detects_edits (first second : List String) :
    (fingerprint first).toNat = (stream first).foldl mixIn 0xcbf29ce484222325 ∧
      Reference.fingerprint first = fingerprint first ∧
      (EditedWithin 3 (stream first) (stream second) →
        fingerprint first ≠ fingerprint second) ∧
      (EditedWithin 3 (stream first) (stream declared) →
        ∀ (W : Type) (session : Session W),
          let reported := Reference.fingerprint first
          (Guard.verify reported).run session =
            (.returned (.error (.mismatch expectedHash reported)),
              { session with
                journal := .raised (Guard.refusedRecord reported) :: session.journal })) := by
  have told (edited : List String) (within : EditedWithin 3 (stream first) (stream edited)) :
      fingerprint first ≠ fingerprint edited := by
    rw [fingerprint_eq_foldl_stream, fingerprint_eq_foldl_stream]
    exact foldl_absorb_ne_of_editedWithin within
  refine ⟨?_, reference_fingerprint_eq first, told second, ?_⟩
  · rw [fingerprint_eq_foldl_stream, toNat_foldl_absorb]
    rfl
  · intro within W session reported
    have different : reported ≠ expectedHash := by
      rw [show reported = fingerprint first from reference_fingerprint_eq first]
      exact told declared within
    exact run_verify_of_ne different session

/-- The declared surface, but for one argument of another type. -/
def retyped : List String :=
  declared.set 3 "primitive_u16(i32)->u16"

theorem fingerprint_detects_edits_retyped :
    EditedWithin 3 (stream retyped) (stream declared) ∧
      fingerprint retyped ≠ expectedHash ∧
      ((Guard.verify (Reference.fingerprint retyped)).run (⟨(), []⟩ : Session Unit)).1 =
        .returned (.error (.mismatch expectedHash (Reference.fingerprint retyped))) := by
  have edited : EditedWithin 3 (stream retyped) (stream declared) := by
    have split (type : String) :
        stream (declared.take 3 ++ ["primitive_u16(" ++ type ++ ")->u16"] ++ declared.drop 4) =
          (stream (declared.take 3) ++ Text.bytes "primitive_u16(") ++ Text.bytes type ++
            (Text.bytes ")->u16" ++ [terminator] ++ stream (declared.drop 4)) := by
      rw [stream_append, stream_append]
      simp [stream, Text.bytes_append, terminator]
    have retypedParts :
        retyped =
          declared.take 3 ++ ["primitive_u16(" ++ "i32" ++ ")->u16"] ++ declared.drop 4 := rfl
    have declaredParts :
        declared =
          declared.take 3 ++ ["primitive_u16(" ++ "u16" ++ ")->u16"] ++ declared.drop 4 := rfl
    rw [retypedParts, split, declaredParts, split]
    exact EditedWithin.of_windows (by decide) (by decide) (by decide)
  rcases fingerprint_detects_edits retyped declared with ⟨-, -, told, refuses⟩
  exact ⟨edited, told edited, congrArg Prod.fst (refuses edited Unit _)⟩

end NativeBoundary.Surface
