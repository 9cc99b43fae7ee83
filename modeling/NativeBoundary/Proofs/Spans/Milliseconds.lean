import NativeBoundary.Gateway.Scalars
import NativeBoundary.Reference.Table

/-!
# Spans in milliseconds

A library that is to wait is handed a number of milliseconds in 64 bits.  The whole
milliseconds of a span are counted in 128 bits first, which hold them all: neither the
product nor the sum is cut there.  Only then they are bounded by the greatest number of
64 bits.

The main statement is that every table is handed exactly the bounded number.  So a
longer span never becomes a smaller number, and a span whose milliseconds fit into 64
bits is handed over as it is.
-/

namespace NativeBoundary

namespace Span

/-- The length of a span in nanoseconds. -/
def inNanoseconds (span : Span) : Nat :=
  span.seconds.toNat * 1000000000 + span.nanoseconds.toNat

/-- The length of a span in milliseconds, without the nanoseconds that make up no whole one. -/
def inMilliseconds (span : Span) : Nat :=
  span.seconds.toNat * 1000 + span.nanoseconds.toNat / 1000000

variable (span : Span)

theorem inMilliseconds_eq : span.inMilliseconds = span.inNanoseconds / 1000000 := by
  unfold inMilliseconds inNanoseconds
  omega

/-- Counting in 128 bits loses nothing: not in the product, and not in the sum. -/
theorem toNat_wholeMilliseconds : span.wholeMilliseconds.toNat = span.inMilliseconds := by
  have seconds : (span.seconds.toBitVec.setWidth 128).toNat = span.seconds.toNat :=
    BitVec.toNat_setWidth_of_le (by decide)
  have thousands :
      (span.seconds.toBitVec.setWidth 128 * 1000#128).toNat = span.seconds.toNat * 1000 := by
    have fits := span.seconds.toNat_lt
    rw [BitVec.toNat_mul_of_lt, seconds]
    · rfl
    · rw [seconds]
      change span.seconds.toNat * 1000 < _
      omega
  have rest :
      ((span.nanoseconds / 1000000).toBitVec.setWidth 128).toNat =
        span.nanoseconds.toNat / 1000000 :=
    BitVec.toNat_setWidth_of_le (by decide)
  rw [wholeMilliseconds, BitVec.toNat_add_of_lt, thousands, rest, inMilliseconds]
  rw [thousands, rest]
  have fits := span.seconds.toNat_lt
  have below := span.isBelowSecond
  omega

theorem toNat_greatest : greatest.toNat = UInt64.size - 1 := rfl

/-- A number that does not fit into 64 bits is replaced by the greatest one that does. -/
theorem toNat_narrowed? (wide : BitVec 128) :
    ((narrowed? wide).getD greatest).toNat = min wide.toNat (UInt64.size - 1) := by
  unfold narrowed?
  by_cases fits : wide.toNat < UInt64.size
  · rw [if_pos fits, Option.getD_some, UInt64.toNat_ofBitVec, BitVec.toNat_setWidth,
      Nat.mod_eq_of_lt fits, Nat.min_eq_left (Nat.le_sub_one_of_lt fits)]
  · rw [if_neg fits, Option.getD_none, toNat_greatest]
    omega

theorem toNat_milliseconds :
    span.milliseconds.toNat = min span.inMilliseconds (UInt64.size - 1) := by
  rw [milliseconds, toNat_narrowed?, toNat_wholeMilliseconds]

/-- A longer span has at least as many milliseconds. -/
theorem milliseconds_le {shorter longer : Span}
    (below : shorter.inNanoseconds ≤ longer.inNanoseconds) :
    shorter.milliseconds ≤ longer.milliseconds := by
  have whole : shorter.inMilliseconds ≤ longer.inMilliseconds := by
    rw [inMilliseconds_eq, inMilliseconds_eq]
    exact Nat.div_le_div_right below
  rw [UInt64.le_iff_toNat_le, toNat_milliseconds, toNat_milliseconds]
  omega

end Span

/-- Whatever table a library has, it is handed the milliseconds of a span once: their exact number,
counted without an overflow, or the greatest number of 64 bits where that is smaller.  A longer span
is never handed over as a smaller number, and milliseconds that fit are handed over exactly. -/
theorem Gateway.sleep_hands_over_milliseconds {W : Type} (gateway : Gateway W) :
    (∀ (span : Span) (session : Session W),
      (gateway.sleep span).run session =
        (.returned span.milliseconds,
          ⟨((gateway.exports.sleep span.milliseconds).run session.world).2,
            .called .sleep none :: session.journal⟩)) ∧
      (∀ span : Span,
        span.wholeMilliseconds.toNat =
            span.seconds.toNat * 1000 + span.nanoseconds.toNat / 1000000 ∧
          span.milliseconds.toNat =
            min (span.seconds.toNat * 1000 + span.nanoseconds.toNat / 1000000)
              (UInt64.size - 1)) ∧
      (∀ shorter longer : Span,
        shorter.inNanoseconds ≤ longer.inNanoseconds →
          shorter.milliseconds ≤ longer.milliseconds) ∧
      ∀ span : Span,
        span.seconds.toNat * 1000 + span.nanoseconds.toNat / 1000000 < UInt64.size →
          span.milliseconds.toNat =
            span.seconds.toNat * 1000 + span.nanoseconds.toNat / 1000000 := by
  refine ⟨fun span session => rfl, fun span => ?_, fun shorter longer below => ?_,
    fun span fits => ?_⟩
  · exact ⟨span.toNat_wholeMilliseconds, span.toNat_milliseconds⟩
  · exact Span.milliseconds_le below
  · exact span.toNat_milliseconds.trans (Nat.min_eq_left (Nat.le_sub_one_of_lt fits))

/-- The last nanosecond whose milliseconds are one below the greatest number of 64 bits. -/
def Span.nearlyFull : Span := ⟨18446744073709551, 614999999, by decide⟩

/-- The first nanosecond whose milliseconds do not fit into 64 bits. -/
def Span.overfull : Span := ⟨18446744073709551, 616000000, by decide⟩

theorem Gateway.sleep_hands_over_milliseconds_at_limit :
    Span.nearlyFull.inNanoseconds ≤ Span.overfull.inNanoseconds ∧
      Span.nearlyFull.milliseconds ≤ Span.overfull.milliseconds ∧
      Span.overfull.milliseconds.toNat = UInt64.size - 1 ∧
      Span.nearlyFull.seconds.toNat * 1000 + Span.nearlyFull.nanoseconds.toNat / 1000000 <
        UInt64.size ∧
      Span.nearlyFull.milliseconds.toNat = UInt64.size - 2 := by
  rcases Gateway.sleep_hands_over_milliseconds ⟨Reference.table, false⟩ with
    ⟨-, counted, ordered, fitting⟩
  have below : Span.nearlyFull.inNanoseconds ≤ Span.overfull.inNanoseconds := by
    decide +kernel
  have fits :
      Span.nearlyFull.seconds.toNat * 1000 + Span.nearlyFull.nanoseconds.toNat / 1000000 <
        UInt64.size := by
    decide +kernel
  have bounded :
      min (Span.overfull.seconds.toNat * 1000 + Span.overfull.nanoseconds.toNat / 1000000)
        (UInt64.size - 1) = UInt64.size - 1 := by
    decide +kernel
  have last :
      Span.nearlyFull.seconds.toNat * 1000 + Span.nearlyFull.nanoseconds.toNat / 1000000 =
        UInt64.size - 2 := by
    decide +kernel
  exact ⟨below, ordered _ _ below, (counted Span.overfull).2.trans bounded, fits,
    (fitting _ fits).trans last⟩

end NativeBoundary
