import Mathlib.Algebra.Order.Field.Power
import Mathlib.Tactic.NormNum
import Mathlib.Tactic.Positivity
import Mathlib.Tactic.Ring
import Mathlib.Data.Rat.Cast.Order
import Retag.Log.Stopwatch

/-!
# Comparing with a limit

A limit is a floating-point number, and a duration is a fraction.  They are
compared by cross multiplication of whole numbers.  Here the limit has its
value, `mantissa · 2 ^ exponent`, and the comparison is that of the values.

## Main results

* `ratio_eq`: the value of a magnitude.
* `below_iff`: comparing a number with a fraction.
* `defaultLimit_below`: the default limit is fifty.
-/

namespace Retag.Decimal.Double

/-- The magnitude of a finite number. -/
theorem ratio_eq (mantissa : Nat) (e : Int) :
    0 < (ratio mantissa e).2 ∧
      ((ratio mantissa e).1 : ℚ) / (ratio mantissa e).2 = mantissa * 2 ^ e := by
  cases e with
  | ofNat k =>
      refine ⟨Nat.one_pos, ?_⟩
      simp [ratio, Nat.shiftLeft_eq]
  | negSucc k =>
      constructor
      · simp only [ratio, Nat.shiftLeft_eq]
        positivity
      · simp only [ratio, Nat.shiftLeft_eq, zpow_negSucc]
        push_cast
        ring

/-- The value of a finite number. -/
def finiteValue (negative : Bool) (mantissa : Nat) (e : Int) : ℚ :=
  if negative then -(mantissa * 2 ^ e) else mantissa * 2 ^ e

theorem signedRatio_eq (negative : Bool) (mantissa : Nat) (e : Int) :
    0 < (signedRatio negative mantissa e).2 ∧
      ((signedRatio negative mantissa e).1 : ℚ) /
        (signedRatio negative mantissa e).2 = finiteValue negative mantissa e := by
  obtain ⟨hPos, hRatio⟩ := ratio_eq mantissa e
  cases negative with
  | false =>
      refine ⟨hPos, ?_⟩
      simpa [signedRatio, finiteValue] using hRatio
  | true =>
      refine ⟨hPos, ?_⟩
      simp only [signedRatio, finiteValue, if_true, Int.cast_neg, Int.cast_natCast,
        neg_div, hRatio]

/-- Whether a number is less than a fraction. -/
def Below : Double → ℚ → Prop
  | nan, _ => False
  | infinite negative, _ => negative = true
  | finite negative mantissa e, x => finiteValue negative mantissa e < x

/-- Comparing is comparing values. -/
theorem below_iff {limit : Double} {x : ℚ} :
    limit.below x = true ↔ limit.Below x := by
  cases limit with
  | nan => exact iff_of_false Bool.false_ne_true id
  | infinite negative => exact Iff.rfl
  | finite negative mantissa e =>
      obtain ⟨hPos, hValue⟩ := signedRatio_eq negative mantissa e
      have hPos' : (0 : ℚ) < (signedRatio negative mantissa e).2 := by
        exact_mod_cast hPos
      have hDen : (0 : ℚ) < x.den := by exact_mod_cast x.den_pos
      show decide _ = true ↔ finiteValue negative mantissa e < x
      rw [decide_eq_true_eq, ← hValue]
      nth_rewrite 3 [← Rat.num_div_den x]
      rw [div_lt_div_iff₀ hPos' hDen]
      exact_mod_cast Iff.rfl

end Retag.Decimal.Double

namespace Retag.Log

open Decimal Double

theorem defaultLimit_eq : Timing.defaultLimit = .finite false (50 * 2 ^ 47) (-47) := by
  decide +kernel

/-- Fifty milliseconds are the default limit, neither more nor less. -/
theorem defaultLimit_below (x : ℚ) :
    Timing.defaultLimit.below x = decide (50 < x) := by
  have hFifty : finiteValue false (50 * 2 ^ 47) (-47) = 50 := by
    norm_num [finiteValue]
  rw [Bool.eq_iff_iff, below_iff, decide_eq_true_eq, defaultLimit_eq, Below, hFifty]

end Retag.Log
