/-
# Why shortest decimals read back

`Decimal.shortest` looks for a decimal with few digits that `roundsTo` accepts.
Its search is in whole units of `10 ^ (-1074)` and never leaves the naturals;
what it accepts is shown here to lie in the interval of numbers that are nearest
to the magnitude. That holds of whatever the search comes back with, so nothing
has to be known about how many digits it needs.
-/

import Mathlib.Algebra.Order.Field.Power
import Mathlib.Tactic.FieldSimp
import Mathlib.Tactic.Linarith
import Mathlib.Tactic.NormNum
import Mathlib.Tactic.Positivity
import Mathlib.Tactic.Ring
import FluentCalc.Decimal.Shortest
import FluentCalc.Proofs.Double.Nearest

namespace FluentCalc

namespace Decimal

/-- The exact value of a decimal. -/
def value (d : Decimal) : ℚ := d.digits * 10 ^ d.exponent

theorem cast_exact (x : Magnitude) : (exact x : ℚ) = x.units * 5 ^ 1074 := by
  unfold exact
  generalize 1074 = e
  push_cast
  rfl

theorem cast_gap (x : Magnitude) : (gap x : ℚ) = 2 ^ x.scale * 5 ^ 1074 := by
  unfold gap
  generalize 1074 = e
  push_cast
  rfl

theorem exact_eq_significand_mul_gap (x : Magnitude) :
    exact x = x.significand * gap x := by
  rw [exact, gap, Magnitude.units, Nat.mul_assoc]

theorem gap_pos (x : Magnitude) : 0 < gap x := by
  unfold gap
  generalize 1074 = e
  positivity

/-- The reach of `roundsTo` below a magnitude is twice the step to the smaller
neighbour, since it is counted in quarters of a gap. -/
theorem below_eq (x : Magnitude) :
    ((if x.significand == 2 ^ 52 && x.scale != 0 then gap x else 2 * gap x : ℕ) : ℚ) =
      2 * x.stepBelow * 5 ^ 1074 := by
  by_cases hedge : x.significand = 2 ^ 52 ∧ x.scale ≠ 0
  · rw [if_pos (by simpa using hedge)]
    rw [Magnitude.stepBelow, if_pos hedge, cast_gap, mul_div_cancel₀ _ (by norm_num)]
  · rw [if_neg (by simpa using hedge)]
    rw [Magnitude.stepBelow, if_neg hedge, Nat.cast_mul, cast_gap, Nat.cast_ofNat, mul_assoc]

/-- What `roundsTo` accepts lies in the interval of the magnitude. -/
theorem captures_of_roundsTo {x : Magnitude} {decimal : ℕ} (h : roundsTo x decimal = true) :
    x.Captures (decimal / 5 ^ 1074) := by
  have hbelow := below_eq x
  have hexact := cast_exact x
  have hgap := cast_gap x
  have hpow : (0 : ℚ) < 5 ^ 1074 := by positivity
  generalize (5 : ℚ) ^ 1074 = p at *
  unfold roundsTo at h
  simp only at h
  generalize (if x.significand == 2 ^ 52 && x.scale != 0 then gap x else 2 * gap x) = below at *
  generalize exact x = middle at *
  generalize gap x = reach at *
  have closed : 4 * middle ≤ 4 * decimal + below ∧ 4 * decimal ≤ 4 * middle + 2 * reach := by
    split at h <;> simp only [Bool.and_eq_true, decide_eq_true_eq] at h <;> omega
  have strict : x.significand % 2 = 1 →
      4 * middle < 4 * decimal + below ∧ 4 * decimal < 4 * middle + 2 * reach := by
    intro hodd
    simp only [hodd, Nat.reduceBEq, Bool.false_eq_true, ↓reduceIte, Bool.and_eq_true,
      decide_eq_true_eq] at h
    omega
  refine ⟨?_, ?_, fun hodd => ?_⟩
  · rw [le_div_iff₀ hpow]
    have : (4 * middle : ℚ) ≤ 4 * decimal + below := by exact_mod_cast closed.1
    rw [hbelow, hexact] at this
    linarith
  · rw [div_le_iff₀ hpow]
    have : (4 * decimal : ℚ) ≤ 4 * middle + 2 * reach := by exact_mod_cast closed.2
    rw [hgap, hexact] at this
    linarith
  · obtain ⟨lower, upper⟩ := strict hodd
    rw [lt_div_iff₀ hpow, div_lt_iff₀ hpow]
    have hlower : (4 * middle : ℚ) < 4 * decimal + below := by exact_mod_cast lower
    have hupper : (4 * decimal : ℚ) < 4 * middle + 2 * reach := by exact_mod_cast upper
    rw [hbelow, hexact] at hlower
    rw [hgap, hexact] at hupper
    exact ⟨by linarith, by linarith⟩

/-- A decimal on a grid of `onGrid?` lies in the interval of its magnitude. -/
theorem roundsTo_of_onGrid? {x : Magnitude} {place : ℕ} {d : Decimal}
    (h : onGrid? x place = some d) :
    d.exponent = place - 1074 ∧ roundsTo x (d.digits * 10 ^ place) = true := by
  unfold onGrid? at h
  simp only at h
  split at h
  · rename_i hlower hupper
    split at h
    · cases h
      exact ⟨rfl, hlower⟩
    · split at h
      · cases h
        exact ⟨rfl, hupper⟩
      · cases h
        refine ⟨rfl, ?_⟩
        rcases Nat.mod_two_eq_zero_or_one (exact x / 10 ^ place) with heven | hodd
        · simpa [heven] using hlower
        · simpa [hodd] using hupper
  · cases h
    exact ⟨rfl, ‹_›⟩
  · cases h
    exact ⟨rfl, ‹_›⟩
  · cases h

/-- A magnitude in units of `10 ^ (-1074)` rounds to itself. -/
theorem roundsTo_exact (x : Magnitude) : roundsTo x (exact x) = true := by
  have hgap := gap_pos x
  have hpos : x.significand % 2 = 1 → 0 < exact x := fun hodd => by
    rw [exact_eq_significand_mul_gap]
    exact Nat.mul_pos (by omega) hgap
  unfold roundsTo
  generalize exact x = middle at *
  generalize gap x = reach at *
  by_cases hedge : (x.significand == 2 ^ 52 && x.scale != 0) = true <;>
    simp only [hedge, ↓reduceIte, Bool.false_eq_true] <;>
    split <;>
    simp only [Bool.and_eq_true, decide_eq_true_eq, beq_iff_eq] at * <;>
    omega

/-- The shortest decimal lies on a grid, and it rounds to its magnitude there. -/
theorem exists_roundsTo_shortest (x : Magnitude) : ∃ place : ℕ,
    (shortest x).exponent = place - 1074 ∧
      roundsTo x ((shortest x).digits * 10 ^ place) = true := by
  unfold shortest
  simp only
  cases hfound : (List.range 17).findSome? fun k =>
      onGrid? x (digitCount (exact x) - (k + 1)) with
  | none => exact ⟨0, rfl, by simpa using roundsTo_exact x⟩
  | some d =>
      obtain ⟨k, _, hgrid⟩ := List.exists_of_findSome?_eq_some hfound
      exact ⟨_, roundsTo_of_onGrid? hgrid⟩

/-- **The shortest decimal reads back.** In units, it lies in the interval of
its magnitude. -/
theorem captures_shortest (x : Magnitude) :
    x.Captures ((shortest x).value * 2 ^ 1074) := by
  obtain ⟨place, hexponent, hrounds⟩ := exists_roundsTo_shortest x
  have hvalue : (shortest x).value * 2 ^ 1074 =
      ((shortest x).digits * 10 ^ place : ℕ) / 5 ^ 1074 := by
    have hten : (10 : ℚ) ^ (1074 : ℕ) = 2 ^ 1074 * 5 ^ 1074 := by
      rw [← mul_pow]
      norm_num
    rw [value, hexponent, zpow_sub₀ (by norm_num), zpow_natCast,
      show (1074 : ℤ) = (1074 : ℕ) by rfl, zpow_natCast, hten]
    push_cast
    field_simp
  rw [hvalue]
  exact captures_of_roundsTo hrounds

end Decimal

end FluentCalc
