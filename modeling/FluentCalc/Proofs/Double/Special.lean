/-
# Infinities and not-a-numbers in arithmetic

A finite number cannot bring back what has left the finite numbers. An infinity or a
not-a-number stays as it is when a finite number is added to it or taken from it, and
a product or a quotient with a finite number is not finite either.

Rounding never makes a not-a-number. So with a finite number on the right the only
operation that makes one, of something that was none, is the product of an infinity
and a zero; a number with itself and the square root of a number that is not below
zero make none.
-/

import FluentCalc.Double.Arithmetic
import FluentCalc.Proofs.Double.Equality

namespace FluentCalc.Double

variable {x y : Double}

/-- Rounding ends in a finite number or in an infinity. -/
theorem ofUnits_ne_nan (n : Bool) (a d : ℕ) : ofUnits n a d ≠ nan := by
  rw [ofUnits]
  split <;> simp

theorem add_of_not_isFinite (hx : x.isFinite = false) (hy : y.isFinite = true) : x.add y = x := by
  cases y with
  | finite m v => cases x <;> first | rfl | cases hx
  | infinite _ | nan => cases hy

theorem isFinite_negate (y : Double) : y.negate.isFinite = y.isFinite := by
  cases y <;> rfl

theorem subtract_of_not_isFinite (hx : x.isFinite = false) (hy : y.isFinite = true) :
    x.subtract y = x :=
  add_of_not_isFinite hx (y.isFinite_negate.trans hy)

theorem isFinite_multiply (hx : x.isFinite = false) (y : Double) :
    (x.multiply y).isFinite = false := by
  cases x with
  | finite n u => cases hx
  | infinite n =>
      cases y with
      | finite m v =>
          rw [multiply]
          split <;> rfl
      | infinite _ | nan => rfl
  | nan => rfl

theorem isFinite_quotient (hx : x.isFinite = false) (hy : y.isFinite = true) :
    (x.quotient y).isFinite = false := by
  cases y with
  | finite m v => cases x <;> first | rfl | cases hx
  | infinite _ | nan => cases hy

theorem isFinite_root (hx : x.isFinite = false) : x.root.isFinite = false := by
  cases x with
  | finite n u => cases hx
  | infinite n => cases n <;> rfl
  | nan => rfl

theorem add_eq_nan_iff (hy : y.isFinite = true) : x.add y = nan ↔ x = nan := by
  cases y with
  | finite m v =>
      cases x with
      | finite n u =>
          rw [add]
          split <;> simp [ofUnits_ne_nan]
      | infinite _ | nan => simp [add]
  | infinite _ | nan => cases hy

theorem subtract_eq_nan_iff (hy : y.isFinite = true) : x.subtract y = nan ↔ x = nan :=
  add_eq_nan_iff (y.isFinite_negate.trans hy)

/-- An infinity times zero is a not-a-number. -/
theorem multiply_eq_nan_iff (hy : y.isFinite = true) :
    x.multiply y = nan ↔ x = nan ∨ (∃ n, x = infinite n) ∧ y.isZero = true := by
  cases y with
  | finite m v =>
      cases x with
      | finite n u => exact iff_of_false (ofUnits_ne_nan _ _ _) (by simp)
      | infinite _ => simp [multiply, isZero]
      | nan => simp [multiply]
  | infinite _ | nan => cases hy

theorem square_eq_nan_iff : x.multiply x = nan ↔ x = nan := by
  cases x with
  | finite n u => exact iff_of_false (ofUnits_ne_nan _ _ _) (by simp)
  | infinite _ | nan => simp [multiply]

theorem quotient_eq_nan_iff (hy : y.isFinite = true) (hzero : y.isZero = false) :
    x.quotient y = nan ↔ x = nan := by
  cases y with
  | finite m v =>
      cases x with
      | finite n u =>
          have hcode : v.code ≠ 0 := by simpa [isZero] using hzero
          rw [quotient, if_neg hcode]
          exact iff_of_false (ofUnits_ne_nan _ _ _) (by simp)
      | infinite _ | nan => simp [quotient]
  | infinite _ | nan => cases hy

/-- A root is a not-a-number only of something below zero, or of one. -/
theorem root_eq_nan_iff (hx : x.isNegative = false) : x.root = nan ↔ x = nan := by
  cases x with
  | finite n u =>
      by_cases hcode : u.code = 0
      · simp [root, hcode]
      · have hpos := Nat.pos_of_ne_zero (mt Magnitude.units_eq_zero_iff.1 hcode)
        have hsign : n = false := by
          cases n with
          | false => rfl
          | true =>
              simp only [isNegative, less, zero, signedUnits, ↓reduceIte, Magnitude.units_zero,
                decide_eq_false_iff_not] at hx
              omega
        rw [root, if_neg hcode, if_neg (by simp [hsign])]
        exact iff_of_false (ofUnits_ne_nan _ _ _) (by simp)
  | infinite n =>
      have hsign : n = false := by simpa [isNegative, less, zero] using hx
      simp [root, hsign]
  | nan => simp [root]

end FluentCalc.Double
