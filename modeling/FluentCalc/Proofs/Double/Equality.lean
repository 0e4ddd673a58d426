/-
# Numerical equality

Finite numbers are equal when they are the same multiple of the unit. Only the
two zeros are different numbers that are equal, so equality is identity once
zeros have lost their sign.
-/

import FluentCalc.Proofs.Double.Nearest

namespace FluentCalc

namespace Magnitude

theorem units_eq_zero_iff {x : Magnitude} : x.units = 0 ↔ x.code = 0 := by
  apply Iff.intro
  · intro h
    have hzero : x = .zero := units_injective (h.trans units_zero.symm)
    rw [hzero]
    rfl
  · intro h
    have hzero : x = .zero := by
      cases x
      simpa [zero] using h
    rw [hzero, units_zero]

/-- Only zero captures zero. -/
theorem Captures.code_eq_zero {x : Magnitude} (h : x.Captures 0) : x.code = 0 := by
  have hx := nearestCode_of_captures (n := 0) (d := 1) Nat.one_pos (by simpa using h)
  have hzero := nearestCode_of_captures (x := .zero) (n := 0) (d := 1) Nat.one_pos
    (by simpa using zero.captures_units)
  rw [← hx, hzero]
  rfl

end Magnitude

namespace Double

/-- The number that stands for all numbers equal to it: a zero has no sign. -/
def unsignedZero : Double → Double
  | finite negative m => finite (negative && m.code != 0) m
  | x => x

@[simp]
theorem unsignedZero_unsignedZero (x : Double) : x.unsignedZero.unsignedZero = x.unsignedZero := by
  cases x <;> simp [unsignedZero]

@[simp]
theorem isFinite_unsignedZero (x : Double) : x.unsignedZero.isFinite = x.isFinite := by
  cases x <;> rfl

theorem signedUnits_eq_iff {n n' : Bool} {m m' : Magnitude} :
    signedUnits n m = signedUnits n' m' ↔ m.units = m'.units ∧ (n = n' ∨ m.units = 0) := by
  unfold signedUnits
  cases n <;> cases n' <;> simp <;> omega

/-- Finite numbers are equal when they differ in the sign of a zero at most. -/
theorem same_iff_unsignedZero {x y : Double} (hx : x.isFinite = true) (hy : y.isFinite = true) :
    x.same y = true ↔ x.unsignedZero = y.unsignedZero := by
  cases x with
  | infinite _ => simp [isFinite] at hx
  | nan => simp [isFinite] at hx
  | finite n m =>
      cases y with
      | infinite _ => simp [isFinite] at hy
      | nan => simp [isFinite] at hy
      | finite n' m' =>
          rw [same, beq_iff_eq, signedUnits_eq_iff, Magnitude.units_injective.eq_iff,
            Magnitude.units_eq_zero_iff, unsignedZero, unsignedZero, finite.injEq, and_comm]
          apply and_congr_left
          intro heq
          subst heq
          by_cases hzero : m.code = 0
          · simp [hzero]
          · simp [hzero, bne_iff_ne.2 hzero]

/-- A finite number is equal to the number that stands for it. -/
theorem unsignedZero_same {x : Double} (hx : x.isFinite = true) : x.unsignedZero.same x = true := by
  rw [same_iff_unsignedZero (by rw [isFinite_unsignedZero, hx]) hx, unsignedZero_unsignedZero]

end Double

end FluentCalc
