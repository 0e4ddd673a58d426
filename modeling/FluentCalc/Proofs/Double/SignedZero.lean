/-
# Arithmetic and the sign of zero

Two numbers are alike when they are numerically equal or both not-a-number. Numbers
that are alike and not the same are the two zeros. The arithmetic of the calculator
respects this: what it makes of numbers that are alike is alike. Only as a divisor
does a zero show its sign, so a divisor is one and the same here.
-/

import FluentCalc.Double.Arithmetic
import FluentCalc.Proofs.Double.Equality

namespace FluentCalc.Double

/-- Numbers that are equal, or that are both not-a-number. -/
def Alike (x y : Double) : Prop :=
  x.same y = true ∨ x = nan ∧ y = nan

/-- Numbers are alike when they are the same once zeros have lost their sign. -/
theorem alike_iff {x y : Double} : x.Alike y ↔ x.unsignedZero = y.unsignedZero := by
  cases x with
  | finite n m =>
      cases y with
      | finite n' m' => simpa [Alike] using same_iff_unsignedZero rfl rfl
      | infinite _ | nan => simp [Alike, same, unsignedZero]
  | infinite n => cases y <;> simp [Alike, same, unsignedZero]
  | nan => cases y <;> simp [Alike, same, unsignedZero]

namespace Alike

protected theorem refl (x : Double) : x.Alike x :=
  alike_iff.2 rfl

/-- A zero is alike to both zeros. -/
theorem zeros (n n' : Bool) : (finite n .zero).Alike (finite n' .zero) := by
  rw [alike_iff]
  cases n <;> cases n' <;> rfl

/-- Numbers that are alike are the same or two zeros. -/
theorem eq_or_zeros {x y : Double} (h : x.Alike y) :
    x = y ∨ ∃ n n', x = finite n .zero ∧ y = finite n' .zero := by
  rw [alike_iff] at h
  cases x with
  | finite n m =>
      cases y with
      | finite n' m' =>
          simp only [unsignedZero, finite.injEq] at h
          obtain ⟨hsign, rfl⟩ := h
          by_cases hcode : m.code = 0
          · have hzero : m = .zero := by
              cases m
              simpa [Magnitude.zero] using hcode
            exact .inr ⟨n, n', by rw [hzero], by rw [hzero]⟩
          · rw [bne_iff_ne.2 hcode, Bool.and_true, Bool.and_true] at hsign
            exact .inl (by rw [hsign])
      | infinite _ | nan => simp [unsignedZero] at h
  | infinite _ | nan => cases y <;> simp_all [unsignedZero]

/-- A quotient of nothing is a zero. -/
theorem ofUnits_zero (n n' : Bool) {d d' : ℕ} (hd : 0 < d) (hd' : 0 < d') :
    (ofUnits n 0 d).Alike (ofUnits n' 0 d') := by
  rw [ofUnits_of_two_mul_le hd (Nat.zero_le _), ofUnits_of_two_mul_le hd' (Nat.zero_le _)]
  exact zeros n n'

@[simp]
theorem signedUnits_zero (n : Bool) : signedUnits n .zero = 0 := by
  cases n <;> simp [signedUnits]

variable {x y : Double}

theorem add (h : x.Alike y) (z : Double) : (x.add z).Alike (y.add z) := by
  rcases h.eq_or_zeros with rfl | ⟨n, n', rfl, rfl⟩
  · exact .refl _
  · cases z with
    | finite m u =>
        simp only [Double.add, signedUnits_zero, zero_add]
        split
        · exact zeros _ _
        · exact .refl _
    | infinite _ | nan => exact .refl _

theorem multiply (h : x.Alike y) (z : Double) : (x.multiply z).Alike (y.multiply z) := by
  rcases h.eq_or_zeros with rfl | ⟨n, n', rfl, rfl⟩
  · exact .refl _
  · cases z with
    | finite m u =>
        simp only [Double.multiply, Magnitude.units_zero, zero_mul]
        exact ofUnits_zero _ _ (Nat.two_pow_pos 1074) (Nat.two_pow_pos 1074)
    | infinite _ | nan => exact .refl _

theorem square (h : x.Alike y) : (x.multiply x).Alike (y.multiply y) := by
  rcases h.eq_or_zeros with rfl | ⟨n, n', rfl, rfl⟩
  · exact .refl _
  · simp only [Double.multiply, Magnitude.units_zero, zero_mul]
    exact ofUnits_zero _ _ (Nat.two_pow_pos 1074) (Nat.two_pow_pos 1074)

theorem quotient (h : x.Alike y) (z : Double) : (x.quotient z).Alike (y.quotient z) := by
  rcases h.eq_or_zeros with rfl | ⟨n, n', rfl, rfl⟩
  · exact .refl _
  · cases z with
    | finite m u =>
        by_cases hcode : u.code = 0
        · simp only [Double.quotient, if_pos hcode]
          exact .refl _
        · have hpos := Nat.pos_of_ne_zero (mt Magnitude.units_eq_zero_iff.1 hcode)
          simp only [Double.quotient, if_neg hcode, Magnitude.units_zero, zero_mul]
          exact ofUnits_zero _ _ hpos hpos
    | infinite _ => exact zeros _ _
    | nan => exact .refl _

theorem root (h : x.Alike y) : x.root.Alike y.root := by
  rcases h.eq_or_zeros with rfl | ⟨n, n', rfl, rfl⟩
  · exact .refl _
  · exact zeros _ _

theorem isNegative_eq (h : x.Alike y) : x.isNegative = y.isNegative := by
  rcases h.eq_or_zeros with rfl | ⟨n, n', rfl, rfl⟩
  · rfl
  · simp only [isNegative, less, Double.zero, signedUnits_zero]

end Alike

end FluentCalc.Double
