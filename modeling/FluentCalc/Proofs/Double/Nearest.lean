/-
# The nearest magnitude

`nearestCode` finds the code of a rounded quotient by arithmetic alone. Here it
is tied to what it is for: around every magnitude lies the interval of numbers
that are nearest to it, and a quotient in that interval gets the code of that
magnitude. The interval is that of round-half-even: its ends lie halfway to the
two neighbours, the lower one being closer just where the scale changes, and
they belong to it exactly when the significand is even.

Nothing here depends on where a quotient comes from, so whatever is shown to lie
in the interval of a magnitude, such as a decimal that was written for it, is
read back as that magnitude.
-/

import Mathlib.Algebra.Order.Field.Power
import Mathlib.Algebra.Order.Field.Rat
import Mathlib.Tactic.FieldSimp
import Mathlib.Tactic.Linarith
import Mathlib.Tactic.NormNum
import Mathlib.Tactic.Positivity
import Mathlib.Tactic.Ring
import FluentCalc.Double.Rounding

namespace FluentCalc

/-- A natural within half of a quotient is the rounded quotient, provided that
an odd one is strictly within half. -/
theorem roundQuotient_eq {n d k : ℕ} (hd : 0 < d) (lower : 2 * k * d ≤ 2 * n + d)
    (upper : 2 * n ≤ (2 * k + 1) * d)
    (odd : k % 2 = 1 → 2 * k * d < 2 * n + d ∧ 2 * n < (2 * k + 1) * d) :
    roundQuotient n d = k := by
  have whole := Nat.div_add_mod n d
  have small := Nat.mod_lt n hd
  unfold roundQuotient
  generalize n / d = q at *
  generalize n % d = r at *
  -- Only the floor of the quotient and its successor are that near.
  have floor_le : q ≤ k := by
    by_contra hlt
    have : (2 * k + 1 + 1) * d ≤ 2 * q * d := Nat.mul_le_mul_right d (by omega)
    nlinarith
  have le_ceil : k ≤ q + 1 := by
    by_contra hlt
    have : (2 * q + 4) * d ≤ 2 * k * d := Nat.mul_le_mul_right d (by omega)
    nlinarith
  obtain rfl | rfl : k = q ∨ k = q + 1 := by omega
  · have below : 2 * r ≤ d := by nlinarith
    have strict : k % 2 = 1 → 2 * r < d := fun hodd => by nlinarith [(odd hodd).2]
    simp only
    split <;> [rfl; split] <;> omega
  · have above : d ≤ 2 * r := by nlinarith
    have strict : (q + 1) % 2 = 1 → d < 2 * r := fun hodd => by nlinarith [(odd hodd).1]
    simp only
    split <;> [omega; split] <;> omega

/-- The scale is known from the power of two between which and the next the
quotient lies. -/
theorem scaleFor_eq {n d s : ℕ} (hd : 0 < d) (low : s ≠ 0 → 2 ^ (52 + s) * d ≤ n)
    (high : n < 2 ^ (53 + s) * d) : scaleFor n d = s := by
  have hlt : n / d < 2 ^ (53 + s) := (Nat.div_lt_iff_lt_mul hd).2 high
  unfold scaleFor
  rcases Nat.eq_zero_or_pos (n / d) with hzero | hpos
  · have : s = 0 := by
      by_contra hs
      have : 2 ^ (52 + s) ≤ n / d := (Nat.le_div_iff_mul_le hd).2 (low hs)
      have : 0 < 2 ^ (52 + s) := Nat.two_pow_pos _
      omega
    simp [hzero, this]
  · have upper := (Nat.log2_lt hpos.ne').2 hlt
    rcases Nat.eq_zero_or_pos s with rfl | hs
    · omega
    · have := (Nat.le_log2 hpos.ne').2 ((Nat.le_div_iff_mul_le hd).2 (low hs.ne'))
      omega

namespace Magnitude

theorem scale_mul_add_significand (x : Magnitude) :
    x.scale * 2 ^ 52 + x.significand = x.code := by
  unfold scale significand
  split <;> omega

theorem significand_lt (x : Magnitude) : x.significand < 2 ^ 53 := by
  unfold significand
  split <;> omega

theorem two_pow_le_significand {x : Magnitude} (h : x.scale ≠ 0) :
    2 ^ 52 ≤ x.significand := by
  unfold scale at h
  unfold significand
  split <;> omega

/-- The distance to the next smaller magnitude, in units: it is half of the
distance to the next larger one just where the scale changes. -/
def stepBelow (x : Magnitude) : ℚ :=
  if x.significand = 2 ^ 52 ∧ x.scale ≠ 0 then 2 ^ x.scale / 2 else 2 ^ x.scale

/-- A number of units is captured by a magnitude when it lies no further than
halfway to either neighbour; halfway itself belongs to the even significand. -/
structure Captures (x : Magnitude) (q : ℚ) : Prop where
  lower : x.units - x.stepBelow / 2 ≤ q
  upper : q ≤ x.units + 2 ^ x.scale / 2
  odd : x.significand % 2 = 1 →
    x.units - x.stepBelow / 2 < q ∧ q < x.units + 2 ^ x.scale / 2

theorem stepBelow_pos (x : Magnitude) : 0 < x.stepBelow := by
  unfold stepBelow
  split <;> positivity

/-- A magnitude captures itself. -/
theorem captures_units (x : Magnitude) : x.Captures x.units := by
  have below := x.stepBelow_pos
  have above : (0 : ℚ) < 2 ^ x.scale := by positivity
  exact ⟨by linarith, by linarith, fun _ => ⟨by linarith, by linarith⟩⟩

/-- Captured quotients, without division: the upper end. -/
theorem Captures.two_mul_le {x : Magnitude} {n d : ℕ} (hd : 0 < d)
    (h : x.Captures (n / d)) :
    2 * n ≤ (2 * x.significand + 1) * (d * 2 ^ x.scale) := by
  have upper := h.upper
  rw [div_le_iff₀ (by exact_mod_cast hd)] at upper
  have : (2 * n : ℚ) ≤ (2 * x.significand + 1) * (d * 2 ^ x.scale) := by
    simp only [units, Nat.cast_mul, Nat.cast_pow, Nat.cast_ofNat] at upper
    linarith
  exact_mod_cast this

/-- Captured quotients, without division: the lower end. -/
theorem Captures.le_two_mul_add {x : Magnitude} {n d : ℕ} (hd : 0 < d)
    (h : x.Captures (n / d)) :
    2 * x.significand * (d * 2 ^ x.scale) ≤ 2 * n + d * 2 ^ x.scale := by
  have lower := h.lower
  rw [le_div_iff₀ (by exact_mod_cast hd)] at lower
  have hstep : x.stepBelow ≤ 2 ^ x.scale := by
    have : (0 : ℚ) < 2 ^ x.scale := by positivity
    unfold stepBelow
    split <;> linarith
  have hscaled : x.stepBelow * d ≤ 2 ^ x.scale * d :=
    mul_le_mul_of_nonneg_right hstep (Nat.cast_nonneg d)
  have : (2 * x.significand * (d * 2 ^ x.scale) : ℚ) ≤ 2 * n + d * 2 ^ x.scale := by
    simp only [units, Nat.cast_mul, Nat.cast_pow, Nat.cast_ofNat] at lower
    linarith
  exact_mod_cast this

/-- Captured quotients, without division: the lower end where the scale
changes. -/
theorem Captures.le_four_mul_add {x : Magnitude} {n d : ℕ} (hd : 0 < d)
    (h : x.Captures (n / d)) (hsig : x.significand = 2 ^ 52) (hscale : x.scale ≠ 0) :
    4 * 2 ^ 52 * (d * 2 ^ x.scale) ≤ 4 * n + d * 2 ^ x.scale := by
  have lower := h.lower
  rw [le_div_iff₀ (by exact_mod_cast hd)] at lower
  have : (4 * 2 ^ 52 * (d * 2 ^ x.scale) : ℚ) ≤ 4 * n + d * 2 ^ x.scale := by
    simp only [stepBelow, units, hsig, hscale, ne_eq, not_false_eq_true, and_self, ↓reduceIte,
      Nat.cast_mul, Nat.cast_pow, Nat.cast_ofNat] at lower
    linarith
  exact_mod_cast this

/-- Captured quotients, without division: an odd significand keeps off both
ends. -/
theorem Captures.strict_of_odd {x : Magnitude} {n d : ℕ} (hd : 0 < d)
    (h : x.Captures (n / d)) (hodd : x.significand % 2 = 1) :
    2 * x.significand * (d * 2 ^ x.scale) < 2 * n + d * 2 ^ x.scale ∧
      2 * n < (2 * x.significand + 1) * (d * 2 ^ x.scale) := by
  obtain ⟨lower, upper⟩ := h.odd hodd
  have hcast : (0 : ℚ) < d := by exact_mod_cast hd
  rw [lt_div_iff₀ hcast] at lower
  rw [div_lt_iff₀ hcast] at upper
  have hstep : x.stepBelow = 2 ^ x.scale := by
    unfold stepBelow
    rw [if_neg]
    rintro ⟨heq, -⟩
    omega
  simp only [hstep, units, Nat.cast_mul, Nat.cast_pow, Nat.cast_ofNat] at lower upper
  apply And.intro
  · have : (2 * x.significand * (d * 2 ^ x.scale) : ℚ) < 2 * n + d * 2 ^ x.scale := by
      linarith
    exact_mod_cast this
  · have : (2 * n : ℚ) < (2 * x.significand + 1) * (d * 2 ^ x.scale) := by linarith
    exact_mod_cast this

end Magnitude

theorem nearestCode_of_scaleFor {n d s : ℕ} (h : scaleFor n d = s) :
    nearestCode n d = s * 2 ^ 52 + roundQuotient n (d * 2 ^ s) := by
  subst h
  rfl

/-- Below the least significand of a scale only the magnitude with that
significand captures a quotient, which then rounds up out of the scale below. -/
theorem nearestCode_of_captures_below {x : Magnitude} {n d : ℕ} (hd : 0 < d)
    (h : x.Captures (n / d)) (hscale : x.scale ≠ 0) (hbelow : n < 2 ^ (52 + x.scale) * d) :
    nearestCode n d = x.code := by
  have lower := h.le_two_mul_add hd
  obtain ⟨t, ht⟩ := Nat.exists_eq_succ_of_ne_zero hscale
  have hpow : d * 2 ^ x.scale = 2 * (d * 2 ^ t) := by rw [ht, pow_succ]; ring
  rw [pow_add, mul_assoc, mul_comm _ d, hpow] at hbelow
  have hleast : x.significand = 2 ^ 52 := by
    have hle := Magnitude.two_pow_le_significand hscale
    by_contra hne
    have : (2 * 2 ^ 52 + 2) * (d * 2 ^ x.scale) ≤ 2 * x.significand * (d * 2 ^ x.scale) :=
      Nat.mul_le_mul_right _ (by omega)
    linarith
  have nearer := h.le_four_mul_add hd hleast hscale
  rw [hpow] at nearer
  have hs : scaleFor n d = t := by
    refine scaleFor_eq hd (fun _ => ?_) ?_
    · rw [pow_add, mul_assoc, mul_comm _ d]
      linarith
    · rw [pow_add, mul_assoc, mul_comm _ d]
      linarith
  have hr : roundQuotient n (d * 2 ^ t) = 2 ^ 53 :=
    roundQuotient_eq (Nat.mul_pos hd (Nat.two_pow_pos _)) (by linarith) (by linarith) (by omega)
  rw [nearestCode_of_scaleFor hs, hr, ← x.scale_mul_add_significand, ht, hleast]
  omega

/-- The code of a quotient is that of the magnitude that captures it. -/
theorem nearestCode_of_captures {x : Magnitude} {n d : ℕ} (hd : 0 < d)
    (h : x.Captures (n / d)) : nearestCode n d = x.code := by
  have hD : 0 < d * 2 ^ x.scale := Nat.mul_pos hd (Nat.two_pow_pos _)
  have upper := h.two_mul_le hd
  have lower := h.le_two_mul_add hd
  have hsig := x.significand_lt
  have high : n < 2 ^ (53 + x.scale) * d := by
    have : (2 * x.significand + 1) * (d * 2 ^ x.scale) < 2 * 2 ^ 53 * (d * 2 ^ x.scale) :=
      Nat.mul_lt_mul_of_pos_right (by omega) hD
    rw [pow_add]
    linarith
  by_cases low : x.scale ≠ 0 → 2 ^ (52 + x.scale) * d ≤ n
  · rw [nearestCode_of_scaleFor (scaleFor_eq hd low high),
      roundQuotient_eq hD lower upper (h.strict_of_odd hd), x.scale_mul_add_significand]
  · push Not at low
    exact nearestCode_of_captures_below hd h low.1 low.2

/-- A captured number of units rounds to its magnitude. -/
theorem Double.ofUnits_of_captures {x : Magnitude} {n d : ℕ} (hd : 0 < d)
    (h : x.Captures (n / d)) (negative : Bool) :
    Double.ofUnits negative n d = .finite negative x := by
  have hcode := nearestCode_of_captures hd h
  unfold Double.ofUnits
  rw [dif_pos (by rw [hcode]; exact x.code_lt)]
  congr

/-- Every magnitude is the nearest to itself. -/
theorem Double.ofUnits_units (negative : Bool) (x : Magnitude) :
    Double.ofUnits negative x.units 1 = .finite negative x :=
  Double.ofUnits_of_captures Nat.one_pos (by simpa using x.captures_units) negative

/-- Magnitudes with the same number of units are the same. -/
theorem Magnitude.units_injective : Function.Injective Magnitude.units := by
  intro x y heq
  have hx := Double.ofUnits_units false x
  rw [heq, Double.ofUnits_units false y] at hx
  injection hx with _ h
  exact h.symm

/-- A quotient of at least `2 ^ 2098` units has a code past the last magnitude. -/
theorem le_nearestCode_of_two_pow_mul_le {n d : ℕ} (hd : 0 < d) (h : 2 ^ 2098 * d ≤ n) :
    2047 * 2 ^ 52 ≤ nearestCode n d := by
  have hquot : 2 ^ 2098 ≤ n / d := (Nat.le_div_iff_mul_le hd).2 h
  have hpos : n / d ≠ 0 := by
    have := Nat.two_pow_pos 2098
    omega
  have hlog := (Nat.le_log2 hpos).2 hquot
  have hscale : scaleFor n d + 52 = (n / d).log2 := by
    unfold scaleFor
    omega
  have hlead : 2 ^ 52 * (d * 2 ^ scaleFor n d) ≤ n := by
    have := (Nat.le_div_iff_mul_le hd).1 ((Nat.le_log2 hpos).1 le_rfl)
    rw [← hscale, pow_add] at this
    linarith
  have hD : 0 < d * 2 ^ scaleFor n d := Nat.mul_pos hd (Nat.two_pow_pos _)
  have near := (roundQuotient_near (n := n) hD).1
  have : 2 ^ 53 * (d * 2 ^ scaleFor n d) ≤
      (2 * roundQuotient n (d * 2 ^ scaleFor n d) + 1) * (d * 2 ^ scaleFor n d) := by
    linarith
  have := Nat.le_of_mul_le_mul_right this hD
  rw [nearestCode_of_scaleFor rfl]
  omega

namespace Double

/-- A quotient of at least `2 ^ 2098` units is too large for a double. -/
theorem ofUnits_of_two_pow_mul_le {n d : ℕ} (hd : 0 < d) (h : 2 ^ 2098 * d ≤ n)
    (negative : Bool) : ofUnits negative n d = .infinite negative := by
  unfold ofUnits
  rw [dif_neg (Nat.not_lt.2 (le_nearestCode_of_two_pow_mul_le hd h))]

/-- A quotient of at most half a unit rounds to zero. -/
theorem ofUnits_of_two_mul_le {n d : ℕ} (hd : 0 < d) (h : 2 * n ≤ d) (negative : Bool) :
    ofUnits negative n d = .finite negative .zero := by
  have hcast : (0 : ℚ) < d := by exact_mod_cast hd
  have hle : (n / d : ℚ) ≤ 1 / 2 := by
    rw [div_le_iff₀ hcast]
    have : (2 * n : ℚ) ≤ d := by exact_mod_cast h
    linarith
  have hzero : Magnitude.zero.significand = 0 ∧ Magnitude.zero.scale = 0 := by decide
  refine ofUnits_of_captures hd ⟨?_, ?_, ?_⟩ negative
  · have : (0 : ℚ) ≤ n / d := by positivity
    have := Magnitude.zero.stepBelow_pos
    simp only [Magnitude.units_zero, Nat.cast_zero]
    linarith
  · simpa [hzero] using hle
  · simp [hzero]

/-- The two shortcuts of `ofDecimal` give what rounding the exact quotient
gives: a decimal is rounded once, however large or small its exponent. -/
theorem ofDecimal_eq_ofUnits (negative : Bool) {digits count : ℕ} (exponent : ℤ)
    (hcount : digits < 10 ^ count) :
    ofDecimal negative digits count exponent =
      ofUnits negative (digits * 10 ^ exponent.toNat * 2 ^ 1074) (10 ^ (-exponent).toNat) := by
  unfold ofDecimal
  split_ifs with hzero hlarge hsmall hnegative
  · generalize 2 ^ 1074 = unit
    rw [ofUnits_of_two_mul_le (by positivity)]
    rw [hzero, Nat.zero_mul, Nat.zero_mul, Nat.mul_zero]
    exact Nat.zero_le _
  · have hexp : (-exponent).toNat = 0 := by omega
    refine (ofUnits_of_two_pow_mul_le (by positivity) ?_ negative).symm
    have hpow : 10 ^ 400 ≤ 10 ^ exponent.toNat := Nat.pow_le_pow_right (by decide) (by omega)
    have hbound : 2 ^ 1024 ≤ 10 ^ 400 := by decide +kernel
    have hdigits : 10 ^ exponent.toNat ≤ digits * 10 ^ exponent.toNat :=
      Nat.le_mul_of_pos_left _ (Nat.pos_of_ne_zero hzero)
    rw [hexp, pow_zero, mul_one, show 2098 = 1024 + 1074 by rfl, pow_add]
    exact Nat.mul_le_mul_right _ ((hbound.trans hpow).trans hdigits)
  · have hexp : exponent.toNat = 0 := by omega
    refine (ofUnits_of_two_mul_le (by positivity) ?_ negative).symm
    have hbound : 2 * 2 ^ 1074 ≤ 10 ^ 400 := by decide +kernel
    calc
      2 * (digits * 10 ^ exponent.toNat * 2 ^ 1074) = digits * (2 * 2 ^ 1074) := by
        rw [hexp, pow_zero, mul_one, mul_left_comm]
      _ ≤ 10 ^ count * 10 ^ 400 := Nat.mul_le_mul hcount.le hbound
      _ = 10 ^ (count + 400) := (pow_add _ _ _).symm
      _ ≤ 10 ^ (-exponent).toNat := Nat.pow_le_pow_right (by decide) (by omega)
  · have hexp : exponent.toNat = 0 := by omega
    have hneg : (-exponent).toNat = exponent.natAbs := by omega
    rw [hexp, hneg, pow_zero, mul_one]
  · have hexp : exponent.toNat = exponent.natAbs := by omega
    have hneg : (-exponent).toNat = 0 := by omega
    rw [hexp, hneg, pow_zero]

end Double

end FluentCalc
