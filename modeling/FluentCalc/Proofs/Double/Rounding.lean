/-
# Rounding to nearest

What `nearestCode` finds is the code of a magnitude that captures the quotient, whenever it
is a code at all, and it is one exactly for quotients that lie below halfway from the
largest magnitude to the next power of two. A magnitude that captures a number of units is
the nearest to it, of two that are as near the one with the even significand. There is only
one such magnitude, since neighbours differ in the parity of their significands.

Signs change nothing in this: among the finite numbers of either sign the nearest to an
amount has the sign of the amount.
-/

import Mathlib.Algebra.Order.Ring.Abs
import FluentCalc.Proofs.Double.Equality

namespace FluentCalc

/-! ## Quotients and their scales -/

/-- A quotient halfway between two naturals is rounded to the even one. -/
theorem roundQuotient_strict_of_odd {n d : ℕ} (hd : 0 < d) (hodd : roundQuotient n d % 2 = 1) :
    2 * roundQuotient n d * d < 2 * n + d ∧ 2 * n < (2 * roundQuotient n d + 1) * d := by
  have whole := Nat.div_add_mod n d
  have small := Nat.mod_lt n hd
  unfold roundQuotient at *
  generalize n / d = q at *
  generalize n % d = r at *
  simp only at *
  split at hodd
  · next hbelow =>
      rw [if_pos hbelow]
      constructor <;> nlinarith
  · next hbelow =>
      split at hodd
      · next habove =>
          rw [if_neg hbelow, if_pos habove]
          constructor <;> nlinarith
      · omega

/-- Under its scale a quotient has at most 53 bits, and not fewer unless the scale is the
least. -/
theorem scaleFor_bounds (n : ℕ) {d : ℕ} (hd : 0 < d) :
    (scaleFor n d ≠ 0 → 2 ^ 52 * (d * 2 ^ scaleFor n d) ≤ n) ∧
      n < 2 ^ 53 * (d * 2 ^ scaleFor n d) := by
  have hscale (k : ℕ) : 2 ^ k * (d * 2 ^ scaleFor n d) = 2 ^ (k + scaleFor n d) * d := by
    rw [pow_add]
    ring
  rw [hscale, hscale]
  apply And.intro
  · intro hne
    have hlog : 52 + scaleFor n d = (n / d).log2 := by
      unfold scaleFor at hne ⊢
      omega
    have hpos : n / d ≠ 0 := by
      intro hzero
      rw [hzero, Nat.log2_zero] at hlog
      omega
    rw [hlog, ← Nat.le_div_iff_mul_le hd]
    exact Nat.log2_self_le hpos
  · rw [← Nat.div_lt_iff_lt_mul hd]
    have hle : (n / d).log2 + 1 ≤ 53 + scaleFor n d := by
      unfold scaleFor
      omega
    exact Nat.lt_log2_self.trans_le (Nat.pow_le_pow_right (by decide) hle)

/-- Rounding under the scale carries to the next power of two at most. -/
theorem roundQuotient_scaleFor_le (n : ℕ) {d : ℕ} (hd : 0 < d) :
    roundQuotient n (d * 2 ^ scaleFor n d) ≤ 2 ^ 53 := by
  have high := (scaleFor_bounds n hd).2
  have hD : 0 < d * 2 ^ scaleFor n d := Nat.mul_pos hd (Nat.two_pow_pos _)
  have near := (roundQuotient_near (n := n) hD).2
  by_contra hgt
  have hmul := Nat.mul_le_mul_right (d * 2 ^ scaleFor n d)
    (show 2 * (2 ^ 53 + 1) ≤ 2 * roundQuotient n (d * 2 ^ scaleFor n d) by omega)
  linarith

namespace Magnitude

variable {x y : Magnitude} {q : ℚ}

/-! ## Neighbours -/

theorem significand_mod_two (x : Magnitude) : x.significand % 2 = x.code % 2 := by
  unfold significand
  split <;> omega

/-- A code is taken apart into a scale and a significand in one way only. -/
theorem scale_significand_of_code {s r : ℕ} (hcode : x.code = s * 2 ^ 52 + r) (hr : r < 2 ^ 53)
    (hlead : s ≠ 0 → 2 ^ 52 ≤ r) : x.scale = s ∧ x.significand = r := by
  unfold scale significand
  rw [hcode]
  apply And.intro
  · omega
  · split <;> omega

theorem scale_le (h : x.code ≤ y.code) : x.scale ≤ y.scale :=
  Nat.sub_le_sub_right (Nat.div_le_div_right h) 1

/-- A larger magnitude is larger by what the last bit of the smaller one is worth. -/
theorem units_add_le (h : x.code < y.code) : (x.units + 2 ^ x.scale : ℚ) ≤ y.units := by
  have hx := x.scale_mul_add_significand
  have hy := y.scale_mul_add_significand
  have hsum : x.units + 2 ^ x.scale = (x.significand + 1) * 2 ^ x.scale := by
    rw [units]
    ring
  suffices hle : x.units + 2 ^ x.scale ≤ y.units by exact_mod_cast hle
  rcases (scale_le h.le).eq_or_lt with heq | hlt
  · have hsignificand : x.significand + 1 ≤ y.significand := by
      rw [heq] at hx
      omega
    rw [hsum, units, ← heq]
    exact Nat.mul_le_mul_right _ hsignificand
  · have hlead : 2 ^ 52 ≤ y.significand := two_pow_le_significand (by omega)
    have hpow : 2 * 2 ^ x.scale ≤ 2 ^ y.scale := by
      rw [← pow_succ']
      exact Nat.pow_le_pow_right (by decide) hlt
    calc
      x.units + 2 ^ x.scale = (x.significand + 1) * 2 ^ x.scale := hsum
      _ ≤ 2 ^ 53 * 2 ^ x.scale := Nat.mul_le_mul_right _ x.significand_lt
      _ = 2 ^ 52 * (2 * 2 ^ x.scale) := by ring
      _ ≤ y.significand * 2 ^ y.scale := Nat.mul_le_mul hlead hpow

/-- A smaller magnitude is smaller by the step below the larger one. -/
theorem units_add_stepBelow_le (h : y.code < x.code) : (y.units + x.stepBelow : ℚ) ≤ x.units := by
  have hx := x.scale_mul_add_significand
  have hy := y.scale_mul_add_significand
  have hpos : (0 : ℚ) < 2 ^ x.scale := by positivity
  rcases (scale_le h.le).eq_or_lt with heq | hlt
  · have hstep : x.stepBelow ≤ 2 ^ x.scale := by
      unfold stepBelow
      split <;> linarith
    have hle : (y.units + 2 ^ x.scale : ℚ) ≤ x.units := by
      rw [← heq]
      exact units_add_le h
    linarith
  · -- The smaller one is below the least significand of the scale of the larger one.
    have hlead : 2 ^ 52 ≤ x.significand := two_pow_le_significand (by omega)
    have hpow : 2 * 2 ^ y.scale ≤ 2 ^ x.scale := by
      rw [← pow_succ']
      exact Nat.pow_le_pow_right (by decide) hlt
    have hbelow : 2 * y.units + 2 ^ x.scale ≤ 2 ^ 53 * 2 ^ x.scale := by
      calc
        2 * y.units + 2 ^ x.scale = y.significand * (2 * 2 ^ y.scale) + 2 ^ x.scale := by
          rw [units]
          ring
        _ ≤ y.significand * 2 ^ x.scale + 2 ^ x.scale :=
          Nat.add_le_add_right (Nat.mul_le_mul_left _ hpow) _
        _ = (y.significand + 1) * 2 ^ x.scale := by ring
        _ ≤ 2 ^ 53 * 2 ^ x.scale := Nat.mul_le_mul_right _ y.significand_lt
    have hbelow' : (2 * y.units + 2 ^ x.scale : ℚ) ≤ 2 ^ 53 * 2 ^ x.scale := by
      exact_mod_cast hbelow
    by_cases hedge : x.significand = 2 ^ 52 ∧ x.scale ≠ 0
    · have hunits : (x.units : ℚ) = 2 ^ 52 * 2 ^ x.scale := by
        rw [units, hedge.1]
        push_cast
        rfl
      rw [stepBelow, if_pos hedge, hunits]
      linarith
    · have hsecond : 2 ^ 52 + 1 ≤ x.significand := by omega
      have hunits : ((2 ^ 52 + 1) * 2 ^ x.scale : ℚ) ≤ x.units := by
        rw [units]
        exact_mod_cast Nat.mul_le_mul_right _ hsecond
      rw [stepBelow, if_neg hedge]
      linarith

/-! ## The nearest magnitude -/

/-- A magnitude is nearest to a number of units: none is nearer, and if another one is as
near, its significand is even. -/
structure IsNearest (x : Magnitude) (q : ℚ) : Prop where
  le (y : Magnitude) : |x.units - q| ≤ |y.units - q|
  even {y : Magnitude} : y ≠ x → |y.units - q| = |x.units - q| → x.significand % 2 = 0

theorem code_lt_or_gt_of_ne (h : y ≠ x) : x.code < y.code ∨ y.code < x.code := by
  refine Nat.lt_or_gt_of_ne fun heq => h ?_
  cases x
  cases y
  simpa using heq.symm

/-- Another magnitude is at least as far away as the next one on its side. -/
theorem units_apart (h : y ≠ x) :
    (x.units + 2 ^ x.scale : ℚ) ≤ y.units ∨ (y.units + x.stepBelow : ℚ) ≤ x.units :=
  (code_lt_or_gt_of_ne h).imp units_add_le units_add_stepBelow_le

/-- What a magnitude captures is nearer to it than to the others. -/
theorem Captures.isNearest (h : x.Captures q) : x.IsNearest q := by
  have hstep := x.stepBelow_pos
  have hpos : (0 : ℚ) < 2 ^ x.scale := by positivity
  have hlower := h.lower
  have hupper := h.upper
  refine ⟨fun y => ?_, fun {y} hne heq => ?_⟩
  · by_cases hyx : y = x
    · rw [hyx]
    rw [abs_le]
    rcases units_apart hyx with hlarger | hsmaller
    · rw [abs_of_nonneg (by linarith)]
      constructor <;> linarith
    · rw [abs_of_nonpos (by linarith)]
      constructor <;> linarith
  · by_contra hodd
    obtain ⟨hlow, hhigh⟩ := h.odd (by omega)
    refine absurd heq (ne_of_gt (abs_lt.2 ?_))
    rcases units_apart hne with hlarger | hsmaller
    · rw [abs_of_nonneg (by linarith)]
      constructor <;> linarith
    · rw [abs_of_nonpos (by linarith)]
      constructor <;> linarith

/-- There is one nearest magnitude: of neighbours, one has an odd significand, and of others
that are as near, one between them is nearer. -/
theorem IsNearest.unique (hx : x.IsNearest q) (hy : y.IsNearest q) : x = y := by
  by_contra hne
  wlog hlt : x.code < y.code generalizing x y
  · rcases code_lt_or_gt_of_ne (Ne.symm hne) with hxy | hyx
    · exact hlt hxy
    · exact this hy hx (Ne.symm hne) hyx
  have hdistance : |x.units - q| = |y.units - q| := le_antisymm (hx.le y) (hy.le x)
  have hxeven := hx.even (Ne.symm hne) hdistance.symm
  have hyeven := hy.even hne hdistance
  rw [significand_mod_two] at hxeven hyeven
  have hcode := y.code_lt
  let z : Magnitude := ⟨x.code + 1, by omega⟩
  have hxz : (x.units + 2 ^ x.scale : ℚ) ≤ z.units := units_add_le (Nat.lt_succ_self x.code)
  have hzy : (z.units + 2 ^ z.scale : ℚ) ≤ y.units :=
    units_add_le (show x.code + 1 < y.code by omega)
  have hxpos : (0 : ℚ) < 2 ^ x.scale := by positivity
  have hzpos : (0 : ℚ) < 2 ^ z.scale := by positivity
  have hnearer := hx.le z
  rcases abs_cases (x.units - q) with hxq | hxq <;>
    rcases abs_cases (y.units - q) with hyq | hyq <;>
    rcases abs_cases (z.units - q) with hzq | hzq <;> linarith

/-! ## What the code of a quotient captures -/

section Quotients

variable {n d : ℕ}

/-- Captured quotients, told without division. -/
theorem captures_of_mul_le (hd : 0 < d)
    (lower : 2 * x.significand * (d * 2 ^ x.scale) ≤ 2 * n + d * 2 ^ x.scale)
    (edge : x.significand = 2 ^ 52 → x.scale ≠ 0 →
      4 * 2 ^ 52 * (d * 2 ^ x.scale) ≤ 4 * n + d * 2 ^ x.scale)
    (upper : 2 * n ≤ (2 * x.significand + 1) * (d * 2 ^ x.scale))
    (odd : x.significand % 2 = 1 →
      2 * x.significand * (d * 2 ^ x.scale) < 2 * n + d * 2 ^ x.scale ∧
        2 * n < (2 * x.significand + 1) * (d * 2 ^ x.scale)) :
    x.Captures (n / d) := by
  have hcast : (0 : ℚ) < d := by exact_mod_cast hd
  have hunits : (x.units : ℚ) = x.significand * 2 ^ x.scale := by
    rw [units]
    push_cast
    rfl
  refine ⟨?_, ?_, fun hodd => ?_⟩
  · rw [le_div_iff₀ hcast]
    by_cases hedge : x.significand = 2 ^ 52 ∧ x.scale ≠ 0
    · have hlow : (4 * 2 ^ 52 * (d * 2 ^ x.scale) : ℚ) ≤ 4 * n + d * 2 ^ x.scale := by
        exact_mod_cast edge hedge.1 hedge.2
      rw [stepBelow, if_pos hedge, hunits, hedge.1]
      push_cast
      linarith
    · have hlow : (2 * x.significand * (d * 2 ^ x.scale) : ℚ) ≤ 2 * n + d * 2 ^ x.scale := by
        exact_mod_cast lower
      rw [stepBelow, if_neg hedge, hunits]
      linarith
  · have hhigh : (2 * n : ℚ) ≤ (2 * x.significand + 1) * (d * 2 ^ x.scale) := by
      exact_mod_cast upper
    rw [div_le_iff₀ hcast, hunits]
    linarith
  · obtain ⟨lower', upper'⟩ := odd hodd
    have hlow : (2 * x.significand * (d * 2 ^ x.scale) : ℚ) < 2 * n + d * 2 ^ x.scale := by
      exact_mod_cast lower'
    have hhigh : (2 * n : ℚ) < (2 * x.significand + 1) * (d * 2 ^ x.scale) := by
      exact_mod_cast upper'
    have hedge : ¬ (x.significand = 2 ^ 52 ∧ x.scale ≠ 0) := by omega
    rw [stepBelow, if_neg hedge, lt_div_iff₀ hcast, div_lt_iff₀ hcast, hunits]
    constructor <;> linarith

/-- The magnitude with the code of a quotient captures it. -/
theorem captures_of_nearestCode (hd : 0 < d) (hx : x.code = nearestCode n d) :
    x.Captures (n / d) := by
  have low := (scaleFor_bounds n hd).1
  have high := (scaleFor_bounds n hd).2
  have hle := roundQuotient_scaleFor_le n hd
  rw [nearestCode_of_scaleFor rfl] at hx
  generalize scaleFor n d = s at *
  have hD : 0 < d * 2 ^ s := Nat.mul_pos hd (Nat.two_pow_pos s)
  obtain ⟨nearAbove, nearBelow⟩ := roundQuotient_near (n := n) hD
  have hodd := roundQuotient_strict_of_odd (n := n) hD
  generalize roundQuotient n (d * 2 ^ s) = r at *
  rcases hle.lt_or_eq with hlt | hcarry
  · have hlead : s ≠ 0 → 2 ^ 52 ≤ r := by
      intro hs
      by_contra hgt
      have hmul : (2 * r + 1) * (d * 2 ^ s) < 2 * 2 ^ 52 * (d * 2 ^ s) :=
        Nat.mul_lt_mul_of_pos_right (by omega) hD
      have := low hs
      linarith
    obtain ⟨rfl, rfl⟩ := scale_significand_of_code hx hlt hlead
    refine captures_of_mul_le hd nearBelow (fun _ hs => ?_) nearAbove hodd
    have := low hs
    linarith
  · -- The significand is rounded up out of the scale.
    have hcode : x.code = (s + 1) * 2 ^ 52 + 2 ^ 52 := by
      rw [hx, hcarry]
      ring
    obtain ⟨hscale, hsignificand⟩ :=
      scale_significand_of_code hcode (by norm_num) fun _ => Nat.le_refl _
    have hpow : d * 2 ^ (s + 1) = 2 * (d * 2 ^ s) := by
      rw [pow_succ]
      ring
    rw [hcarry] at nearBelow
    refine captures_of_mul_le hd ?_ (fun _ _ => ?_) ?_ (by simp [hsignificand])
    · rw [hscale, hsignificand, hpow]
      linarith
    · rw [hscale, hpow]
      linarith
    · rw [hscale, hsignificand, hpow]
      linarith

end Quotients

/-! ## The largest magnitude -/

/-- The largest magnitude. -/
def last : Magnitude := ⟨2047 * 2 ^ 52 - 1, by decide⟩

theorem code_le_last (x : Magnitude) : x.code ≤ last.code := Nat.le_pred_of_lt x.code_lt

theorem scale_last : last.scale = 2044 + 1 := by decide

theorem significand_last : last.significand = 2 ^ 53 - 1 := by decide

/-- Halfway from the largest magnitude to the next power of two, in units. -/
def limit : ℕ := (2 ^ 54 - 1) * 2 ^ 2044

theorem last_add_half : (last.units + 2 ^ last.scale / 2 : ℚ) = limit := by
  rw [units, limit, scale_last, significand_last]
  generalize 2044 = e
  push_cast
  ring

/-- What is captured is below the limit. -/
theorem Captures.lt_limit (h : x.Captures q) : q < limit := by
  rw [← last_add_half]
  by_cases hx : x = last
  · subst hx
    exact (h.odd (by rw [significand_last])).2
  · have hcode : x.code < last.code :=
      (code_lt_or_gt_of_ne (Ne.symm hx)).resolve_right (Nat.not_lt.2 x.code_le_last)
    have hunits := units_add_le hcode
    have hupper := h.upper
    have hpos : (0 : ℚ) < 2 ^ x.scale := by positivity
    have hlast : (0 : ℚ) < 2 ^ last.scale := by positivity
    linarith

end Magnitude

open Magnitude

/-- A quotient that fills 54 bits above `e`, be it only when it is rounded to 53, is at most
half of its last bit below the power of two. -/
theorem mul_le_of_scale {n d e s r : ℕ} (low : s ≠ 0 → 2 ^ 52 * (d * 2 ^ s) ≤ n)
    (near : 2 * r * (d * 2 ^ s) ≤ 2 * n + d * 2 ^ s)
    (h : s = e + 1 ∧ r = 2 ^ 53 ∨ e + 2 ≤ s) : (2 ^ 54 - 1) * 2 ^ e * d ≤ n := by
  have hproduct : (2 ^ 54 - 1) * 2 ^ e * d = (2 ^ 54 - 1) * (d * 2 ^ e) := by
    rw [mul_assoc, mul_comm d]
  rw [hproduct]
  rcases h with ⟨rfl, rfl⟩ | hs
  · rw [pow_succ 2 e, ← mul_assoc d] at near
    omega
  · have hpow : d * 2 ^ e * 2 ^ 2 ≤ d * 2 ^ s := by
      rw [mul_assoc, ← pow_add]
      exact Nat.mul_le_mul_left d (Nat.pow_le_pow_right Nat.two_pos hs)
    have := low (by omega)
    omega

/-- The quotients below the limit, and no others, have the code of a magnitude. -/
theorem nearestCode_lt_iff {n d : ℕ} (hd : 0 < d) :
    nearestCode n d < 2047 * 2 ^ 52 ↔ n < limit * d := by
  apply Iff.intro
  · intro hcode
    have hlimit := (captures_of_nearestCode (x := ⟨nearestCode n d, hcode⟩) hd rfl).lt_limit
    rw [div_lt_iff₀ (by exact_mod_cast hd)] at hlimit
    exact_mod_cast hlimit
  · intro hlimit
    by_contra hcode
    have hle := roundQuotient_scaleFor_le n hd
    rw [nearestCode_of_scaleFor rfl] at hcode
    have hD : 0 < d * 2 ^ scaleFor n d := Nat.mul_pos hd (Nat.two_pow_pos _)
    have hscale : scaleFor n d = 2044 + 1 ∧ roundQuotient n (d * 2 ^ scaleFor n d) = 2 ^ 53 ∨
        2044 + 2 ≤ scaleFor n d := by omega
    have hge := mul_le_of_scale (scaleFor_bounds n hd).1 (roundQuotient_near hD).2 hscale
    rw [← limit] at hge
    exact absurd hlimit (Nat.not_lt.2 hge)

namespace Double

/-- Below the limit a quotient is rounded to the magnitude that captures it, all others are
too large. -/
theorem ofUnits_cases (negative : Bool) (n : ℕ) {d : ℕ} (hd : 0 < d) :
    (n < limit * d ∧ ∃ m : Magnitude, ofUnits negative n d = .finite negative m ∧
        m.Captures (n / d)) ∨
      limit * d ≤ n ∧ ofUnits negative n d = .infinite negative := by
  by_cases hcode : nearestCode n d < 2047 * 2 ^ 52
  · refine .inl ⟨(nearestCode_lt_iff hd).1 hcode, ⟨_, hcode⟩, ?_, captures_of_nearestCode hd rfl⟩
    rw [ofUnits, dif_pos hcode]
  · refine .inr ⟨Nat.not_lt.1 ((nearestCode_lt_iff hd).not.1 hcode), ?_⟩
    rw [ofUnits, dif_neg hcode]

/-! ## The nearest number -/

/-- An amount with a sign. -/
def signed (negative : Bool) (amount : ℚ) : ℚ := if negative then -amount else amount

/-- The exact value of a finite number. -/
def toRat (negative : Bool) (m : Magnitude) : ℚ := signedUnits negative m / 2 ^ 1074

/-- A finite number is nearest to an amount: none is nearer, and if one of another value is
as near, its significand is even. -/
structure IsNearest (negative : Bool) (m : Magnitude) (q : ℚ) : Prop where
  le (n' : Bool) (m' : Magnitude) : |toRat negative m - q| ≤ |toRat n' m' - q|
  even {n' : Bool} {m' : Magnitude} : toRat n' m' ≠ toRat negative m →
    |toRat n' m' - q| = |toRat negative m - q| → m.significand % 2 = 0

theorem toRat_eq_signed (n : Bool) (m : Magnitude) : toRat n m = signed n (m.units / 2 ^ 1074) := by
  rw [toRat]
  generalize (2 ^ 1074 : ℚ) = p
  cases n <;> simp [signed, signedUnits, neg_div]

theorem signed_signed (n : Bool) (a : ℚ) : signed n (signed n a) = a := by
  cases n
  · rfl
  · exact neg_neg a

theorem abs_signed (n : Bool) (a : ℚ) : |signed n a| = |a| := by
  cases n
  · rfl
  · exact abs_neg a

theorem abs_signed_sub (n : Bool) (a b : ℚ) : |signed n a - signed n b| = |a - b| := by
  cases n
  · rfl
  · simp only [signed, ↓reduceIte]
    rw [← abs_neg]
    ring_nf

/-- Amounts of different signs are as far apart as they are large together. -/
theorem abs_signed_sub_of_ne {n n' : Bool} (h : n' ≠ n) {a b : ℚ} (ha : 0 ≤ a) (hb : 0 ≤ b) :
    |signed n' a - signed n b| = a + b := by
  obtain rfl : n' = !n := Bool.eq_not_of_ne h
  cases n with
  | false =>
      change |-a - b| = a + b
      rw [abs_of_nonpos (by linarith)]
      ring
  | true =>
      change |a - -b| = a + b
      rw [sub_neg_eq_add, abs_of_nonneg (add_nonneg ha hb)]

theorem toRat_eq_iff {n n' : Bool} {m m' : Magnitude} :
    toRat n m = toRat n' m' ↔ m.units = m'.units ∧ (n = n' ∨ m.units = 0) := by
  have hpos : (2 ^ 1074 : ℚ) ≠ 0 := by positivity
  rw [toRat, toRat, div_left_inj' hpos, Int.cast_inj, signedUnits_eq_iff]

/-- How far a number is from an amount of its own sign. -/
theorem abs_toRat_sub_signed (n : Bool) (m : Magnitude) (amount : ℚ) :
    |toRat n m - signed n amount| = |m.units - amount * 2 ^ 1074| / 2 ^ 1074 := by
  have hpos : (0 : ℚ) < 2 ^ 1074 := by positivity
  rw [toRat_eq_signed, abs_signed_sub]
  generalize (2 ^ 1074 : ℚ) = p at *
  rw [← abs_of_pos hpos, ← abs_div, abs_of_pos hpos, sub_div, mul_div_cancel_right₀ _ hpos.ne']

/-- A number is as far from an amount of the other sign as both are from zero. -/
theorem abs_toRat_sub_signed_of_ne {n n' : Bool} (hn : n' ≠ n) (m : Magnitude) {amount : ℚ}
    (h : 0 ≤ amount) : |toRat n' m - signed n amount| = m.units / 2 ^ 1074 + amount := by
  rw [toRat_eq_signed, abs_signed_sub_of_ne hn (div_nonneg (Nat.cast_nonneg _) (by positivity)) h]

/-- A zero is as far from an amount as the amount is large. -/
theorem abs_toRat_zero_sub_signed (n n' : Bool) {amount : ℚ} (h : 0 ≤ amount) :
    |toRat n' .zero - signed n amount| = amount := by
  have hzero : toRat n' .zero = toRat (!n) .zero := toRat_eq_iff.2 ⟨rfl, .inr units_zero⟩
  rw [hzero, abs_toRat_sub_signed_of_ne (Bool.not_ne_self n) _ h, units_zero, Nat.cast_zero,
    zero_div, zero_add]

section Nearest

variable {n : Bool} {m m' : Magnitude} {amount q : ℚ}

theorem abs_toRat_sub_signed_le_iff :
    |toRat n m - signed n amount| ≤ |toRat n m' - signed n amount| ↔
      |m.units - amount * 2 ^ 1074| ≤ |m'.units - amount * 2 ^ 1074| := by
  have hpos : (0 : ℚ) < 2 ^ 1074 := by positivity
  rw [abs_toRat_sub_signed, abs_toRat_sub_signed, div_le_div_iff_of_pos_right hpos]

theorem abs_toRat_sub_signed_eq_iff :
    |toRat n m - signed n amount| = |toRat n m' - signed n amount| ↔
      |m.units - amount * 2 ^ 1074| = |m'.units - amount * 2 ^ 1074| := by
  have hpos : (0 : ℚ) < 2 ^ 1074 := by positivity
  rw [abs_toRat_sub_signed, abs_toRat_sub_signed, div_left_inj' hpos.ne']

/-- The magnitude of the nearest number is the nearest. -/
theorem IsNearest.magnitude (h : IsNearest n m (signed n amount)) :
    m.IsNearest (amount * 2 ^ 1074) := by
  refine ⟨fun y => abs_toRat_sub_signed_le_iff.1 (h.le n y), fun {y} hne hy => ?_⟩
  have hvalue : toRat n y ≠ toRat n m := fun hvalue =>
    hne (units_injective (toRat_eq_iff.1 hvalue).1)
  exact h.even hvalue (abs_toRat_sub_signed_eq_iff.2 hy)

/-- There is one nearest number of each sign. -/
theorem IsNearest.unique (h : IsNearest n m q) (h' : IsNearest n m' q) : m = m' := by
  rw [← signed_signed n q] at h h'
  exact h.magnitude.unique h'.magnitude

/-- **The nearest number has the sign of the amount.** -/
theorem isNearest_signed (h : 0 ≤ amount) (hm : m.IsNearest (amount * 2 ^ 1074)) :
    IsNearest n m (signed n amount) := by
  have hpos : (0 : ℚ) < 2 ^ 1074 := by positivity
  -- No number of the other sign is nearer than zero.
  have hzero : |toRat n m - signed n amount| ≤ amount :=
    (abs_toRat_sub_signed_le_iff.2 (hm.le .zero)).trans_eq (abs_toRat_zero_sub_signed n n h)
  refine ⟨fun n' m' => ?_, fun {n' m'} hne hm' => ?_⟩
  · by_cases hn : n' = n
    · rw [hn]
      exact abs_toRat_sub_signed_le_iff.2 (hm.le m')
    · rw [abs_toRat_sub_signed_of_ne hn m' h]
      exact hzero.trans (le_add_of_nonneg_left (div_nonneg (Nat.cast_nonneg _) hpos.le))
  · by_cases hn : n' = n
    · rw [hn] at hne hm'
      exact hm.even (fun hvalue => hne (by rw [hvalue])) (abs_toRat_sub_signed_eq_iff.1 hm')
    · -- A zero is as near as that, and so is the zero of the same sign.
      rw [abs_toRat_sub_signed_of_ne hn m' h] at hm'
      rw [← hm', add_le_iff_nonpos_left] at hzero
      have hquotient := le_antisymm hzero (div_nonneg (Nat.cast_nonneg _) hpos.le)
      rw [hquotient, zero_add] at hm'
      have hboth := (abs_toRat_zero_sub_signed n n h).trans hm'
      refine hm.even (fun hvalue => hne ?_) (abs_toRat_sub_signed_eq_iff.1 hboth)
      have hunits : m'.units = 0 := by
        rw [div_eq_zero_iff, or_iff_left hpos.ne'] at hquotient
        exact_mod_cast hquotient
      exact toRat_eq_iff.2 ⟨by rw [← hvalue, hunits, units_zero], .inr hunits⟩

end Nearest

end Double

end FluentCalc
