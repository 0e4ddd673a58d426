/-
# Integers as numbers

An integer is taken as the number nearest to it, of two the even one. It is too large
from halfway between the largest number and the next power of two on. Up to `2 ^ 53`
every integer is a number itself, so nothing is lost, and the number is printed with the
digits of the integer.
-/

import Mathlib.Data.Nat.Digits.Defs
import FluentCalc.Double.Arithmetic
import FluentCalc.Proofs.Decimal.Reading
import FluentCalc.Proofs.Decimal.RoundTrip

namespace FluentCalc

/-- An integer of few bits is not too long to be written. -/
theorem isLongInteger_of_lt {n : ℤ} {bits : ℕ} (hpos : 0 < bits) (hbits : bits ≤ digitLimit)
    (h : n.natAbs < 2 ^ bits) : isLongInteger n = false := by
  have hlt : n.natAbs < 10 ^ bits := h.trans_le (Nat.pow_le_pow_left (by decide) bits)
  have hdigits : (Layout.naturalDigits n.natAbs).length ≤ bits :=
    Nat.toDigits_length 10 n.natAbs bits hpos hlt
  exact decide_eq_false (Nat.not_lt.2 (hdigits.trans hbits))

namespace Magnitude

/-- The whole part of a magnitude has at most 1024 bits. -/
theorem floor_lt (x : Magnitude) : x.floor < 2 ^ 1024 := by
  have hscale : 53 + x.scale ≤ 1024 + 1074 := by
    have hcode := x.code_lt
    rw [scale]
    omega
  rw [floor]
  -- The exponents are made variables, or the powers would be evaluated.
  generalize 1074 = unit at hscale
  generalize 1024 = bits at hscale
  rw [Nat.div_lt_iff_lt_mul (Nat.two_pow_pos unit), ← pow_add]
  calc x.units < 2 ^ 53 * 2 ^ x.scale :=
        Nat.mul_lt_mul_of_pos_right x.significand_lt (Nat.two_pow_pos _)
    _ = 2 ^ (53 + x.scale) := (pow_add _ _ _).symm
    _ ≤ 2 ^ (bits + unit) := Nat.pow_le_pow_right (by decide) hscale

/-- A significand that is allowed at a scale makes a magnitude. -/
theorem exists_units {s r : ℕ} (hs : s ≤ 2045) (hr : r < 2 ^ 53) (hlead : s ≠ 0 → 2 ^ 52 ≤ r) :
    ∃ m : Magnitude, m.units = r * 2 ^ s := by
  let m : Magnitude := ⟨s * 2 ^ 52 + r, by omega⟩
  obtain ⟨hscale, hsignificand⟩ := scale_significand_of_code (x := m) rfl hr hlead
  exact ⟨m, by rw [units, hscale, hsignificand]⟩

/-- Every natural number of at most 53 bits is a magnitude in units of at least `2 ^ 52`, and so
is `2 ^ 53`. -/
theorem exists_units_mul {k e : ℕ} (hk : k ≤ 2 ^ 53) (hlow : 52 ≤ e) (hhigh : e ≤ 2044) :
    ∃ m : Magnitude, m.units = k * 2 ^ e := by
  rcases Nat.eq_zero_or_pos k with rfl | hpos
  · exact ⟨.zero, by rw [units_zero, Nat.zero_mul]⟩
  rcases hk.eq_or_lt with rfl | hlt
  · obtain ⟨m, hm⟩ := exists_units (s := e + 1) (r := 2 ^ 52) (by omega) (by decide)
      fun _ => Nat.le_refl _
    exact ⟨m, hm.trans (by ring)⟩
  · -- The leading bit is moved up to the front of the significand.
    have hbits : k.log2 ≤ 52 := Nat.lt_succ_iff.1 ((Nat.log2_lt hpos.ne').2 hlt)
    obtain ⟨shift, hshift⟩ := Nat.exists_eq_add_of_le hbits
    have hlead : 2 ^ 52 ≤ k * 2 ^ shift := by
      have hlog := Nat.mul_le_mul_right (2 ^ shift) (Nat.log2_self_le hpos.ne')
      rwa [← pow_add, ← hshift] at hlog
    have hfit : k * 2 ^ shift < 2 ^ 53 := by
      have hlog := Nat.mul_lt_mul_of_pos_right (Nat.lt_log2_self (n := k)) (Nat.two_pow_pos shift)
      rwa [← pow_add, Nat.add_right_comm, ← hshift] at hlog
    obtain ⟨m, hm⟩ := exists_units (s := e - shift) (by omega) hfit fun _ => hlead
    refine ⟨m, hm.trans ?_⟩
    rw [mul_assoc, ← pow_add, Nat.add_sub_cancel' (by omega)]

end Magnitude

namespace Double

/-- The whole part of a number is not too long to be written. -/
theorem isLongInteger_of_truncate {x : Double} {n : ℤ} (h : x.truncate = .ok n) :
    isLongInteger n = false := by
  cases x with
  | finite negative m =>
      rw [truncate, Except.ok.injEq] at h
      have hfloor : n.natAbs = m.floor := by
        rw [← h]
        cases negative <;> simp
      exact isLongInteger_of_lt (by decide) (by decide) (hfloor.trans_lt m.floor_lt)
  | infinite _ | nan => cases h

/-- An integer is taken as the number that its units are rounded to, unless this is infinite. -/
theorem ofInt?_of_ofUnits {n : ℤ} {y : Double}
    (h : ofUnits (n < 0) (n.natAbs * 2 ^ 1074) 1 = y) :
    (∀ b m, y = .finite b m → ofInt? n = some y) ∧ (∀ b, y = .infinite b → ofInt? n = none) := by
  -- Applied to `n` the definition would be evaluated down to its units, so it is opened as a
  -- function.
  have hopen : ofInt? = ofInt? := rfl
  conv_rhs at hopen => delta ofInt?
  rw [hopen]
  beta_reduce
  rw [h]
  exact ⟨by rintro b m rfl; rfl, by rintro b rfl; rfl⟩

/-- An integer is taken as the number nearest to it, or it is too large. -/
theorem ofInt?_cases (n : ℤ) :
    (|n| < 2 ^ 1024 - 2 ^ 970 ∧ ∃ m, ofInt? n = some (.finite (decide (n < 0)) m) ∧
        IsNearest (decide (n < 0)) m n) ∨
      2 ^ 1024 - 2 ^ 970 ≤ |n| ∧ ofInt? n = none := by
  have hpos : (0 : ℚ) < 2 ^ 1074 := by positivity
  have hamount : signed (decide (n < 0)) |(n : ℚ)| = n := by
    by_cases hn : n < 0
    · have hcast : (n : ℚ) ≤ 0 := by exact_mod_cast hn.le
      simp [signed, hn, abs_of_nonpos hcast]
    · have hcast : (0 : ℚ) ≤ n := by exact_mod_cast not_lt.1 hn
      simp [signed, hn, abs_of_nonneg hcast]
  have hunits : ((n.natAbs * 2 ^ 1074 : ℕ) : ℚ) = |(n : ℚ)| * 2 ^ 1074 := by
    generalize 1074 = e
    push_cast
    rw [Nat.cast_natAbs, Int.cast_abs]
  have hlimit : |n| < 2 ^ 1024 - 2 ^ 970 ↔ n.natAbs * 2 ^ 1074 < Magnitude.limit * 1 := by
    have hcast : |n| < 2 ^ 1024 - 2 ^ 970 ↔ |(n : ℚ)| < 2 ^ 1024 - 2 ^ 970 := by
      exact_mod_cast Iff.rfl
    rw [hcast, ← mul_lt_mul_iff_of_pos_right hpos, ← Numeral.cast_limit, ← hunits, mul_one]
    exact_mod_cast Iff.rfl
  rcases ofUnits_cases (decide (n < 0)) (n.natAbs * 2 ^ 1074) Nat.one_pos with
    ⟨hlt, m, hm, hcaptures⟩ | ⟨hge, hinfinite⟩
  · refine .inl ⟨hlimit.2 hlt, m, (ofInt?_of_ofUnits hm).1 _ m rfl, ?_⟩
    rw [Nat.cast_one, div_one, hunits] at hcaptures
    rw [← hamount]
    exact isNearest_signed (abs_nonneg _) hcaptures.isNearest
  · exact .inr ⟨not_lt.1 (hlimit.not.2 hge.not_gt), (ofInt?_of_ofUnits hinfinite).2 _ rfl⟩

/-- An integer that is taken as a number is not too long to be written. -/
theorem isLongInteger_of_ofInt? {n : ℤ} {x : Double} (hx : ofInt? n = some x) :
    isLongInteger n = false := by
  obtain ⟨hlt, -⟩ | ⟨-, hnone⟩ := ofInt?_cases n
  · generalize hbits : 1024 = bits at hlt
    generalize 970 = e at hlt
    have hpos : (0 : ℤ) < 2 ^ e := by positivity
    have hbound : |n| < 2 ^ bits := hlt.trans (Int.sub_lt_self _ hpos)
    rw [Int.abs_eq_natAbs] at hbound
    have hfew : 0 < bits ∧ bits ≤ digitLimit := by
      rw [← hbits]
      decide
    exact isLongInteger_of_lt hfew.1 hfew.2 (by exact_mod_cast hbound)
  · cases hx.symm.trans hnone

theorem toRat_eq_zero_iff {negative : Bool} {m : Magnitude} :
    toRat negative m = 0 ↔ m.units = 0 := by
  have hpos : (2 ^ 1074 : ℚ) ≠ 0 := by positivity
  rw [toRat, div_eq_zero_iff, or_iff_left hpos]
  cases negative <;> simp [signedUnits]

/-- One and minus one are numbers. -/
theorem exists_toRat_one : ∃ one : Magnitude, ∀ negative, toRat negative one = signed negative 1 := by
  obtain ⟨one, hone⟩ := Magnitude.exists_units_mul (k := 1) (e := 1074) (by decide) (by decide)
    (by decide)
  refine ⟨one, fun negative => ?_⟩
  rw [toRat_eq_signed, hone]
  generalize 1074 = e
  rw [one_mul, Nat.cast_pow, Nat.cast_ofNat, div_self (by positivity)]

/-- To an integer that is not zero one or minus one is nearer than zero. -/
theorem eq_zero_of_isNearest {negative : Bool} {m : Magnitude} {n : ℤ}
    (h : IsNearest negative m n) (hm : toRat negative m = 0) : n = 0 := by
  obtain ⟨one, hone⟩ := exists_toRat_one
  by_contra hn
  rcases lt_or_gt_of_ne hn with hneg | hpos
  · have hcast : (n : ℚ) ≤ -1 := by exact_mod_cast Int.le_sub_one_of_lt hneg
    have hle := h.le true one
    rw [hm, hone, signed, if_pos rfl, zero_sub, abs_of_nonneg (by linarith),
      abs_of_nonneg (by linarith)] at hle
    linarith
  · have hcast : (1 : ℚ) ≤ n := by exact_mod_cast hpos
    have hle := h.le false one
    rw [hm, hone, signed, if_neg Bool.false_ne_true, zero_sub, abs_of_nonpos (by linarith),
      abs_of_nonpos (by linarith)] at hle
    linarith

/-- To zero nothing is nearer than itself. -/
theorem IsNearest.toRat_eq_zero {negative : Bool} {m : Magnitude} (h : IsNearest negative m 0) :
    toRat negative m = 0 := by
  have hle := h.le false .zero
  rw [toRat_eq_zero_iff.2 Magnitude.units_zero, sub_zero, sub_zero, abs_zero] at hle
  exact abs_nonpos_iff.1 hle

/-- Only zero is taken as a zero. -/
theorem isZero_of_ofInt? {n : ℤ} {x : Double} (hx : ofInt? n = some x) :
    x.isZero = decide (n = 0) := by
  obtain ⟨-, m, hm, hnearest⟩ | ⟨-, hnone⟩ := ofInt?_cases n
  · obtain rfl := Option.some.inj (hx.symm.trans hm)
    rw [isZero, Bool.eq_iff_iff, beq_iff_eq, decide_eq_true_iff, ← Magnitude.units_eq_zero_iff,
      ← toRat_eq_zero_iff]
    apply Iff.intro
    · exact eq_zero_of_isNearest hnearest
    · rintro rfl
      exact IsNearest.toRat_eq_zero (by exact_mod_cast hnearest)
  · cases hx.symm.trans hnone

/-- An integer up to `2 ^ 53` is the number that it is taken as. -/
theorem exists_ofInt?_of_le {n : ℤ} (hn : |n| ≤ 2 ^ 53) :
    ∃ m, ofInt? n = some (.finite (n < 0) m) ∧ m.units = n.natAbs * 2 ^ 1074 := by
  rw [Int.abs_eq_natAbs] at hn
  obtain ⟨m, hm⟩ := Magnitude.exists_units_mul (k := n.natAbs) (e := 1074) (by exact_mod_cast hn)
    (by decide) (by decide)
  have hunits := ofUnits_units (n < 0) m
  rw [hm] at hunits
  exact ⟨m, (ofInt?_of_ofUnits hunits).1 _ m rfl, hm⟩

/-- A number that is an integer is printed as the integer. -/
theorem plainNumber_of_units {n : ℤ} {m : Magnitude} (hm : m.units = n.natAbs * 2 ^ 1074) :
    plainNumber (.finite (n < 0) m) = integerText n := by
  have hunit : 0 < 2 ^ 1074 := by positivity
  have hwhole : m.isWhole = true := by
    rw [Magnitude.isWhole, hm]
    generalize 2 ^ 1074 = unit
    exact beq_iff_eq.2 (Nat.mul_mod_left _ _)
  have hfloor : m.floor = n.natAbs := by
    rw [Magnitude.floor, hm]
    exact Nat.mul_div_cancel _ hunit
  have hsigned : (if decide (n < 0) = true then -(n.natAbs : ℤ) else n.natAbs) = n := by
    by_cases hn : n < 0
    · rw [decide_eq_true hn, if_pos rfl, Int.ofNat_natAbs_of_nonpos hn.le, neg_neg]
    · rw [decide_eq_false hn, if_neg Bool.false_ne_true, Int.natAbs_of_nonneg (not_lt.1 hn)]
  rw [plainNumber, whole?, if_pos hwhole, hfloor, hsigned]

/-- Up to `2 ^ 53` integers are printed alike before and after they are taken as numbers. -/
theorem plainNumber_of_ofInt? {n : ℤ} {x : Double} (hn : |n| ≤ 2 ^ 53) (hx : ofInt? n = some x) :
    plainNumber x = integerText n := by
  obtain ⟨m, hm, hunits⟩ := exists_ofInt?_of_le hn
  obtain rfl := Option.some.inj (hx.symm.trans hm)
  exact plainNumber_of_units hunits

end Double

end FluentCalc
