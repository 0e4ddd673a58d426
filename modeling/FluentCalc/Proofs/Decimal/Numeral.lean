/-
# How numerals are spelled

A `Spelling` is a numeral taken apart: its sign, the digits in front of and
behind the point, and its power of ten. The text of a well-formed spelling is
read back as the numeral that it spells, with nothing lost and nothing left
over, whatever the script of its digits.

The value of a numeral is the exact rational that it names. Reading rounds it
once: a numeral whose value lies in the interval of a magnitude is read as that
magnitude.
-/

import Mathlib.Algebra.Order.Field.Power
import Mathlib.Tactic.Linarith
import Mathlib.Tactic.NormNum
import Mathlib.Tactic.Positivity
import Mathlib.Tactic.Ring
import FluentCalc.Decimal.Layout
import FluentCalc.Decimal.Numeral
import FluentCalc.Proofs.Double.Nearest
import FluentCalc.Proofs.Text.Run

namespace FluentCalc

namespace Text

/-! ## Digits -/

/-- Characters are no digits where the digits of every script lie outside of their ranges. -/
theorem not_contains_of_isDigit {ranges : Ranges} {c : Char}
    (apart : ∀ nought ∈ digitZeros, ∀ interval ∈ ranges,
      nought + 9 < interval.1 ∨ interval.2 < nought)
    (h : isDigit c = true) : ranges.contains c = false := by
  obtain ⟨n, hn⟩ := Option.isSome_iff_exists.1 h
  obtain ⟨nought, hfound, -⟩ := Option.map_eq_some_iff.1 hn
  have hmem := List.mem_of_find?_eq_some hfound
  have hrange := List.find?_some hfound
  simp only [Bool.and_eq_true, decide_eq_true_eq] at hrange
  rw [Bool.eq_false_iff]
  intro hcontains
  obtain ⟨interval, hinterval, hlow, hhigh⟩ := (Ranges.contains_iff _ _).1 hcontains
  have := apart nought hmem interval hinterval
  omega

/-- No script has a digit that trimming removes. -/
theorem not_isBlank_of_isDigit {c : Char} (h : isDigit c = true) : isBlank c = false :=
  not_contains_of_isDigit (by decide) h

/-- No script has a digit that may stand between the parts of an expression. -/
theorem not_isGap_of_isDigit {c : Char} (h : isDigit c = true) : isGap c = false :=
  not_contains_of_isDigit (by decide) h

theorem ne_of_isDigit {c d : Char} (h : isDigit c = true) (hd : isDigit d = false) : c ≠ d := by
  rintro rfl
  simp [h] at hd

theorem digitsValue_append (front back : List Char) :
    digitsValue (front ++ back) = digitsValue front * 10 ^ back.length + digitsValue back := by
  induction back using List.reverseRecOn with
  | nil => simp [digitsValue]
  | append_singleton back c ih =>
      simp only [digitsValue, ← List.append_assoc, List.foldl_append, List.foldl_cons,
        List.foldl_nil, List.length_append, List.length_singleton, pow_succ] at ih ⊢
      rw [ih]
      ring

theorem digitsValue_singleton (c : Char) : digitsValue [c] = (digitValue? c).getD 0 := by
  simp [digitsValue]

/-- As many digits as there are bound the number that they write. -/
theorem digitsValue_lt (digits : List Char) : digitsValue digits < 10 ^ digits.length := by
  induction digits using List.reverseRecOn with
  | nil => simp [digitsValue]
  | append_singleton front c ih =>
      have hlast : (digitValue? c).getD 0 < 10 := by
        cases hc : digitValue? c with
        | none => simp
        | some n => exact digitValue?_lt hc
      rw [digitsValue_append, digitsValue_singleton, List.length_append, List.length_singleton,
        pow_succ]
      omega

theorem digitsValue_replicate_zero (n : ℕ) : digitsValue (List.replicate n '0') = 0 := by
  induction n with
  | zero => rfl
  | succ n ih =>
      rw [List.replicate_succ', digitsValue_append, ih, digitsValue_singleton]
      decide

/-- Zeros in front of digits do not change the number. -/
theorem digitsValue_zeros_append (n : ℕ) (digits : List Char) :
    digitsValue (List.replicate n '0' ++ digits) = digitsValue digits := by
  rw [digitsValue_append, digitsValue_replicate_zero, Nat.zero_mul, Nat.zero_add]

/-- Zeros behind digits shift them. -/
theorem digitsValue_append_zeros (digits : List Char) (n : ℕ) :
    digitsValue (digits ++ List.replicate n '0') = digitsValue digits * 10 ^ n := by
  rw [digitsValue_append, digitsValue_replicate_zero, List.length_replicate, Nat.add_zero]

/-- Digits of ASCII are digits. -/
theorem isDigit_of_ascii {c : Char} (h : c.isDigit = true) : isDigit c = true := by
  have hrange : 0x30 ≤ c.toNat ∧ c.toNat ≤ 0x30 + 9 := by
    simpa [Char.isDigit, UInt32.le_iff_toNat_le] using h
  simp [isDigit, digitValue?, digitZeros, hrange]

theorem isAscii_of_mem_zeros {n : ℕ} {c : Char} (h : c ∈ List.replicate n '0') :
    c.isDigit = true := by
  rw [List.eq_of_mem_replicate h]
  decide

end Text

namespace Layout

open Text

/-- The digits that numbers are written with. -/
theorem digitValue?_digitChar : ∀ n < 10, digitValue? (Nat.digitChar n) = some n := by
  decide

theorem isAscii_of_mem_naturalDigits {n : ℕ} {c : Char} (h : c ∈ naturalDigits n) :
    c.isDigit = true :=
  Nat.isDigit_of_mem_toDigits (by decide) (by decide) h

theorem naturalDigits_ne_nil (n : ℕ) : naturalDigits n ≠ [] := Nat.toDigits_ne_nil

/-- Only zero has a zero in front. -/
theorem head?_naturalDigits_ne {n : ℕ} (h : n ≠ 0) : (naturalDigits n).head? ≠ some '0' := by
  induction n using Nat.base_induction 10 (by decide) with
  | single m hm =>
      have hsingle : ∀ m < 10, m ≠ 0 → (naturalDigits m).head? ≠ some '0' := by decide
      exact hsingle m hm h
  | digit m k hk hm ih =>
      rw [naturalDigits, ← Nat.toDigits_append_toDigits (by decide) hm hk,
        List.head?_append_of_ne_nil _ Nat.toDigits_ne_nil]
      exact ih hm.ne'

/-- The digits of a number write that number. -/
@[simp]
theorem digitsValue_naturalDigits (n : ℕ) : digitsValue (naturalDigits n) = n := by
  induction n using Nat.base_induction 10 (by decide) with
  | single m hm =>
      rw [naturalDigits, Nat.toDigits_of_lt_base hm, digitsValue_singleton,
        digitValue?_digitChar m hm]
      rfl
  | digit m k hk hm ih =>
      rw [naturalDigits, ← Nat.toDigits_append_toDigits (by decide) hm hk, digitsValue_append,
        Nat.toDigits_of_lt_base hk, digitsValue_singleton, digitValue?_digitChar k hk]
      rw [naturalDigits] at ih
      rw [ih]
      simp
      ring

end Layout

/-- Different natural numbers have different texts. -/
theorem integerText_natCast_inj {m n : ℕ} : integerText m = integerText n ↔ m = n := by
  apply Iff.intro
  · intro h
    have hvalue : ∀ k : ℕ, Text.digitsValue (integerText k).toList = k := fun k => by
      rw [integerText, if_neg (by omega), String.toList_ofList, List.nil_append,
        Int.natAbs_natCast, Layout.digitsValue_naturalDigits]
    rw [← hvalue m, h, hvalue]
  · rintro rfl
    rfl

namespace Numeral

open Text

/-! ## Spellings -/

/-- A power of ten as it is spelled: its mark, its sign and its digits. -/
structure Power where
  mark : Char
  sign : Option Bool
  digits : List Char

/-- A numeral as it is spelled. There may be a sign, which is true for minus, a
point with the digits behind it, and a power of ten. -/
structure Spelling where
  sign : Option Bool
  whole : List Char
  fraction : Option (List Char)
  power : Option Power

/-- The text of a sign. -/
def signText : Option Bool → List Char
  | none => []
  | some true => ['-']
  | some false => ['+']

namespace Power

/-- The text of a power of ten. -/
def text (p : Power) : List Char := p.mark :: signText p.sign ++ p.digits

/-- The exponent that a power of ten spells. -/
def exponent (p : Power) : ℤ :=
  if p.sign = some true then -(digitsValue p.digits : ℤ) else digitsValue p.digits

/-- A power of ten has its mark and at least one digit. -/
structure IsValid (p : Power) : Prop where
  mark : p.mark = 'e' ∨ p.mark = 'E'
  ne_nil : p.digits ≠ []
  isDigit : ∀ c ∈ p.digits, isDigit c = true

end Power

namespace Spelling

/-- All digits in front of and behind the point. -/
def digits (s : Spelling) : List Char := s.whole ++ s.fraction.getD []

/-- The text of a spelling. -/
def text (s : Spelling) : List Char :=
  signText s.sign ++ (s.whole ++ ((s.fraction.elim [] ('.' :: ·)) ++ s.power.elim [] Power.text))

/-- The numeral that is spelled. -/
def numeral (s : Spelling) : Numeral where
  negative := s.sign = some true
  digits := digitsValue s.digits
  count := s.digits.length
  exponent := s.power.elim 0 Power.exponent - (s.fraction.getD []).length

/-- A spelling has a digit on at least one side of the point. -/
structure IsValid (s : Spelling) : Prop where
  ne_nil : s.digits ≠ []
  isDigit : ∀ c ∈ s.digits, isDigit c = true
  power : ∀ p ∈ s.power, p.IsValid

end Spelling

/-! ## Plain spellings -/

/-- A power of ten in plain form, with a small mark and digits of ASCII. -/
structure Power.IsPlain (p : Power) : Prop where
  mark : p.mark = 'e'
  ne_nil : p.digits ≠ []
  isDigit : ∀ c ∈ p.digits, c.isDigit = true

theorem Power.IsPlain.isValid {p : Power} (h : p.IsPlain) : p.IsValid :=
  ⟨.inl h.mark, h.ne_nil, fun c hc => isDigit_of_ascii (h.isDigit c hc)⟩

namespace Spelling

/-- A spelling in plain form, which is the form in which numbers are printed: no plus
in front, digits of ASCII on both sides of a point, and no zero that could be left out
in front. -/
structure IsPlain (s : Spelling) : Prop where
  sign : s.sign ≠ some false
  whole_ne_nil : s.whole ≠ []
  whole_zero : s.whole.head? = some '0' → s.whole = ['0']
  fraction_ne_nil : s.fraction ≠ some []
  isDigit : ∀ c ∈ s.digits, c.isDigit = true
  power : ∀ p ∈ s.power, p.IsPlain

theorem IsPlain.isValid {s : Spelling} (h : s.IsPlain) : s.IsValid :=
  ⟨List.append_ne_nil_of_left_ne_nil h.whole_ne_nil _,
    fun c hc => isDigit_of_ascii (h.isDigit c hc), fun p hp => (h.power p hp).isValid⟩

/-- A spelling of an integer, without a point and without a power of ten. -/
def IsInteger (s : Spelling) : Prop :=
  s.fraction = none ∧ s.power = none

instance (s : Spelling) : Decidable s.IsInteger :=
  inferInstanceAs (Decidable (_ ∧ _))

end Spelling

/-! ## Reading -/

/-- A sign is taken off what begins without one. -/
theorem takeSign_signText (sign : Option Bool) {rest : List Char}
    (hrest : ∀ c ∈ rest.head?, c ≠ '-' ∧ c ≠ '+') :
    takeSign (signText sign ++ rest) = (decide (sign = some true), rest) := by
  cases sign with
  | none =>
      cases rest with
      | nil => rfl
      | cons c tail =>
          obtain ⟨hminus, hplus⟩ := hrest c rfl
          simp only [signText, List.nil_append]
          unfold takeSign
          split
          · rename_i heq
            exact absurd (List.cons.inj heq).1 hminus
          · rename_i heq
            exact absurd (List.cons.inj heq).1 hplus
          · rfl
  | some negative => cases negative <;> rfl

theorem isDigit_minus : isDigit '-' = false := by decide

theorem isDigit_plus : isDigit '+' = false := by decide

theorem isDigit_point : isDigit '.' = false := by decide

theorem head_ne_sign_of_isDigit {digits : List Char}
    (hdigits : ∀ c ∈ digits, isDigit c = true) (hne : digits ≠ []) (rest : List Char) :
    ∀ c ∈ (digits ++ rest).head?, c ≠ '-' ∧ c ≠ '+' := by
  intro c hc
  obtain ⟨d, tail, rfl⟩ := List.exists_cons_of_ne_nil hne
  obtain rfl : d = c := by simpa using hc
  have hd := hdigits d List.mem_cons_self
  exact ⟨ne_of_isDigit hd isDigit_minus, ne_of_isDigit hd isDigit_plus⟩

/-- A well-formed power of ten is read as what it spells. -/
theorem exponent?_text {p : Power} (h : p.IsValid) : exponent? p.text = some p.exponent := by
  have hsign : takeSign (signText p.sign ++ p.digits) = (decide (p.sign = some true), p.digits) :=
    takeSign_signText p.sign (by simpa using head_ne_sign_of_isDigit h.isDigit h.ne_nil [])
  have hall : p.digits.all Text.isDigit = true := List.all_eq_true.2 h.isDigit
  have hempty : p.digits.isEmpty = false := by simpa using h.ne_nil
  have hmark : (p.mark == 'e' || p.mark == 'E') = true := by simpa using h.mark
  simp only [Power.text, List.cons_append, exponent?, hmark, ↓reduceIte, hsign, hall, hempty,
    Bool.not_true, Bool.or_self, Bool.false_eq_true, decide_eq_true_eq, Power.exponent]

/-- A power of ten begins with its mark, which is no digit and no point. -/
theorem head_of_power {power : Option Power} (h : ∀ p ∈ power, p.IsValid) :
    ∀ c ∈ (power.elim [] Power.text).head?, isDigit c = false ∧ c ≠ '.' := by
  intro c hc
  cases power with
  | none => simp at hc
  | some p =>
      obtain rfl : p.mark = c := by simpa [Power.text] using hc
      rcases (h p rfl).mark with heq | heq <;> rw [heq] <;> decide

/-- The point and the digits behind it are taken up to the power of ten. -/
theorem takeFraction_text {fraction : Option (List Char)} {rest : List Char}
    (hdigits : ∀ c ∈ fraction.getD [], isDigit c = true)
    (hrest : ∀ c ∈ rest.head?, isDigit c = false ∧ c ≠ '.') :
    takeFraction (fraction.elim [] ('.' :: ·) ++ rest) = (fraction.getD [], rest) := by
  cases fraction with
  | none =>
      cases rest with
      | nil => rfl
      | cons c tail =>
          have hpoint := (hrest c rfl).2
          simp only [Option.elim_none, List.nil_append, Option.getD_none]
          unfold takeFraction
          split
          · rename_i heq
            exact absurd (List.cons.inj heq).1 hpoint
          · rfl
  | some digits =>
      have hstop : ∀ c ∈ rest.head?, isDigit c = false := fun c hc => (hrest c hc).1
      simp only [Option.getD_some] at hdigits
      simp only [Option.elim_some, List.cons_append, takeFraction, Option.getD_some]
      rw [takeWhile_run hdigits hstop, dropWhile_run hdigits hstop]

/-- **Spellings are read back.** The text of a well-formed spelling is read as
the numeral that it spells. -/
theorem ofChars?_text {s : Spelling} (h : s.IsValid) : ofChars? s.text = some s.numeral := by
  have hwhole : ∀ c ∈ s.whole, isDigit c = true := fun c hc =>
    h.isDigit c (List.mem_append_left _ hc)
  have hfraction : ∀ c ∈ s.fraction.getD [], isDigit c = true := fun c hc =>
    h.isDigit c (List.mem_append_right _ hc)
  have hpower := head_of_power h.power
  -- What stands behind the whole digits is the point, the mark or nothing.
  have hstop : ∀ c ∈ (s.fraction.elim [] ('.' :: ·) ++ s.power.elim [] Power.text).head?,
      isDigit c = false := by
    intro c hc
    cases hf : s.fraction with
    | none =>
        rw [hf] at hc
        exact (hpower c hc).1
    | some digits =>
        obtain rfl : '.' = c := by simpa [hf] using hc
        exact isDigit_point
  have hsign : takeSign s.text = (decide (s.sign = some true),
      s.whole ++ (s.fraction.elim [] ('.' :: ·) ++ s.power.elim [] Power.text)) := by
    apply takeSign_signText s.sign
    by_cases hne : s.whole = []
    · cases hf : s.fraction with
      | none => exact absurd (by simp [Spelling.digits, hne, hf]) h.ne_nil
      | some digits => simp [hne]
    · exact head_ne_sign_of_isDigit hwhole hne _
  have hexponent : exponent? (s.power.elim [] Power.text) =
      some (s.power.elim 0 Power.exponent) := by
    cases hp : s.power with
    | none => rfl
    | some p => exact exponent?_text (h.power p hp)
  have hempty : s.digits.isEmpty = false := by simpa using h.ne_nil
  simp only [ofChars?, hsign, takeWhile_run hwhole hstop, dropWhile_run hwhole hstop,
    takeFraction_text hfraction hpower, hexponent]
  rw [← Spelling.digits, hempty]
  rfl

/-- Signs, points, marks and digits are all there is in a spelling. -/
theorem mem_text {s : Spelling} (h : s.IsValid) {c : Char} (hc : c ∈ s.text) :
    isDigit c = true ∨ c ∈ ['-', '+', '.', 'e', 'E'] := by
  have hsign (sign : Option Bool) (hmem : c ∈ signText sign) : c ∈ ['-', '+', '.', 'e', 'E'] := by
    cases sign with
    | none => simp [signText] at hmem
    | some negative => cases negative <;> simp_all [signText]
  simp only [Spelling.text, List.mem_append] at hc
  rcases hc with hc | hc | hc | hc
  · exact .inr (hsign _ hc)
  · exact .inl (h.isDigit c (List.mem_append_left _ hc))
  · cases hf : s.fraction with
    | none => simp [hf] at hc
    | some digits =>
        simp only [hf, Option.elim_some, List.mem_cons] at hc
        rcases hc with rfl | hc
        · exact .inr (by decide)
        · exact .inl (h.isDigit c (List.mem_append_right _ (by simpa [hf] using hc)))
  · cases hp : s.power with
    | none => simp [hp] at hc
    | some p =>
        have hvalid := h.power p hp
        simp only [hp, Option.elim_some, Power.text, List.cons_append, List.mem_cons,
          List.mem_append] at hc
        rcases hc with rfl | hc | hc
        · rcases hvalid.mark with heq | heq <;> rw [heq] <;> decide
        · exact .inr (hsign _ hc)
        · exact .inl (hvalid.isDigit c hc)

/-- There are no blank characters and no brackets in a spelling. -/
theorem text_chars {s : Spelling} (h : s.IsValid) {c : Char} (hc : c ∈ s.text) :
    isBlank c = false ∧ c ≠ ')' := by
  rcases mem_text h hc with hdigit | hmem
  · exact ⟨not_isBlank_of_isDigit hdigit, ne_of_isDigit hdigit (by decide)⟩
  · simp only [List.mem_cons, List.not_mem_nil, or_false] at hmem
    rcases hmem with rfl | rfl | rfl | rfl | rfl <;> decide

/-- There are no gaps in a spelling. -/
theorem not_isGap_of_mem_text {s : Spelling} (h : s.IsValid) {c : Char} (hc : c ∈ s.text) :
    isGap c = false := by
  rcases mem_text h hc with hdigit | hmem
  · exact not_isGap_of_isDigit hdigit
  · simp only [List.mem_cons, List.not_mem_nil, or_false] at hmem
    rcases hmem with rfl | rfl | rfl | rfl | rfl <;> decide

/-- Spellings have nothing to trim. -/
theorem strip_text {s : Spelling} (h : s.IsValid) : strip s.text = s.text :=
  strip_of_forall_not_blank fun _ hc => (text_chars h hc).1

/-! ## Values -/

/-- The exact value of a numeral without its sign. -/
def magnitude (n : Numeral) : ℚ := n.digits * 10 ^ n.exponent

/-- The value of a numeral in units, as the quotient that is rounded. -/
theorem magnitude_mul_unit (n : Numeral) : n.magnitude * 2 ^ 1074 =
    (n.digits * 10 ^ n.exponent.toNat * 2 ^ 1074 : ℕ) / (10 ^ (-n.exponent).toNat : ℕ) := by
  have hexponent : n.exponent = n.exponent.toNat - (-n.exponent).toNat := by omega
  rw [magnitude, hexponent, zpow_sub₀ (by norm_num), zpow_natCast, zpow_natCast, ← hexponent]
  generalize 1074 = e
  push_cast
  ring

/-- A numeral is read as the magnitude that captures its value. -/
theorem toDouble_of_captures {n : Numeral} {x : Magnitude} (hcount : n.digits < 10 ^ n.count)
    (h : x.Captures (n.magnitude * 2 ^ 1074)) : n.toDouble = .finite n.negative x := by
  rw [magnitude_mul_unit] at h
  rw [toDouble, Double.ofDecimal_eq_ofUnits _ _ hcount]
  exact Double.ofUnits_of_captures (by positivity) h _

end Numeral

end FluentCalc
