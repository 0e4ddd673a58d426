/-
# Printed numbers read back

A finite number is printed as an integer or as a shortest decimal, positionally
or in scientific form. Each of these texts is shown to be a plain spelling whose
value is captured by the number that was printed, whatever the format. Reading
therefore gives the number back, except that messages do not show the sign of a
zero.
-/

import FluentCalc.Proofs.Decimal.Numeral
import FluentCalc.Proofs.Decimal.Shortest
import FluentCalc.Proofs.Double.Equality

namespace FluentCalc

open Text

namespace Layout

/-! ## The two forms of a decimal -/

/-- A text that spells an amount in plain form, without a sign and with a point or a power
of ten, so that it is not an integer. -/
def Spells (text : List Char) (amount : ℚ) : Prop :=
  ∃ s : Numeral.Spelling, s.IsPlain ∧ s.sign = none ∧ ¬ s.IsInteger ∧ s.text = text ∧
    s.numeral.magnitude = amount

theorem Spells.of_eq {text : List Char} {amount amount' : ℚ} (h : Spells text amount)
    (heq : amount = amount') : Spells text amount' :=
  heq ▸ h

/-- Digits around a point spell the number that they write. -/
theorem spells_point {whole fraction : List Char}
    (hdigits : ∀ c ∈ whole ++ fraction, c.isDigit = true) (hwhole : whole ≠ [])
    (hzero : whole.head? = some '0' → whole = ['0']) (hfraction : fraction ≠ []) :
    Spells (whole ++ '.' :: fraction)
      (digitsValue (whole ++ fraction) * 10 ^ (-(fraction.length : ℤ))) := by
  refine ⟨⟨none, whole, some fraction, none⟩,
    ⟨by simp, hwhole, hzero, by simpa using hfraction, hdigits, by simp⟩, rfl, ?_, ?_, ?_⟩
  · simp [Numeral.Spelling.IsInteger]
  · simp [Numeral.Spelling.text, Numeral.signText]
  · simp [Numeral.magnitude, Numeral.Spelling.numeral, Numeral.Spelling.digits]

/-- Positional digits spell the number that they write at their place. -/
theorem spells_positional {digits : List Char} (place : ℤ)
    (hdigits : ∀ c ∈ digits, c.isDigit = true) (hne : digits ≠ [])
    (hzero : digits.head? ≠ some '0') :
    Spells (positional digits place) (digitsValue digits * 10 ^ (place - digits.length)) := by
  have hzeros (n : ℕ) : ∀ c ∈ List.replicate n '0', c.isDigit = true := fun _ =>
    isAscii_of_mem_zeros
  unfold positional
  simp only
  split
  · -- The point stands in front of all digits.
    have hall : ['0'] ++ (List.replicate place.natAbs '0' ++ digits) =
        List.replicate (place.natAbs + 1) '0' ++ digits := rfl
    have hdigit : ∀ c ∈ ['0'] ++ (List.replicate place.natAbs '0' ++ digits),
        c.isDigit = true := by
      rw [hall]
      exact List.forall_mem_append.2 ⟨hzeros _, hdigits⟩
    refine (spells_point hdigit (by simp) (fun _ => rfl)
      (List.append_ne_nil_of_right_ne_nil _ hne)).of_eq ?_
    rw [hall, digitsValue_zeros_append]
    congr 2
    rw [List.length_append, List.length_replicate]
    omega
  · split
    · -- The point stands behind all digits.
      generalize hshift : place.toNat - digits.length = shift
      have hall : digits ++ List.replicate shift '0' ++ ['0'] =
          digits ++ List.replicate (shift + 1) '0' := by
        rw [List.append_assoc, List.replicate_succ']
      have hdigit : ∀ c ∈ digits ++ List.replicate shift '0' ++ ['0'], c.isDigit = true := by
        rw [hall]
        exact List.forall_mem_append.2 ⟨hdigits, hzeros _⟩
      refine (spells_point hdigit (List.append_ne_nil_of_left_ne_nil hne _)
        (fun h => absurd (List.head?_append_of_ne_nil digits hne ▸ h) hzero) (by simp)).of_eq ?_
      have hplace : place - digits.length = (shift : ℤ) := by omega
      rw [hall, digitsValue_append_zeros, hplace, zpow_natCast]
      push_cast
      rw [pow_succ, ← mul_assoc]
      simp
    · -- The point stands between the digits.
      have hall := List.take_append_drop place.toNat digits
      have hfront : digits.take place.toNat ≠ [] := by
        rw [ne_eq, List.take_eq_nil_iff, not_or]
        exact ⟨by omega, hne⟩
      have hback : digits.drop place.toNat ≠ [] := by
        rw [ne_eq, List.drop_eq_nil_iff]
        omega
      have hhead : (digits.take place.toNat).head? = digits.head? := by
        rw [← List.head?_append_of_ne_nil _ hfront, hall]
      refine (spells_point (hall.symm ▸ hdigits) hfront
        (fun h => absurd (hhead.symm.trans h) hzero) hback).of_eq ?_
      rw [hall]
      congr 2
      rw [List.length_drop]
      omega

/-- The exponent of a scientific form spells that exponent. -/
theorem exists_power_exponentText (e : ℤ) :
    ∃ p : Numeral.Power, p.IsPlain ∧ p.text = 'e' :: exponentText e ∧ p.exponent = e := by
  let digits := naturalDigits e.natAbs
  -- One zero is put in front of a single digit.
  obtain ⟨zeros, hpadded⟩ : ∃ zeros : ℕ, (if digits.length < 2 then '0' :: digits else digits) =
      List.replicate zeros '0' ++ digits := by
    split
    · exact ⟨1, rfl⟩
    · exact ⟨0, rfl⟩
  have hdigit : ∀ c ∈ List.replicate zeros '0' ++ digits, c.isDigit = true :=
    List.forall_mem_append.2
      ⟨fun _ => isAscii_of_mem_zeros, fun _ => isAscii_of_mem_naturalDigits⟩
  have hne : List.replicate zeros '0' ++ digits ≠ [] :=
    List.append_ne_nil_of_right_ne_nil _ (naturalDigits_ne_nil _)
  have hvalue : digitsValue (List.replicate zeros '0' ++ digits) = e.natAbs := by
    rw [digitsValue_zeros_append, digitsValue_naturalDigits]
  refine ⟨⟨'e', some (decide (e < 0)), List.replicate zeros '0' ++ digits⟩,
    ⟨rfl, hne, hdigit⟩, ?_, ?_⟩
  · rw [Numeral.Power.text, ← hpadded]
    by_cases hneg : e < 0
    · simp [Numeral.signText, exponentText, hneg, digits]
    · simp [Numeral.signText, exponentText, hneg, digits]
  · by_cases hneg : e < 0
    · simp only [Numeral.Power.exponent, hvalue, hneg, decide_true, ↓reduceIte]
      omega
    · simp only [Numeral.Power.exponent, hvalue, hneg, decide_false, Option.some.injEq,
        Bool.false_eq_true, ↓reduceIte]
      omega

/-- A digit with or without a fraction, and a power of ten, spell the number that they
write. -/
theorem spells_power {d : Char} (fraction : Option (List Char)) (e : ℤ)
    (hdigits : ∀ c ∈ d :: fraction.getD [], c.isDigit = true) (hfraction : fraction ≠ some []) :
    Spells (d :: fraction.elim [] ('.' :: ·) ++ 'e' :: exponentText e)
      (digitsValue (d :: fraction.getD []) * 10 ^ (e - (fraction.getD []).length)) := by
  obtain ⟨p, hp, htext, hexponent⟩ := exists_power_exponentText e
  refine ⟨⟨none, [d], fraction, some p⟩,
    ⟨by simp, by simp, by simp, hfraction, hdigits, ?_⟩, rfl, ?_, ?_, ?_⟩
  · rintro q ⟨⟩
    exact hp
  · simp [Numeral.Spelling.IsInteger]
  · simp [Numeral.Spelling.text, Numeral.signText, htext]
  · simp [Numeral.magnitude, Numeral.Spelling.numeral, Numeral.Spelling.digits, hexponent]

/-- Digits in scientific form spell the number that they write. -/
theorem spells_scientific (layout : Layout) {digits : List Char} (e : ℤ)
    (hdigits : ∀ c ∈ digits, c.isDigit = true) (hne : digits ≠ []) :
    Spells (scientific layout digits e)
      (digitsValue digits * 10 ^ (e + 1 - digits.length)) := by
  match digits, hne with
  | [d], _ =>
      by_cases hpoint : layout.pointInMantissa = true
      · have hzero : ∀ c ∈ d :: (some ['0']).getD [], c.isDigit = true := by
          simpa using hdigits
        have hspells := spells_power (some ['0']) e hzero (by simp)
        simp only [scientific, hpoint, ↓reduceIte]
        refine hspells.of_eq ?_
        -- The zero behind the point adds a digit and takes back a power of ten.
        have hvalue : digitsValue [d, '0'] = digitsValue [d] * 10 ^ 1 :=
          digitsValue_append_zeros [d] 1
        have hshift : (10 : ℚ) ^ e = 10 * 10 ^ (e - 1) := by
          rw [← zpow_one_add₀ (by norm_num)]
          congr 1
          ring
        simp only [Option.getD_some, hvalue, List.length_singleton, Nat.cast_one]
        rw [add_sub_cancel_right, hshift]
        push_cast
        ring
      · have hspells := spells_power none e (by simpa using hdigits) (by simp)
        simp only [scientific, hpoint, Bool.false_eq_true, ↓reduceIte]
        exact hspells.of_eq (by simp)
  | d :: c :: tail, _ =>
      refine (spells_power (some (c :: tail)) e hdigits (by simp)).of_eq ?_
      simp only [Option.getD_some, List.length_cons]
      congr 2
      push_cast
      ring

/-- The digits that are left when zeros are dropped from the end write the same
number at the same place. -/
theorem exists_append_replicate_zero (all : List Char) : ∃ zeros : ℕ,
    all = (all.reverse.dropWhile (· == '0')).reverse ++ List.replicate zeros '0' := by
  have hsplit := List.rdropWhile_append_rtakeWhile (p := (· == '0')) (l := all)
  have hzeros : List.rtakeWhile (· == '0') all =
      List.replicate (List.rtakeWhile (· == '0') all).length '0' :=
    List.eq_replicate_of_mem fun c hc => by simpa using List.mem_rtakeWhile_imp hc
  rw [hzeros] at hsplit
  exact ⟨_, hsplit.symm⟩

/-- **The text of a decimal spells that decimal.** -/
theorem spells_decimalText (layout : Layout) {d : Decimal} (hd : d.digits ≠ 0) :
    Spells (layout.decimalText d) d.value := by
  obtain ⟨zeros, hall⟩ := exists_append_replicate_zero (naturalDigits d.digits)
  unfold decimalText
  simp only
  generalize hkept : ((naturalDigits d.digits).reverse.dropWhile (· == '0')).reverse = kept at *
  have hdigits : ∀ c ∈ kept, c.isDigit = true := fun c hc =>
    isAscii_of_mem_naturalDigits (hall ▸ List.mem_append_left _ hc)
  have hvalue : d.digits = digitsValue kept * 10 ^ zeros := by
    rw [← digitsValue_naturalDigits d.digits, hall, digitsValue_append_zeros]
  have hne : kept ≠ [] := by
    rintro rfl
    rw [show digitsValue [] = 0 by rfl, Nat.zero_mul] at hvalue
    exact hd hvalue
  have hzero : kept.head? ≠ some '0' := by
    rw [← List.head?_append_of_ne_nil _ hne, ← hall]
    exact head?_naturalDigits_ne hd
  have hlength : ((naturalDigits d.digits).length : ℤ) = kept.length + zeros := by
    rw [hall]
    simp
  -- The decimal at the place of its leading digit is the decimal itself.
  have hplace : (digitsValue kept * 10 ^
      ((naturalDigits d.digits).length + d.exponent - kept.length) : ℚ) = d.value := by
    rw [hlength, Decimal.value, hvalue,
      show (kept.length + zeros + d.exponent - kept.length : ℤ) = zeros + d.exponent by ring,
      zpow_add₀ (by norm_num), zpow_natCast]
    push_cast
    ring
  split
  · exact (spells_positional ((naturalDigits d.digits).length + d.exponent) hdigits hne
      hzero).of_eq hplace
  · refine (spells_scientific layout ((naturalDigits d.digits).length + d.exponent - 1) hdigits
      hne).of_eq ?_
    rw [← hplace]
    congr 2
    ring

end Layout

/-! ## Printed numbers -/

namespace Magnitude

theorem floor_mul {m : Magnitude} (h : m.isWhole = true) : m.floor * 2 ^ 1074 = m.units :=
  Nat.div_mul_cancel (Nat.dvd_of_mod_eq_zero (beq_iff_eq.1 h))

theorem floor_eq_zero_iff {m : Magnitude} (h : m.isWhole = true) :
    m.floor = 0 ↔ m.code = 0 := by
  rw [← units_eq_zero_iff, ← floor_mul h]
  have hunit : 0 < 2 ^ 1074 := by positivity
  generalize 2 ^ 1074 = unit at hunit ⊢
  rw [Nat.mul_eq_zero, or_iff_left hunit.ne']

/-- A whole magnitude captures its whole part. -/
theorem captures_floor {m : Magnitude} (h : m.isWhole = true) :
    m.Captures (m.floor * 2 ^ 1074) := by
  have hunits : (m.units : ℚ) = m.floor * 2 ^ 1074 := by
    rw [← floor_mul h]
    generalize 1074 = e
    push_cast
    rfl
  exact hunits ▸ m.captures_units

theorem isWhole_of_code_eq_zero {m : Magnitude} (h : m.code = 0) : m.isWhole = true := by
  have hmod : ∀ unit, m.units % unit = 0 := fun unit => by
    rw [units_eq_zero_iff.2 h, Nat.zero_mod]
  exact beq_iff_eq.2 (hmod _)

end Magnitude

namespace Numeral.Spelling

/-- A spelling with its sign put in place. -/
theorem IsPlain.exists_signed {s : Spelling} (h : s.IsPlain) (hsign : s.sign = none)
    (negative : Bool) :
    ∃ t : Spelling, t.IsPlain ∧ (t.IsInteger ↔ s.IsInteger) ∧
      t.text = (if negative then ['-'] else []) ++ s.text ∧
      t.numeral.negative = negative ∧ t.numeral.magnitude = s.numeral.magnitude := by
  refine ⟨{ s with sign := if negative then some true else none },
    ⟨?_, h.whole_ne_nil, h.whole_zero, h.fraction_ne_nil, h.isDigit, h.power⟩, Iff.rfl, ?_, ?_,
    rfl⟩
  · cases negative <;> simp
  · cases negative <;> simp [text, signText, hsign]
  · cases negative <;> simp [numeral]

/-- An integer as it is spelled: its digits, behind a minus if it is below zero. -/
def ofInt (n : ℤ) : Spelling :=
  ⟨if n < 0 then some true else none, Layout.naturalDigits n.natAbs, none, none⟩

theorem isPlain_ofInt (n : ℤ) : (ofInt n).IsPlain := by
  refine ⟨?_, Layout.naturalDigits_ne_nil _, fun hzero => ?_, by simp [ofInt], ?_,
    by simp [ofInt]⟩
  · simp only [ofInt]
    split <;> simp
  · have hnought : n.natAbs = 0 := by
      by_contra hne
      exact Layout.head?_naturalDigits_ne hne hzero
    rw [ofInt, hnought]
    rfl
  · simpa [digits, ofInt] using
      fun c (hc : c ∈ Layout.naturalDigits n.natAbs) => Layout.isAscii_of_mem_naturalDigits hc

theorem isInteger_ofInt (n : ℤ) : (ofInt n).IsInteger := ⟨rfl, rfl⟩

theorem text_ofInt (n : ℤ) : (ofInt n).text = (integerText n).toList := by
  by_cases hneg : n < 0 <;> simp [text, ofInt, signText, integerText, hneg]

theorem numeral_ofInt_negative (n : ℤ) : (ofInt n).numeral.negative = decide (n < 0) := by
  by_cases hneg : n < 0 <;> simp [numeral, ofInt, hneg]

theorem numeral_ofInt_magnitude (n : ℤ) : (ofInt n).numeral.magnitude = n.natAbs := by
  simp [magnitude, numeral, digits, ofInt]

end Numeral.Spelling

/-- Shortest decimals of magnitudes other than zero are not zero. -/
theorem Decimal.shortest_digits_ne_zero {x : Magnitude} (hx : x.code ≠ 0) :
    (Decimal.shortest x).digits ≠ 0 := by
  intro hzero
  have hcaptures := Decimal.captures_shortest x
  rw [Decimal.value, hzero, Nat.cast_zero, zero_mul, zero_mul] at hcaptures
  exact hx hcaptures.code_eq_zero

/-- A whole number is spelled as an integer, where zero has no sign. -/
theorem exists_spelling_whole {m : Magnitude} (hwhole : m.isWhole = true) (negative : Bool) :
    ∃ s : Numeral.Spelling, s.IsPlain ∧
      s.text = (integerText (if negative then -(m.floor : ℤ) else m.floor)).toList ∧
      s.numeral.toDouble = .finite (negative && m.code != 0) m := by
  have hcode := Magnitude.floor_eq_zero_iff hwhole
  have hfloor : (if negative then -(m.floor : ℤ) else m.floor).natAbs = m.floor := by
    split <;> omega
  have hbelow : decide ((if negative then -(m.floor : ℤ) else m.floor) < 0) =
      (negative && m.code != 0) := by
    cases negative with
    | false => simp
    | true =>
        simp only [↓reduceIte, Left.neg_neg_iff, Bool.true_and]
        rw [Bool.eq_iff_iff, decide_eq_true_iff, bne_iff_ne, ne_eq, ← hcode]
        omega
  have hcaptures := Magnitude.captures_floor hwhole
  rw [← hfloor, ← Numeral.Spelling.numeral_ofInt_magnitude] at hcaptures
  refine ⟨_, Numeral.Spelling.isPlain_ofInt _, Numeral.Spelling.text_ofInt _, ?_⟩
  rw [Numeral.toDouble_of_captures (digitsValue_lt _) hcaptures,
    Numeral.Spelling.numeral_ofInt_negative, hbelow]

/-- In every layout a magnitude is spelled as an amount that it captures. -/
theorem exists_spells_magnitudeText (layout : Layout) (m : Magnitude) :
    ∃ amount, Layout.Spells (layout.magnitudeText m) amount ∧
      m.Captures (amount * 2 ^ 1074) := by
  by_cases hcode : m.code = 0
  · have hdigits : ∀ c ∈ ['0'] ++ ['0'], c.isDigit = true := by simp [Char.isDigit]
    have hspells := Layout.spells_point hdigits (by simp) (fun _ => rfl) (by simp)
    have hzero : digitsValue (['0'] ++ ['0']) = 0 := digitsValue_replicate_zero 2
    have hunits : (m.units : ℚ) = 0 := by
      exact_mod_cast Magnitude.units_eq_zero_iff.2 hcode
    rw [hzero, Nat.cast_zero, zero_mul] at hspells
    refine ⟨0, ?_, ?_⟩
    · rw [Layout.magnitudeText, if_pos hcode]
      exact hspells
    · rw [zero_mul, ← hunits]
      exact m.captures_units
  · refine ⟨_, ?_, Decimal.captures_shortest m⟩
    rw [Layout.magnitudeText, if_neg hcode]
    exact Layout.spells_decimalText layout (Decimal.shortest_digits_ne_zero hcode)

/-- **A finite number is spelled in every layout**, with its sign and with a point or a
power of ten. -/
theorem exists_spelling_text (layout : Layout) (negative : Bool) (m : Magnitude) :
    ∃ s : Numeral.Spelling, s.IsPlain ∧ ¬ s.IsInteger ∧
      s.text = (layout.text (.finite negative m)).toList ∧
      s.numeral.toDouble = .finite negative m := by
  obtain ⟨amount, ⟨s, hplain, hsign, hinteger, htext, rfl⟩, hcaptures⟩ :=
    exists_spells_magnitudeText layout m
  obtain ⟨t, htplain, htinteger, httext, htnegative, htmagnitude⟩ :=
    hplain.exists_signed hsign negative
  rw [← htmagnitude] at hcaptures
  refine ⟨t, htplain, htinteger.not.2 hinteger, ?_, ?_⟩
  · rw [httext, htext, Layout.text, String.toList_ofList]
  · rw [Numeral.toDouble_of_captures (digitsValue_lt _) hcaptures, htnegative]

/-- **What is printed for a finite number spells it.** Read with its sign and
rounded, the spelling is the number, without the sign if the number is zero. -/
theorem exists_spelling_plainNumber {x : Double} (hx : x.isFinite = true) :
    ∃ s : Numeral.Spelling, s.IsPlain ∧ s.text = (plainNumber x).toList ∧
      s.numeral.toDouble = x.unsignedZero := by
  cases x with
  | infinite _ => simp [Double.isFinite] at hx
  | nan => simp [Double.isFinite] at hx
  | finite negative m =>
      by_cases hwhole : m.isWhole = true
      · obtain ⟨s, hplain, htext, hdouble⟩ := exists_spelling_whole hwhole negative
        refine ⟨s, hplain, ?_, hdouble⟩
        simp [plainNumber, Double.whole?, hwhole, htext]
      · have hcode : m.code ≠ 0 := fun hzero => hwhole (Magnitude.isWhole_of_code_eq_zero hzero)
        obtain ⟨s, hplain, -, htext, hdouble⟩ := exists_spelling_text .standard negative m
        refine ⟨s, hplain, ?_, ?_⟩
        · simp [plainNumber, Double.whole?, hwhole, htext]
        · rw [hdouble, Double.unsignedZero, bne_iff_ne.2 hcode, Bool.and_true]

/-- **Printed numbers read back.** The number that is read is the printed one,
without its sign if it is zero. -/
theorem number?_plainNumber {x : Double} (hx : x.isFinite = true) :
    number? (plainNumber x).toList = .ok x.unsignedZero := by
  obtain ⟨s, hplain, htext, hdouble⟩ := exists_spelling_plainNumber hx
  have hfinite : x.unsignedZero.isFinite = true := by rw [Double.isFinite_unsignedZero, hx]
  simp [number?, ← htext, Numeral.strip_text hplain.isValid,
    Numeral.ofChars?_text hplain.isValid, hdouble, hfinite]

/-- A printed number has no blank character and no bracket in it. -/
theorem plainNumber_chars {x : Double} (hx : x.isFinite = true) :
    ∀ c ∈ (plainNumber x).toList, isBlank c = false ∧ c ≠ ')' := by
  obtain ⟨s, hplain, htext, -⟩ := exists_spelling_plainNumber hx
  exact fun c hc => Numeral.text_chars hplain.isValid (htext ▸ hc)

/-- The sign of a zero is not printed. -/
theorem plainNumber_unsignedZero (x : Double) : plainNumber x.unsignedZero = plainNumber x := by
  cases x with
  | infinite _ => rfl
  | nan => rfl
  | finite negative m =>
      by_cases hcode : m.code = 0
      · have hwhole := Magnitude.isWhole_of_code_eq_zero hcode
        have hfloor := (Magnitude.floor_eq_zero_iff hwhole).2 hcode
        simp [Double.unsignedZero, plainNumber, Double.whole?, hwhole, hfloor]
      · rw [Double.unsignedZero, bne_iff_ne.2 hcode, Bool.and_true]

/-- Finite numbers are printed alike exactly when they are equal. -/
theorem plainNumber_eq_iff {x y : Double} (hx : x.isFinite = true) (hy : y.isFinite = true) :
    plainNumber x = plainNumber y ↔ x.same y = true := by
  rw [Double.same_iff_unsignedZero hx hy]
  apply Iff.intro
  · intro heq
    have hread := number?_plainNumber hx
    rw [heq, number?_plainNumber hy] at hread
    exact (Except.ok.inj hread).symm
  · intro heq
    rw [← plainNumber_unsignedZero x, heq, plainNumber_unsignedZero y]

/-- There are no gaps in a printed number. -/
theorem not_isGap_of_mem_plainNumber {x : Double} (hx : x.isFinite = true) :
    ∀ c ∈ (plainNumber x).toList, isGap c = false := by
  obtain ⟨s, hplain, htext, -⟩ := exists_spelling_plainNumber hx
  exact fun c hc => Numeral.not_isGap_of_mem_text hplain.isValid (htext ▸ hc)

/-- **Printed numbers stand for themselves.** What is printed for a finite number fits
between the brackets of a call: it has neither white space nor a closing bracket in it. It is
read as a number that is equal to the printed one, and no number that is not equal is printed
alike. -/
theorem plainNumber_faithful {x : Double} (hx : x.isFinite = true) :
    (∀ c ∈ (plainNumber x).toList, isBlank c = false ∧ isGap c = false ∧ c ≠ ')') ∧
      (∃ y, number? (plainNumber x).toList = .ok y ∧ y.same x = true) ∧
      ∀ y : Double, y.isFinite = true → (plainNumber x = plainNumber y ↔ x.same y = true) := by
  refine ⟨fun c hc => ?_, ?_, fun y hy => plainNumber_eq_iff hx hy⟩
  · obtain ⟨hblank, hbracket⟩ := plainNumber_chars hx c hc
    exact ⟨hblank, not_isGap_of_mem_plainNumber hx c hc, hbracket⟩
  · exact ⟨x.unsignedZero, number?_plainNumber hx, Double.unsignedZero_same hx⟩

/-- The negative number next to zero is read back as itself, and zero is printed otherwise. -/
theorem plainNumber_faithful_next_to_zero :
    let x : Double := .finite true ⟨1, by decide⟩
    x.isFinite = true ∧ plainNumber x = "-5e-324" ∧
      (∃ y, number? "-5e-324".toList = .ok y ∧ y.same x = true) ∧
      plainNumber x ≠ plainNumber .zero := by
  have hprinted : plainNumber (.finite true ⟨1, by decide⟩) = "-5e-324" := by decide +kernel
  obtain ⟨-, hread, hdistinct⟩ := plainNumber_faithful (x := .finite true ⟨1, by decide⟩) rfl
  refine ⟨rfl, hprinted, hprinted ▸ hread, fun heq => ?_⟩
  have hsame := (hdistinct .zero rfl).1 heq
  revert hsame
  decide

end FluentCalc
