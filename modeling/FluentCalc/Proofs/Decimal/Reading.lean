/-
# Reading numbers

A text is a numeral exactly if some well-formed spelling has that text, and then it is read
as what is spelled. So the texts that are read as numbers are those that, once trimmed,
spell an amount below halfway from the largest number to the next power of two. What comes
of them is the nearest number, with the sign that is spelled. All other texts are refused,
and there are two reasons for it: what is left of the text is no numeral, or the amount is
too large.
-/

import FluentCalc.Proofs.Decimal.Numeral
import FluentCalc.Proofs.Double.Rounding

namespace FluentCalc

namespace Numeral

open Text

theorem exists_sign_of_takeSign (text : List Char) :
    ∃ sign, text = signText sign ++ (takeSign text).2 ∧
      (takeSign text).1 = decide (sign = some true) := by
  unfold takeSign
  split
  · exact ⟨some true, rfl, rfl⟩
  · exact ⟨some false, rfl, rfl⟩
  · exact ⟨none, rfl, rfl⟩

theorem exists_fraction_of_takeFraction (text : List Char) :
    ∃ fraction : Option (List Char),
      text = fraction.elim [] ('.' :: ·) ++ (takeFraction text).2 ∧
      fraction.getD [] = (takeFraction text).1 ∧
      ∀ c ∈ (takeFraction text).1, isDigit c = true := by
  unfold takeFraction
  split
  · next rest =>
      refine ⟨some (rest.takeWhile isDigit), ?_, rfl, fun c hc => List.mem_takeWhile_imp hc⟩
      exact (congrArg ('.' :: ·) List.takeWhile_append_dropWhile).symm
  · exact ⟨none, rfl, rfl, List.forall_mem_nil _⟩

theorem exists_power_of_exponent? {text : List Char} {e : ℤ} (h : exponent? text = some e) :
    ∃ power : Option Power, (∀ p ∈ power, p.IsValid) ∧ text = power.elim [] Power.text ∧
      e = power.elim 0 Power.exponent := by
  unfold exponent? at h
  split at h
  · obtain rfl := Option.some.inj h
    exact ⟨none, by simp, rfl, rfl⟩
  · next mark rest =>
      split at h
      · next hmark =>
          obtain ⟨sign, hrest, hnegative⟩ := exists_sign_of_takeSign rest
          generalize takeSign rest = taken at *
          obtain ⟨negative, digits⟩ := taken
          simp only at h hrest hnegative
          split at h
          · cases h
          · next hdigits =>
              obtain rfl := Option.some.inj h
              simp only [Bool.or_eq_true, not_or, List.isEmpty_iff, Bool.not_eq_true',
                Bool.not_eq_false, List.all_eq_true] at hdigits
              refine ⟨some ⟨mark, sign, digits⟩, ?_, ?_, ?_⟩
              · rintro p ⟨⟩
                exact ⟨by simpa using hmark, hdigits.1, hdigits.2⟩
              · rw [hrest]
                rfl
              · simp [Power.exponent, hnegative]
      · cases h

/-- **What is read is spelled.** Only the text of a well-formed spelling is a numeral. -/
theorem exists_spelling_of_ofChars? {text : List Char} {n : Numeral}
    (h : ofChars? text = some n) : ∃ s : Spelling, s.IsValid ∧ s.text = text ∧ s.numeral = n := by
  obtain ⟨sign, hsign, hnegative⟩ := exists_sign_of_takeSign text
  unfold ofChars? at h
  generalize takeSign text = taken at *
  obtain ⟨negative, body⟩ := taken
  obtain ⟨fraction, hfraction, hdigits, hisDigit⟩ :=
    exists_fraction_of_takeFraction (body.dropWhile isDigit)
  simp only at h hsign hnegative
  generalize takeFraction (body.dropWhile isDigit) = taken at *
  obtain ⟨behind, rest⟩ := taken
  simp only at h hfraction hdigits hisDigit
  split at h
  · cases h
  · next hne =>
      obtain ⟨e, hexponent, rfl⟩ := Option.map_eq_some_iff.1 h
      obtain ⟨power, hpower, hrest, rfl⟩ := exists_power_of_exponent? hexponent
      refine ⟨⟨sign, body.takeWhile isDigit, fraction, power⟩, ⟨?_, ?_, hpower⟩, ?_, ?_⟩
      · rw [Spelling.digits, hdigits]
        simpa using hne
      · rw [Spelling.digits, hdigits]
        exact List.forall_mem_append.2 ⟨fun c hc => List.mem_takeWhile_imp hc, hisDigit⟩
      · simp only [Spelling.text]
        rw [← hrest, ← hfraction, List.takeWhile_append_dropWhile, ← hsign]
      · simp [Spelling.numeral, Spelling.digits, hdigits, hnegative]

/-- The exact value of a numeral. -/
def value (n : Numeral) : ℚ := Double.signed n.negative n.magnitude

theorem magnitude_nonneg (n : Numeral) : 0 ≤ n.magnitude :=
  mul_nonneg (Nat.cast_nonneg _) (zpow_nonneg (by norm_num) _)

theorem abs_value (n : Numeral) : |n.value| = n.magnitude := by
  rw [value, Double.abs_signed, abs_of_nonneg n.magnitude_nonneg]

/-- The limit, which is counted in units, as an amount. -/
theorem cast_limit : (Magnitude.limit : ℚ) = (2 ^ 1024 - 2 ^ 970) * 2 ^ 1074 := by
  have hlimit : (Magnitude.limit : ℚ) = (2 ^ 54 - 1) * 2 ^ 2044 := by
    rw [Magnitude.limit]
    generalize 2044 = e
    push_cast
    ring
  have hpower : (2 : ℚ) ^ 1024 = 2 ^ 54 * 2 ^ 970 := by rw [← pow_add]
  have hunits : (2 : ℚ) ^ 2044 = 2 ^ 970 * 2 ^ 1074 := by rw [← pow_add]
  rw [hlimit, hunits, hpower, ← mul_assoc, sub_one_mul]

/-- A numeral is rounded to the nearest number below halfway from the largest number to the
next power of two. -/
theorem toDouble_cases {n : Numeral} (hcount : n.digits < 10 ^ n.count) :
    (|n.value| < 2 ^ 1024 - 2 ^ 970 ∧ ∃ m, n.toDouble = .finite n.negative m ∧
        Double.IsNearest n.negative m n.value) ∨
      2 ^ 1024 - 2 ^ 970 ≤ |n.value| ∧ n.toDouble = .infinite n.negative := by
  have hd : 0 < 10 ^ (-n.exponent).toNat := by positivity
  have hpos : (0 : ℚ) < 2 ^ 1074 := by positivity
  have hunits := n.magnitude_mul_unit
  rw [abs_value, toDouble, Double.ofDecimal_eq_ofUnits _ _ hcount]
  have hcases := Double.ofUnits_cases n.negative (n.digits * 10 ^ n.exponent.toNat * 2 ^ 1074) hd
  generalize n.digits * 10 ^ n.exponent.toNat * 2 ^ 1074 = amount at *
  generalize 10 ^ (-n.exponent).toNat = d at *
  have hlimit : n.magnitude < 2 ^ 1024 - 2 ^ 970 ↔ amount < Magnitude.limit * d := by
    have hd' : (0 : ℚ) < d := by exact_mod_cast hd
    rw [← mul_lt_mul_iff_of_pos_right hpos, ← cast_limit, hunits, div_lt_iff₀ hd']
    exact_mod_cast Iff.rfl
  rcases hcases with ⟨hlt, m, hm, hcaptures⟩ | ⟨hge, hinfinite⟩
  · refine .inl ⟨hlimit.2 hlt, m, hm, ?_⟩
    rw [← hunits] at hcaptures
    exact Double.isNearest_signed n.magnitude_nonneg hcaptures.isNearest
  · exact .inr ⟨not_lt.1 (hlimit.not.2 hge.not_gt), hinfinite⟩

section Spelled

variable {s : Spelling} {text : List Char}

theorem number?_of_spelling (h : s.IsValid) (htext : s.text = strip text) :
    number? text = if s.numeral.toDouble.isFinite then .ok s.numeral.toDouble
      else .error .outOfRange := by
  rw [number?, ← htext, ofChars?_text h]

/-- An amount below the limit is read as the number nearest to it. -/
theorem exists_number?_of_lt (h : s.IsValid) (htext : s.text = strip text)
    (hlt : |s.numeral.value| < 2 ^ 1024 - 2 ^ 970) :
    ∃ m, number? text = .ok (.finite s.numeral.negative m) ∧
      Double.IsNearest s.numeral.negative m s.numeral.value := by
  rcases toDouble_cases (n := s.numeral) (digitsValue_lt _) with ⟨-, m, hm, hnearest⟩ | ⟨hle, -⟩
  · refine ⟨m, ?_, hnearest⟩
    rw [number?_of_spelling h htext, hm]
    rfl
  · exact absurd hlt (not_lt.2 hle)

/-- An amount that is not below the limit is out of range. -/
theorem number?_of_le (h : s.IsValid) (htext : s.text = strip text)
    (hle : 2 ^ 1024 - 2 ^ 970 ≤ |s.numeral.value|) : number? text = .error .outOfRange := by
  rcases toDouble_cases (n := s.numeral) (digitsValue_lt _) with ⟨hlt, -⟩ | ⟨-, hinfinite⟩
  · exact absurd hlt (not_lt.2 hle)
  · rw [number?_of_spelling h htext, hinfinite]
    rfl

end Spelled

/-- What is not spelled is no number. -/
theorem number?_of_not_spelled {text : List Char}
    (h : ¬ ∃ s : Spelling, s.IsValid ∧ s.text = strip text) :
    number? text = .error .notANumber := by
  cases hread : ofChars? (strip text) with
  | none => rw [number?, hread]
  | some n =>
      obtain ⟨s, hs, htext, -⟩ := exists_spelling_of_ofChars? hread
      exact absurd ⟨s, hs, htext⟩ h

/-- A text is read as the number nearest to what it spells, or it spells too much, or it
spells nothing. -/
theorem number?_cases (text : List Char) :
    (∃ s : Spelling, s.IsValid ∧ s.text = strip text ∧
        |s.numeral.value| < 2 ^ 1024 - 2 ^ 970 ∧ ∃ m,
          number? text = .ok (.finite s.numeral.negative m) ∧
          Double.IsNearest s.numeral.negative m s.numeral.value) ∨
      (∃ s : Spelling, s.IsValid ∧ s.text = strip text ∧
        2 ^ 1024 - 2 ^ 970 ≤ |s.numeral.value| ∧ number? text = .error .outOfRange) ∨
      (¬ ∃ s : Spelling, s.IsValid ∧ s.text = strip text) ∧
        number? text = .error .notANumber := by
  by_cases hspelled : ∃ s : Spelling, s.IsValid ∧ s.text = strip text
  · obtain ⟨s, hs, htext⟩ := hspelled
    rcases lt_or_ge |s.numeral.value| (2 ^ 1024 - 2 ^ 970) with hlt | hle
    · exact .inl ⟨s, hs, htext, hlt, exists_number?_of_lt hs htext hlt⟩
    · exact .inr (.inl ⟨s, hs, htext, hle, number?_of_le hs htext hle⟩)
  · exact .inr (.inr ⟨hspelled, number?_of_not_spelled hspelled⟩)

end Numeral

open Text Numeral

/-- **Numbers are read exactly.** A text is read as a number exactly if it is, once trimmed,
a well-formed spelling of an amount below halfway from the largest number to the next power
of two. The number that is read is then the nearest to that amount, of two the even one, and
has the sign that is spelled. A text that is not a spelling is refused as no number, and one
that spells a larger amount as out of range. -/
theorem number?_eq_ok_iff (text : String) :
    (∀ x, number? text.toList = .ok x ↔ ∃ s : Spelling, s.IsValid ∧
        s.text = strip text.toList ∧ |s.numeral.value| < 2 ^ 1024 - 2 ^ 970 ∧
        ∃ m, x = .finite s.numeral.negative m ∧
          Double.IsNearest s.numeral.negative m s.numeral.value) ∧
      ((∃ x, number? text.toList = .ok x) ↔ ∃ s : Spelling, s.IsValid ∧
        s.text = strip text.toList ∧ |s.numeral.value| < 2 ^ 1024 - 2 ^ 970) ∧
      (number? text.toList = .error .notANumber ↔
        ¬ ∃ s : Spelling, s.IsValid ∧ s.text = strip text.toList) ∧
      (number? text.toList = .error .outOfRange ↔ ∃ s : Spelling, s.IsValid ∧
        s.text = strip text.toList ∧ 2 ^ 1024 - 2 ^ 970 ≤ |s.numeral.value|) := by
  have hcases := number?_cases text.toList
  refine ⟨fun x => ⟨fun hx => ?_, ?_⟩, ⟨?_, ?_⟩, ⟨fun hfault => ?_, number?_of_not_spelled⟩,
    fun hfault => ?_, ?_⟩
  · rcases hcases with ⟨s, hs, htext, hlt, m, hm, hnearest⟩ | ⟨-, -, -, -, hrange⟩ | ⟨-, hnone⟩
    · exact ⟨s, hs, htext, hlt, m, Except.ok.inj (hx.symm.trans hm), hnearest⟩
    · cases hx.symm.trans hrange
    · cases hx.symm.trans hnone
  · rintro ⟨s, hs, htext, hlt, m, rfl, hnearest⟩
    obtain ⟨m', hm', hnearest'⟩ := exists_number?_of_lt hs htext hlt
    rw [hm', hnearest.unique hnearest']
  · rintro ⟨x, hx⟩
    rcases hcases with ⟨s, hs, htext, hlt, -⟩ | ⟨-, -, -, -, hrange⟩ | ⟨-, hnone⟩
    · exact ⟨s, hs, htext, hlt⟩
    · cases hx.symm.trans hrange
    · cases hx.symm.trans hnone
  · rintro ⟨s, hs, htext, hlt⟩
    obtain ⟨m, hm, -⟩ := exists_number?_of_lt hs htext hlt
    exact ⟨_, hm⟩
  · rcases hcases with ⟨s, -, -, -, m, hm, -⟩ | ⟨-, -, -, -, hrange⟩ | ⟨hnot, -⟩
    · cases hfault.symm.trans hm
    · cases hfault.symm.trans hrange
    · exact hnot
  · rcases hcases with ⟨s, -, -, -, m, hm, -⟩ | ⟨s, hs, htext, hle, -⟩ | ⟨-, hnone⟩
    · cases hfault.symm.trans hm
    · exact ⟨s, hs, htext, hle⟩
    · cases hfault.symm.trans hnone
  · rintro ⟨s, hs, htext, hle⟩
    exact number?_of_le hs htext hle

/-- The last decimal of 17 digits below the limit is the largest number, the next one is none. -/
example : number? "1.7976931348623158e308".toList = .ok (.finite false Magnitude.last) ∧
    number? "1.7976931348623159e308".toList = .error .outOfRange := by
  decide +kernel

end FluentCalc
