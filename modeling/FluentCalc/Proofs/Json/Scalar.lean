/-
# The parts of JSON read back

What is written for a number, a word or a string is followed by a mark that
closes it: white space, a comma or a bracket. Reading takes exactly what was
written and leaves that mark. A number is read as an integer just if it was
spelled without a point and without a power of ten, and every character of a
string is read back from the escape that stands for it.
-/

import FluentCalc.Json.Reader
import FluentCalc.Json.Writer
import FluentCalc.Proofs.Decimal.RoundTrip

namespace FluentCalc.Json

open Text

/-! ## What closes a value -/

/-- What stands behind a value closes it: nothing, white space, or the mark behind an
item. -/
def Closes (rest : List Char) : Prop :=
  ∀ c ∈ rest.head?, isSpace c = true ∨ c ∈ [',', ']', '\x7d']

theorem closes_nil : Closes [] := by
  simp [Closes]

theorem closes_cons {c : Char} (h : c ∈ [',', ']', '\x7d']) (rest : List Char) :
    Closes (c :: rest) := by
  rintro d ⟨⟩
  exact .inr h

/-- White space closes, and so does what closes behind it. -/
theorem closes_append {pad rest : List Char} (hpad : ∀ c ∈ pad, isSpace c = true)
    (hrest : Closes rest) : Closes (pad ++ rest) := by
  cases pad with
  | nil => exact hrest
  | cons c tail =>
      rintro d ⟨⟩
      exact .inl (hpad c List.mem_cons_self)

/-- What closes a value does not go on with a number. -/
theorem Closes.head {rest : List Char} (h : Closes rest) {c : Char} (hc : c ∈ rest.head?) :
    c.isDigit = false ∧ c ∉ ['.', 'e', 'E'] := by
  have hmarks : c ∈ [' ', '\t', '\n', '\r', ',', ']', '\x7d'] := by
    simpa [isSpace, or_assoc] using h c hc
  have happart : ∀ d ∈ [' ', '\t', '\n', '\r', ',', ']', '\x7d'],
      d.isDigit = false ∧ d ∉ ['.', 'e', 'E'] := by simp [Char.isDigit]
  exact happart c hmarks

/-- A text that is read as a value, whatever closes it. It begins with a mark that is no
white space and closes no list, and twice its length in steps is enough for it. -/
structure Reads (text : List Char) (v : Value) : Prop where
  front : ∃ c tail, text = c :: tail ∧ isSpace c = false ∧ c ≠ ']'
  read : ∀ rest fuel, Closes rest → 2 * text.length ≤ fuel →
    readValue fuel (text ++ rest) = .ok (v, rest)

/-- Whether a scalar may begin with a character: white space, quotes and brackets have
another meaning. -/
def isFrontOfScalar (c : Char) : Bool :=
  c ∉ [' ', '\t', '\n', '\r', '\x22', '[', ']', '\x7b']

theorem isFrontOfScalar_of_isDigit {c : Char} (h : c.isDigit = true) :
    isFrontOfScalar c = true := by
  have happart : ∀ d ∈ [' ', '\t', '\n', '\r', '\x22', '[', ']', '\x7b'],
      d.isDigit = false := by simp [Char.isDigit]
  rw [isFrontOfScalar, decide_eq_true_eq]
  intro hmem
  rw [happart c hmem] at h
  cases h

/-- What is read as a scalar is read as a value. -/
theorem reads_scalar {c : Char} {tail : List Char} {v : Value} (hc : isFrontOfScalar c = true)
    (hread : ∀ rest, Closes rest → readScalar (c :: tail ++ rest) = .ok (v, rest)) :
    Reads (c :: tail) v := by
  simp only [isFrontOfScalar, decide_eq_true_eq, List.mem_cons, List.not_mem_nil, or_false,
    not_or] at hc
  obtain ⟨hblank, htab, hfeed, hreturn, hquote, hopen, hclose, hbrace⟩ := hc
  refine ⟨⟨c, tail, rfl, by simp [isSpace, hblank, htab, hfeed, hreturn], hclose⟩,
    fun rest fuel hrest hfuel => ?_⟩
  match fuel, hfuel with
  | fuel + 1, _ =>
      rw [← hread rest hrest]
      simp [readValue, hquote, hopen, hbrace]

/-! ## Numbers -/

section Numbers

variable {rest : List Char}

theorem takeWhile_isAsciiDigit {digits : List Char} (hdigits : ∀ c ∈ digits, c.isDigit = true)
    (hstop : ∀ c ∈ rest.head?, c.isDigit = false) :
    (digits ++ rest).takeWhile isAsciiDigit = digits :=
  takeWhile_run hdigits hstop

theorem dropWhile_isAsciiDigit {digits : List Char} (hdigits : ∀ c ∈ digits, c.isDigit = true)
    (hstop : ∀ c ∈ rest.head?, c.isDigit = false) :
    (digits ++ rest).dropWhile isAsciiDigit = rest :=
  dropWhile_run hdigits hstop

/-- Digits without a zero in front are taken up to what is no digit. -/
theorem wholeDigits?_run {digits : List Char} (hdigits : ∀ c ∈ digits, c.isDigit = true)
    (hne : digits ≠ []) (hzero : digits.head? = some '0' → digits = ['0'])
    (hstop : ∀ c ∈ rest.head?, c.isDigit = false) :
    wholeDigits? (digits ++ rest) = some (digits, rest) := by
  by_cases hhead : digits.head? = some '0'
  · rw [hzero hhead]
    rfl
  · have hempty : digits.isEmpty = false := by simpa using hne
    unfold wholeDigits?
    split
    · rename_i tail heq
      have hfront : (digits ++ rest).head? = digits.head? :=
        List.head?_append_of_ne_nil digits hne
      rw [heq] at hfront
      exact absurd hfront.symm hhead
    · simp only [takeWhile_isAsciiDigit hdigits hstop, dropWhile_isAsciiDigit hdigits hstop,
        hempty, Bool.false_eq_true, ↓reduceIte]

/-- A point with digits behind it is taken up to what is no digit. -/
theorem fraction_run {digits? : Option (List Char)}
    (hdigits : ∀ c ∈ digits?.getD [], c.isDigit = true) (hne : digits? ≠ some [])
    (hstop : ∀ c ∈ rest.head?, c.isDigit = false ∧ c ≠ '.') :
    fraction (digits?.elim [] ('.' :: ·) ++ rest) = (digits?.elim [] ('.' :: ·), rest) := by
  cases digits? with
  | none =>
      simp only [Option.elim_none, List.nil_append]
      unfold fraction
      split
      · exact absurd rfl (hstop '.' rfl).2
      · rfl
  | some digits =>
      have hempty : digits.isEmpty = false := by simpa using hne
      have hend : ∀ c ∈ rest.head?, c.isDigit = false := fun c hc => (hstop c hc).1
      simp only [Option.getD_some] at hdigits
      simp only [Option.elim_some, List.cons_append, fraction,
        takeWhile_isAsciiDigit hdigits hend, dropWhile_isAsciiDigit hdigits hend, hempty,
        Bool.false_eq_true, ↓reduceIte]

/-- A power of ten is taken up to what is no digit. -/
theorem exponentPart_text {p : Numeral.Power} (h : p.IsPlain)
    (hstop : ∀ c ∈ rest.head?, c.isDigit = false) :
    exponentPart (p.text ++ rest) = (p.text, rest) := by
  have hempty : p.digits.isEmpty = false := by simpa using h.ne_nil
  have htake := takeWhile_isAsciiDigit h.isDigit hstop
  have hdrop := dropWhile_isAsciiDigit h.isDigit hstop
  simp only [Numeral.Power.text, h.mark, List.cons_append, List.append_assoc]
  cases hsign : p.sign with
  | some negative =>
      cases negative <;>
        simp [exponentPart, Numeral.signText, htake, hdrop, hempty]
  | none =>
      obtain ⟨d, tail, hdigits⟩ := List.exists_cons_of_ne_nil h.ne_nil
      have hd := h.isDigit d (hdigits ▸ List.mem_cons_self)
      have hplus : d ≠ '+' := by
        rintro rfl
        exact absurd hd (by decide)
      have hminus : d ≠ '-' := by
        rintro rfl
        exact absurd hd (by decide)
      rw [hdigits] at htake hdrop hempty ⊢
      simp only [Numeral.signText, List.nil_append, List.cons_append] at htake hdrop ⊢
      unfold exponentPart
      simp [hplus, hminus, htake, hdrop]

/-- A power of ten that may be missing is taken if it is there. -/
theorem exponentPart_elim {power : Option Numeral.Power} (h : ∀ p ∈ power, p.IsPlain)
    (hrest : Closes rest) :
    exponentPart (power.elim [] Numeral.Power.text ++ rest) =
      (power.elim [] Numeral.Power.text, rest) := by
  cases power with
  | some p => exact exponentPart_text (h p rfl) fun c hc => (hrest.head hc).1
  | none =>
      cases rest with
      | nil => rfl
      | cons c tail =>
          have hmark := (hrest.head (c := c) rfl).2
          simp only [List.mem_cons, not_or] at hmark
          simp [exponentPart, hmark]

/-- Behind the digits of a number stands no digit and no point. -/
theorem head_power {power : Option Numeral.Power} (h : ∀ p ∈ power, p.IsPlain)
    (hrest : Closes rest) :
    ∀ c ∈ (power.elim [] Numeral.Power.text ++ rest).head?, c.isDigit = false ∧ c ≠ '.' := by
  intro c hc
  cases power with
  | none =>
      obtain ⟨hdigit, hmark⟩ := hrest.head hc
      simp only [List.mem_cons, not_or] at hmark
      exact ⟨hdigit, hmark.1⟩
  | some p =>
      obtain rfl : p.mark = c := by simpa [Numeral.Power.text] using hc
      rw [(h p rfl).mark]
      decide

/-- Behind the whole digits of a number stands no digit. -/
theorem head_fraction {s : Numeral.Spelling} (h : s.IsPlain) (hrest : Closes rest) :
    ∀ c ∈ (s.fraction.elim [] ('.' :: ·) ++ (s.power.elim [] Numeral.Power.text ++ rest)).head?,
      c.isDigit = false := by
  intro c hc
  cases hfraction : s.fraction with
  | none =>
      rw [hfraction] at hc
      exact (head_power h.power hrest c hc).1
  | some digits =>
      obtain rfl : '.' = c := by simpa [hfraction] using hc
      decide

/-- **A plain spelling is read whole.** It is read as an integer if it has neither a point
nor a power of ten, and as the double that it spells otherwise. -/
theorem readNumber_text {s : Numeral.Spelling} (h : s.IsPlain) (hrest : Closes rest) :
    readNumber (s.text ++ rest) =
      if s.IsInteger then
        if digitLimit < s.whole.length then .error (.tooManyDigits s.whole.length)
        else .ok (.int (if s.sign = none then digitsValue s.whole else -digitsValue s.whole), rest)
      else .ok (.num s.numeral.toDouble, rest) := by
  have hwhole := wholeDigits?_run (fun c hc => h.isDigit c (List.mem_append_left _ hc))
    h.whole_ne_nil h.whole_zero (head_fraction h hrest)
  have hfraction := fraction_run (fun c hc => h.isDigit c (List.mem_append_right _ hc))
    h.fraction_ne_nil (head_power h.power hrest)
  have hpower := exponentPart_elim h.power hrest
  have hinteger : ((s.fraction.elim [] ('.' :: ·)).isEmpty &&
      (s.power.elim [] Numeral.Power.text).isEmpty) = decide s.IsInteger := by
    cases hf : s.fraction <;> cases hp : s.power <;>
      simp [Numeral.Spelling.IsInteger, Numeral.Power.text, hf, hp]
  have hnumeral := Numeral.ofChars?_text h.isValid
  have htext : s.text ++ rest = Numeral.signText s.sign ++ (s.whole ++
      (s.fraction.elim [] ('.' :: ·) ++ (s.power.elim [] Numeral.Power.text ++ rest))) := by
    simp only [Numeral.Spelling.text, List.append_assoc]
  rw [Numeral.Spelling.text] at hnumeral
  rw [htext]
  cases hsign : s.sign with
  | some negative =>
      cases negative with
      | false => exact absurd hsign h.sign
      | true =>
          simp only [hsign, Numeral.signText, List.cons_append, List.nil_append] at hnumeral ⊢
          simp [readNumber, hwhole, hfraction, hpower, hinteger, hnumeral]
  | none =>
      -- Without a sign there is a digit in front, which is no minus.
      obtain ⟨d, tail, hdigits⟩ := List.exists_cons_of_ne_nil h.whole_ne_nil
      have hminus : d ≠ '-' := by
        rintro rfl
        exact absurd (h.isDigit '-' (List.mem_append_left _ (hdigits ▸ List.mem_cons_self)))
          (by decide)
      simp only [hsign, hdigits, Numeral.signText, List.nil_append, List.cons_append]
        at hnumeral hwhole ⊢
      simp [readNumber, hminus, hwhole, hfraction, hpower, hinteger, hnumeral]

end Numbers

/-! ## Words and other scalars -/

/-- No word begins like a number. -/
theorem words_apart : ∀ word ∈ words.map Prod.fst, ∃ c d tail, word = c :: d :: tail ∧
    c.isDigit = false ∧ (c = '-' → d.isDigit = false) := by
  intro word hword
  simp only [words, List.map_cons, List.map_nil, List.mem_cons, List.not_mem_nil, or_false]
    at hword
  rcases hword with rfl | rfl | rfl | rfl | rfl | rfl
  all_goals exact ⟨_, _, _, rfl, by decide, by decide⟩

/-- Every word is read as the value that it stands for. -/
theorem reads_word : ∀ word ∈ words, Reads word.1 word.2 := by
  intro word hword
  simp only [words, List.mem_cons, List.not_mem_nil, or_false] at hword
  rcases hword with rfl | rfl | rfl | rfl | rfl | rfl
  all_goals exact reads_scalar (by decide) fun rest _ => rfl

/-- A plain spelling begins with a digit, or with a minus and a digit. -/
theorem front_of_plain {s : Numeral.Spelling} (h : s.IsPlain) :
    ∃ d tail, d.isDigit = true ∧ (s.text = d :: tail ∨ s.text = '-' :: d :: tail) := by
  obtain ⟨d, tail, hdigits⟩ := List.exists_cons_of_ne_nil h.whole_ne_nil
  refine ⟨d, tail ++ (s.fraction.elim [] ('.' :: ·) ++ s.power.elim [] Numeral.Power.text),
    h.isDigit d (List.mem_append_left _ (hdigits ▸ List.mem_cons_self)), ?_⟩
  cases hsign : s.sign with
  | none => exact .inl (by simp [Numeral.Spelling.text, Numeral.signText, hsign, hdigits])
  | some negative =>
      cases negative with
      | false => exact absurd hsign h.sign
      | true => exact .inr (by simp [Numeral.Spelling.text, Numeral.signText, hsign, hdigits])

/-- A plain spelling is no word. -/
theorem readScalar_text {s : Numeral.Spelling} (h : s.IsPlain) (rest : List Char) :
    readScalar (s.text ++ rest) = readNumber (s.text ++ rest) := by
  have hnone : words.find? (fun word => word.1.isPrefixOf (s.text ++ rest)) = none := by
    rw [List.find?_eq_none]
    intro word hword hbegin
    have hfront := List.isPrefixOf_iff_prefix.1 hbegin
    obtain ⟨c, e, back, heq, hc, he⟩ := words_apart word.1 (List.mem_map_of_mem hword)
    obtain ⟨d, tail, hd, htext⟩ := front_of_plain h
    rw [heq] at hfront
    rcases htext with htext | htext
    · rw [htext, List.cons_append, List.cons_prefix_cons] at hfront
      rw [hfront.1, hd] at hc
      cases hc
    · rw [htext, List.cons_append, List.cons_append, List.cons_prefix_cons,
        List.cons_prefix_cons] at hfront
      rw [hfront.2.1, hd] at he
      cases he hfront.1
  rw [readScalar, hnone]

/-- What a plain spelling is read as, whatever closes it, is its value. -/
theorem reads_of_readNumber {s : Numeral.Spelling} {v : Value} (h : s.IsPlain)
    (hread : ∀ rest, Closes rest → readNumber (s.text ++ rest) = .ok (v, rest)) :
    Reads s.text v := by
  have hscalar (rest : List Char) (hrest : Closes rest) :
      readScalar (s.text ++ rest) = .ok (v, rest) :=
    (readScalar_text h rest).trans (hread rest hrest)
  obtain ⟨d, tail, hd, htext | htext⟩ := front_of_plain h
  · rw [htext] at hscalar ⊢
    exact reads_scalar (isFrontOfScalar_of_isDigit hd) hscalar
  · rw [htext] at hscalar ⊢
    exact reads_scalar (by decide) hscalar

/-- An integer that is not too long is read as that integer. -/
theorem reads_int {n : ℤ} (h : (Layout.naturalDigits n.natAbs).length ≤ digitLimit) :
    Reads (integerText n).toList (.int n) := by
  rw [← Numeral.Spelling.text_ofInt]
  refine reads_of_readNumber (Numeral.Spelling.isPlain_ofInt n) fun rest hrest => ?_
  have hshort : ¬ digitLimit < (Numeral.Spelling.ofInt n).whole.length := by
    simpa [Numeral.Spelling.ofInt] using h
  have hvalue : (if (Numeral.Spelling.ofInt n).sign = none
      then (digitsValue (Numeral.Spelling.ofInt n).whole : ℤ)
      else -digitsValue (Numeral.Spelling.ofInt n).whole) = n := by
    by_cases hneg : n < 0
    · simp [Numeral.Spelling.ofInt, hneg, abs_of_neg hneg]
    · simp [Numeral.Spelling.ofInt, hneg, abs_of_nonneg (not_lt.1 hneg)]
  rw [readNumber_text (Numeral.Spelling.isPlain_ofInt n) hrest,
    if_pos (Numeral.Spelling.isInteger_ofInt n), if_neg hshort, hvalue]

/-- **Every double is read back**, the infinite ones and the one that is no number from
their words. -/
theorem reads_num (x : Double) : Reads (Layout.json.text x).toList (.num x) := by
  cases x with
  | nan => exact reads_word ("NaN".toList, .num .nan) (by simp [words])
  | infinite negative =>
      cases negative with
      | false => exact reads_word ("Infinity".toList, .num (.infinite false)) (by simp [words])
      | true => exact reads_word ("-Infinity".toList, .num (.infinite true)) (by simp [words])
  | finite negative m =>
      obtain ⟨s, hplain, hinteger, htext, hdouble⟩ := exists_spelling_text .json negative m
      rw [← htext, ← hdouble]
      exact reads_of_readNumber hplain fun rest hrest => by
        rw [readNumber_text hplain hrest, if_neg hinteger]

/-! ## Strings -/

/-- The digits of a number are as many as asked for. -/
theorem length_hex (width n : ℕ) : (hex width n).length = width := by
  induction width generalizing n with
  | zero => rfl
  | succ width ih => simp [hex, ih]

/-- The numeric escape of a control character stands for it, whatever follows. -/
theorem unicodeEscape?_hex {n : ℕ} (h : n < 32) (rest : List Char) :
    unicodeEscape? (hex 4 n ++ rest) = some (Char.ofNat n, rest) := by
  have hvalue : ∀ n < 32, hexValue? (hex 4 n) = some n := by decide
  have hfour : hexFour? (hex 4 n ++ rest) = some (n, rest) := by
    have htake : (hex 4 n ++ rest).take 4 = hex 4 n := List.take_left' (length_hex 4 n)
    have hdrop : (hex 4 n ++ rest).drop 4 = rest := List.drop_left' (length_hex 4 n)
    simp [hexFour?, htake, hdrop, length_hex, hvalue n h]
  have hhigh : isHighHalf n = false := by
    simp only [isHighHalf, Bool.and_eq_false_iff, decide_eq_false_iff_not]
    omega
  have hlow : isLowHalf n = false := by
    simp only [isLowHalf, Bool.and_eq_false_iff, decide_eq_false_iff_not]
    omega
  have hcharacter : character n = Char.ofNat n := by
    simp [character, hhigh, hlow]
  rw [unicodeEscape?, hfour]
  simp only [hhigh, hcharacter, Bool.false_and, Bool.false_eq_true, ↓reduceIte]
  -- Without a first half, a second escape is not looked at.
  split
  · split <;> rfl
  · rfl

/-- A character is read back from what it is written as. -/
theorem readString_escaped (c : Char) (rest : List Char) (fuel : ℕ) :
    readString (fuel + 1) (escaped c ++ rest) =
      (readString fuel rest).map fun (cs, rest) => (c :: cs, rest) := by
  unfold escaped
  split_ifs with hself hfeed hreturn htab hback hform hcontrol
  · simp only [Bool.or_eq_true, beq_iff_eq] at hself
    rcases hself with rfl | rfl <;> rfl
  · rw [beq_iff_eq.1 hfeed]
    rfl
  · rw [beq_iff_eq.1 hreturn]
    rfl
  · rw [beq_iff_eq.1 htab]
    rfl
  · rw [beq_iff_eq.1 hback]
    rfl
  · rw [beq_iff_eq.1 hform]
    rfl
  · simp [readString, unicodeEscape?_hex hcontrol]
  · simp only [Bool.or_eq_true, beq_iff_eq, not_or] at hself
    simp [readString, hself, hcontrol]

/-- The inside of a string is read back up to its closing quote. -/
theorem readString_flatMap {cs rest : List Char} {fuel : ℕ} (h : cs.length < fuel) :
    readString fuel (cs.flatMap escaped ++ '\x22' :: rest) = .ok (cs, rest) := by
  induction cs generalizing fuel with
  | nil =>
      match fuel, h with
      | fuel + 1, _ => rfl
  | cons c cs ih =>
      match fuel, h with
      | fuel + 1, h =>
          rw [List.flatMap_cons, List.append_assoc, readString_escaped,
            ih (by simpa using h)]
          rfl

/-- No character is written as nothing. -/
theorem length_le_flatMap_escaped (cs : List Char) : cs.length ≤ (cs.flatMap escaped).length := by
  induction cs with
  | nil => rfl
  | cons c cs ih =>
      have hpos : 0 < (escaped c).length := by
        unfold escaped
        split_ifs <;> simp
      rw [List.flatMap_cons, List.length_append, List.length_cons]
      omega

/-- Behind its opening quote, a string is read back up to its closing one. -/
theorem readString_string (s : String) (rest : List Char) :
    ∃ body, string s ++ rest = '\x22' :: body ∧
      readString (body.length + 1) body = .ok (s.toList, rest) := by
  refine ⟨s.toList.flatMap escaped ++ '\x22' :: rest, by simp [string], ?_⟩
  apply readString_flatMap
  have hlength := length_le_flatMap_escaped s.toList
  rw [List.length_append]
  omega

/-- **Every string is read back.** -/
theorem reads_text (s : String) : Reads (string s) (.text s) := by
  refine ⟨⟨'\x22', _, rfl, by decide, by decide⟩, fun rest fuel _ hfuel => ?_⟩
  obtain ⟨body, hbody, hread⟩ := readString_string s rest
  match fuel, hfuel with
  | fuel + 1, _ =>
      simp [hbody, readValue, hread, Except.map]

end FluentCalc.Json
