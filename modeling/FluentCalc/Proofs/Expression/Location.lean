/-
# Lines, columns and offsets

An offset of a text has a line and a column: one more than the line feeds in front of it,
and one more than the characters behind the last of them. The column over the whole text
that is made of the two is the offset plus one.

A report of failure points there if it carries the line and the column, and also if it
lacks one of them and the first mark in its wording names both. Only numbers with more
digits than are converted are not read, be they as small as they may.
-/

import FluentCalc.Expression.Location
import FluentCalc.Proofs.Decimal.Numeral
import FluentCalc.Proofs.Text.Lines

namespace FluentCalc.Location

open Text

/-- The line of an offset. -/
def lineOf (source : List Char) (offset : ℕ) : ℕ :=
  (source.take offset).count '\n' + 1

/-- The column of an offset in its line. -/
def columnOf (source : List Char) (offset : ℕ) : ℕ :=
  ((source.take offset).reverse.takeWhile (· != '\n')).length + 1

/-- A text is lines that are ended and a piece of one that is not. -/
theorem exists_ended_lines (text : List Char) :
    ∃ (ended : List (List Char)) (tail : List Char), (∀ line ∈ ended, '\n' ∉ line) ∧ '\n' ∉ tail ∧
      text = ended.flatMap (· ++ ['\n']) ++ tail := by
  induction text with
  | nil => exact ⟨[], [], List.forall_mem_nil _, List.not_mem_nil, rfl⟩
  | cons c rest ih =>
      obtain ⟨ended, tail, hended, htail, rfl⟩ := ih
      by_cases hc : c = '\n'
      · subst hc
        exact ⟨[] :: ended, tail, List.forall_mem_cons.2 ⟨List.not_mem_nil, hended⟩, htail, rfl⟩
      · cases ended with
        | nil =>
            have hcons : '\n' ∉ c :: tail := by simp [Ne.symm hc, htail]
            exact ⟨[], c :: tail, List.forall_mem_nil _, hcons, rfl⟩
        | cons line ended =>
            rw [List.forall_mem_cons] at hended
            have hcons : '\n' ∉ c :: line := by simp [Ne.symm hc, hended.1]
            exact ⟨(c :: line) :: ended, tail, List.forall_mem_cons.2 ⟨hcons, hended.2⟩, htail, rfl⟩

section Ended

variable {ended : List (List Char)} {tail : List Char}

theorem count_ended (hended : ∀ line ∈ ended, '\n' ∉ line) (htail : '\n' ∉ tail) :
    (ended.flatMap (· ++ ['\n']) ++ tail).count '\n' = ended.length := by
  induction ended with
  | nil => exact List.count_eq_zero.2 htail
  | cons line ended ih =>
      rw [List.forall_mem_cons] at hended
      have hline : line.count '\n' = 0 := List.count_eq_zero.2 hended.1
      have hrest := ih hended.2
      rw [List.count_append] at hrest ⊢
      rw [List.flatMap_cons, List.count_append, List.count_append, hline]
      simp only [List.count_singleton_self, List.length_cons]
      omega

/-- Behind the last line feed there is the piece that is not ended. -/
theorem takeWhile_reverse_ended (htail : '\n' ∉ tail) :
    (ended.flatMap (· ++ ['\n']) ++ tail).reverse.takeWhile (· != '\n') = tail.reverse := by
  have hrun : ∀ c ∈ tail.reverse, (c != '\n') = true := by
    intro c hc
    rw [bne_iff_ne]
    rintro rfl
    exact htail (List.mem_reverse.1 hc)
  have hstop : ∀ c ∈ (ended.flatMap (· ++ ['\n'])).reverse.head?, (c != '\n') = false := by
    rcases List.eq_nil_or_concat ended with rfl | ⟨front, line, rfl⟩
    · simp
    · simp [List.flatMap_append]
  rw [List.reverse_append, takeWhile_run hrun hstop]

/-- The lines that are ended are those in front. -/
theorem take_splitAt_ended (hended : ∀ line ∈ ended, '\n' ∉ line) (rest : List Char) :
    (splitAt '\n' (ended.flatMap (· ++ ['\n']) ++ rest)).take ended.length = ended := by
  induction ended with
  | nil => rfl
  | cons line ended ih =>
      rw [List.forall_mem_cons] at hended
      rw [List.flatMap_cons, List.append_assoc, List.append_assoc, List.singleton_append,
        splitAt_append hended.1, List.length_cons, List.take_succ_cons, ih hended.2]

theorem foldr_length_ended (ended : List (List Char)) :
    ended.foldr (fun line total => line.length + 1 + total) 0 =
      (ended.flatMap (· ++ ['\n'])).length := by
  induction ended with
  | nil => rfl
  | cons line ended ih =>
      rw [List.foldr_cons, ih, List.flatMap_cons, List.length_append, List.length_append,
        List.length_singleton]

end Ended

/-- Also for the first line, the lines in front are counted with their line feeds. -/
theorem absoluteColumn_succ (source : List Char) (n : ℕ) (column : ℤ) :
    absoluteColumn source (n + 1 : ℕ) column =
      (((splitAt '\n' source).take n).foldr (fun line total => line.length + 1 + total) 0 : ℕ) +
        column := by
  cases n with
  | zero => simp [absoluteColumn]
  | succ n =>
      have hline : ¬ ((n + 1 + 1 : ℕ) : ℤ) ≤ 1 := by omega
      have hcount : (((n + 1 + 1 : ℕ) : ℤ) - 1).toNat = n + 1 := by omega
      rw [absoluteColumn, if_neg hline, hcount]

/-- **Lines and columns come from offsets and lead back to them.** -/
theorem absoluteColumn_of_offset {source : List Char} {offset : ℕ} (h : offset ≤ source.length) :
    absoluteColumn source (lineOf source offset) (columnOf source offset) = offset + 1 := by
  obtain ⟨ended, tail, hended, htail, hfront⟩ := exists_ended_lines (source.take offset)
  have hlength : (ended.flatMap (· ++ ['\n'])).length + tail.length = offset := by
    rw [← List.length_append, ← hfront, List.length_take_of_le h]
  have hsource : source = ended.flatMap (· ++ ['\n']) ++ (tail ++ source.drop offset) := by
    rw [← List.append_assoc, ← hfront, List.take_append_drop]
  have hlines : (splitAt '\n' source).take ended.length = ended := by
    rw [hsource]
    exact take_splitAt_ended hended _
  rw [lineOf, columnOf, hfront, count_ended hended htail, takeWhile_reverse_ended htail,
    absoluteColumn_succ, hlines, foldr_length_ended, List.length_reverse]
  omega

/-- Digits of any script, at least one. -/
structure IsNumeral (digits : List Char) : Prop where
  ne_nil : digits ≠ []
  isDigit : ∀ c ∈ digits, isDigit c = true

/-- How a mark is written. -/
def Mark.text (m : Mark) : List Char :=
  'L' :: (m.line ++ ':' :: 'C' :: m.column)

/-- A mark is written at the front of a text, with all digits that are there in its column. -/
structure Mark.Begins (m : Mark) (text : List Char) : Prop where
  line : IsNumeral m.line
  column : IsNumeral m.column
  text : ∃ rest, text = m.text ++ rest ∧ ∀ c ∈ rest.head?, isDigit c = false

/-- A mark is written at some place of a text, and none is written at a place in front of it. -/
def Mark.IsFirst (m : Mark) (text : List Char) : Prop :=
  ∃ place, m.Begins (text.drop place) ∧
    ∀ earlier < place, ∀ other : Mark, ¬ other.Begins (text.drop earlier)

theorem markAtFront?_of_begins {text : List Char} {m : Mark} (h : m.Begins text) :
    markAtFront? text = some m := by
  obtain ⟨rest, rfl, hrest⟩ := h.text
  have hcolon : ∀ c ∈ (':' :: 'C' :: (m.column ++ rest)).head?, isDigit c = false := by
    rintro c ⟨⟩
    decide
  have htext : m.text ++ rest = 'L' :: (m.line ++ ':' :: 'C' :: (m.column ++ rest)) := by
    simp [Mark.text]
  simp only [htext, markAtFront?, takeWhile_run h.line.isDigit hcolon,
    dropWhile_run h.line.isDigit hcolon, takeWhile_run h.column.isDigit hrest,
    List.isEmpty_eq_false_iff.2 h.line.ne_nil, List.isEmpty_eq_false_iff.2 h.column.ne_nil]
  rfl

theorem isNumeral_takeWhile {text : List Char} (h : (text.takeWhile isDigit).isEmpty = false) :
    IsNumeral (text.takeWhile isDigit) where
  ne_nil := List.isEmpty_eq_false_iff.1 h
  isDigit _ hc := List.mem_takeWhile_imp hc

/-- A mark is found at the front of a text exactly if one is written there. -/
theorem markAtFront?_eq_some_iff {text : List Char} {m : Mark} :
    markAtFront? text = some m ↔ m.Begins text := by
  refine ⟨?_, markAtFront?_of_begins⟩
  fun_cases markAtFront? text with
  | case1 | case3 | case4 =>
      intro h
      cases h
  | case2 rest line behind hbehind column hempty =>
      intro h
      cases h
      rw [Bool.or_eq_true, not_or, Bool.not_eq_true, Bool.not_eq_true] at hempty
      refine ⟨isNumeral_takeWhile hempty.1, isNumeral_takeWhile hempty.2,
        behind.dropWhile isDigit, ?_, fun c hc => ?_⟩
      · rw [Mark.text, List.cons_append, List.append_assoc, List.cons_append, List.cons_append,
          List.takeWhile_append_dropWhile, ← hbehind, List.takeWhile_append_dropWhile]
      · have hhead := List.head?_dropWhile_not isDigit behind
        rw [Option.mem_def.1 hc] at hhead
        simpa using hhead

/-- The mark that is found in a text is the first one that is written in it. -/
theorem mark?_eq_some_iff {text : List Char} {m : Mark} :
    mark? text = some m ↔ m.IsFirst text := by
  induction text with
  | nil =>
      apply iff_of_false (by simp [mark?])
      rintro ⟨place, ⟨-, -, rest, htext, -⟩, -⟩
      simp [Mark.text] at htext
  | cons c rest ih =>
      rw [mark?, Option.or_eq_some_iff, markAtFront?_eq_some_iff, ih]
      apply Iff.intro
      · rintro (hfront | ⟨hnone, place, hplace, hearlier⟩)
        · exact ⟨0, hfront, fun _ hlt => absurd hlt (Nat.not_lt_zero _)⟩
        · refine ⟨place + 1, hplace, fun earlier hlt other => ?_⟩
          cases earlier with
          | zero =>
              rw [List.drop_zero, ← markAtFront?_eq_some_iff, hnone]
              exact (Option.some_ne_none other).symm
          | succ earlier => exact hearlier earlier (Nat.lt_of_succ_lt_succ hlt) other
      · rintro ⟨place, hplace, hearlier⟩
        cases place with
        | zero => exact .inl hplace
        | succ place =>
            refine .inr ⟨?_, place, hplace, fun earlier hlt => hearlier (earlier + 1) (by omega)⟩
            rw [Option.eq_none_iff_forall_ne_some]
            intro other hother
            exact hearlier 0 (Nat.succ_pos _) other (markAtFront?_eq_some_iff.1 hother)

/-- Without its line or its column, a report points at the first mark in its wording. -/
theorem faultColumn_of_isFirst {failure : Failure} {m : Mark}
    (hplace : failure.line = none ∨ failure.column = none)
    (hm : m.IsFirst failure.wording.toList) (source : List Char) :
    faultColumn failure source = do
      let line ← numberOf m.line
      let column ← numberOf m.column
      return some (absoluteColumn source line column) := by
  obtain ⟨line, column, wording⟩ := failure
  rw [← mark?_eq_some_iff] at hm
  rcases hplace with hline | hcolumn
  · cases hline
    simp only [faultColumn, hm]
  · cases hcolumn
    cases line <;> simp only [faultColumn, hm]

/-- A line with more digits than are converted is not read. -/
theorem faultColumn_of_lt {failure : Failure} {m : Mark}
    (hplace : failure.line = none ∨ failure.column = none)
    (hm : m.IsFirst failure.wording.toList) (hlong : digitLimit < m.line.length)
    (source : List Char) : faultColumn failure source = .error ⟨m.line.length⟩ := by
  rw [faultColumn_of_isFirst hplace hm, numberOf, if_pos hlong]
  rfl

/-- **Reports point at offsets.** The column over the whole text of the line and the column of
an offset is the offset plus one. A report that carries the two points there, whatever its
wording. So does a report that lacks one of them if the first mark in its wording names the
two with no more digits than are converted; if it has more, the report points nowhere. -/
theorem faultColumn_of_offset {source : List Char} {offset : ℕ} (h : offset ≤ source.length) :
    absoluteColumn source (lineOf source offset) (columnOf source offset) = offset + 1 ∧
      (∀ wording, faultColumn ⟨some (lineOf source offset), some (columnOf source offset), wording⟩
        source = .ok (some (offset + 1))) ∧
      ∀ (failure : Failure) (m : Mark), failure.line = none ∨ failure.column = none →
        m.IsFirst failure.wording.toList → digitsValue m.line = lineOf source offset →
        digitsValue m.column = columnOf source offset →
        faultColumn failure source =
          if digitLimit < m.line.length then .error ⟨m.line.length⟩
          else if digitLimit < m.column.length then .error ⟨m.column.length⟩
          else .ok (some (offset + 1)) := by
  have hoffset := absoluteColumn_of_offset h
  refine ⟨hoffset, fun wording => ?_, fun failure m hplace hm hline hcolumn => ?_⟩
  · rw [← hoffset]
    rfl
  · by_cases hlong : digitLimit < m.line.length
    · rw [if_pos hlong, faultColumn_of_lt hplace hm hlong]
    · rw [faultColumn_of_isFirst hplace hm, numberOf, numberOf, hline, hcolumn, if_neg hlong,
        if_neg hlong]
      by_cases hbroad : digitLimit < m.column.length
      · rw [if_pos hbroad, if_pos hbroad]
        rfl
      · rw [if_neg hbroad, if_neg hbroad, ← hoffset]
        rfl

/-- A report that knows the line only, with a mark in it that is spoilt and one with digits of
two scripts behind an empty line, in front of another. -/
theorem faultColumn_of_offset_of_two_scripts :
    ∃ (source : List Char) (failure : Failure) (m : Mark), source = "ab\n\ncd".toList ∧
      5 ≤ source.length ∧ lineOf source 5 = 3 ∧ columnOf source 5 = 2 ∧
      failure = ⟨some 1, none, "L1:CC, L٣:C02, L1:C1"⟩ ∧ m = ⟨"٣".toList, "02".toList⟩ ∧
      m.IsFirst failure.wording.toList ∧ digitsValue m.line = 3 ∧ digitsValue m.column = 2 ∧
      absoluteColumn source 3 2 = 6 ∧ faultColumn ⟨some 3, some 2, ""⟩ source = .ok (some 6) ∧
      faultColumn failure source = .ok (some 6) := by
  have hm : Mark.IsFirst ⟨"٣".toList, "02".toList⟩ "L1:CC, L٣:C02, L1:C1".toList :=
    mark?_eq_some_iff.1 (by decide +kernel)
  obtain ⟨hcolumn, hplace, hmark⟩ :=
    faultColumn_of_offset (show 5 ≤ "ab\n\ncd".toList.length by decide)
  exact ⟨_, _, _, rfl, by decide, by decide, by decide, rfl, rfl, hm, by decide, by decide,
    hcolumn, hplace "", hmark ⟨some 1, none, _⟩ _ (.inr rfl) hm (by decide) (by decide)⟩

/-- A mark is the first one in its own text. -/
theorem Mark.isFirst_text {m : Mark} (hline : IsNumeral m.line) (hcolumn : IsNumeral m.column) :
    m.IsFirst m.text := by
  have hbegins : m.Begins m.text := ⟨hline, hcolumn, [], (List.append_nil _).symm, by simp⟩
  exact ⟨0, hbegins, fun _ hlt => absurd hlt (Nat.not_lt_zero _)⟩

/-- One, with zeros in front of it. -/
theorem isNumeral_zeros_append_one (n : ℕ) : IsNumeral (List.replicate n '0' ++ ['1']) := by
  refine ⟨List.append_ne_nil_of_right_ne_nil _ (List.cons_ne_nil _ _), fun c hc => ?_⟩
  rcases List.mem_append.1 hc with hzero | hone
  · exact isDigit_of_ascii (isAscii_of_mem_zeros hzero)
  · rw [List.mem_singleton.1 hone]
    decide

/-- Zeros in front of a number are digits as well: with very many of them, a mark that names
the only place of an empty text is not read. -/
theorem faultColumn_ne_of_zeros :
    ∃ (failure : Failure) (m : Mark), m = ⟨List.replicate 4300 '0' ++ ['1'], ['1']⟩ ∧
      failure = ⟨none, none, String.ofList m.text⟩ ∧ m.IsFirst failure.wording.toList ∧
      digitsValue m.line = lineOf [] 0 ∧ digitsValue m.column = columnOf [] 0 ∧
      faultColumn failure [] = .error ⟨4301⟩ ∧ faultColumn failure [] ≠ .ok (some 1) := by
  -- The line and the report are kept as variables, so that no zeros are counted here.
  obtain ⟨line, hline⟩ : ∃ line, line = List.replicate 4300 '0' ++ ['1'] := ⟨_, rfl⟩
  obtain ⟨failure, hfailure⟩ : ∃ failure : Failure,
      failure = ⟨none, none, String.ofList (Mark.text ⟨line, ['1']⟩)⟩ := ⟨_, rfl⟩
  have hlength : line.length = 4301 := by
    rw [hline, List.length_append, List.length_replicate, List.length_singleton]
  have hvalue : digitsValue line = 1 := by
    rw [hline, digitsValue_zeros_append]
    decide
  have hone : digitsValue ['1'] = columnOf [] 0 := by decide
  have hfirst : Mark.IsFirst ⟨line, ['1']⟩ failure.wording.toList := by
    rw [hfailure, String.toList_ofList]
    exact Mark.isFirst_text (hline ▸ isNumeral_zeros_append_one 4300) (isNumeral_zeros_append_one 0)
  have hfault : faultColumn failure [] = .error ⟨4301⟩ := by
    have hlong : digitLimit < line.length := by
      rw [hlength]
      decide
    rw [faultColumn_of_lt (.inl (hfailure ▸ rfl)) hfirst hlong, hlength]
  refine ⟨failure, ⟨line, ['1']⟩, congrArg (Mark.mk · ['1']) hline, hfailure, hfirst, hvalue, hone,
    hfault, ?_⟩
  rw [hfault]
  intro hplace
  cases hplace

end FluentCalc.Location
