/-
# Excerpts of the source

The report of a fault shows one line of the source with a caret below it. The column of a
fault counts over the whole source, but the line shown is the first one, wherever the fault
is. So the caret stands under the fault where no line feed is in front of it, and nowhere
else. The first line shown ends at any of the line breaks, while the lines of a source are
told apart by line feeds alone.
-/

import FluentCalc.Proofs.Decimal.Numeral
import FluentCalc.Proofs.Expression.Fault
import FluentCalc.Proofs.Session.Report

namespace FluentCalc

namespace Text

/-- The line that an offset falls into and its place in that line, for lines with one line
feed between each and the next. A line feed falls into the line that it ends, and the end of
the text into the last line. -/
def locate : List (List Char) → ℕ → Option (List Char × ℕ)
  | [], _ => none
  | line :: rest, offset =>
    if offset ≤ line.length then some (line, offset) else locate rest (offset - (line.length + 1))

/-- What is in front of the first separator is the first piece. -/
theorem exists_splitAt_eq_cons (separator : Char) (text : List Char) :
    ∃ behind, splitAt separator text = text.takeWhile (· != separator) :: behind := by
  induction text with
  | nil => exact ⟨[], rfl⟩
  | cons c rest ih =>
      obtain ⟨behind, hbehind⟩ := ih
      by_cases hc : c = separator
      · exact ⟨splitAt separator rest, by simp [splitAt, hc]⟩
      · exact ⟨behind, by simp [splitAt, hc, hbehind, consFirst]⟩

/-- Every offset up to the end of a text falls into one of its lines. -/
theorem isSome_locate {text : List Char} {offset : ℕ} (h : offset ≤ text.length) :
    (locate (splitAt '\n' text) offset).isSome = true := by
  induction text generalizing offset with
  | nil =>
      obtain rfl := Nat.le_zero.1 h
      rfl
  | cons c rest ih =>
      cases offset with
      | zero =>
          obtain ⟨behind, hbehind⟩ := exists_splitAt_eq_cons '\n' (c :: rest)
          rw [hbehind, locate, if_pos (Nat.zero_le _)]
          rfl
      | succ offset =>
          have hrest := ih (Nat.le_of_succ_le_succ h)
          by_cases hc : c = '\n'
          · rw [splitAt, hc]
            exact hrest
          · -- The character lengthens the first line.
            obtain ⟨behind, hbehind⟩ := exists_splitAt_eq_cons '\n' rest
            rw [hbehind, locate] at hrest
            rw [splitAt, beq_eq_false_iff_ne.2 hc, hbehind]
            simp only [Bool.false_eq_true, ↓reduceIte, consFirst, locate, List.length_cons,
              Nat.add_le_add_iff_right, Nat.reduceSubDiff]
            split at hrest
            · rw [if_pos ‹_›]
              rfl
            · rw [if_neg ‹_›]
              exact hrest

/-- The place in a line is not behind the offset in the text. -/
theorem le_of_locate {lines : List (List Char)} {offset : ℕ} {line : List Char} {place : ℕ}
    (h : locate lines offset = some (line, place)) : place ≤ offset := by
  induction lines generalizing offset with
  | nil => cases h
  | cons first rest ih =>
      rw [locate] at h
      split at h
      · cases h
        exact Nat.le_refl _
      · exact (ih h).trans (Nat.sub_le _ _)

/-- An offset falls into the first line exactly if no line feed is in front of it. -/
theorem locate_eq_self_iff {text line : List Char} {offset : ℕ} (h : offset ≤ text.length) :
    locate (splitAt '\n' text) offset = some (line, offset) ↔
      '\n' ∉ text.take offset ∧ line = text.takeWhile (· != '\n') := by
  obtain ⟨behind, hbehind⟩ := exists_splitAt_eq_cons '\n' text
  rw [hbehind, locate]
  split
  · next hle =>
      have hmem : '\n' ∉ text.take offset := by
        intro hmem
        rw [← List.takeWhile_append_dropWhile (p := (· != '\n')) (l := text),
          List.take_append_of_le_length hle] at hmem
        simpa using List.mem_takeWhile_imp (List.mem_of_mem_take hmem)
      simp [hmem, eq_comm]
  · next hgt =>
      apply iff_of_false
      · intro hlocate
        have := le_of_locate hlocate
        omega
      · rintro ⟨hmem, -⟩
        have hfeed : ∀ c ∈ text.take offset, (c != '\n') = true := by
          intro c hc
          rw [bne_iff_ne]
          rintro rfl
          exact hmem hc
        have hlength : (text.take offset).length = offset := List.length_take_of_le h
        rw [← List.take_append_drop offset text, List.takeWhile_append_of_pos hfeed,
          List.length_append, hlength] at hgt
        omega

end Text

namespace Result

open Text

theorem firstLine_eq_takeWhile (source : List Char) :
    firstLine source = source.takeWhile fun c => !isLineBreak c := by
  rw [firstLine]
  fun_induction Text.lines source with
  | case1 => rfl
  | case2 rest ih => rfl
  | case3 c rest hreturn hbreak ih => simp [hbreak]
  | case4 c rest hreturn hbreak ih =>
      rw [List.takeWhile_cons_of_pos (by simp [hbreak]), ← ih]
      cases Text.lines rest <;> rfl

/-- What is shown is the first line of the source unless another line break ends it early. -/
theorem firstLine_eq_iff (source : List Char) :
    firstLine source = source.takeWhile (· != '\n') ↔
      IsUnbroken (source.takeWhile (· != '\n')) := by
  have hfeed (c : Char) (hc : isLineBreak c = false) : c ≠ '\n' := by
    rintro rfl
    cases hc
  have hfirst : firstLine source =
      (source.takeWhile (· != '\n')).takeWhile fun c => !isLineBreak c := by
    rw [List.takeWhile_takeWhile, firstLine_eq_takeWhile]
    congr 1
    funext c
    simpa using hfeed c
  rw [hfirst, List.takeWhile_eq_self_iff]
  simp [IsUnbroken]

/-- What is in front of a line of an excerpt. -/
def indent : List Char := [' ', ' ']

/-- The line and the caret of a report are those of a column of the source. -/
def PointsAt (report : String) (source : List Char) (column : ℕ) : Prop :=
  ∃ line place, locate (splitAt '\n' source) (column - 1) = some (line, place) ∧
    (splitAt '\n' report.toList)[1]? = some (indent ++ line) ∧
    (splitAt '\n' report.toList)[2]? = some (indent ++ List.replicate place ' ' ++ ['^'])

theorem isUnbroken_integerText (n : ℤ) : IsUnbroken (integerText n).toList := by
  rw [integerText, String.toList_ofList, isUnbroken_append]
  refine ⟨?_, fun c hc => ?_⟩
  · split <;> decide
  · exact not_isLineBreak_of (by decide) (Layout.isAscii_of_mem_naturalDigits hc)

/-- The lines of an excerpt. -/
def excerptLines (message : String) (column : ℤ) (source : String) : List (List Char) :=
  [(message ++ " (col " ++ integerText column ++ ")").toList,
    indent ++ source.toList.takeWhile fun c => !isLineBreak c,
    indent ++ List.replicate (column - 1).toNat ' ' ++ ['^']]

theorem toList_excerpt (message : String) (column : ℤ) (source : String) :
    (excerpt message column source).toList =
      join ['\n'] (excerptLines message column source) := by
  rw [excerptLines, ← firstLine_eq_takeWhile, excerpt]
  simp [join, indent]

/-- There is no line break in a line of an excerpt for a message on one line. -/
theorem isUnbroken_of_mem_excerptLines {message : String} (h : IsUnbroken message.toList)
    {column : ℤ} {source : String} :
    ∀ line ∈ excerptLines message column source, IsUnbroken line := by
  have hhead : IsUnbroken (message ++ " (col " ++ integerText column ++ ")").toList := by
    simp only [String.toList_append, isUnbroken_append]
    exact ⟨⟨⟨h, by decide⟩, isUnbroken_integerText column⟩, by decide⟩
  have hline : IsUnbroken (indent ++ source.toList.takeWhile fun c => !isLineBreak c) := by
    refine isUnbroken_append.2 ⟨by decide, fun c hc => ?_⟩
    simpa using List.mem_takeWhile_imp hc
  have hcaret : IsUnbroken (indent ++ List.replicate (column - 1).toNat ' ' ++ ['^']) := by
    refine isUnbroken_append.2 ⟨isUnbroken_append.2 ⟨by decide, fun c hc => ?_⟩, by decide⟩
    rw [List.eq_of_mem_replicate hc]
    decide
  simp only [excerptLines, List.forall_mem_cons]
  exact ⟨hhead, hline, hcaret, List.forall_mem_nil _⟩

/-- There are three lines in an excerpt for a message on one line. -/
theorem splitAt_excerpt {message : String} (h : IsUnbroken message.toList) (column : ℤ)
    (source : String) :
    splitAt '\n' (excerpt message column source).toList =
      excerptLines message column source := by
  rw [toList_excerpt]
  exact splitAt_join (fun line hline => (isUnbroken_of_mem_excerptLines h line hline).not_mem rfl)
    (List.cons_ne_nil _ _)

theorem isUnbroken_faultMessage {cause : ParseFault} (h : IsUnbroken cause.message.toList) :
    IsUnbroken (faultMessage cause).toList := by
  rw [faultMessage, String.toList_append]
  exact isUnbroken_append.2 ⟨by decide, h⟩

/-- The message of a fault is never empty, so its report is an excerpt. -/
theorem errorReport_fault (source : String) (cause : ParseFault) :
    (Result.fault source cause).errorReport =
      excerpt (faultMessage cause) cause.column source := by
  have hnonempty : (faultMessage cause).isEmpty = false := by
    simp [faultMessage, String.isEmpty_eq_false_iff]
  rw [errorReport, errorText, hnonempty]
  rfl

/-- There are three lines in the report of a fault with its wording on one line. -/
theorem splitAt_errorReport {cause : ParseFault} (h : IsUnbroken cause.message.toList)
    (source : String) :
    splitAt '\n' (Result.fault source cause).errorReport.toList =
      [(faultMessage cause ++ " (col " ++ integerText cause.column ++ ")").toList,
        indent ++ source.toList.takeWhile fun c => !isLineBreak c,
        indent ++ List.replicate (cause.column - 1) ' ' ++ ['^']] := by
  have hplaces : ((cause.column : ℤ) - 1).toNat = cause.column - 1 := by omega
  rw [errorReport_fault, splitAt_excerpt (isUnbroken_faultMessage h), excerptLines, hplaces]

/-- A report on three lines points at a column exactly if it shows the line that the column
falls into and has as many characters in front of its caret as the column has in that line. -/
theorem pointsAt_iff {report : String} {source : List Char} {column : ℕ}
    {head line : List Char} {place : ℕ}
    (h : splitAt '\n' report.toList =
      [head, indent ++ line, indent ++ List.replicate place ' ' ++ ['^']]) :
    PointsAt report source column ↔
      locate (splitAt '\n' source) (column - 1) = some (line, place) := by
  rw [PointsAt, h]
  apply Iff.intro
  · rintro ⟨line', place', hlocate, hline, hcaret⟩
    have hlines : indent ++ line = indent ++ line' := Option.some.inj hline
    have hcarets : indent ++ List.replicate place ' ' ++ ['^'] =
        indent ++ List.replicate place' ' ' ++ ['^'] := Option.some.inj hcaret
    have hplaces : place = place' := by
      simpa using congrArg List.length hcarets
    rwa [List.append_cancel_left hlines, hplaces]
  · intro hlocate
    exact ⟨line, place, hlocate, rfl, rfl⟩

end Result

namespace Runner

open Text Result

/-- Only a source that does not parse comes to a fault. -/
theorem parse_of_handle_fault {r : Runner} {source : String} {cause : ParseFault}
    (h : r.handle source = .ok (.fault source cause)) :
    Expression.parse r.strict source = .error cause := by
  rw [handle] at h
  split at h
  · next fault hparse =>
      cases h
      exact hparse
  · next e hparse =>
      cases hevaluate : e.evaluate r.host r.registry with
      | error failure =>
          rw [hevaluate] at h
          cases h
      | ok o =>
          rw [hevaluate] at h
          cases h

/-- **The caret stands under faults in the first line.** The report of a fault is three
lines: the message with the column, the source up to its first line break, and a caret as
far to the right as there are characters of the source in front of the column. The column
falls into a line of the source; the report shows that line, and the caret stands under the
place of the column in it, exactly if no line feed is in front of the column and the first
line has no other line break in it. -/
theorem pointsAt_errorReport_iff {r : Runner} {source : String} {cause : ParseFault}
    (h : r.handle source = .ok (.fault source cause)) :
    splitAt '\n' (Result.fault source cause).errorReport.toList =
        [(faultMessage cause ++ " (col " ++ integerText cause.column ++ ")").toList,
          indent ++ source.toList.takeWhile fun c => !isLineBreak c,
          indent ++ List.replicate (cause.column - 1) ' ' ++ ['^']] ∧
      (locate (splitAt '\n' source.toList) (cause.column - 1)).isSome = true ∧
      (PointsAt (Result.fault source cause).errorReport source.toList cause.column ↔
        '\n' ∉ source.toList.take (cause.column - 1) ∧
          IsUnbroken (source.toList.takeWhile (· != '\n'))) := by
  have hparse := parse_of_handle_fault h
  have hcolumn : cause.column - 1 ≤ source.toList.length := by
    have hbound := (Expression.column_of_parse hparse).2
    rw [String.length_toList]
    omega
  have hlines := splitAt_errorReport (Expression.isUnbroken_message hparse) source
  refine ⟨hlines, isSome_locate hcolumn, ?_⟩
  rw [pointsAt_iff hlines, locate_eq_self_iff hcolumn, ← firstLine_eq_takeWhile, firstLine_eq_iff]

/-- A bad seed that goes on behind a line feed is pointed at, since it starts in the first
line. -/
theorem pointsAt_errorReport_iff_of_open_seed :
    ∃ r cause, ofHost Calculator.host true = .ok r ∧
      r.handle "Calculator(1x\n).Add(2)" = .ok (.fault "Calculator(1x\n).Add(2)" cause) ∧
      cause.column = 12 ∧
      (splitAt '\n' (Result.fault "Calculator(1x\n).Add(2)" cause).errorReport.toList).tail =
        ["  Calculator(1x".toList, "             ^".toList] ∧
      PointsAt (Result.fault "Calculator(1x\n).Add(2)" cause).errorReport
        "Calculator(1x\n).Add(2)".toList 12 := by
  let found : Scan.RawSeed :=
    ⟨⟨"Calculator".toList, "1x\n".toList⟩, 11, 15, ".Add(2)".toList⟩
  have hseed : Scan.seed "Calculator(1x\n).Add(2)".toList = .ok found :=
    Scan.seed_eq_ok_iff.2
      ⟨[], List.forall_mem_nil _, ⟨by decide +kernel, by decide⟩, rfl, rfl, rfl⟩
  have hnumber : number? found.invocation.argument = .error .notANumber := by decide +kernel
  obtain ⟨r, hr⟩ := exists_ofHost_calculator true
  have hhandle := handle_of_fault hr (Expression.parse_of_seed hseed hnumber)
  obtain ⟨hlines, -, hpoints⟩ := pointsAt_errorReport_iff hhandle
  refine ⟨r, _, hr, hhandle, rfl, ?_, hpoints.2 ⟨by decide, by decide⟩⟩
  rw [hlines]
  decide

/-- Behind a line feed the report points at nothing: the line shown is the empty one in
front, and the caret stands as far to the right as if there were no line feed. -/
theorem not_pointsAt_errorReport_of_line_feed :
    ∃ r cause, ofHost Calculator.host false = .ok r ∧
      r.handle "\nCalculator(x)" = .ok (.fault "\nCalculator(x)" cause) ∧
      cause.column = 13 ∧
      locate (splitAt '\n' "\nCalculator(x)".toList) 12 = some ("Calculator(x)".toList, 11) ∧
      ¬ PointsAt (Result.fault "\nCalculator(x)" cause).errorReport
        "\nCalculator(x)".toList 13 := by
  let found : Scan.RawSeed := ⟨⟨"Calculator".toList, "x".toList⟩, 12, 14, []⟩
  have hseed : Scan.seed "\nCalculator(x)".toList = .ok found :=
    Scan.seed_eq_ok_iff.2
      ⟨['\n'], List.forall_mem_singleton.2 (by decide), ⟨by decide +kernel, by decide⟩,
        rfl, rfl, rfl⟩
  have hnumber : number? found.invocation.argument = .error .notANumber := by decide +kernel
  obtain ⟨r, hr⟩ := exists_ofHost_calculator false
  have hparse : Expression.parse false "\nCalculator(x)" = .error (.badSeed "x" "Calculator" 13) :=
    Expression.parse_of_seed hseed hnumber
  have hlines := splitAt_errorReport (Expression.isUnbroken_message hparse) "\nCalculator(x)"
  refine ⟨r, _, hr, handle_of_fault hr hparse, rfl, by decide, ?_⟩
  rw [pointsAt_iff hlines]
  decide

end Runner

end FluentCalc
