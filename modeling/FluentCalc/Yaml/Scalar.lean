/-
# Scalars of YAML

The reading of the five kinds of scalars: in single or double quotes, in a
literal or a folded block, and plain. The loops go on as long as characters are
taken, which is why they end.
-/

import FluentCalc.Yaml.Token

namespace FluentCalc.Yaml

/-- Whether a line that cannot be part of a scalar begins here: one with only
the mark of a document's start or end. -/
def isAtDocumentMark (c : Cursor) : Bool :=
  c.isAtWord "---" || c.isAtWord "..."

/-- Read the line breaks, and the indentation around them, inside a quoted
scalar. -/
def quotedBreaks (c : Cursor) : Except Fault (List Char × Cursor) :=
  if isAtDocumentMark c then .error .token
  else if _hbreak : isBreak c.skipGaps.peek = true then do
    let (more, after) ← quotedBreaks c.skipGaps.takeBreak.2
    return (c.skipGaps.takeBreak.1 ++ more, after)
  else .ok ([], c.skipGaps)
termination_by c.left
decreasing_by exact Nat.lt_of_lt_of_le (Cursor.left_takeBreak_lt _hbreak) c.left_skipGaps_le

theorem left_quotedBreaks_le {c c' : Cursor} {breaks : List Char}
    (h : quotedBreaks c = .ok (breaks, c')) : c'.left ≤ c.left := by
  fun_induction quotedBreaks c generalizing breaks c' with
  | case1 => cases h
  | case2 c _ _ ih =>
      obtain ⟨⟨more, after⟩, hmore, h⟩ := exists_of_bind_eq_ok h
      cases h
      have hbreak := Nat.le_trans c.skipGaps.left_takeBreak_le c.left_skipGaps_le
      exact Nat.le_trans (ih hmore) hbreak
  | case3 c => cases h; exact c.left_skipGaps_le

/-- A line break folded with the breaks behind it: a lone line feed becomes a
space, and in front of further breaks it is dropped. -/
def folded (lineBreak breaks : List Char) : List Char :=
  (if lineBreak != ['\n'] then lineBreak else if breaks.isEmpty then [' '] else []) ++ breaks

/-- Read white space inside a quoted scalar. -/
def quotedSpaces (c : Cursor) : Except Fault (List Char × Cursor) :=
  let (spaces, c) := c.takeWhile isGap
  if c.peek = endMark then .error .token
  else if isBreak c.peek then do
    let (lineBreak, c) := c.takeBreak
    let (breaks, c) ← quotedBreaks c
    return (folded lineBreak breaks, c)
  else .ok (spaces, c)

/-- White space that is there is read. -/
theorem left_quotedSpaces_lt {c c' : Cursor} {text : List Char} (hgap : isGapOrEnd c.peek = true)
    (h : quotedSpaces c = .ok (text, c')) : c'.left < c.left := by
  have hskipped := c.left_skipGaps_le
  rw [quotedSpaces] at h
  change (if c.skipGaps.peek = endMark then _ else if isBreak c.skipGaps.peek = true then _ else _)
    = _ at h
  split at h
  · cases h
  · next hend =>
    split at h
    · next hbreak =>
      obtain ⟨⟨breaks, after⟩, hbreaks, h⟩ := exists_of_bind_eq_ok h
      cases h
      exact Nat.lt_of_le_of_lt (left_quotedBreaks_le hbreaks)
        (Nat.lt_of_lt_of_le (Cursor.left_takeBreak_lt hbreak) hskipped)
    · next hbreak =>
      cases h
      by_cases hblank : isGap c.peek = true
      · exact Cursor.left_takeWhile_lt hblank fun hpeek => by simp [hpeek, isGap, endMark] at hblank
      · -- With neither a space nor a tab the break or the end would still be there.
        have hstay : c.skipGaps = c :=
          congrArg Prod.snd (Cursor.takeWhile_of_not (Bool.eq_false_iff.2 hblank))
        rw [hstay] at hend hbreak
        simp_all [isGapOrEnd, isSpaceOrEnd, isBreakOrEnd, isGap]

/-- The character that a one-letter escape stands for. -/
def shortEscape? : Char → Option Char
  | '0' => some '\x00'
  | 'a' => some '\x07'
  | 'b' => some '\x08'
  | 't' => some '\t'
  | '\t' => some '\t'
  | 'n' => some '\n'
  | 'v' => some '\x0b'
  | 'f' => some '\x0c'
  | 'r' => some '\r'
  | 'e' => some '\x1b'
  | ' ' => some ' '
  | '\x22' => some '\x22'
  | '\\' => some '\\'
  | '/' => some '/'
  | 'N' => some '\x85'
  | '_' => some '\xa0'
  | 'L' => some '\u2028'
  | 'P' => some '\u2029'
  | _ => none

/-- The number of digits of a numeric escape, which is not one of four digits. -/
def escapeWidth? : Char → Option Nat
  | 'x' => some 2
  | 'U' => some 8
  | _ => none

/-- The character of a numeric escape. -/
def escapedCharacter (code : Nat) : Except Fault Char :=
  if code < 0x110000 then .ok (Json.character code)
  else .error (.conversion "ValueError" "chr() arg not in range(0x110000)")

/-- Read a numeric escape of two or of eight digits. -/
def numericEscape (width : Nat) (c : Cursor) : Except Fault (List Char × Cursor) :=
  let digits := c.step.rest.take width
  match if digits.length = width then Json.hexValue? digits else none with
  | some code => do return ([← escapedCharacter code], c.advance (width + 1))
  | none => .error .token

/-- Read an escape inside a double-quoted scalar; the cursor is behind the
backslash. Escapes of four digits are those of JSON, where two can stand for one
character. An escaped line break joins two lines. -/
def quotedEscape (c : Cursor) : Except Fault (List Char × Cursor) :=
  if c.peek == 'u' then
    match Json.unicodeEscape? c.step.rest with
    | some (d, rest) => .ok ([d], c.advance (c.rest.length - rest.length))
    | none => .error .token
  else
    match shortEscape? c.peek, escapeWidth? c.peek with
    | some d, _ => .ok ([d], c.step)
    | none, some width => numericEscape width c
    | none, none => if isBreak c.peek then quotedBreaks c.takeBreak.2 else .error .token

theorem left_numericEscape_le {width : Nat} {c c' : Cursor} {text : List Char}
    (h : numericEscape width c = .ok (text, c')) : c'.left ≤ c.left := by
  rw [numericEscape] at h
  split at h
  · obtain ⟨d, -, h⟩ := exists_of_bind_eq_ok h
    cases h
    exact c.left_advance_le _
  · cases h

theorem left_quotedEscape_le {c c' : Cursor} {text : List Char}
    (h : quotedEscape c = .ok (text, c')) : c'.left ≤ c.left := by
  rw [quotedEscape] at h
  split at h
  · split at h
    · cases h; exact c.left_advance_le _
    · cases h
  · split at h
    · cases h; exact c.left_step_le
    · exact left_numericEscape_le h
    · split at h
      · exact Nat.le_trans (left_quotedBreaks_le h) c.left_takeBreak_le
      · cases h

/-- Whether a character of a quoted scalar may not stand for itself. -/
def isQuoteMark (d : Char) : Bool :=
  d == '\x27' || d == '\x22' || d == '\\'

/-- The quote that ends a quoted scalar. -/
def closingQuote (double : Bool) : Char :=
  if double then '\x22' else '\x27'

/-- Read one piece of a quoted scalar: white space, a quote or an escape, or
characters that stand for themselves. There is none at the closing quote. -/
def quotedPiece (double : Bool) (c : Cursor) : Except Fault (Option (List Char × Cursor)) :=
  let d := c.peek
  if isGapOrEnd d then some <$> quotedSpaces c
  else if !isQuoteMark d then .ok (some (c.takeWhile fun d => !(isQuoteMark d || isGapOrEnd d)))
  else if !double && d == '\x27' && c.peekAt 1 == '\x27' then .ok (some (['\x27'], c.advance 2))
  else if d == closingQuote double then .ok none
  else if double && d == '\\' then some <$> quotedEscape c.step
  else .ok (some ([d], c.step))

/-- Every piece of a quoted scalar takes characters. -/
theorem left_quotedPiece_lt {double : Bool} {c c' : Cursor} {text : List Char}
    (h : quotedPiece double c = .ok (some (text, c'))) : c'.left < c.left := by
  simp only [quotedPiece] at h
  split at h
  · next hgap =>
    obtain ⟨piece, hpiece, h⟩ := exists_of_map_eq_ok h
    cases h
    exact left_quotedSpaces_lt hgap hpiece
  · next hgap =>
    have hend : c.peek ≠ endMark := by
      intro hend
      simp [hend, isGapOrEnd, isSpaceOrEnd, isBreakOrEnd] at hgap
    have hstep := Cursor.left_step_lt hend
    split at h
    · next hmark =>
      cases h
      exact Cursor.left_takeWhile_lt (by simp_all) hend
    split at h
    · cases h; exact Cursor.left_advance_lt (by decide) hend
    split at h
    · cases h
    split at h
    · obtain ⟨piece, hpiece, h⟩ := exists_of_map_eq_ok h
      cases h
      exact Nat.lt_of_le_of_lt (left_quotedEscape_le hpiece) hstep
    · cases h; exact hstep

/-- Read a quoted scalar from behind its opening quote. -/
def quotedRest (double : Bool) (c : Cursor) : Except Fault (List Char × Cursor) :=
  match _hpiece : quotedPiece double c with
  | .error fault => .error fault
  | .ok none => .ok ([], c.step)
  | .ok (some (piece, after)) => do
    let (more, last) ← quotedRest double after
    return (piece ++ more, last)
termination_by c.left
decreasing_by exact left_quotedPiece_lt _hpiece

theorem left_quotedRest_le {double : Bool} {c c' : Cursor} {text : List Char}
    (h : quotedRest double c = .ok (text, c')) : c'.left ≤ c.left := by
  fun_induction quotedRest double c generalizing text c' with
  | case1 => cases h
  | case2 c => cases h; exact c.left_step_le
  | case3 c piece after hpiece ih =>
      obtain ⟨⟨more, last⟩, hmore, h⟩ := exists_of_bind_eq_ok h
      cases h
      exact Nat.le_trans (ih hmore) (Nat.le_of_lt (left_quotedPiece_lt hpiece))

/-- Read a quoted scalar. -/
def scanQuoted (double : Bool) (c : Cursor) : Scan := do
  let (text, c) ← quotedRest double c.step
  return (.scalar (String.ofList text) false, c)

theorem advances_scanQuoted (double : Bool) : Advances (scanQuoted double) := by
  intro c c' t hend h
  obtain ⟨⟨text, after⟩, htext, h⟩ := exists_of_bind_eq_ok h
  cases h
  exact Nat.lt_of_le_of_lt (left_quotedRest_le htext) (Cursor.left_step_lt hend)

/-- How the line breaks at the end of a block scalar are treated. -/
inductive Chomping
  | strip
  | clip
  | keep
deriving DecidableEq

/-- The chomping that an indicator asks for. -/
def chomping? : Char → Option Chomping
  | '+' => some .keep
  | '-' => some .strip
  | _ => none

/-- The digit that an indentation indicator is. -/
def increment? (d : Char) : Option Nat :=
  if d.isDigit then some (d.toNat - 0x30) else none

/-- The chomping and indentation indicators of a block scalar, in either order. -/
def blockIndicators (c : Cursor) : Chomping × Option Nat × Cursor :=
  match chomping? c.peek with
  | some chomping =>
    match increment? c.step.peek with
    | some n => (chomping, some n, c.advance 2)
    | none => (chomping, none, c.step)
  | none =>
    match increment? c.peek with
    | some n =>
      match chomping? c.step.peek with
      | some chomping => (chomping, some n, c.advance 2)
      | none => (.clip, some n, c.step)
    | none => (.clip, none, c)

theorem left_blockIndicators_le (c : Cursor) : (blockIndicators c).2.2.left ≤ c.left := by
  have hstep := c.left_step_le
  have hadvance := c.left_advance_le 2
  simp only [blockIndicators]
  repeat' split
  all_goals simp_all

/-- Read the header of a block scalar behind its style. -/
def blockHeader (c : Cursor) : Except Fault (Chomping × Option Nat × Cursor) :=
  let (chomping, increment, c) := blockIndicators c
  if increment = some 0 || !isSpaceOrEnd c.peek then .error .token
  else .ok (chomping, increment, c)

theorem left_blockHeader_le {c c' : Cursor} {chomping : Chomping} {increment : Option Nat}
    (h : blockHeader c = .ok (chomping, increment, c')) : c'.left ≤ c.left := by
  have hindicators := left_blockIndicators_le c
  simp only [blockHeader] at h
  split at h
  · cases h
  · cases h; exact hindicators

/-- Read the blank lines in front of a block scalar whose indentation is not
given: the breaks and the widest indentation met. -/
def blockIndentation (widest : Nat) (c : Cursor) : List Char × Nat × Cursor :=
  if _hspace : c.peek = ' ' then blockIndentation (max widest c.step.column) c.step
  else if _hbreak : isBreak c.peek = true then
    let (breaks, after) := blockIndentation widest c.takeBreak.2
    (c.takeBreak.1 ++ breaks, after)
  else ([], widest, c)
termination_by c.left
decreasing_by
  · exact Cursor.left_step_lt (by simp [_hspace, endMark])
  · exact Cursor.left_takeBreak_lt _hbreak

theorem left_blockIndentation_le (widest : Nat) (c : Cursor) :
    (blockIndentation widest c).2.2.left ≤ c.left := by
  fun_induction blockIndentation widest c with
  | case1 _ c _ ih => exact Nat.le_trans ih c.left_step_le
  | case2 _ c _ _ breaks after hafter ih =>
      rw [hafter] at ih
      exact Nat.le_trans ih c.left_takeBreak_le
  | case3 => exact Nat.le_refl _

/-- Move past spaces up to a column. -/
def skipIndent (indent : Nat) (c : Cursor) : Cursor :=
  let spaces := (c.rest.takeWhile (· == ' ')).length
  c.advance (min spaces (indent - c.column))

theorem left_skipIndent_le (indent : Nat) (c : Cursor) : (skipIndent indent c).left ≤ c.left :=
  c.left_advance_le _

/-- Read the blank lines inside a block scalar of known indentation. -/
def blockBreaks (indent : Nat) (c : Cursor) : List Char × Cursor :=
  if _hbreak : isBreak (skipIndent indent c).peek = true then
    let (breaks, after) := blockBreaks indent (skipIndent indent c).takeBreak.2
    ((skipIndent indent c).takeBreak.1 ++ breaks, after)
  else ([], skipIndent indent c)
termination_by c.left
decreasing_by
  exact Nat.lt_of_lt_of_le (Cursor.left_takeBreak_lt _hbreak) (left_skipIndent_le indent c)

theorem left_blockBreaks_le (indent : Nat) (c : Cursor) :
    (blockBreaks indent c).2.left ≤ c.left := by
  fun_induction blockBreaks indent c with
  | case1 c hbreak breaks after hafter ih =>
      rw [hafter] at ih
      exact Nat.le_trans ih
        (Nat.le_trans (skipIndent indent c).left_takeBreak_le (left_skipIndent_le indent c))
  | case2 c => exact left_skipIndent_le indent c

/-- Whether the cursor is on the text of a line of a block scalar. -/
def isAtBlockText (indent : Nat) (c : Cursor) : Bool :=
  c.column == indent && c.peek != endMark

theorem peek_ne_endMark_of_isAtBlockText {indent : Nat} {c : Cursor}
    (h : isAtBlockText indent c = true) : c.peek ≠ endMark :=
  bne_iff_ne.1 (Bool.and_eq_true_iff.1 h).2

/-- A line of a block scalar: its text, the break that ends it and those of the
blank lines behind it. -/
structure BlockLine where
  text : List Char
  lineBreak : List Char
  breaks : List Char
  cursor : Cursor

/-- Read a line of a block scalar and the blank lines behind it. -/
def blockLine (indent : Nat) (c : Cursor) : BlockLine :=
  let text := c.takeWhile fun d => !isBreakOrEnd d
  let blank := blockBreaks indent text.2.takeBreak.2
  ⟨text.1, text.2.takeBreak.1, blank.1, blank.2⟩

theorem left_blockLine_le (indent : Nat) (c : Cursor) :
    (blockLine indent c).cursor.left ≤ c.left :=
  Nat.le_trans (left_blockBreaks_le indent _)
    (Nat.le_trans (Cursor.left_takeBreak_le _) (c.left_takeWhile_le _))

/-- In front of the end there is a line to be read. -/
theorem left_blockLine_lt {indent : Nat} {c : Cursor} (h : c.peek ≠ endMark) :
    (blockLine indent c).cursor.left < c.left := by
  refine Nat.lt_of_le_of_lt (left_blockBreaks_le indent _) ?_
  by_cases hbreak : isBreak c.peek = true
  · rw [Cursor.takeWhile_of_not (by simp [isBreakOrEnd, hbreak])]
    exact Cursor.left_takeBreak_lt hbreak
  · exact Nat.lt_of_le_of_lt (Cursor.left_takeBreak_le _)
      (Cursor.left_takeWhile_lt (by simp [isBreakOrEnd, hbreak, h]) h)

/-- Read the lines of a block scalar from the text of the first one: their text,
then the last line break and the breaks behind it. The breaks in front of the
first line are given. -/
def blockLines (fold : Bool) (indent : Nat) (breaks : List Char) (c : Cursor)
    (_h : isAtBlockText indent c = true) : List Char × List Char × List Char × Cursor :=
  let line := blockLine indent c
  if hnext : isAtBlockText indent line.cursor = true then
    let joint :=
      if fold && line.lineBreak == ['\n'] && !isGap c.peek && !isGap line.cursor.peek then
        (if line.breaks.isEmpty then [' '] else [])
      else line.lineBreak
    let (more, last, tail, after) := blockLines fold indent line.breaks line.cursor hnext
    (breaks ++ line.text ++ joint ++ more, last, tail, after)
  else (breaks ++ line.text, line.lineBreak, line.breaks, line.cursor)
termination_by c.left
decreasing_by exact left_blockLine_lt (peek_ne_endMark_of_isAtBlockText _h)

theorem left_blockLines_le (fold : Bool) (indent : Nat) (breaks : List Char) (c : Cursor)
    (h : isAtBlockText indent c = true) :
    (blockLines fold indent breaks c h).2.2.2.left ≤ c.left := by
  rw [blockLines]
  split
  · next hnext =>
    exact Nat.le_trans (left_blockLines_le fold indent _ _ hnext) (left_blockLine_le indent c)
  · exact left_blockLine_le indent c
termination_by c.left
decreasing_by exact left_blockLine_lt (peek_ne_endMark_of_isAtBlockText h)

/-- Read the lines of a block scalar behind its header: the text, the last line
break and the breaks behind it. The indentation is found from the first line if
the header does not give it. -/
def blockBody (fold : Bool) (least : Nat) (increment : Option Nat) (c : Cursor) :
    List Char × List Char × List Char × Cursor :=
  let (breaks, indent, c) := match increment with
    | none =>
      let (breaks, widest, c) := blockIndentation 0 c
      (breaks, max least widest, c)
    | some n =>
      let (breaks, c) := blockBreaks (least + n - 1) c
      (breaks, least + n - 1, c)
  if h : isAtBlockText indent c = true then blockLines fold indent breaks c h
  else ([], [], breaks, c)

theorem left_blockBody_le (fold : Bool) (least : Nat) (increment : Option Nat) (c : Cursor) :
    (blockBody fold least increment c).2.2.2.left ≤ c.left := by
  cases increment with
  | none =>
      simp only [blockBody]
      split
      · exact Nat.le_trans (left_blockLines_le ..) (left_blockIndentation_le 0 c)
      · exact left_blockIndentation_le 0 c
  | some n =>
      simp only [blockBody]
      split
      · exact Nat.le_trans (left_blockLines_le ..) (left_blockBreaks_le _ c)
      · exact left_blockBreaks_le _ c

/-- Read a block scalar inside a block of some indentation. -/
def scanBlockScalar (fold : Bool) (outer : Int) (c : Cursor) : Scan := do
  let (chomping, increment, c) ← blockHeader c.step
  let c ← skipLineEnd c
  let (text, last, tail, c) := blockBody fold (max (outer + 1) 1).toNat increment c
  let ending := match chomping with
    | .strip => []
    | .clip => last
    | .keep => last ++ tail
  return (.scalar (String.ofList (text ++ ending)) false, c)

theorem advances_scanBlockScalar (fold : Bool) (outer : Int) :
    Advances (scanBlockScalar fold outer) := by
  intro c c' t hend h
  obtain ⟨⟨chomping, increment, line⟩, hheader, h⟩ := exists_of_bind_eq_ok h
  obtain ⟨front, hfront, h⟩ := exists_of_bind_eq_ok h
  cases h
  calc (blockBody fold _ increment front).2.2.2.left
      ≤ front.left := left_blockBody_le _ _ _ _
    _ ≤ line.left := left_skipLineEnd_le hfront
    _ ≤ c.step.left := left_blockHeader_le hheader
    _ < c.left := Cursor.left_step_lt hend

/-- Whether a character ends the run of a plain scalar, given the one behind
it. -/
def endsPlain (inFlow : Bool) (d next : Char) : Bool :=
  isGapOrEnd d ||
    (d == ':' && (isGapOrEnd next || (inFlow && ",[]\x7b\x7d".toList.contains next))) ||
    (inFlow && ",?[]\x7b\x7d".toList.contains d)

/-- The characters of a plain scalar up to white space or its end. -/
def plainRun (inFlow : Bool) : List Char → List Char
  | [] => []
  | d :: rest =>
    if endsPlain inFlow d (rest.headD endMark) then [] else d :: plainRun inFlow rest

/-- Read the breaks behind the first one inside a plain scalar. Nothing comes
back if the mark of a document stands at the front of a line. -/
def plainBreaks (c : Cursor) : Option (List Char) × Cursor :=
  if _hspace : c.peek = ' ' then plainBreaks c.step
  else if _hbreak : isBreak c.peek = true then
    if isAtDocumentMark c.takeBreak.2 then (none, c.takeBreak.2)
    else
      let (breaks, after) := plainBreaks c.takeBreak.2
      (breaks.map (c.takeBreak.1 ++ ·), after)
  else (some [], c)
termination_by c.left
decreasing_by
  · exact Cursor.left_step_lt (by simp [_hspace, endMark])
  · exact Cursor.left_takeBreak_lt _hbreak

theorem left_plainBreaks_le (c : Cursor) : (plainBreaks c).2.left ≤ c.left := by
  fun_induction plainBreaks c with
  | case1 c _ ih => exact Nat.le_trans ih c.left_step_le
  | case2 c => exact c.left_takeBreak_le
  | case3 c _ _ _ breaks after hafter ih =>
      rw [hafter] at ih
      exact Nat.le_trans ih c.left_takeBreak_le
  | case4 => exact Nat.le_refl _

/-- White space inside a plain scalar: the text it stands for, which is empty
when the scalar cannot go on, and whether there was a line break. -/
structure PlainGap where
  text : List Char
  brokeLine : Bool
  cursor : Cursor

/-- Read white space inside a plain scalar. -/
def plainGap (c : Cursor) : PlainGap :=
  let (spaces, c) := c.takeWhile (· == ' ')
  if isBreak c.peek then
    let (lineBreak, c) := c.takeBreak
    if isAtDocumentMark c then ⟨[], true, c⟩
    else
      match plainBreaks c with
      | (none, c) => ⟨[], true, c⟩
      | (some breaks, c) => ⟨folded lineBreak breaks, true, c⟩
  else ⟨spaces, false, c⟩

theorem left_plainGap_le (c : Cursor) : (plainGap c).cursor.left ≤ c.left := by
  have hspaces := c.left_takeWhile_le (· == ' ')
  rw [plainGap]
  generalize c.takeWhile (· == ' ') = spaces at hspaces ⊢
  have hbreak := Nat.le_trans spaces.2.left_takeBreak_le hspaces
  have hbreaks := Nat.le_trans (left_plainBreaks_le spaces.2.takeBreak.2) hbreak
  dsimp only
  repeat' split
  all_goals simp_all

/-- A plain scalar, and whether the white space behind it ends a line, after
which a key may begin. -/
structure PlainScalar where
  text : List Char
  endsLine : Bool
  cursor : Cursor

/-- The white space behind the run of a plain scalar at the cursor. -/
def plainNext (inFlow : Bool) (c : Cursor) : PlainGap :=
  plainGap (c.advance (plainRun inFlow c.rest).length)

theorem left_plainNext_lt {inFlow : Bool} {c : Cursor} (h : plainRun inFlow c.rest ≠ []) :
    (plainNext inFlow c).cursor.left < c.left := by
  refine Nat.lt_of_le_of_lt (left_plainGap_le _) ?_
  rw [Cursor.left_advance]
  refine Nat.sub_lt (List.length_pos_iff.2 fun hrest => h ?_) (List.length_pos_iff.2 h)
  rw [hrest, plainRun]

/-- Read a plain scalar. White space is kept only if the scalar goes on behind
it. -/
def plainScalar (inFlow : Bool) (indent : Nat) (gap : List Char) (endsLine : Bool)
    (c : Cursor) : PlainScalar :=
  if _hrun : c.peek = '#' ∨ plainRun inFlow c.rest = [] then ⟨[], endsLine, c⟩
  else
    let run := plainRun inFlow c.rest
    let next := plainNext inFlow c
    if next.text.isEmpty || next.cursor.peek == '#' ||
        (!inFlow && next.cursor.column < indent) then
      ⟨gap ++ run, next.brokeLine, next.cursor⟩
    else
      let more := plainScalar inFlow indent next.text next.brokeLine next.cursor
      { more with text := gap ++ run ++ more.text }
termination_by c.left
decreasing_by exact left_plainNext_lt (not_or.1 _hrun).2

theorem left_plainScalar_le (inFlow : Bool) (indent : Nat) (gap : List Char) (endsLine : Bool)
    (c : Cursor) : (plainScalar inFlow indent gap endsLine c).cursor.left ≤ c.left := by
  fun_induction plainScalar inFlow indent gap endsLine c with
  | case1 => exact Nat.le_refl _
  | case2 gap endsLine c hrun =>
      exact Nat.le_of_lt (left_plainNext_lt (not_or.1 hrun).2)
  | case3 gap endsLine c hrun =>
      rename_i ih
      exact Nat.le_trans ih (Nat.le_of_lt (left_plainNext_lt (not_or.1 hrun).2))

/-- The run of a plain scalar that is there is read. -/
theorem left_plainScalar_lt {inFlow : Bool} {indent : Nat} {gap : List Char} {endsLine : Bool}
    {c : Cursor} (hcomment : c.peek ≠ '#') (hrun : plainRun inFlow c.rest ≠ []) :
    (plainScalar inFlow indent gap endsLine c).cursor.left < c.left := by
  have hnext := left_plainNext_lt hrun
  rw [plainScalar, dif_neg (not_or.2 ⟨hcomment, hrun⟩)]
  dsimp only
  split
  · exact hnext
  · exact Nat.lt_of_le_of_lt (left_plainScalar_le inFlow indent _ _ _) hnext

end FluentCalc.Yaml
