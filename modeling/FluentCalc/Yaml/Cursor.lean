/-
# A cursor in a YAML text

The place up to which a text has been read, with its index, line and column. A
read past the end gives the character U+0000, which no YAML text contains. Line
breaks are the line feed, the carriage return (alone or with a line feed), U+0085
and the two Unicode separators; the first three are read as a line feed.

The faults of a text are told apart only by the stage that finds them.
-/

namespace FluentCalc.Yaml

/-- Why a text is not read, by the stage that found it out. -/
inductive Fault
  /-- A character that YAML texts cannot contain. -/
  | unreadable
  /-- No token begins or ends where one has to. -/
  | token
  /-- The tokens do not follow each other as they must. -/
  | order
  /-- An alias without its anchor, an anchor twice, or a second document. -/
  | reference
  /-- A node from which no value is made. -/
  | construction
  /-- A scalar that is not what its tag says, with the class and the wording of
  the complaint. -/
  | conversion (kind message : String)
deriving DecidableEq

/-- The name of the class of a fault. -/
def Fault.kind : Fault → String
  | unreadable => "ReaderError"
  | token => "ScannerError"
  | order => "ParserError"
  | reference => "ComposerError"
  | construction => "ConstructorError"
  | conversion kind _ => kind

/-- The wording of a complaint about a scalar; the other faults have none. -/
def Fault.message? : Fault → Option String
  | conversion _ message => some message
  | _ => none

/-- What succeeds step by step succeeds in its first step. -/
theorem exists_of_bind_eq_ok {ε α β : Type} {x : Except ε α} {f : α → Except ε β} {b : β}
    (h : x >>= f = .ok b) : ∃ a, x = .ok a ∧ f a = .ok b := by
  cases x with
  | error fault => cases h
  | ok a => exact ⟨a, rfl, h⟩

/-- A result that is changed was there before. -/
theorem exists_of_map_eq_ok {ε α β : Type} {x : Except ε α} {f : α → β} {b : β}
    (h : f <$> x = .ok b) : ∃ a, x = .ok a ∧ f a = b := by
  cases x with
  | error fault => cases h
  | ok a => exact ⟨a, rfl, Except.ok.inj h⟩

/-- What is read past the end of a text. -/
def endMark : Char := '\x00'

/-- Whether a character breaks a line. -/
def isBreak (c : Char) : Bool :=
  c == '\r' || c == '\n' || c == '\x85' || c == '\u2028' || c == '\u2029'

/-- A space or a tab. -/
def isGap (c : Char) : Bool :=
  c == ' ' || c == '\t'

/-- A line break or the end. -/
def isBreakOrEnd (c : Char) : Bool :=
  isBreak c || c == endMark

/-- A space, a line break or the end. -/
def isSpaceOrEnd (c : Char) : Bool :=
  c == ' ' || isBreakOrEnd c

/-- A space, a tab, a line break or the end. -/
def isGapOrEnd (c : Char) : Bool :=
  c == '\t' || isSpaceOrEnd c

/-- Whether a character may occur in a YAML text. -/
def isReadable (c : Char) : Bool :=
  c == '\t' || c == '\n' || c == '\r' || ('\x20' ≤ c && c ≤ '\x7e') || c == '\x85' ||
    (0xa0 ≤ c.toNat && c.toNat ≤ 0xfffd) || 0x10000 ≤ c.toNat

/-- The place up to which a text has been read. -/
structure Cursor where
  rest : List Char
  index : Nat
  line : Nat
  column : Nat

namespace Cursor

/-- The cursor at the front of a text. -/
def start (text : List Char) : Cursor := ⟨text, 0, 0, 0⟩

/-- The next character. -/
def peek (c : Cursor) : Char :=
  c.rest.headD endMark

/-- The character some places behind the next one. -/
def peekAt (c : Cursor) (n : Nat) : Char :=
  (c.rest.drop n).headD endMark

/-- Whether a word stands at the cursor with a gap or the end behind it. -/
def isAtWord (c : Cursor) (word : String) : Bool :=
  word.toList.isPrefixOf c.rest && isGapOrEnd (c.peekAt word.length)

/-- Move past the next character. A byte order mark has no width. -/
def step (c : Cursor) : Cursor :=
  match c.rest with
  | [] => c
  | d :: rest =>
    if d == '\n' || d == '\x85' || d == '\u2028' || d == '\u2029' ||
        (d == '\r' && rest.headD endMark != '\n') then
      ⟨rest, c.index + 1, c.line + 1, 0⟩
    else if d == '\ufeff' then ⟨rest, c.index + 1, c.line, c.column⟩
    else ⟨rest, c.index + 1, c.line, c.column + 1⟩

/-- Move past a number of characters. -/
def advance (c : Cursor) : Nat → Cursor
  | 0 => c
  | n + 1 => c.step.advance n

/-- Take the characters in front of the first one that fails a test. -/
def takeWhile (c : Cursor) (p : Char → Bool) : List Char × Cursor :=
  let taken := c.rest.takeWhile p
  (taken, c.advance taken.length)

/-- Move past spaces. -/
def skipSpaces (c : Cursor) : Cursor :=
  (c.takeWhile (· == ' ')).2

/-- Move past spaces and tabs. -/
def skipGaps (c : Cursor) : Cursor :=
  (c.takeWhile isGap).2

/-- Move past a comment, if one begins here. -/
def skipComment (c : Cursor) : Cursor :=
  if c.peek == '#' then (c.takeWhile fun d => !isBreakOrEnd d).2 else c

/-- Move past spaces and a comment behind them. -/
def skipLine (c : Cursor) : Cursor :=
  c.skipSpaces.skipComment

/-- Take a line break, if there is one, as the text it stands for. -/
def takeBreak (c : Cursor) : List Char × Cursor :=
  let d := c.peek
  if d == '\r' || d == '\n' || d == '\x85' then
    (['\n'], if d == '\r' && c.peekAt 1 == '\n' then c.advance 2 else c.step)
  else if d == '\u2028' || d == '\u2029' then ([d], c.step)
  else ([], c)

/-- The number of characters that are left to read. -/
def left (c : Cursor) : Nat :=
  c.rest.length

@[simp]
theorem rest_step (c : Cursor) : c.step.rest = c.rest.tail := by
  obtain ⟨rest, index, line, column⟩ := c
  cases rest with
  | nil => rfl
  | cons d rest =>
      simp only [step, List.tail_cons]
      split
      · rfl
      · split <;> rfl

@[simp]
theorem rest_advance (c : Cursor) (n : Nat) : (c.advance n).rest = c.rest.drop n := by
  induction n generalizing c with
  | zero => rfl
  | succ n ih => rw [advance, ih, rest_step, List.drop_tail]

theorem left_step (c : Cursor) : c.step.left = c.left - 1 := by
  simp [left]

theorem left_advance (c : Cursor) (n : Nat) : (c.advance n).left = c.left - n := by
  simp [left]

theorem left_step_le (c : Cursor) : c.step.left ≤ c.left :=
  left_step c ▸ Nat.sub_le _ _

theorem left_advance_le (c : Cursor) (n : Nat) : (c.advance n).left ≤ c.left :=
  left_advance c n ▸ Nat.sub_le _ _

theorem left_takeWhile_le (c : Cursor) (p : Char → Bool) : (c.takeWhile p).2.left ≤ c.left :=
  left_advance_le c _

/-- Where the first character fails the test nothing is taken. -/
theorem takeWhile_of_not {c : Cursor} {p : Char → Bool} (h : p c.peek = false) :
    c.takeWhile p = ([], c) := by
  have htaken : c.rest.takeWhile p = [] := by
    cases hrest : c.rest with
    | nil => rfl
    | cons d rest =>
        rw [peek, hrest, List.headD_cons] at h
        exact List.takeWhile_cons_of_neg (Bool.eq_false_iff.1 h)
  rw [takeWhile, htaken]
  rfl

theorem left_skipSpaces_le (c : Cursor) : c.skipSpaces.left ≤ c.left :=
  left_takeWhile_le c _

theorem left_skipGaps_le (c : Cursor) : c.skipGaps.left ≤ c.left :=
  left_takeWhile_le c _

theorem left_skipComment_le (c : Cursor) : c.skipComment.left ≤ c.left := by
  rw [skipComment]
  split
  · exact left_takeWhile_le c _
  · exact Nat.le_refl _

theorem left_skipLine_le (c : Cursor) : c.skipLine.left ≤ c.left :=
  Nat.le_trans (left_skipComment_le _) (left_skipSpaces_le c)

/-- A character that is not the end is there to be read. -/
theorem left_pos {c : Cursor} (h : c.peek ≠ endMark) : 0 < c.left := by
  refine List.length_pos_iff.2 fun hrest => h ?_
  rw [peek, hrest]
  rfl

theorem left_advance_lt {c : Cursor} {n : Nat} (hn : 0 < n) (h : c.peek ≠ endMark) :
    (c.advance n).left < c.left :=
  left_advance c n ▸ Nat.sub_lt (left_pos h) hn

theorem left_step_lt {c : Cursor} (h : c.peek ≠ endMark) : c.step.left < c.left :=
  left_step c ▸ Nat.sub_lt (left_pos h) Nat.one_pos

theorem left_takeWhile_lt {c : Cursor} {p : Char → Bool} (h : p c.peek = true)
    (hend : c.peek ≠ endMark) : (c.takeWhile p).2.left < c.left := by
  refine left_advance_lt (List.length_pos_iff.2 fun htaken => ?_) hend
  cases hrest : c.rest with
  | nil => simp [peek, hrest] at hend
  | cons d rest =>
      rw [peek, hrest, List.headD_cons] at h
      rw [hrest, List.takeWhile_cons_of_pos h] at htaken
      cases htaken

theorem peek_ne_endMark_of_isBreak {c : Cursor} (h : isBreak c.peek = true) :
    c.peek ≠ endMark :=
  fun hend => absurd h (hend ▸ by decide)

/-- Behind a line break less is left to read. -/
theorem left_takeBreak_lt {c : Cursor} (h : isBreak c.peek = true) :
    c.takeBreak.2.left < c.left := by
  have hpeek := peek_ne_endMark_of_isBreak h
  have hstep := left_step_lt hpeek
  have hadvance : (c.advance 2).left < c.left := left_advance_lt (by decide) hpeek
  simp only [isBreak, takeBreak] at h ⊢
  grind

theorem left_takeBreak_le (c : Cursor) : c.takeBreak.2.left ≤ c.left := by
  have hstep := left_step_le c
  have hadvance := left_advance_le c 2
  simp only [takeBreak]
  grind

end Cursor

end FluentCalc.Yaml
