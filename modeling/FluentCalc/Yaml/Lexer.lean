/-
# Cutting YAML into tokens

A mapping key is known as a key only when its colon is met, which may be well
behind it. So tokens wait in a queue while one of them may still turn out to
begin a key, and a key token is then put in front of it. `tokens` runs the
lexer to the end: it gives the tokens in the order in which they are released,
and the fault that stops it, if there is one. Tokens in front of a fault count;
whoever reads them meets the fault only behind the last of them.

Nesting of blocks is by indentation. The lexer keeps the columns of the open
blocks and releases a block end for each that a line leaves.

Whenever the lexer reads on, it reads up to the end or takes characters. So it
comes to the end.
-/

import FluentCalc.Yaml.Scalar

namespace FluentCalc.Yaml

/-- A token that may begin a simple key: its number, whether it must be one, and
where it stands. -/
structure Candidate where
  number : Nat
  required : Bool
  index : Nat
  line : Nat
  column : Nat

/-- The state of the lexer. -/
structure Lexer where
  cursor : Cursor
  /-- The number of tokens released so far, and those that wait. -/
  released : Nat
  queue : List Token
  /-- How many flow collections are open. -/
  flow : Nat
  /-- The column of the innermost open block, or -1, and those around it. -/
  indent : Int
  indents : List Int
  /-- Whether a simple key may begin here. -/
  allowKey : Bool
  /-- The candidates, at most one for each level of flow collections. -/
  candidates : List (Nat × Candidate)
  /-- Whether the end of the text has been reached. -/
  finished : Bool

namespace Lexer

/-- The lexer at the front of a text. -/
def start (text : List Char) : Lexer where
  cursor := .start text
  released := 0
  queue := []
  flow := 0
  indent := -1
  indents := []
  allowKey := true
  candidates := []
  finished := false

/-- Add a token to the queue. -/
def push (l : Lexer) (t : Token) : Lexer :=
  { l with queue := l.queue ++ [t] }

/-- Put a token into the queue in front of the token of a number. -/
def insertAt (l : Lexer) (number : Nat) (t : Token) : Lexer :=
  let place := number - l.released
  { l with queue := l.queue.take place ++ t :: l.queue.drop place }

/-- Move the cursor. -/
def moveTo (l : Lexer) (c : Cursor) : Lexer :=
  { l with cursor := c }

/-- The candidate of the present level. -/
def candidate? (l : Lexer) : Option Candidate :=
  (l.candidates.find? fun entry => entry.1 == l.flow).map (·.2)

/-- Whether a candidate can no longer be a key: keys end on their own line and
within 1024 characters. -/
def isStale (l : Lexer) (candidate : Candidate) : Bool :=
  candidate.line != l.cursor.line || 1024 < l.cursor.index - candidate.index

/-- Drop stale candidates, none of which may be required. -/
def dropStale (l : Lexer) : Except Fault Lexer :=
  if l.candidates.any fun entry => l.isStale entry.2 && entry.2.required then .error .token
  else .ok { l with candidates := l.candidates.filter fun entry => !l.isStale entry.2 }

theorem exists_of_dropStale {l l' : Lexer} (h : l.dropStale = .ok l') :
    ∃ candidates, l' = { l with candidates := candidates } := by
  rw [dropStale] at h
  split at h
  · cases h
  · exact ⟨_, (Except.ok.inj h).symm⟩

/-- Drop the candidate of the present level, which may not be required. -/
def dropCandidate (l : Lexer) : Except Fault Lexer :=
  match l.candidate? with
  | none => .ok l
  | some candidate =>
    if candidate.required then .error .token
    else .ok { l with candidates := l.candidates.filter fun entry => entry.1 != l.flow }

theorem exists_of_dropCandidate {l l' : Lexer} (h : l.dropCandidate = .ok l') :
    ∃ candidates, l' = { l with candidates := candidates } := by
  rw [dropCandidate] at h
  split at h
  · exact ⟨_, (Except.ok.inj h).symm⟩
  · split at h
    · cases h
    · exact ⟨_, (Except.ok.inj h).symm⟩

/-- Note that the next token may begin a key. It must be one if it stands at the
column of the innermost block. -/
def noteCandidate (l : Lexer) : Except Fault Lexer :=
  if l.allowKey then do
    let required := l.flow == 0 && l.indent == l.cursor.column
    let candidate : Candidate :=
      ⟨l.released + l.queue.length, required, l.cursor.index, l.cursor.line, l.cursor.column⟩
    let l ← l.dropCandidate
    return { l with candidates := l.candidates ++ [(l.flow, candidate)] }
  else .ok l

theorem exists_of_noteCandidate {l l' : Lexer} (h : l.noteCandidate = .ok l') :
    ∃ candidates, l' = { l with candidates := candidates } := by
  rw [noteCandidate] at h
  split at h
  · obtain ⟨l₁, hdrop, h⟩ := exists_of_bind_eq_ok h
    obtain ⟨candidates, rfl⟩ := exists_of_dropCandidate hdrop
    exact ⟨_, (Except.ok.inj h).symm⟩
  · exact ⟨_, (Except.ok.inj h).symm⟩

/-- Whether a token waits that no candidate holds back. -/
def isReady (l : Lexer) : Bool :=
  !l.queue.isEmpty && l.candidates.all fun entry => entry.2.number != l.released

/-- Close the blocks that a column lies in front of. -/
def unwind (l : Lexer) (column : Int) : Lexer :=
  if l.flow != 0 then l
  else
    let left := (l.indent :: l.indents).takeWhile (column < ·)
    { l with
      queue := l.queue ++ left.map fun _ => Token.blockEnd
      indent := ((l.indent :: l.indents).drop left.length).headD (-1)
      indents := (l.indent :: l.indents).drop (left.length + 1) }

@[simp]
theorem cursor_unwind (l : Lexer) (column : Int) : (l.unwind column).cursor = l.cursor := by
  rw [unwind]
  split <;> rfl

/-- Open a block at a column, if it lies behind that of the innermost one. -/
def openBlock? (l : Lexer) (column : Nat) : Option Lexer :=
  if l.indent < column then
    some { l with indents := l.indent :: l.indents, indent := column }
  else none

theorem cursor_of_openBlock? {l opened : Lexer} {column : Nat}
    (h : l.openBlock? column = some opened) : opened.cursor = l.cursor := by
  rw [openBlock?] at h
  split at h
  · cases h; rfl
  · cases h

/-- Move past spaces, comments and line breaks. In a block, a key may begin on a
new line. -/
def skip (l : Lexer) : Lexer :=
  if _hbreak : isBreak l.cursor.skipLine.peek = true then
    skip { l with
      cursor := l.cursor.skipLine.takeBreak.2
      allowKey := l.allowKey || l.flow == 0 }
  else l.moveTo l.cursor.skipLine
termination_by l.cursor.left
decreasing_by
  exact Nat.lt_of_lt_of_le (Cursor.left_takeBreak_lt _hbreak) l.cursor.left_skipLine_le

theorem left_skip_le (l : Lexer) : l.skip.cursor.left ≤ l.cursor.left := by
  fun_induction skip l with
  | case1 l _ ih =>
      exact Nat.le_trans ih (Nat.le_trans (Cursor.left_takeBreak_le _) l.cursor.left_skipLine_le)
  | case2 l => exact l.cursor.left_skipLine_le

/-- Move to the front of the next token. A byte order mark at the front of the
text is passed over. -/
def skipToToken (l : Lexer) : Lexer :=
  if l.cursor.index == 0 && l.cursor.peek == '\ufeff' then (l.moveTo l.cursor.step).skip
  else l.skip

theorem left_skipToToken_le (l : Lexer) : l.skipToToken.cursor.left ≤ l.cursor.left := by
  rw [skipToToken]
  split
  · exact Nat.le_trans (left_skip_le _) l.cursor.left_step_le
  · exact left_skip_le l

/-- Whether a way to read on comes to the end or takes characters, if it succeeds. -/
def Progresses (l : Lexer) (next : Except Fault Lexer) : Prop :=
  ∀ l', next = .ok l' → l'.finished = true ∨ l'.cursor.left < l.cursor.left

/-- Release the end of the text. -/
def fetchEnd (l : Lexer) : Except Fault Lexer := do
  let l ← (l.unwind (-1)).dropCandidate
  return { l.push .streamEnd with allowKey := false, candidates := [], finished := true }

theorem progresses_fetchEnd (l : Lexer) : l.Progresses l.fetchEnd := by
  intro l' h
  obtain ⟨l₁, -, h⟩ := exists_of_bind_eq_ok h
  cases h
  exact .inl rfl

/-- Read a token that can begin no key and that no block survives. -/
def fetchBoundary (l : Lexer) (scan : Cursor → Scan) : Except Fault Lexer := do
  let l ← (l.unwind (-1)).dropCandidate
  let (t, c) ← scan l.cursor
  return { (l.push t).moveTo c with allowKey := false }

theorem progresses_fetchBoundary {l : Lexer} {scan : Cursor → Scan} (hscan : Advances scan)
    (hend : l.cursor.peek ≠ endMark) : l.Progresses (l.fetchBoundary scan) := by
  intro l' h
  obtain ⟨l₁, hdrop, h⟩ := exists_of_bind_eq_ok h
  obtain ⟨candidates, rfl⟩ := exists_of_dropCandidate hdrop
  obtain ⟨⟨t, c⟩, ht, h⟩ := exists_of_bind_eq_ok h
  cases h
  have hcursor : (l.unwind (-1)).cursor = l.cursor := l.cursor_unwind _
  exact .inr (hscan hend (hcursor ▸ ht))

/-- Read a token that may begin a key and behind which none may begin. -/
def fetchKeyed (l : Lexer) (scan : Cursor → Scan) : Except Fault Lexer := do
  let l ← l.noteCandidate
  let (t, c) ← scan l.cursor
  return { (l.push t).moveTo c with allowKey := false }

theorem progresses_fetchKeyed {l : Lexer} {scan : Cursor → Scan} (hscan : Advances scan)
    (hend : l.cursor.peek ≠ endMark) : l.Progresses (l.fetchKeyed scan) := by
  intro l' h
  obtain ⟨l₁, hnote, h⟩ := exists_of_bind_eq_ok h
  obtain ⟨candidates, rfl⟩ := exists_of_noteCandidate hnote
  obtain ⟨⟨t, c⟩, ht, h⟩ := exists_of_bind_eq_ok h
  cases h
  exact .inr (hscan hend ht)

/-- Read a plain scalar, which may begin a key. A key may follow it on a new
line. -/
def fetchPlain (l : Lexer) : Except Fault Lexer := do
  let l ← l.noteCandidate
  let scalar := plainScalar (l.flow != 0) (l.indent + 1).toNat [] false l.cursor
  return { (l.push (.scalar (String.ofList scalar.text) true)).moveTo scalar.cursor with
    allowKey := scalar.endsLine }

theorem progresses_fetchPlain {l : Lexer} (hcomment : l.cursor.peek ≠ '#')
    (hrun : plainRun (l.flow != 0) l.cursor.rest ≠ []) : l.Progresses l.fetchPlain := by
  intro l' h
  obtain ⟨l₁, hnote, h⟩ := exists_of_bind_eq_ok h
  obtain ⟨candidates, rfl⟩ := exists_of_noteCandidate hnote
  cases h
  exact .inr (left_plainScalar_lt hcomment hrun)

/-- Read a block scalar. -/
def fetchBlockScalar (l : Lexer) (fold : Bool) : Except Fault Lexer := do
  let l ← l.dropCandidate
  let (t, c) ← scanBlockScalar fold l.indent l.cursor
  return { (l.push t).moveTo c with allowKey := true }

theorem progresses_fetchBlockScalar {l : Lexer} {fold : Bool}
    (hend : l.cursor.peek ≠ endMark) : l.Progresses (l.fetchBlockScalar fold) := by
  intro l' h
  obtain ⟨l₁, hdrop, h⟩ := exists_of_bind_eq_ok h
  obtain ⟨candidates, rfl⟩ := exists_of_dropCandidate hdrop
  obtain ⟨⟨t, c⟩, ht, h⟩ := exists_of_bind_eq_ok h
  cases h
  exact .inr (advances_scanBlockScalar fold l.indent hend ht)

/-- Read the opening bracket of a flow collection. -/
def fetchFlowStart (l : Lexer) (t : Token) : Except Fault Lexer := do
  let l ← l.noteCandidate
  return { (l.push t).moveTo l.cursor.step with flow := l.flow + 1, allowKey := true }

theorem progresses_fetchFlowStart {l : Lexer} {t : Token} (hend : l.cursor.peek ≠ endMark) :
    l.Progresses (l.fetchFlowStart t) := by
  intro l' h
  obtain ⟨l₁, hnote, h⟩ := exists_of_bind_eq_ok h
  obtain ⟨candidates, rfl⟩ := exists_of_noteCandidate hnote
  cases h
  exact .inr (Cursor.left_step_lt hend)

/-- Read the closing bracket of a flow collection. -/
def fetchFlowEnd (l : Lexer) (t : Token) : Except Fault Lexer := do
  let l ← l.dropCandidate
  return { (l.push t).moveTo l.cursor.step with flow := l.flow - 1, allowKey := false }

theorem progresses_fetchFlowEnd {l : Lexer} {t : Token} (hend : l.cursor.peek ≠ endMark) :
    l.Progresses (l.fetchFlowEnd t) := by
  intro l' h
  obtain ⟨l₁, hdrop, h⟩ := exists_of_bind_eq_ok h
  obtain ⟨candidates, rfl⟩ := exists_of_dropCandidate hdrop
  cases h
  exact .inr (Cursor.left_step_lt hend)

/-- Read a comma. -/
def fetchFlowEntry (l : Lexer) : Except Fault Lexer := do
  let l ← l.dropCandidate
  return { (l.push .flowEntry).moveTo l.cursor.step with allowKey := true }

theorem progresses_fetchFlowEntry {l : Lexer} (hend : l.cursor.peek ≠ endMark) :
    l.Progresses l.fetchFlowEntry := by
  intro l' h
  obtain ⟨l₁, hdrop, h⟩ := exists_of_bind_eq_ok h
  obtain ⟨candidates, rfl⟩ := exists_of_dropCandidate hdrop
  cases h
  exact .inr (Cursor.left_step_lt hend)

/-- Begin a block collection here, if one can begin and none is open at this
column. -/
def beginBlock (l : Lexer) (t : Token) : Except Fault Lexer :=
  if l.flow != 0 then .ok l
  else if !l.allowKey then .error .token
  else
    match l.openBlock? l.cursor.column with
    | some opened => .ok (opened.push t)
    | none => .ok l

theorem cursor_of_beginBlock {l l' : Lexer} {t : Token} (h : l.beginBlock t = .ok l') :
    l'.cursor = l.cursor := by
  rw [beginBlock] at h
  split at h
  · cases h; rfl
  split at h
  · cases h
  split at h
  · next opened hopened =>
    cases h
    have hcursor := cursor_of_openBlock? hopened
    exact hcursor
  · cases h; rfl

/-- Read an indicator of a block collection, which may begin here. -/
def fetchIndicator (l : Lexer) (start t : Token) (allowKey : Bool) : Except Fault Lexer := do
  let l ← l.beginBlock start
  let l ← { l with allowKey := allowKey }.dropCandidate
  return (l.push t).moveTo l.cursor.step

theorem progresses_fetchIndicator {l : Lexer} {start t : Token} {allowKey : Bool}
    (hend : l.cursor.peek ≠ endMark) : l.Progresses (l.fetchIndicator start t allowKey) := by
  intro l' h
  obtain ⟨l₁, hbegin, h⟩ := exists_of_bind_eq_ok h
  obtain ⟨l₂, hdrop, h⟩ := exists_of_bind_eq_ok h
  obtain ⟨candidates, rfl⟩ := exists_of_dropCandidate hdrop
  cases h
  have hcursor : l₁.cursor = l.cursor := cursor_of_beginBlock hbegin
  refine .inr ?_
  change l₁.cursor.step.left < l.cursor.left
  rw [hcursor]
  exact Cursor.left_step_lt hend

/-- Make the token of a candidate a key. A block mapping may begin in front of it. -/
def makeKey (l : Lexer) (candidate : Candidate) : Lexer :=
  let l := { l with
    candidates := l.candidates.filter fun entry => entry.1 != l.flow
    allowKey := false }
  let l := l.insertAt candidate.number .key
  if l.flow != 0 then l
  else
    match l.openBlock? candidate.column with
    | some opened => opened.insertAt candidate.number .blockMappingStart
    | none => l

/-- Read a colon. Where there is a candidate it is a simple key. -/
def fetchValue (l : Lexer) : Except Fault Lexer :=
  match l.candidate? with
  | some candidate => .ok (((l.makeKey candidate).push .value).moveTo l.cursor.step)
  | none => l.fetchIndicator .blockMappingStart .value (l.flow == 0)

theorem progresses_fetchValue {l : Lexer} (hend : l.cursor.peek ≠ endMark) :
    l.Progresses l.fetchValue := by
  intro l' h
  rw [fetchValue] at h
  split at h
  · cases h
    exact .inr (Cursor.left_step_lt hend)
  · exact progresses_fetchIndicator hend l' h

/-- Whether a plain scalar can begin at the cursor. -/
def canBeginPlain (l : Lexer) : Bool :=
  let d := l.cursor.peek
  !(isGapOrEnd d || "-?:,[]\x7b\x7d#&*!|>%@\x60".toList.contains d || d == '\x27' ||
      d == '\x22') ||
    (!isGapOrEnd (l.cursor.peekAt 1) && (d == '-' || (l.flow == 0 && (d == '?' || d == ':'))))

theorem peek_ne_of_canBeginPlain {l : Lexer} (h : l.canBeginPlain = true) :
    l.cursor.peek ≠ '#' := by
  intro hpeek
  simp [canBeginPlain, hpeek] at h

/-- Where a plain scalar can begin, its first character belongs to it. -/
theorem plainRun_ne_nil_of_canBeginPlain {l : Lexer} (h : l.canBeginPlain = true) :
    plainRun (l.flow != 0) l.cursor.rest ≠ [] := by
  cases hrest : l.cursor.rest with
  | nil =>
      rw [canBeginPlain, Cursor.peek, hrest] at h
      exact absurd h (by simp [endMark, isGapOrEnd, isSpaceOrEnd, isBreakOrEnd])
  | cons d rest =>
      have hindicators :
          isGapOrEnd '-' = false ∧ isGapOrEnd '?' = false ∧ isGapOrEnd ':' = false := by decide
      have hends : endsPlain (l.flow != 0) d (rest.headD endMark) = false := by
        simp only [canBeginPlain, Cursor.peek, Cursor.peekAt, hrest, List.headD_cons,
          List.drop_succ_cons, List.drop_zero, Bool.or_eq_true] at h
        obtain h | h := h
        · -- A character that is no indicator goes on under all conditions.
          simp_all [endsPlain]
        · simp only [Bool.and_eq_true, Bool.not_eq_true', Bool.or_eq_true, beq_iff_eq] at h
          obtain ⟨hgap, rfl | ⟨hflow, rfl | rfl⟩⟩ := h <;>
            simp [endsPlain, *, -List.headD_eq_head?_getD]
      rw [plainRun, if_neg (Bool.eq_false_iff.1 hends)]
      exact List.cons_ne_nil _ _

/-- Whether an indicator stands alone, as it must outside of flow
collections. -/
def standsAlone (l : Lexer) : Bool :=
  isGapOrEnd (l.cursor.peekAt 1)

/-- Read the mark of a document's start or end. -/
def scanMark (t : Token) (c : Cursor) : Scan :=
  .ok (t, c.advance 3)

theorem advances_scanMark (t : Token) : Advances (scanMark t) := by
  intro c c' t hend h
  cases h
  exact Cursor.left_advance_lt (by decide) hend

/-- Read the tokens that begin at the cursor. -/
def fetchHere (l : Lexer) : Except Fault Lexer :=
  let c := l.cursor
  let d := c.peek
  if d == endMark then l.fetchEnd
  else if d == '%' && c.column == 0 then l.fetchBoundary scanDirective
  else if c.column == 0 && c.isAtWord "---" then l.fetchBoundary (scanMark .documentStart)
  else if c.column == 0 && c.isAtWord "..." then l.fetchBoundary (scanMark .documentEnd)
  else if d == '[' then l.fetchFlowStart .flowSequenceStart
  else if d == '\x7b' then l.fetchFlowStart .flowMappingStart
  else if d == ']' then l.fetchFlowEnd .flowSequenceEnd
  else if d == '\x7d' then l.fetchFlowEnd .flowMappingEnd
  else if d == ',' then l.fetchFlowEntry
  else if d == '-' && l.standsAlone then
    l.fetchIndicator .blockSequenceStart .blockEntry true
  else if d == '?' && (l.flow != 0 || l.standsAlone) then
    l.fetchIndicator .blockMappingStart .key (l.flow == 0)
  else if d == ':' && (l.flow != 0 || l.standsAlone) then l.fetchValue
  else if d == '*' then l.fetchKeyed (scanAnchor .alias)
  else if d == '&' then l.fetchKeyed (scanAnchor .anchor)
  else if d == '!' then l.fetchKeyed scanTag
  else if d == '|' && l.flow == 0 then l.fetchBlockScalar false
  else if d == '>' && l.flow == 0 then l.fetchBlockScalar true
  else if d == '\x27' then l.fetchKeyed (scanQuoted false)
  else if d == '\x22' then l.fetchKeyed (scanQuoted true)
  else if l.canBeginPlain then l.fetchPlain
  else .error .token

theorem progresses_fetchHere (l : Lexer) : l.Progresses l.fetchHere := by
  rw [fetchHere]
  refine iteInduction (fun _ => l.progresses_fetchEnd) fun hend => ?_
  replace hend : l.cursor.peek ≠ endMark := mt beq_iff_eq.2 hend
  refine iteInduction (fun _ => progresses_fetchBoundary advances_scanDirective hend) fun _ => ?_
  refine iteInduction (fun _ => progresses_fetchBoundary (advances_scanMark _) hend) fun _ => ?_
  refine iteInduction (fun _ => progresses_fetchBoundary (advances_scanMark _) hend) fun _ => ?_
  refine iteInduction (fun _ => progresses_fetchFlowStart hend) fun _ => ?_
  refine iteInduction (fun _ => progresses_fetchFlowStart hend) fun _ => ?_
  refine iteInduction (fun _ => progresses_fetchFlowEnd hend) fun _ => ?_
  refine iteInduction (fun _ => progresses_fetchFlowEnd hend) fun _ => ?_
  refine iteInduction (fun _ => progresses_fetchFlowEntry hend) fun _ => ?_
  refine iteInduction (fun _ => progresses_fetchIndicator hend) fun _ => ?_
  refine iteInduction (fun _ => progresses_fetchIndicator hend) fun _ => ?_
  refine iteInduction (fun _ => progresses_fetchValue hend) fun _ => ?_
  refine iteInduction (fun _ => progresses_fetchKeyed (advances_scanAnchor _) hend) fun _ => ?_
  refine iteInduction (fun _ => progresses_fetchKeyed (advances_scanAnchor _) hend) fun _ => ?_
  refine iteInduction (fun _ => progresses_fetchKeyed advances_scanTag hend) fun _ => ?_
  refine iteInduction (fun _ => progresses_fetchBlockScalar hend) fun _ => ?_
  refine iteInduction (fun _ => progresses_fetchBlockScalar hend) fun _ => ?_
  refine iteInduction (fun _ => progresses_fetchKeyed (advances_scanQuoted _) hend) fun _ => ?_
  refine iteInduction (fun _ => progresses_fetchKeyed (advances_scanQuoted _) hend) fun _ => ?_
  refine iteInduction (fun hplain => progresses_fetchPlain (peek_ne_of_canBeginPlain hplain)
    (plainRun_ne_nil_of_canBeginPlain hplain)) fun _ => ?_
  exact fun _ h => nomatch h

/-- Read the next tokens of the text into the queue. -/
def fetch (l : Lexer) : Except Fault Lexer := do
  let l ← l.skipToToken.dropStale
  (l.unwind l.cursor.column).fetchHere

theorem progresses_fetch (l : Lexer) : l.Progresses l.fetch := by
  intro l' h
  obtain ⟨l₁, hstale, h⟩ := exists_of_bind_eq_ok h
  obtain ⟨candidates, rfl⟩ := exists_of_dropStale hstale
  have hhere := progresses_fetchHere _ _ h
  rw [cursor_unwind] at hhere
  exact hhere.imp_right fun hlt => Nat.lt_of_lt_of_le hlt l.left_skipToToken_le

/-- Release the next token if one is ready, and read on if none is. -/
def turn (l : Lexer) : Except Fault (Option Token × Lexer) :=
  match l.queue with
  | [] => (none, ·) <$> l.fetch
  | t :: queue => do
    let l ← l.dropStale
    if l.isReady then return (some t, { l with queue := queue, released := l.released + 1 })
    else return (none, ← l.fetch)

/-- What is left to do: the characters up to the end, and the tokens that wait. -/
def remaining (l : Lexer) : Nat × Nat :=
  (if l.finished then 0 else l.cursor.left + 1, l.queue.length)

theorem remaining_turn_lt {l l' : Lexer} {t? : Option Token} (hfinished : ¬l.finished = true)
    (h : l.turn = .ok (t?, l')) : Prod.Lex (· < ·) (· < ·) l'.remaining l.remaining := by
  have hread (l₁ : Lexer) (hcursor : l₁.cursor = l.cursor) (hfetch : l₁.fetch = .ok l') :
      Prod.Lex (· < ·) (· < ·) l'.remaining l.remaining := by
    refine Prod.Lex.left _ _ ?_
    have hprogress := progresses_fetch l₁ l' hfetch
    rw [hcursor] at hprogress
    rw [if_neg hfinished]
    split
    · exact Nat.succ_pos _
    · exact Nat.succ_lt_succ (hprogress.resolve_left ‹_›)
  rw [turn] at h
  split at h
  · obtain ⟨l₁, hfetch, h⟩ := exists_of_map_eq_ok h
    cases h
    exact hread l rfl hfetch
  · next t queue hqueue =>
    obtain ⟨l₁, hstale, h⟩ := exists_of_bind_eq_ok h
    obtain ⟨candidates, rfl⟩ := exists_of_dropStale hstale
    split at h
    · cases h
      simp only [remaining, hqueue, List.length_cons]
      exact Prod.Lex.right _ (Nat.lt_succ_self _)
    · obtain ⟨l₁, hfetch, h⟩ := exists_of_bind_eq_ok h
      cases h
      exact hread { l with candidates := candidates } rfl hfetch

/-- Release tokens one by one up to the end of the text or to a fault. -/
def run (l : Lexer) : List Token × Option Fault :=
  if _hfinished : l.finished = true then (l.queue, none)
  else
    match _hturn : l.turn with
    | .error fault => ([], some fault)
    | .ok (t?, l') =>
      let (tokens, fault) := run l'
      (t?.toList ++ tokens, fault)
termination_by l.remaining
decreasing_by exact remaining_turn_lt _hfinished _hturn

end Lexer

/-- The tokens of a text, and the fault behind the last of them if they do not
reach to the end. -/
def tokens (text : List Char) : List Token × Option Fault :=
  Lexer.run (.start text)

end FluentCalc.Yaml
