/-
# Tokens of YAML

The tokens that a text is cut into, and the reading of the longer ones: anchors
and aliases, tags and directives. Each reading starts with the cursor on the
first character of its token and comes back with the cursor behind the last, so
that less of the text is left with every token.
-/

import FluentCalc.Json.Reader
import FluentCalc.Text.Utf8
import FluentCalc.Yaml.Cursor

namespace FluentCalc.Yaml

/-- A line that says how to read the document that follows. -/
inductive Directive
  | version (major minor : Nat)
  | tag (handle leader : String)
  | reserved

/-- A token. -/
inductive Token
  | streamEnd
  | directive (d : Directive)
  | documentStart
  | documentEnd
  | blockSequenceStart
  | blockMappingStart
  | blockEnd
  | flowSequenceStart
  | flowSequenceEnd
  | flowMappingStart
  | flowMappingEnd
  | flowEntry
  | blockEntry
  | key
  | value
  | alias (name : String)
  | anchor (name : String)
  /-- A tag; the handle is absent from a tag that is written in full. -/
  | tag (handle : Option String) (suffix : String)
  | scalar (text : String) (plain : Bool)

/-- A token and the cursor behind it. -/
abbrev Scan := Except Fault (Token × Cursor)

/-- A reading of a token takes characters, unless it begins at the end. -/
def Advances (scan : Cursor → Scan) : Prop :=
  ∀ {c c' : Cursor} {t : Token}, c.peek ≠ endMark → scan c = .ok (t, c') → c'.left < c.left

/-- Whether a character may occur in the name of an anchor. -/
def isNameChar (c : Char) : Bool :=
  c.isAlphanum || c == '-' || c == '_'

/-- Whether a character may occur in a tag. -/
def isTagChar (c : Char) : Bool :=
  c.isAlphanum || "-;/?:@&=+$,_.!~*()[]%".toList.contains c || c == '\x27'

/-- Read an anchor or an alias. -/
def scanAnchor (make : String → Token) (c : Cursor) : Scan :=
  let (name, c) := c.step.takeWhile isNameChar
  if name.isEmpty then .error .token
  else if isGapOrEnd c.peek || "?:,]\x7d%@\x60".toList.contains c.peek then
    .ok (make (String.ofList name), c)
  else .error .token

theorem advances_scanAnchor (make : String → Token) : Advances (scanAnchor make) := by
  intro c c' t hend h
  simp only [scanAnchor] at h
  split at h
  · cases h
  · split at h
    · cases h
      exact Nat.lt_of_le_of_lt (Cursor.left_takeWhile_le _ _) (Cursor.left_step_lt hend)
    · cases h

/-- Read the octets of escapes `%NN`. -/
def scanOctets (c : Cursor) : Except Fault (List UInt8 × Cursor) :=
  if _hpeek : c.peek = '%' then
    match Json.hexDigit? (c.peekAt 1), Json.hexDigit? (c.peekAt 2) with
    | some high, some low => do
      let (octets, c) ← scanOctets (c.advance 3)
      return (UInt8.ofNat (16 * high + low) :: octets, c)
    | _, _ => .error .token
  else .ok ([], c)
termination_by c.left
decreasing_by exact Cursor.left_advance_lt (by decide) (by simp [_hpeek, endMark])

theorem left_scanOctets_le {c c' : Cursor} {octets : List UInt8}
    (h : scanOctets c = .ok (octets, c')) : c'.left ≤ c.left := by
  fun_induction scanOctets c generalizing octets c' with
  | case1 c _ high _ low _ ih =>
      obtain ⟨⟨more, after⟩, hmore, h⟩ := exists_of_bind_eq_ok h
      cases h
      exact Nat.le_trans (ih hmore) (c.left_advance_le 3)
  | case2 => cases h
  | case3 c => cases h; exact Nat.le_refl _

/-- Escapes that are there are read. -/
theorem left_scanOctets_lt {c c' : Cursor} {octets : List UInt8} (hpeek : c.peek = '%')
    (h : scanOctets c = .ok (octets, c')) : c'.left < c.left := by
  rw [scanOctets, dif_pos hpeek] at h
  split at h
  · obtain ⟨⟨more, after⟩, hmore, h⟩ := exists_of_bind_eq_ok h
    cases h
    exact Nat.lt_of_le_of_lt (left_scanOctets_le hmore)
      (Cursor.left_advance_lt (by decide) (by simp [hpeek, endMark]))
  · cases h

/-- Take the characters of a tag up to an escape. -/
def takeTagChars (c : Cursor) : List Char × Cursor :=
  c.takeWhile fun d => isTagChar d && d != '%'

theorem left_takeTagChars_le (c : Cursor) : (takeTagChars c).2.left ≤ c.left :=
  c.left_takeWhile_le _

/-- Read the characters of a tag; escaped octets are read as UTF-8. -/
def scanTagChars (c : Cursor) : Except Fault (List Char × Cursor) :=
  if _hpeek : (takeTagChars c).2.peek = '%' then
    match _hoctets : scanOctets (takeTagChars c).2 with
    | .error fault => .error fault
    | .ok (octets, after) =>
      match Text.decodeUtf8 octets with
      | .error _ => .error .token
      | .ok escaped => do
        let (more, last) ← scanTagChars after
        return ((takeTagChars c).1 ++ escaped ++ more, last)
  else .ok (takeTagChars c)
termination_by c.left
decreasing_by
  exact Nat.lt_of_lt_of_le (left_scanOctets_lt _hpeek _hoctets) (left_takeTagChars_le c)

theorem left_scanTagChars_le {c c' : Cursor} {chars : List Char}
    (h : scanTagChars c = .ok (chars, c')) : c'.left ≤ c.left := by
  fun_induction scanTagChars c generalizing chars c' with
  | case1 | case2 => cases h
  | case3 c _ octets after hoctets escaped _ ih =>
      obtain ⟨⟨more, last⟩, hmore, h⟩ := exists_of_bind_eq_ok h
      cases h
      have hafter := Nat.le_trans (left_scanOctets_le hoctets) (left_takeTagChars_le c)
      exact Nat.le_trans (ih hmore) hafter
  | case4 c =>
      have hplain := left_takeTagChars_le c
      rwa [Except.ok.inj h] at hplain

/-- Read the part of a tag behind its handle, which cannot be empty. -/
def scanTagSuffix (c : Cursor) : Except Fault (List Char × Cursor) := do
  let (chars, c) ← scanTagChars c
  if chars.isEmpty then .error .token else return (chars, c)

theorem left_scanTagSuffix_le {c c' : Cursor} {chars : List Char}
    (h : scanTagSuffix c = .ok (chars, c')) : c'.left ≤ c.left := by
  obtain ⟨⟨chars, after⟩, hchars, h⟩ := exists_of_bind_eq_ok h
  dsimp only at h
  split at h
  · cases h
  · cases h
    exact left_scanTagChars_le hchars

/-- Read a tag handle: one exclamation mark, or a name between two. -/
def scanTagHandle (c : Cursor) : Except Fault (List Char × Cursor) :=
  if c.peek != '!' then .error .token
  else if c.peekAt 1 == ' ' then .ok (['!'], c.step)
  else
    let (name, after) := c.step.takeWhile isNameChar
    if after.peek == '!' then .ok ('!' :: name ++ ['!'], after.step) else .error .token

theorem left_scanTagHandle_lt {c c' : Cursor} {handle : List Char}
    (h : scanTagHandle c = .ok (handle, c')) : c'.left < c.left := by
  simp only [scanTagHandle] at h
  split at h
  · cases h
  · next hmark =>
    have hstep : c.step.left < c.left :=
      Cursor.left_step_lt fun hend => by simp [hend, endMark] at hmark
    split at h
    · cases h; exact hstep
    · split at h
      · cases h
        exact Nat.lt_of_le_of_lt (Cursor.left_step_le _)
          (Nat.lt_of_le_of_lt (Cursor.left_takeWhile_le _ _) hstep)
      · cases h

/-- Read a tag. -/
def scanTag (c : Cursor) : Scan := do
  let (handle, suffix, c) ← tagParts c
  if isSpaceOrEnd c.peek then return (.tag handle (String.ofList suffix), c)
  else .error .token
where
  tagParts (c : Cursor) : Except Fault (Option String × List Char × Cursor) :=
    if c.peekAt 1 == '<' then do
      let (suffix, c) ← scanTagSuffix (c.advance 2)
      if c.peek == '>' then return (none, suffix, c.step) else .error .token
    else if isGapOrEnd (c.peekAt 1) then .ok (none, ['!'], c.step)
    else if (c.step.rest.takeWhile fun d => !isSpaceOrEnd d).contains '!' then do
      let (handle, c) ← scanTagHandle c
      let (suffix, c) ← scanTagSuffix c
      return (some (String.ofList handle), suffix, c)
    else do
      let (suffix, c) ← scanTagSuffix c.step
      return (some "!", suffix, c)

theorem left_tagParts_lt {c c' : Cursor} {handle : Option String} {suffix : List Char}
    (hend : c.peek ≠ endMark) (h : scanTag.tagParts c = .ok (handle, suffix, c')) :
    c'.left < c.left := by
  have hstep := Cursor.left_step_lt hend
  rw [scanTag.tagParts] at h
  split at h
  · obtain ⟨⟨chars, after⟩, hchars, h⟩ := exists_of_bind_eq_ok h
    have hafter := Nat.lt_of_le_of_lt (left_scanTagSuffix_le hchars)
      (Cursor.left_advance_lt (by decide) hend)
    dsimp only at h
    split at h
    · cases h; exact Nat.lt_of_le_of_lt after.left_step_le hafter
    · cases h
  split at h
  · cases h; exact hstep
  split at h
  · obtain ⟨⟨name, after⟩, hname, h⟩ := exists_of_bind_eq_ok h
    obtain ⟨⟨chars, last⟩, hchars, h⟩ := exists_of_bind_eq_ok h
    cases h
    exact Nat.lt_of_le_of_lt (left_scanTagSuffix_le hchars) (left_scanTagHandle_lt hname)
  · obtain ⟨⟨chars, after⟩, hchars, h⟩ := exists_of_bind_eq_ok h
    cases h
    exact Nat.lt_of_le_of_lt (left_scanTagSuffix_le hchars) hstep

theorem advances_scanTag : Advances scanTag := by
  intro c c' t hend h
  obtain ⟨⟨handle, suffix, after⟩, hparts, h⟩ := exists_of_bind_eq_ok h
  dsimp only at h
  split at h
  · cases h; exact left_tagParts_lt hend hparts
  · cases h

/-- Move past what may follow on a line: spaces, a comment and the break. -/
def skipLineEnd (c : Cursor) : Except Fault Cursor :=
  if isBreakOrEnd c.skipLine.peek then .ok c.skipLine.takeBreak.2 else .error .token

theorem left_skipLineEnd_le {c c' : Cursor} (h : skipLineEnd c = .ok c') : c'.left ≤ c.left := by
  rw [skipLineEnd] at h
  split at h
  · cases h
    exact Nat.le_trans (Cursor.left_takeBreak_le _) c.left_skipLine_le
  · cases h

/-- Read a natural number. -/
def scanNumber (c : Cursor) : Except Fault (Nat × Cursor) :=
  let (digits, c) := c.takeWhile Char.isDigit
  if digits.isEmpty then .error .token else .ok (Text.digitsValue digits, c)

theorem left_scanNumber_le {c c' : Cursor} {n : Nat} (h : scanNumber c = .ok (n, c')) :
    c'.left ≤ c.left := by
  simp only [scanNumber] at h
  split at h
  · cases h
  · cases h; exact c.left_takeWhile_le _

/-- Read a directive. -/
def scanDirective (c : Cursor) : Scan := do
  let (name, c) := c.step.takeWhile isNameChar
  if name.isEmpty || !isSpaceOrEnd c.peek then .error .token
  else
    let (directive, c) ← directiveValue (String.ofList name) c
    return (.directive directive, ← skipLineEnd c)
where
  directiveValue (name : String) (c : Cursor) : Except Fault (Directive × Cursor) :=
    match name with
    | "YAML" => do
      let (major, c) ← scanNumber c.skipSpaces
      if c.peek != '.' then .error .token
      else
        let (minor, c) ← scanNumber c.step
        if isSpaceOrEnd c.peek then return (.version major minor, c) else .error .token
    | "TAG" => do
      let (handle, c) ← scanTagHandle c.skipSpaces
      if c.peek != ' ' then .error .token
      else
        let (leader, c) ← scanTagSuffix c.skipSpaces
        if isSpaceOrEnd c.peek then
          return (.tag (String.ofList handle) (String.ofList leader), c)
        else .error .token
    | _ => .ok (.reserved, (c.takeWhile fun d => !isBreakOrEnd d).2)

theorem left_directiveValue_le {name : String} {c c' : Cursor} {directive : Directive}
    (h : scanDirective.directiveValue name c = .ok (directive, c')) : c'.left ≤ c.left := by
  unfold scanDirective.directiveValue at h
  have hspaces := c.left_skipSpaces_le
  split at h
  · obtain ⟨⟨major, point⟩, hmajor, h⟩ := exists_of_bind_eq_ok h
    have hpoint := Nat.le_trans (left_scanNumber_le hmajor) hspaces
    dsimp only at h
    split at h
    · cases h
    · obtain ⟨⟨minor, after⟩, hminor, h⟩ := exists_of_bind_eq_ok h
      dsimp only at h
      split at h
      · cases h
        exact Nat.le_trans (left_scanNumber_le hminor) (Nat.le_trans point.left_step_le hpoint)
      · cases h
  · obtain ⟨⟨handle, gap⟩, hhandle, h⟩ := exists_of_bind_eq_ok h
    have hgap := Nat.le_trans (Nat.le_of_lt (left_scanTagHandle_lt hhandle)) hspaces
    dsimp only at h
    split at h
    · cases h
    · obtain ⟨⟨leader, after⟩, hleader, h⟩ := exists_of_bind_eq_ok h
      dsimp only at h
      split at h
      · cases h
        exact Nat.le_trans (left_scanTagSuffix_le hleader)
          (Nat.le_trans gap.left_skipSpaces_le hgap)
      · cases h
  · cases h; exact c.left_takeWhile_le _

theorem advances_scanDirective : Advances scanDirective := by
  intro c c' t hend h
  have hname := Nat.lt_of_le_of_lt (c.step.left_takeWhile_le isNameChar) (Cursor.left_step_lt hend)
  simp only [scanDirective] at h
  split at h
  · cases h
  · obtain ⟨⟨directive, after⟩, hdirective, h⟩ := exists_of_bind_eq_ok h
    obtain ⟨last, hlast, h⟩ := exists_of_bind_eq_ok h
    cases h
    exact Nat.lt_of_le_of_lt (left_skipLineEnd_le hlast)
      (Nat.lt_of_le_of_lt (left_directiveValue_le hdirective) hname)

end FluentCalc.Yaml
