/-
# White space around a source

A source has a margin at its front and one at its back: the blank characters that
trimming takes away. For an expression the margins do not matter much. No bracket closes
in them, so they have no calls in them and make none; a gap in front only moves what is
behind it.

But there are blank characters that are no gaps, the information separators. In front of
a source nothing is read past them, and the strict reading does not accept them at the
back either. These are all the ways in which a source and the trimmed source are read
differently.
-/

import FluentCalc.Proofs.Expression.Canonical
import FluentCalc.Proofs.Expression.Stray

namespace FluentCalc

/-! ## Margins -/

namespace Text

/-- The blank characters at the front of a text. -/
def frontMargin (text : List Char) : List Char :=
  text.takeWhile isBlank

/-- The blank characters at the back of a text, unless they are at its front, too. -/
def backMargin (text : List Char) : List Char :=
  (stripFront text).rtakeWhile isBlank

/-- A text is its trimmed text between its margins. -/
theorem margins_append (text : List Char) :
    frontMargin text ++ (strip text ++ backMargin text) = text := by
  have hback : strip text ++ backMargin text = stripFront text :=
    List.rdropWhile_append_rtakeWhile
  rw [hback]
  exact List.takeWhile_append_dropWhile

/-- The information separators, U+001C to U+001F. -/
def isSeparator (c : Char) : Bool :=
  0x1c ≤ c.toNat && c.toNat ≤ 0x1f

/-- The separators are the blank characters that are no gaps. -/
theorem isGap_iff_of_isBlank {c : Char} (h : isBlank c = true) :
    isGap c = true ↔ isSeparator c = false := by
  simp only [isBlank, isGap, blanks, gaps, Ranges.contains_iff, List.mem_cons, List.not_mem_nil,
    or_false, exists_eq_or_imp, exists_eq_left] at h ⊢
  simp only [isSeparator, Bool.and_eq_false_iff, decide_eq_false_iff_not]
  omega

theorem forall_isGap_frontMargin_iff (text : List Char) :
    (∀ c ∈ frontMargin text, isGap c = true) ↔ ∀ c ∈ frontMargin text, isSeparator c = false :=
  forall₂_congr fun _ hc => isGap_iff_of_isBlank (List.mem_takeWhile_imp hc)

theorem forall_isGap_backMargin_iff (text : List Char) :
    (∀ c ∈ backMargin text, isGap c = true) ↔ ∀ c ∈ backMargin text, isSeparator c = false :=
  forall₂_congr fun _ hc => isGap_iff_of_isBlank (List.mem_rtakeWhile_imp hc)

/-- No bracket closes in a margin. -/
theorem not_mem_backMargin (text : List Char) : ')' ∉ backMargin text := by
  intro hmem
  have hblank := List.mem_rtakeWhile_imp hmem
  exact absurd hblank (by decide)

/-- Where texts are cut in two ways, and a character in front of the first cut is not
behind the second, the second cut is behind the first. -/
theorem exists_of_append_eq {front rest text more : List Char} {c : Char}
    (h : text ++ more = front ++ c :: rest) (hc : c ∉ more) :
    ∃ middle, text = front ++ c :: middle ∧ rest = middle ++ more := by
  rcases List.append_eq_append_iff.1 h with ⟨left, -, hmore⟩ | ⟨left, htext, hleft⟩
  · exact absurd (hmore ▸ List.mem_append_right left List.mem_cons_self) hc
  · cases left with
    | nil =>
        rw [List.nil_append] at hleft
        exact absurd (hleft ▸ List.mem_cons_self) hc
    | cons d middle =>
        obtain ⟨rfl, hrest⟩ := List.cons.inj hleft
        exact ⟨middle, htext, hrest⟩

end Text

open Text

namespace Scan

variable {front text more : List Char}

/-! ## Calls -/

/-- No call is made by text without a closing bracket. -/
theorem call?_append_eq_none (h : call? text = none) (hmore : ')' ∉ more) :
    call? (text ++ more) = none := by
  rw [Option.eq_none_iff_forall_ne_some]
  rintro ⟨c, rest⟩ hcall
  obtain ⟨hspelled, htext⟩ := call?_eq_some_iff.1 hcall
  have hcut : text ++ more = ('.' :: (c.name ++ '(' :: c.argument)) ++ ')' :: rest := by
    simp [htext, RawCall.spell]
  obtain ⟨middle, hmiddle, -⟩ := exists_of_append_eq hcut hmore
  have hread := call?_eq_some_iff.2
    ⟨hspelled, show text = '.' :: c.spell middle by simp [hmiddle, RawCall.spell]⟩
  cases h.symm.trans hread

/-- Behind a text without a closing bracket there are no more calls, and the calls are the
same wherever the text begins, but for their columns. -/
theorem findCalls_append_unplaced (hmore : ')' ∉ more) (offset offset' : ℕ) (text : List Char) :
    (findCalls offset' (text ++ more)).map Call.unplaced =
      (findCalls offset text).map Call.unplaced := by
  induction offset, text using findCalls.induct generalizing offset' with
  | case1 offset text c rest hcall ih =>
      rw [findCalls_of_call? offset hcall, findCalls_of_call? offset' (call?_append more hcall),
        List.map_cons, List.map_cons, ih]
      rfl
  | case2 offset hcall => rw [findCalls_nil, List.nil_append, findCalls_eq_nil hmore]
  | case3 offset d rest hcall ih =>
      have hskip : call? (d :: (rest ++ more)) = none := call?_append_eq_none hcall hmore
      rw [findCalls_skip offset hcall, List.cons_append, findCalls_skip offset' hskip, ih]

/-- What the strict reading of a chain leaves over is what it left over before, or the
text behind without its gap. -/
theorem rest_readCalls_append (hmore : ')' ∉ more) (offset offset' : ℕ) (text : List Char) :
    (readCalls offset' (text ++ more)).2.2 =
      if (readCalls offset text).2.2.isEmpty then more.dropWhile isGap
      else (readCalls offset text).2.2 ++ more := by
  induction offset, text using readCalls.induct generalizing offset' with
  | case1 offset text start c rest hcall calls stop hread ih =>
      have hgap : ∀ d ∈ text.takeWhile isGap, isGap d = true := fun d hd =>
        List.mem_takeWhile_imp hd
      have hsplit := List.takeWhile_append_dropWhile (p := isGap) (l := text)
      rw [← hsplit, List.append_assoc, readCalls_of_call? offset hgap hcall,
        readCalls_of_call? offset' hgap (call?_append more hcall)]
      exact ih _
  | case2 offset text hcall =>
      have hstop : call? ((text ++ more).dropWhile isGap) = none := by
        rw [List.dropWhile_append]
        split
        · have hdrop : ')' ∉ more.dropWhile isGap := fun hmem =>
            hmore ((List.dropWhile_sublist isGap).subset hmem)
          have hnil : call? [] = none := rfl
          exact call?_append_eq_none hnil hdrop
        · exact call?_append_eq_none hcall hmore
      rw [readCalls_stop offset hcall, readCalls_stop offset' hstop, List.dropWhile_append]

/-! ## Seeds -/

/-- In front of a seed there are no blank characters but gaps. -/
theorem isGap_of_mem_frontMargin {found : RawSeed} (h : seed text = .ok found) :
    ∀ c ∈ frontMargin text, isGap c = true := by
  obtain ⟨gap, hgap, hspelled, rfl, -, -⟩ := seed_eq_ok_iff.1 h
  have hstop : (found.invocation.spell found.rest).takeWhile isBlank = [] := by
    cases hspell : found.invocation.spell found.rest with
    | nil => rfl
    | cons d rest =>
        have hstart := hspelled.isNameStart_head found.rest d (by rw [hspell]; rfl)
        exact List.takeWhile_cons_of_neg (by simp [not_isBlank_of_isNameStart hstart])
  intro c hc
  rw [frontMargin, List.takeWhile_append, hstop, List.append_nil] at hc
  split at hc
  · exact hgap c hc
  · exact hgap c ((List.takeWhile_sublist isBlank).subset hc)

/-- There is a seed wherever one is spelled behind a gap. -/
theorem exists_seed_of_isSpelled {gap : List Char} (hgap : ∀ c ∈ gap, isGap c = true)
    {c : RawCall} (h : c.IsSpelled) (rest : List Char) :
    ∃ found, seed (gap ++ c.spell rest) = .ok found ∧ found.invocation = c ∧
      found.rest = rest :=
  ⟨⟨c, gap.length + c.name.length + 1, gap.length + c.width, rest⟩,
    seed_eq_ok_iff.2 ⟨gap, hgap, h, rfl, rfl, rfl⟩, rfl, rfl⟩

/-- A seed is found behind a gap and in front of other text, too. -/
theorem exists_seed_margins (hfront : ∀ c ∈ front, isGap c = true) (more : List Char)
    {plain : RawSeed} (h : seed text = .ok plain) :
    ∃ found, seed (front ++ (text ++ more)) = .ok found ∧ found.invocation = plain.invocation ∧
      found.rest = plain.rest ++ more := by
  obtain ⟨gap, hgap, hspelled, rfl, -, -⟩ := seed_eq_ok_iff.1 h
  rw [List.append_assoc, ← List.append_assoc, RawCall.spell_append]
  exact exists_seed_of_isSpelled (List.forall_mem_append.2 ⟨hfront, hgap⟩) hspelled _

/-- A seed that is found behind a gap and in front of text without a closing bracket is
found without them. -/
theorem exists_seed_of_margins (hfront : ∀ c ∈ front, isGap c = true) (hmore : ')' ∉ more)
    {found : RawSeed} (h : seed (front ++ (text ++ more)) = .ok found) :
    ∃ plain, seed text = .ok plain := by
  obtain ⟨gap, hgap, hspelled, htext, -, -⟩ := seed_eq_ok_iff.1 h
  have hdrop : (text ++ more).dropWhile isGap = found.invocation.spell found.rest := by
    rw [← List.dropWhile_append_of_pos hfront, htext,
      dropWhile_run hgap (hspelled.not_isGap_head found.rest)]
  obtain ⟨gap', hgap', hsplit⟩ : ∃ gap', (∀ c ∈ gap', isGap c = true) ∧
      text ++ more = gap' ++ found.invocation.spell found.rest :=
    ⟨_, fun c hc => List.mem_takeWhile_imp hc,
      hdrop ▸ (List.takeWhile_append_dropWhile (p := isGap)).symm⟩
  have hcut : text ++ more = (gap' ++ (found.invocation.name ++
      '(' :: found.invocation.argument)) ++ ')' :: found.rest :=
    hsplit.trans (by simp [RawCall.spell])
  obtain ⟨middle, rfl, -⟩ := exists_of_append_eq hcut hmore
  obtain ⟨plain, hplain, -⟩ := exists_seed_of_isSpelled hgap' hspelled middle
  exact ⟨plain, Eq.trans (congrArg seed (by simp [RawCall.spell])) hplain⟩

end Scan

/-! ## Readings -/

namespace Expression

open Scan

/-- What an expression says and where its calls stand are apart. -/
def unplaced (e : Expression) : Expression :=
  { e with calls := e.calls.map Call.unplaced }

section Margins

variable {front text more : List Char} (hfront : ∀ c ∈ front, isGap c = true) (hmore : ')' ∉ more)

include hfront hmore

/-- Between margins an expression is read as it is without them. -/
theorem exists_ofCharsPermissive_margins {e : Expression} (h : ofCharsPermissive text = .ok e) :
    ∃ e', ofCharsPermissive (front ++ (text ++ more)) = .ok e' ∧ e'.unplaced = e.unplaced := by
  obtain ⟨plain, hseed, hnumber, hconstructor, hcalls⟩ := ofCharsPermissive_eq_ok_iff.1 h
  obtain ⟨found, hfound, hinvocation, hrest⟩ := exists_seed_margins hfront more hseed
  refine ⟨⟨e.constructor, e.seed, findCalls found.restOffset found.rest⟩,
    ofCharsPermissive_eq_ok_iff.2 ⟨found, hfound, ?_, ?_, rfl⟩, ?_⟩
  · rw [hinvocation, hnumber]
  · rw [hinvocation, hconstructor]
  · rw [unplaced, unplaced, hcalls, hrest, findCalls_append_unplaced hmore plain.restOffset]

/-- An expression between margins is one without them, too. -/
theorem exists_ofCharsPermissive_of_margins {e : Expression}
    (h : ofCharsPermissive (front ++ (text ++ more)) = .ok e) :
    ∃ e', ofCharsPermissive text = .ok e' := by
  obtain ⟨found, hfound, hnumber, -, -⟩ := ofCharsPermissive_eq_ok_iff.1 h
  obtain ⟨plain, hseed⟩ := exists_seed_of_margins hfront hmore hfound
  obtain ⟨found', hfound', hinvocation, -⟩ := exists_seed_margins hfront more hseed
  cases hfound.symm.trans hfound'
  rw [hinvocation] at hnumber
  exact ⟨⟨_, e.seed, findCalls plain.restOffset plain.rest⟩,
    ofCharsPermissive_eq_ok_iff.2 ⟨plain, hseed, hnumber, rfl, rfl⟩⟩

omit hfront hmore in
/-- The strict reading accepts an expression exactly if nothing is left over of its chain. -/
theorem isOk_ofCharsStrict_iff {e : Expression} (h : ofCharsPermissive text = .ok e)
    {found : RawSeed} (hseed : Scan.seed text = .ok found) :
    (ofCharsStrict text).isOk = true ↔ (readCalls found.restOffset found.rest).2.2 = [] := by
  obtain ⟨found', hfound, hnumber, -, -⟩ := ofCharsPermissive_eq_ok_iff.1 h
  cases hseed.symm.trans hfound
  have hstrict := strict_of_readCalls hseed rfl
  by_cases hrest : (readCalls found.restOffset found.rest).2.2 = []
  · rw [if_pos hrest] at hstrict
    simp [ofCharsStrict, hstrict, build, hnumber, hrest, Except.isOk, Except.toBool]
  · rw [if_neg hrest] at hstrict
    simp [ofCharsStrict, hstrict, h, hrest, Except.isOk, Except.toBool]

/-- Behind an expression that the strict reading accepts it accepts gaps, and nothing makes
it accept another. -/
theorem isOk_ofCharsStrict_margins {e : Expression} (h : ofCharsPermissive text = .ok e) :
    (ofCharsStrict (front ++ (text ++ more))).isOk = true ↔
      (ofCharsStrict text).isOk = true ∧ ∀ c ∈ more, isGap c = true := by
  obtain ⟨e', hread, -⟩ := exists_ofCharsPermissive_margins hfront hmore h
  obtain ⟨plain, hseed, -⟩ := ofCharsPermissive_eq_ok_iff.1 h
  obtain ⟨found, hfound, -, hrest⟩ := exists_seed_margins hfront more hseed
  rw [isOk_ofCharsStrict_iff hread hfound, isOk_ofCharsStrict_iff h hseed, hrest,
    rest_readCalls_append hmore plain.restOffset]
  split
  · next hempty =>
      rw [List.isEmpty_iff] at hempty
      simp [hempty, List.dropWhile_eq_nil_iff]
  · next hne =>
      rw [List.isEmpty_iff] at hne
      simp [hne]

end Margins

/-! ## Trimmed sources -/

section Trimmed

variable {source : List Char}

/-- A trimmed source is read permissively if the source is, as an expression that says the
same. In the front margin of the source there are gaps only. -/
theorem exists_ofCharsPermissive_strip {e : Expression} (h : ofCharsPermissive source = .ok e) :
    (∀ c ∈ frontMargin source, isGap c = true) ∧
      ∃ e', ofCharsPermissive (strip source) = .ok e' ∧ e.unplaced = e'.unplaced := by
  obtain ⟨found, hseed, -⟩ := ofCharsPermissive_eq_ok_iff.1 h
  have hfront := isGap_of_mem_frontMargin hseed
  rw [← margins_append source] at h
  obtain ⟨e', hread⟩ := exists_ofCharsPermissive_of_margins hfront (not_mem_backMargin source) h
  obtain ⟨e'', hmargins, hsame⟩ :=
    exists_ofCharsPermissive_margins hfront (not_mem_backMargin source) hread
  cases h.symm.trans hmargins
  exact ⟨hfront, e', hread, hsame⟩

/-- A source is read permissively if the trimmed source is and in its front margin there
are gaps only. -/
theorem exists_ofCharsPermissive_of_strip {e : Expression}
    (hfront : ∀ c ∈ frontMargin source, isGap c = true)
    (h : ofCharsPermissive (strip source) = .ok e) :
    ∃ e', ofCharsPermissive source = .ok e' ∧ e'.unplaced = e.unplaced := by
  have hmargins := exists_ofCharsPermissive_margins hfront (not_mem_backMargin source) h
  rwa [margins_append] at hmargins

/-- A source is refused if the trimmed source is, or if a separator stands in front of it. -/
theorem exists_refused_of_strip
    (h : (ofCharsPermissive (strip source)).isOk = false ∨
      ¬ ∀ c ∈ frontMargin source, isGap c = true) :
    ∃ fault, ofCharsPermissive source = .error fault := by
  cases hread : ofCharsPermissive source with
  | error fault => exact ⟨fault, rfl⟩
  | ok e =>
      obtain ⟨hfront, e', hstrip, -⟩ := exists_ofCharsPermissive_strip hread
      rw [hstrip] at h
      exact h.elim nofun (absurd hfront)

theorem isOk_ofCharsStrict_strip {e : Expression}
    (hfront : ∀ c ∈ frontMargin source, isGap c = true)
    (h : ofCharsPermissive (strip source) = .ok e) :
    (ofCharsStrict source).isOk = true ↔
      (ofCharsStrict (strip source)).isOk = true ∧ ∀ c ∈ backMargin source, isGap c = true := by
  rw [← isOk_ofCharsStrict_margins hfront (not_mem_backMargin source) h, margins_append]

end Trimmed

/-- Two sources are read to the same effect: as expressions that say the same, or with
faults of the same kind. -/
def MeanAlike : Except ParseFault Expression → Except ParseFault Expression → Prop
  | .ok e, .ok e' => e.unplaced = e'.unplaced
  | .error fault, .error fault' => fault.kind = fault'.kind
  | _, _ => False

/-- In the margins of a source there is nothing that keeps a reading from what the trimmed
source says: no separator in front of one that the permissive reading accepts, and none
behind one that the strict reading accepts. -/
def HasPlainMargins (strict : Bool) (source : String) : Prop :=
  (parse false (stripped source)).isOk = true →
    (∀ c ∈ frontMargin source.toList, isSeparator c = false) ∧
      (strict = true → (parse true (stripped source)).isOk = true →
        ∀ c ∈ backMargin source.toList, isSeparator c = false)

theorem ofCharsPermissive_of_ofChars {strict : Bool} {source : List Char} {e : Expression}
    (h : ofChars strict source = .ok e) : ofCharsPermissive source = .ok e := by
  cases strict with
  | false => exact h
  | true => exact ofCharsPermissive_of_ofCharsStrict h

theorem parse_stripped (strict : Bool) (source : String) :
    parse strict (stripped source) = ofChars strict (strip source.toList) := by
  rw [parse, stripped, String.toList_ofList]

/-- If a source and the trimmed source are both read, they say the same. -/
theorem unplaced_eq_of_parse_stripped {strict : Bool} {source : String} {e e' : Expression}
    (h : parse strict source = .ok e) (h' : parse strict (stripped source) = .ok e') :
    e.unplaced = e'.unplaced := by
  rw [parse_stripped] at h'
  obtain ⟨-, e'', htrimmed, hsame⟩ :=
    exists_ofCharsPermissive_strip (ofCharsPermissive_of_ofChars h)
  cases htrimmed.symm.trans (ofCharsPermissive_of_ofChars h')
  exact hsame

/-- Where the permissive reading refuses a source, both readings have a fault of its seed. -/
theorem exists_ofChars_of_refused {source : List Char} {fault : ParseFault}
    (h : ofCharsPermissive source = .error fault) (strict : Bool) :
    ofChars strict source = .error fault ∧ fault.kind = "missing-or-invalid-seed" := by
  refine ⟨?_, kind_of_ofCharsPermissive h⟩
  cases strict with
  | false => exact h
  | true => exact ofCharsStrict_of_ofCharsPermissive_error h

section Pairs

variable {source source' : List Char} {e e' : Expression}

/-- A source with a fault of its seed and one without are not read to the same effect. -/
theorem not_meanAlike_of_refused {fault : ParseFault} (h : ofCharsPermissive source = .error fault)
    (h' : ofCharsPermissive source' = .ok e') (strict : Bool) :
    ¬ MeanAlike (ofChars strict source) (ofChars strict source') := by
  obtain ⟨hfault, hkind⟩ := exists_ofChars_of_refused h strict
  rw [hfault]
  cases hread : ofChars strict source' with
  | ok _ => exact id
  | error fault' =>
      have hkind' : fault'.kind = "unexpected-text" := by
        cases strict with
        | false => cases h'.symm.trans hread
        | true => exact kind_of_ofCharsStrict h' hread
      rw [MeanAlike, hkind, hkind']
      decide

/-- Two sources that say the same to the permissive reading do so to the strict one exactly
if it accepts both of them or neither. -/
theorem meanAlike_ofCharsStrict_iff (h : ofCharsPermissive source = .ok e)
    (h' : ofCharsPermissive source' = .ok e') (hsame : e.unplaced = e'.unplaced) :
    MeanAlike (ofCharsStrict source) (ofCharsStrict source') ↔
      ((ofCharsStrict source).isOk = true ↔ (ofCharsStrict source').isOk = true) := by
  cases hread : ofCharsStrict source with
  | ok x =>
      cases h.symm.trans (ofCharsPermissive_of_ofCharsStrict hread)
      cases hread' : ofCharsStrict source' with
      | ok x' =>
          cases h'.symm.trans (ofCharsPermissive_of_ofCharsStrict hread')
          exact iff_of_true hsame Iff.rfl
      | error fault' => simp [MeanAlike, Except.isOk, Except.toBool]
  | error fault =>
      have hkind := kind_of_ofCharsStrict h hread
      cases hread' : ofCharsStrict source' with
      | ok x' => simp [MeanAlike, Except.isOk, Except.toBool]
      | error fault' =>
          have hkind' := kind_of_ofCharsStrict h' hread'
          exact iff_of_true (hkind.trans hkind'.symm) Iff.rfl

end Pairs

/-- **When white space around a source does not matter.** A source and the trimmed source
are read to the same effect exactly if the source has plain margins. -/
theorem meanAlike_stripped_iff (strict : Bool) (source : String) :
    MeanAlike (parse strict source) (parse strict (stripped source)) ↔
      HasPlainMargins strict source := by
  rw [HasPlainMargins, parse_stripped, parse_stripped, parse_stripped, parse,
    ← forall_isGap_frontMargin_iff, ← forall_isGap_backMargin_iff]
  generalize source.toList = chars
  cases htrimmed : ofCharsPermissive (strip chars) with
  | error fault =>
      -- Neither source has a seed.
      obtain ⟨fault', hchars⟩ := exists_refused_of_strip (.inl (by rw [htrimmed]; rfl))
      obtain ⟨hfault, hkind⟩ := exists_ofChars_of_refused htrimmed strict
      obtain ⟨hfault', hkind'⟩ := exists_ofChars_of_refused hchars strict
      rw [hfault, hfault']
      refine iff_of_true (hkind'.trans hkind.symm) fun hok => ?_
      rw [show ofChars false (strip chars) = .error fault from htrimmed] at hok
      cases hok
  | ok e =>
      have hok : (ofChars false (strip chars)).isOk = true := by
        rw [show ofChars false (strip chars) = .ok e from htrimmed]
        rfl
      rw [forall_prop_of_true hok]
      by_cases hfront : ∀ c ∈ frontMargin chars, isGap c = true
      · obtain ⟨e', hchars, hsame⟩ := exists_ofCharsPermissive_of_strip hfront htrimmed
        cases strict with
        | false =>
            rw [show ofChars false chars = .ok e' from hchars,
              show ofChars false (strip chars) = .ok e from htrimmed]
            exact iff_of_true hsame ⟨hfront, nofun⟩
        | true =>
            rw [and_iff_right hfront, forall_prop_of_true rfl]
            exact (meanAlike_ofCharsStrict_iff hchars htrimmed hsame).trans
              ((iff_congr (isOk_ofCharsStrict_strip hfront htrimmed) Iff.rfl).trans
                and_iff_left_iff_imp)
      · -- The seed of the source is out of reach.
        obtain ⟨fault, hchars⟩ := exists_refused_of_strip (.inr hfront)
        exact iff_of_false (not_meanAlike_of_refused hchars htrimmed strict) fun h => hfront h.1

end Expression

end FluentCalc
