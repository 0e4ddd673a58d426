/-
# How YAML texts begin

A sheet is written on at its end only, so what has been written first stays at the front
of the text. The text of a sequence begins with the dash of its first item and a space,
whatever the item is. The text of a mapping begins with its first key: with a quote, with
the mark of a key that is not simple, or with the characters of a plain scalar, which
looks like nothing else. Empty collections are brackets.
-/

import Mathlib.Data.Nat.Notation
import FluentCalc.Format
import FluentCalc.Proofs.Yaml.Writer

namespace FluentCalc.Yaml

/-! ## Writing on -/

namespace Sheet

/-- A sheet with more on it behind what was written on another. -/
def Continues (next s : Sheet) : Prop :=
  s.written <:+ next.written

variable {s s' s'' : Sheet}

protected theorem Continues.refl (s : Sheet) : s.Continues s :=
  List.suffix_rfl

protected theorem Continues.trans (h : s''.Continues s') (h' : s'.Continues s) :
    s''.Continues s :=
  List.IsSuffix.trans h' h

theorem continues_ite {p : Prop} [Decidable p] (h : s'.Continues s) (h' : s''.Continues s) :
    (if p then s' else s'').Continues s := by
  split
  · exact h
  · exact h'

theorem continues_put (s : Sheet) (text : List Char) : (s.put text).Continues s :=
  List.suffix_append _ _

theorem continues_newline (s : Sheet) : s.newline.Continues s :=
  List.suffix_cons _ _

theorem continues_indent (s : Sheet) (column : ℕ) : (s.indent column).Continues s := by
  unfold indent
  extract_lets line
  have hline : line.Continues s := continues_ite s.continues_newline (.refl s)
  exact continues_ite ((line.continues_put _).trans hline) hline

theorem continues_indicator (s : Sheet) (text : List Char) (needsSpace opens : Bool) :
    (s.indicator text needsSpace opens).Continues s :=
  continues_put _ _

end Sheet

open Sheet

/-! ## Scalars -/

theorem continues_writePlain (fold : Bool) (column : ℕ) (afterSpace : Bool) (text : List Char)
    (s : Sheet) : (writePlain fold column afterSpace text s).Continues s := by
  induction text generalizing afterSpace s with
  | nil => exact .refl s
  | cons c rest ih =>
      exact (ih _ _).trans (continues_ite (s.continues_indent column) (s.continues_put [c]))

theorem continues_writeSingle (fold : Bool) (column : ℕ) (previous : Option Char)
    (text : List Char) (s : Sheet) : (writeSingle fold column previous text s).Continues s := by
  induction text generalizing previous s with
  | nil => exact .refl s
  | cons c rest ih =>
      have hline : Continues (if previous == some '\n' then s else s.newline) s :=
        continues_ite (.refl s) s.continues_newline
      have hlines := (continues_newline _).trans hline
      exact (ih _ _).trans (continues_ite
        (continues_ite hlines ((continues_indent _ column).trans hlines))
        (continues_ite (s.continues_indent column)
          (continues_ite (s.continues_put _) (s.continues_put _))))

theorem continues_breakDouble (column : ℕ) (next : Char) (s : Sheet) :
    (breakDouble column next s).Continues s := by
  have hline := (continues_indent (s.put ['\\']) column).trans (s.continues_put _)
  exact continues_ite ((continues_put _ _).trans hline) hline

theorem continues_writeDouble (fold : Bool) (column : ℕ) (first afterEscape : Bool)
    (text : List Char) (s : Sheet) :
    (writeDouble fold column first afterEscape text s).Continues s := by
  induction text generalizing first afterEscape s with
  | nil => exact .refl s
  | cons c rest ih =>
      rw [writeDouble]
      cases escape? c with
      | some escape =>
          have hescape := s.continues_put escape
          exact (ih _ _ _).trans
            (continues_ite ((continues_breakDouble _ _ _).trans hescape) hescape)
      | none =>
          exact (ih _ _ _).trans ((continues_put _ _).trans
            (continues_ite (continues_breakDouble _ _ s) (.refl s)))

theorem continues_writeScalar (isKey : Bool) (column : ℕ) (tag : Tag) (text : List Char)
    (s : Sheet) : (writeScalar isKey column tag text s).Continues s := by
  rw [writeScalar]
  cases scalarStyle tag text with
  | plain =>
      exact (continues_writePlain _ _ _ _ _).trans (continues_ite (.refl s) (s.continues_put _))
  | single =>
      exact (continues_indicator _ _ _ _).trans
        ((continues_writeSingle _ _ _ _ _).trans (s.continues_indicator _ _ _))
  | double =>
      exact (continues_indicator _ _ _ _).trans
        ((continues_writeDouble _ _ _ _ _ _).trans (s.continues_indicator _ _ _))

/-! ## Nodes -/

mutual

theorem continues_writeNode (outer : Option ℕ) (inMapping isKey : Bool) (node : Node) (s : Sheet) :
    (writeNode outer inMapping isKey node s).Continues s := by
  match node with
  | .scalar tag text =>
      rw [writeNode]
      exact continues_writeScalar _ _ _ _ _
  | .sequence _ [] =>
      rw [writeNode]
      exact (continues_put _ _).trans (s.continues_indicator _ _ _)
  | .sequence _ (item :: rest) =>
      cases outer with
      | none => exact continues_writeItems 0 (item :: rest) s
      | some column => exact continues_writeItems _ (item :: rest) s
  | .mapping _ [] =>
      rw [writeNode]
      exact (continues_put _ _).trans (s.continues_indicator _ _ _)
  | .mapping _ (entry :: rest) => exact continues_writeEntries _ (entry :: rest) s

theorem continues_writeItems (column : ℕ) (items : List Node) (s : Sheet) :
    (writeItems column items s).Continues s := by
  match items with
  | [] =>
      rw [writeItems]
      exact .refl s
  | item :: rest =>
      rw [writeItems]
      exact (continues_writeItems _ rest _).trans ((continues_writeNode _ _ _ item _).trans
        ((continues_indicator _ _ _ _).trans (s.continues_indent column)))

theorem continues_writeEntries (column : ℕ) (entries : List (Node × Node)) (s : Sheet) :
    (writeEntries column entries s).Continues s := by
  match entries with
  | [] =>
      rw [writeEntries]
      exact .refl s
  | (key, value) :: rest =>
      rw [writeEntries]
      have hindent := s.continues_indent column
      refine (continues_writeEntries _ rest _).trans ((continues_writeNode _ _ _ value _).trans ?_)
      exact continues_ite
        ((continues_indicator _ _ _ _).trans ((continues_writeNode _ _ _ key _).trans hindent))
        ((continues_indicator _ _ _ _).trans ((continues_indent _ _).trans
          ((continues_writeNode _ _ _ key _).trans
            ((continues_indicator _ _ _ _).trans hindent))))

end

section Collections

variable (column : ℕ) (s : Sheet)

/-- The first item of a sequence stands behind a dash. -/
theorem continues_dash_writeItems (item : Node) (rest : List Node) :
    (writeItems column (item :: rest) s).Continues
      (writeNode (some column) false false item ((s.indent column).indicator ['-'] true true)) := by
  rw [writeItems]
  exact continues_writeItems _ rest _

variable {key : Node} (value : Node) (rest : List (Node × Node))

/-- A first key that is simple stands in front of a colon. -/
theorem continues_colon_writeEntries (h : isSimpleKey key = true) :
    (writeEntries column ((key, value) :: rest) s).Continues
      ((writeNode (some column) true true key (s.indent column)).indicator [':'] false false) := by
  rw [writeEntries, if_pos h]
  exact (continues_writeEntries _ rest _).trans (continues_writeNode _ _ _ value _)

/-- A first key that is not simple stands behind a question mark. -/
theorem continues_question_writeEntries (h : isSimpleKey key = false) :
    (writeEntries column ((key, value) :: rest) s).Continues
      ((s.indent column).indicator ['?'] true true) := by
  rw [writeEntries, if_neg (Bool.eq_false_iff.1 h)]
  exact (continues_writeEntries _ rest _).trans ((continues_writeNode _ _ _ value _).trans
    ((continues_indicator _ _ _ _).trans ((continues_indent _ _).trans
      (continues_writeNode _ _ _ key _))))

/-- The items of a sequence begin at their column. -/
theorem continues_indent_writeItems (item : Node) (rest : List Node) :
    (writeItems column (item :: rest) s).Continues (s.indent column) :=
  (continues_dash_writeItems column s item rest).trans
    ((continues_writeNode _ _ _ item _).trans (continues_indicator _ _ _ _))

/-- So do the entries of a mapping. -/
theorem continues_indent_writeEntries (entry : Node × Node) (rest : List (Node × Node)) :
    (writeEntries column (entry :: rest) s).Continues (s.indent column) := by
  cases h : isSimpleKey entry.1 with
  | true =>
      exact (continues_colon_writeEntries column s entry.2 rest h).trans
        ((continues_indicator _ _ _ _).trans (continues_writeNode _ _ _ entry.1 _))
  | false =>
      exact (continues_question_writeEntries column s entry.2 rest h).trans
        (continues_indicator _ _ _ _)

end Collections

/-! ## Behind an indicator -/

section Spaced

variable {s : Sheet}

/-- A level further in on the same line begins behind a space. -/
theorem continues_spaced_indent (hfresh : s.fresh = true) {column : ℕ} (h : s.column < column) :
    (s.indent column).Continues (s.put [' ']) := by
  have hline : (!s.fresh || column < s.column || (s.column == column && !s.spaced)) = false := by
    simp [hfresh, Nat.ne_of_lt h, Nat.le_of_lt h]
  obtain ⟨more, hmore⟩ : ∃ more, column - s.column = more + 1 := ⟨column - s.column - 1, by omega⟩
  rw [indent, hline, if_neg Bool.false_ne_true, if_pos h, hmore, List.replicate_succ]
  exact ⟨(List.replicate more ' ').reverse, by simp [put]⟩

variable (hspaced : s.spaced = false)

include hspaced

/-- So does an opening quote or bracket behind an indicator. -/
theorem continues_spaced_indicator (text : List Char) (opens : Bool) :
    (s.indicator text true opens).Continues (s.put [' ']) := by
  rw [indicator, hspaced]
  exact ⟨text.reverse, by simp [put]⟩

/-- A scalar begins there in any style. -/
theorem continues_spaced_writeScalar (isKey : Bool) (column : ℕ) (tag : Tag) (text : List Char) :
    (writeScalar isKey column tag text s).Continues (s.put [' ']) := by
  rw [writeScalar]
  cases scalarStyle tag text with
  | plain =>
      dsimp only
      rw [if_neg (Bool.eq_false_iff.1 hspaced)]
      exact (continues_writePlain _ _ _ _ _).trans (.refl (s.put [' ']))
  | single =>
      exact (continues_indicator _ _ _ _).trans ((continues_writeSingle _ _ _ _ _).trans
        (continues_spaced_indicator hspaced _ _))
  | double =>
      exact (continues_indicator _ _ _ _).trans ((continues_writeDouble _ _ _ _ _ _).trans
        (continues_spaced_indicator hspaced _ _))

/-- Nothing is written next to an indicator that can have a block behind it. -/
theorem continues_spaced_writeNode (hfresh : s.fresh = true) {column : ℕ}
    (hcolumn : s.column < column + 2) (node : Node) :
    (writeNode (some column) false false node s).Continues (s.put [' ']) := by
  have hindent : (s.indent (column + 2)).Continues (s.put [' ']) :=
    continues_spaced_indent hfresh hcolumn
  match node with
  | .scalar tag text =>
      rw [writeNode]
      exact continues_spaced_writeScalar hspaced _ _ _ _
  | .sequence _ [] =>
      rw [writeNode]
      exact (continues_put _ _).trans (continues_spaced_indicator hspaced _ _)
  | .sequence _ (item :: rest) =>
      exact (continues_indent_writeItems (column + 2) s item rest).trans hindent
  | .mapping _ [] =>
      rw [writeNode]
      exact (continues_put _ _).trans (continues_spaced_indicator hspaced _ _)
  | .mapping _ (entry :: rest) =>
      exact (continues_indent_writeEntries (column + 2) s entry rest).trans hindent

end Spaced

/-! ## The front of a text -/

/-- What stands on a sheet stands at the front of every text that goes on from it. -/
theorem isPrefix_text (node : Node) {s : Sheet}
    (h : (writeNode none false false node .empty).Continues s) :
    s.text <+: node.text.toList := by
  have hend : Continues ((writeNode none false false node .empty).indent 0) s :=
    (continues_indent _ 0).trans h
  rw [Node.text, String.toList_ofList]
  exact (List.reverse_prefix.2 hend).trans (List.prefix_append _ _)

/-- The text of a sequence with items begins with a dash and a space. -/
theorem isPrefix_text_sequence (tag : Tag) (item : Node) (rest : List Node) :
    ['-', ' '] <+: (Node.sequence tag (item :: rest)).text.toList := by
  have hdash : (writeNode none false false (.sequence tag (item :: rest)) .empty).Continues
      (put ⟨['-'], 1, false, true⟩ [' ']) :=
    (continues_dash_writeItems 0 .empty item rest).trans
      (continues_spaced_writeNode rfl rfl (by decide) item)
  exact isPrefix_text _ hdash

/-- The characters of a plain key are put down as they are. -/
theorem writePlain_key (column : ℕ) (afterSpace : Bool) (text : List Char) (s : Sheet) :
    writePlain false column afterSpace text s = s.put text := by
  induction text generalizing afterSpace s with
  | nil => rfl
  | cons c rest ih =>
      have hput : (s.put [c]).put rest = s.put (c :: rest) := by
        simp [put, Nat.add_assoc, Nat.add_comm 1]
      rw [writePlain, ih]
      simpa using hput

/-- What the text of a mapping begins with, given its first key. -/
inductive KeyFront (key : List Char) : List Char → Prop
  /-- The mark of a key that is not simple. -/
  | question : KeyFront key ['?']
  | single : KeyFront key ['\x27']
  | double : KeyFront key ['\x22']
  | plain (hstyle : scalarStyle .str key = .plain) (hne : key ≠ []) : KeyFront key (key ++ [':'])

/-- A simple key begins as its style says, and it ends with its colon. -/
theorem KeyFront.exists_of_simple {key : String} (h : isSimpleKey (.scalar .str key) = true) :
    ∃ s : Sheet, KeyFront key.toList s.text ∧
      ((writeScalar true 2 .str key.toList .empty).indicator [':'] false false).Continues s := by
  rw [writeScalar]
  cases hstyle : scalarStyle .str key.toList with
  | plain =>
      -- An empty text would be no simple key, and the colon would stand at the front.
      have hne : key.toList ≠ [] := by
        simp only [isSimpleKey, Bool.and_eq_true, Bool.not_eq_true',
          String.isEmpty_eq_false_iff] at h
        exact mt String.toList_eq_nil_iff.1 h.1.2
      have htext : ((Sheet.empty.put key.toList).put [':']).text = key.toList ++ [':'] := by
        simp [Sheet.text, put, Sheet.empty]
      refine ⟨(Sheet.empty.put key.toList).put [':'], htext ▸ .plain hstyle hne, ?_⟩
      have hspaced : Sheet.empty.spaced = true := rfl
      dsimp only
      rw [if_pos hspaced, Bool.not_true, writePlain_key]
      exact .refl ((Sheet.empty.put key.toList).put [':'])
  | single =>
      refine ⟨Sheet.empty.indicator ['\x27'] true false, .single, ?_⟩
      exact (continues_indicator _ _ _ _).trans ((continues_indicator _ _ _ _).trans
        (continues_writeSingle _ _ _ _ _))
  | double =>
      refine ⟨Sheet.empty.indicator ['\x22'] true false, .double, ?_⟩
      exact (continues_indicator _ _ _ _).trans ((continues_indicator _ _ _ _).trans
        (continues_writeDouble _ _ _ _ _ _))

/-- The text of a mapping with entries begins with its first key. -/
theorem exists_keyFront (tag : Tag) (key : String) (value : Node) (rest : List (Node × Node)) :
    ∃ front, KeyFront key.toList front ∧
      front <+: (Node.mapping tag ((.scalar .str key, value) :: rest)).text.toList := by
  obtain ⟨s, hfront, hcontinues⟩ : ∃ s : Sheet, KeyFront key.toList s.text ∧
      (writeEntries 0 ((.scalar .str key, value) :: rest) .empty).Continues s := by
    cases h : isSimpleKey (.scalar .str key) with
    | false => exact ⟨_, .question, continues_question_writeEntries 0 .empty value rest h⟩
    | true =>
        obtain ⟨s, hfront, hcontinues⟩ := KeyFront.exists_of_simple h
        have hcolon := continues_colon_writeEntries 0 .empty value rest h
        rw [writeNode] at hcolon
        exact ⟨s, hfront, hcolon.trans hcontinues⟩
  exact ⟨s.text, hfront, isPrefix_text (.mapping tag _) hcontinues⟩

/-! ## The front of a plain scalar -/

/-- A text is plain only if it needs no escape, holds no indicator and begins with no space. -/
theorem of_scalarStyle_plain {text : List Char} (h : scalarStyle .str text = .plain) :
    text.any isSpecial = false ∧ hasIndicator text = false ∧
      isSpaceOrBreak (text.headD 'x') = false := by
  have hplain : ∀ b : Bool, (if b then ScalarStyle.double else .single) ≠ .plain := by decide
  rw [scalarStyle, if_pos rfl, textStyle] at h
  split at h
  · rename_i hall
    simp only [Bool.and_eq_true, Bool.not_eq_true', Bool.or_eq_false_iff] at hall
    exact ⟨hall.1.1.1.2.1, hall.1.2, hall.2.1⟩
  · exact absurd h (hplain _)

/-- Blanks other than spaces and line breaks need an escape. -/
theorem not_isBlank_of_plain {c : Char} (hspecial : isSpecial c = false)
    (hspace : isSpaceOrBreak c = false) : Text.isBlank c = false := by
  simp only [isSpaceOrBreak, Bool.or_eq_false_iff, beq_eq_false_iff_ne] at hspace
  have hascii : ' ' ≤ c ∧ c ≤ '~' := by simpa [isSpecial, hspace.2] using hspecial
  have hlow : 0x20 < c.toNat :=
    Nat.lt_of_le_of_ne hascii.1 fun h => hspace.1 (Char.toNat_inj.1 h.symm)
  have hhigh : c.toNat ≤ 0x7e := hascii.2
  simp only [Text.isBlank, Text.blanks, Text.Ranges.contains, List.any_cons, List.any_nil,
    Bool.or_false, Bool.or_eq_false_iff, Bool.and_eq_false_iff, decide_eq_false_iff_not]
  omega

end FluentCalc.Yaml
