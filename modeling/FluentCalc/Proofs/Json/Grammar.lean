/-
# The grammar of JSON

The texts of the JSON standard, rule by rule, without a reader: numbers are finite
decimals, the only words are `true`, `false` and `null`, and a string escapes its
quotes, its backslashes and its control characters. Arrays and objects have commas
between their parts and white space wherever it may stand.

To show that a text is not in the grammar, it is enough to look at what stands outside
of its strings. A text is walked from front to back in one of three modes, and the
characters met outside of strings are kept. None of the rules lets an `I` or an `N`
stand there, which is where the words for numbers that are not finite begin.
-/

import Mathlib.Data.List.Forall2
import FluentCalc.Json.Reader
import FluentCalc.Proofs.Text.Lines

namespace FluentCalc.Json

open Text

/-- What may stand behind the whole digits of a number: nothing, or a point and digits. -/
inductive IsFraction : List Char → Prop
  | nothing : IsFraction []
  | point {digits : List Char} (hne : digits ≠ []) (hdigits : ∀ c ∈ digits, c.isDigit = true) :
      IsFraction ('.' :: digits)

/-- What may stand at the end of a number: nothing, or a power of ten. -/
inductive IsExponent : List Char → Prop
  | nothing : IsExponent []
  | power {mark : Char} {sign digits : List Char} (hmark : mark ∈ ['e', 'E'])
      (hsign : sign ∈ [[], ['+'], ['-']]) (hne : digits ≠ [])
      (hdigits : ∀ c ∈ digits, c.isDigit = true) : IsExponent (mark :: (sign ++ digits))

/-- A number: digits without a zero that could be left out in front, with a minus in front
of them or none. -/
inductive IsNumber : List Char → Prop
  | mk {sign whole fraction exponent : List Char} (hsign : sign ∈ [[], ['-']])
      (hne : whole ≠ []) (hdigits : ∀ c ∈ whole, c.isDigit = true)
      (hzero : whole.head? = some '0' → whole = ['0']) (hfraction : IsFraction fraction)
      (hexponent : IsExponent exponent) : IsNumber (sign ++ (whole ++ (fraction ++ exponent)))

/-- The inside of a string: characters that stand for themselves, short escapes, and
escapes by four hexadecimal digits. -/
inductive IsInside : List Char → Prop
  | nothing : IsInside []
  | plain {c : Char} {rest : List Char} (hcontrol : 0x20 ≤ c.toNat) (hquote : c ≠ '\x22')
      (hslash : c ≠ '\\') (h : IsInside rest) : IsInside (c :: rest)
  | short {c : Char} {rest : List Char} (hc : c ∈ "\x22\\/bfnrt".toList) (h : IsInside rest) :
      IsInside ('\\' :: c :: rest)
  | code {digits rest : List Char} (hlength : digits.length = 4)
      (hdigits : ∀ c ∈ digits, (hexDigit? c).isSome = true) (h : IsInside rest) :
      IsInside ('\\' :: 'u' :: (digits ++ rest))

/-- A string. -/
def IsString (text : List Char) : Prop :=
  ∃ inside, IsInside inside ∧ text = '\x22' :: (inside ++ ['\x22'])

/-- A text with something in front of it and behind it. -/
structure Padded where
  before : List Char
  body : List Char
  after : List Char

namespace Padded

/-- All of a padded text. -/
def text (p : Padded) : List Char := p.before ++ (p.body ++ p.after)

/-- A text is padded with white space. -/
structure IsSpaced (p : Padded) : Prop where
  before : ∀ c ∈ p.before, isSpace c = true
  after : ∀ c ∈ p.after, isSpace c = true

end Padded

/-- A member of an object: its name and its value, each with its white space. -/
structure Member where
  name : Padded
  value : Padded

/-- The text of a member. -/
def Member.text (m : Member) : List Char := m.name.text ++ ':' :: m.value.text

/-- A value. -/
inductive IsValue : List Char → Prop
  | word {text : List Char} (h : text ∈ ["true".toList, "false".toList, "null".toList]) :
      IsValue text
  | number {text : List Char} (h : IsNumber text) : IsValue text
  | string {text : List Char} (h : IsString text) : IsValue text
  | emptyArray {space : List Char} (hspace : ∀ c ∈ space, isSpace c = true) :
      IsValue ('[' :: (space ++ [']']))
  | array {items : List Padded} (hne : items ≠ []) (hspaced : ∀ item ∈ items, item.IsSpaced)
      (h : ∀ item ∈ items, IsValue item.body) :
      IsValue ('[' :: (join [','] (items.map Padded.text) ++ [']']))
  | emptyObject {space : List Char} (hspace : ∀ c ∈ space, isSpace c = true) :
      IsValue ('\x7b' :: (space ++ ['\x7d']))
  | object {members : List Member} (hne : members ≠ [])
      (hspaced : ∀ member ∈ members, member.name.IsSpaced ∧ member.value.IsSpaced)
      (hname : ∀ member ∈ members, IsString member.name.body)
      (h : ∀ member ∈ members, IsValue member.value.body) :
      IsValue ('\x7b' :: (join [','] (members.map Member.text) ++ ['\x7d']))

/-- A JSON text is a value with white space around it. -/
def IsText (text : List Char) : Prop :=
  ∃ p : Padded, p.IsSpaced ∧ IsValue p.body ∧ text = p.text

/-- Where a walk through a text stands: outside of strings, inside one, or behind the
backslash of an escape. -/
inductive Mode
  | outside
  | inside
  | escape
deriving DecidableEq

namespace Mode

/-- The mode behind a character. -/
def next : Mode → Char → Mode
  | outside, c => if c = '\x22' then inside else outside
  | inside, c => if c = '\x22' then outside else if c = '\\' then escape else inside
  | escape, _ => inside

/-- The mode behind a text. -/
def after (mode : Mode) (text : List Char) : Mode := text.foldl next mode

/-- The characters of a text that are met outside of strings. -/
def bare : Mode → List Char → List Char
  | _, [] => []
  | mode, c :: rest => if mode = outside then c :: bare (mode.next c) rest
    else bare (mode.next c) rest

@[simp]
theorem after_cons (mode : Mode) (c : Char) (rest : List Char) :
    mode.after (c :: rest) = (mode.next c).after rest := rfl

@[simp]
theorem after_append (mode : Mode) (a b : List Char) :
    mode.after (a ++ b) = (mode.after a).after b :=
  List.foldl_append

@[simp]
theorem bare_append (mode : Mode) (a b : List Char) :
    mode.bare (a ++ b) = mode.bare a ++ (mode.after a).bare b := by
  induction a generalizing mode with
  | nil => rfl
  | cons c rest ih =>
      rw [List.cons_append, bare, bare, ih, after_cons]
      split <;> rfl

end Mode

/-- A text that ends outside of strings, as it began. Whether an `I` or an `N` is met
outside of its strings is told by `strange`. -/
structure Walks (text : List Char) (strange : Prop) : Prop where
  closed : Mode.outside.after text = .outside
  strange_iff : (∃ c ∈ Mode.outside.bare text, c ∈ ['I', 'N']) ↔ strange

/-- Where no string begins, everything is met. -/
theorem walks_of_no_quote {text : List Char} (h : '\x22' ∉ text) :
    Walks text (∃ c ∈ text, c ∈ ['I', 'N']) := by
  have hwalk : Mode.outside.after text = .outside ∧ Mode.outside.bare text = text := by
    induction text with
    | nil => exact ⟨rfl, rfl⟩
    | cons c rest ih =>
        rw [List.mem_cons, not_or] at h
        have hnext : Mode.outside.next c = .outside := if_neg (Ne.symm h.1)
        obtain ⟨hclosed, hbare⟩ := ih h.2
        rw [Mode.after_cons, Mode.bare, hnext, if_pos rfl, hbare]
        exact ⟨hclosed, rfl⟩
  refine ⟨hwalk.1, ?_⟩
  rw [hwalk.2]

/-- Neither a string begins nor a strange letter stands in a text. -/
def IsOrdinary (text : List Char) : Prop := ∀ c ∈ text, c ∉ ['\x22', 'I', 'N']

instance (text : List Char) : Decidable (IsOrdinary text) :=
  List.decidableBAll (fun c => c ∉ ['\x22', 'I', 'N']) text

/-- What is told of all characters of a text and of none of the three makes it ordinary. -/
theorem isOrdinary_of_forall {text : List Char} {p : Char → Bool} (h : ∀ c ∈ text, p c = true)
    (hnone : p '\x22' = false ∧ p 'I' = false ∧ p 'N' = false) : IsOrdinary text := by
  intro c hc hmem
  have hfalse : p c = false := by
    simp only [List.mem_cons, List.not_mem_nil, or_false] at hmem
    rcases hmem with rfl | rfl | rfl
    · exact hnone.1
    · exact hnone.2.1
    · exact hnone.2.2
  rw [h c hc] at hfalse
  cases hfalse

theorem IsOrdinary.append {a b : List Char} (ha : IsOrdinary a) (hb : IsOrdinary b) :
    IsOrdinary (a ++ b) :=
  List.forall_mem_append.2 ⟨ha, hb⟩

theorem IsOrdinary.walks {text : List Char} (h : IsOrdinary text) : Walks text False := by
  have hquote : '\x22' ∉ text := fun hmem => h _ hmem List.mem_cons_self
  have hwalks := walks_of_no_quote hquote
  refine ⟨hwalks.closed, hwalks.strange_iff.trans ?_⟩
  apply iff_false_intro
  intro hstrange
  obtain ⟨c, hmem, hc⟩ := hstrange
  exact h c hmem (List.mem_cons_of_mem _ hc)

namespace Walks

variable {a b : List Char} {P Q : Prop}

theorem of_iff (h : Walks a P) (hiff : P ↔ Q) : Walks a Q :=
  ⟨h.closed, h.strange_iff.trans hiff⟩

theorem append (ha : Walks a P) (hb : Walks b Q) : Walks (a ++ b) (P ∨ Q) := by
  apply Walks.mk
  · rw [Mode.after_append, ha.closed, hb.closed]
  · rw [← ha.strange_iff, ← hb.strange_iff, Mode.bare_append, ha.closed]
    simp only [List.mem_append, or_and_right, exists_or]

/-- Ordinary text in front or behind changes nothing. -/
theorem between (h : Walks a P) {front back : List Char} (hfront : IsOrdinary front)
    (hback : IsOrdinary back) : Walks (front ++ (a ++ back)) P :=
  (hfront.walks.append (h.append hback.walks)).of_iff (by simp)

/-- Brackets change nothing. -/
theorem bracketed (h : Walks a P) {opening closing : Char}
    (hmarks : IsOrdinary [opening, closing]) : Walks (opening :: (a ++ [closing])) P := by
  have hparts : IsOrdinary [opening] ∧ IsOrdinary [closing] := List.forall_mem_append.1 hmarks
  exact h.between hparts.1 hparts.2

/-- Texts with ordinary text between them are as strange as one of them. -/
theorem joined {α : Type} {parts : List (List Char)} {as : List α} {P : α → Prop}
    (h : List.Forall₂ (fun part a => Walks part (P a)) parts as) {separator : List Char}
    (hseparator : IsOrdinary separator) : Walks (join separator parts) (∃ a ∈ as, P a) := by
  induction h with
  | nil =>
      have hnil : IsOrdinary [] := List.forall_mem_nil _
      exact hnil.walks.of_iff (by simp)
  | @cons part a parts as hpart hrest ih =>
      by_cases hnil : parts = []
      · subst hnil
        cases hrest
        exact hpart.of_iff (by simp)
      · rw [join_cons separator part hnil]
        exact (hpart.append (hseparator.walks.append ih)).of_iff (by simp)

end Walks

theorem IsNumber.isOrdinary {text : List Char} (h : IsNumber text) : IsOrdinary text := by
  have hrun {digits : List Char} (hdigits : ∀ c ∈ digits, c.isDigit = true) :
      IsOrdinary digits := isOrdinary_of_forall hdigits ⟨rfl, rfl, rfl⟩
  have hsigns : ∀ sign ∈ [[], ['+'], ['-']], IsOrdinary sign := by decide
  have hpoint : IsOrdinary ['.'] := by decide
  have hmarks : IsOrdinary ['e', 'E'] := by decide
  cases h with
  | @mk sign whole fraction exponent hsign _ hdigits _ hfraction hexponent =>
      have hfront : IsOrdinary sign := by
        have hshorter : [[], ['-']] ⊆ [[], ['+'], ['-']] := by decide
        exact hsigns sign (hshorter hsign)
      have hmiddle : IsOrdinary fraction := by
        cases hfraction with
        | nothing => exact List.forall_mem_nil _
        | point _ hdigits => exact hpoint.append (hrun hdigits)
      have hback : IsOrdinary exponent := by
        cases hexponent with
        | nothing => exact List.forall_mem_nil _
        | power hmark hsign _ hdigits =>
            exact List.forall_mem_cons.2
              ⟨hmarks _ hmark, (hsigns _ hsign).append (hrun hdigits)⟩
      exact hfront.append ((hrun hdigits).append (hmiddle.append hback))

/-- The inside of a string is walked through inside. -/
theorem IsInside.mode {text : List Char} (h : IsInside text) :
    Mode.inside.after text = .inside ∧ Mode.inside.bare text = [] := by
  have hplain {c : Char} (hquote : c ≠ '\x22') (hslash : c ≠ '\\') :
      Mode.inside.next c = .inside := by
    rw [Mode.next, if_neg hquote, if_neg hslash]
  -- Four digits end in the mode in which they begin, and so does any number of them.
  have hcode {digits : List Char} (hdigits : ∀ c ∈ digits, (hexDigit? c).isSome = true) :
      Mode.inside.after digits = .inside ∧ Mode.inside.bare digits = [] := by
    induction digits with
    | nil => exact ⟨rfl, rfl⟩
    | cons c digits ih =>
        rw [List.forall_mem_cons] at hdigits
        have hquote : c ≠ '\x22' := by
          rintro rfl
          cases hdigits.1
        have hslash : c ≠ '\\' := by
          rintro rfl
          cases hdigits.1
        rw [Mode.after_cons, Mode.bare, hplain hquote hslash]
        exact ih hdigits.2
  induction h with
  | nothing => exact ⟨rfl, rfl⟩
  | plain _ hquote hslash _ ih =>
      rw [Mode.after_cons, Mode.bare, hplain hquote hslash]
      exact ih
  | short _ _ ih => exact ih
  | @code digits rest _ hdigits _ ih =>
      obtain ⟨hafter, hbare⟩ := hcode hdigits
      have hwalk : Mode.inside.after (digits ++ rest) = .inside ∧
          Mode.inside.bare (digits ++ rest) = [] := by
        rw [Mode.after_append, Mode.bare_append, hafter, hbare, ih.1, ih.2]
        exact ⟨rfl, rfl⟩
      exact hwalk

theorem IsString.walks {text : List Char} (h : IsString text) : Walks text False := by
  obtain ⟨inside, hinside, rfl⟩ := h
  obtain ⟨hafter, hbare⟩ := hinside.mode
  have hopen : Mode.outside.next '\x22' = .inside := rfl
  have hmarks : Mode.outside.bare ('\x22' :: (inside ++ ['\x22'])) = ['\x22'] := by
    rw [Mode.bare, hopen, Mode.bare_append, hafter, hbare]
    rfl
  apply Walks.mk
  · rw [Mode.after_cons, hopen, Mode.after_append, hafter]
    rfl
  · rw [hmarks]
    simp

theorem Padded.IsSpaced.walks {p : Padded} (h : p.IsSpaced) {P : Prop} (hbody : Walks p.body P) :
    Walks p.text P :=
  hbody.between (isOrdinary_of_forall h.before ⟨rfl, rfl, rfl⟩)
    (isOrdinary_of_forall h.after ⟨rfl, rfl, rfl⟩)

/-- A member is as strange as its value. -/
theorem Member.walks {m : Member} {P : Prop} (hname : m.name.IsSpaced)
    (hvalue : m.value.IsSpaced) (hstring : IsString m.name.body) (hbody : Walks m.value.body P) :
    Walks m.text P := by
  have hcolon : IsOrdinary [':'] := by decide
  have hwalks := (hname.walks hstring.walks).append (hcolon.walks.append (hvalue.walks hbody))
  exact hwalks.of_iff (by simp)

/-- **No strange letter stands in a value**, outside of its strings. -/
theorem IsValue.walks {text : List Char} (h : IsValue text) : Walks text False := by
  have hspaces {space : List Char} (hspace : ∀ c ∈ space, isSpace c = true) :
      Walks space False :=
    (isOrdinary_of_forall hspace ⟨rfl, rfl, rfl⟩).walks
  have hcomma : IsOrdinary [','] := by decide
  have hsquare : IsOrdinary ['[', ']'] := by decide
  have hcurly : IsOrdinary ['\x7b', '\x7d'] := by decide
  induction h with
  | word hword =>
      have hwords : ∀ word ∈ ["true".toList, "false".toList, "null".toList], IsOrdinary word := by
        decide
      exact (hwords _ hword).walks
  | number hnumber => exact hnumber.isOrdinary.walks
  | string hstring => exact hstring.walks
  | emptyArray hspace =>
      exact (hspaces hspace).bracketed hsquare
  | emptyObject hspace =>
      exact (hspaces hspace).bracketed hcurly
  | @array items _ hspaced _ ih =>
      have hparts : List.Forall₂ (fun part _ => Walks part False) (items.map Padded.text) items :=
        List.forall₂_map_left_iff.2 (List.forall₂_same.2 fun item hitem =>
          (hspaced item hitem).walks (ih item hitem))
      exact ((Walks.joined hparts hcomma).bracketed hsquare).of_iff (by simp)
  | @object members _ hspaced hname _ ih =>
      have hparts : List.Forall₂ (fun part _ => Walks part False) (members.map Member.text)
          members :=
        List.forall₂_map_left_iff.2 (List.forall₂_same.2 fun member hmember =>
          Member.walks (hspaced member hmember).1 (hspaced member hmember).2 (hname member hmember)
            (ih member hmember))
      exact ((Walks.joined hparts hcomma).bracketed hcurly).of_iff (by simp)

/-- A JSON text is walked through without a strange letter, too. -/
theorem IsText.walks {text : List Char} (h : IsText text) : Walks text False := by
  obtain ⟨p, hspaced, hvalue, rfl⟩ := h
  exact hspaced.walks hvalue.walks

end FluentCalc.Json
