/-
# What is written and the grammar

Plain data is always written, in either layout, and what is written is JSON exactly if
all doubles in it are finite. The layouts put white space only where it may stand, texts
are escaped, and numbers are spelled as the grammar has them, except that the infinities
and not-a-number are written as words that it does not have.
-/

import FluentCalc.Proofs.Json.Container
import FluentCalc.Proofs.Json.Grammar
import FluentCalc.Proofs.Json.Writer
import FluentCalc.Proofs.Value.Plain

namespace FluentCalc

namespace Json

open Text

/-! ## Numbers and strings -/

/-- A plain spelling is a number. -/
theorem isNumber_text {s : Numeral.Spelling} (h : s.IsPlain) : IsNumber s.text := by
  have hsign : Numeral.signText s.sign ∈ [[], ['-']] := by
    cases hsign : s.sign with
    | none => decide
    | some negative =>
        cases negative with
        | false => exact absurd hsign h.sign
        | true => decide
  have hfraction : IsFraction (s.fraction.elim [] ('.' :: ·)) := by
    cases hfraction : s.fraction with
    | none => exact .nothing
    | some digits =>
        have hne : digits ≠ [] := fun hnil => h.fraction_ne_nil (hnil ▸ hfraction)
        have hdigits : ∀ c ∈ digits, c.isDigit = true := fun c hc =>
          h.isDigit c (List.mem_append_right _ (by simpa [hfraction] using hc))
        exact .point hne hdigits
  have hexponent : IsExponent (s.power.elim [] Numeral.Power.text) := by
    cases hpower : s.power with
    | none => exact .nothing
    | some p =>
        have hplain := h.power p hpower
        have hsigns : Numeral.signText p.sign ∈ [[], ['+'], ['-']] := by
          rcases p.sign with _ | _ | _ <;> decide
        have hmark : p.mark ∈ ['e', 'E'] := by
          rw [hplain.mark]
          decide
        exact .power hmark hsigns hplain.ne_nil hplain.isDigit
  have hwhole : ∀ c ∈ s.whole, c.isDigit = true := fun c hc =>
    h.isDigit c (List.mem_append_left _ hc)
  exact .mk hsign h.whole_ne_nil hwhole h.whole_zero hfraction hexponent

theorem isNumber_integerText (n : ℤ) : IsNumber (integerText n).toList := by
  rw [← Numeral.Spelling.text_ofInt]
  exact isNumber_text (Numeral.Spelling.isPlain_ofInt n)

/-- A finite double is written as a number. -/
theorem isNumber_layout {x : Double} (h : x.isFinite = true) :
    IsNumber (Layout.json.text x).toList := by
  cases x with
  | infinite _ => cases h
  | nan => cases h
  | finite negative m =>
      obtain ⟨s, hplain, -, htext, -⟩ := exists_spelling_text .json negative m
      rw [← htext]
      exact isNumber_text hplain

/-- A character is escaped so that it may stand inside a string. -/
theorem isInside_escaped (c : Char) {rest : List Char} (h : IsInside rest) :
    IsInside (escaped c ++ rest) := by
  unfold escaped
  split_ifs with hself hfeed hreturn htab hback hform hcontrol
  · have hmem : c ∈ "\x22\\/bfnrt".toList := by
      rcases Bool.or_eq_true_iff.1 hself with heq | heq <;> rw [beq_iff_eq.1 heq] <;> decide
    exact .short hmem h
  · exact .short (by decide) h
  · exact .short (by decide) h
  · exact .short (by decide) h
  · exact .short (by decide) h
  · exact .short (by decide) h
  · have hdigits : ∀ n < 32, ((hex 4 n).all fun d => (hexDigit? d).isSome) = true := by decide
    exact .code (length_hex 4 c.toNat) (List.all_eq_true.1 (hdigits _ hcontrol)) h
  · simp only [Bool.or_eq_true, beq_iff_eq, not_or] at hself
    exact .plain (not_lt.1 hcontrol) hself.1 hself.2 h

theorem isString_string (s : String) : IsString (string s) := by
  refine ⟨s.toList.flatMap escaped, ?_, rfl⟩
  induction s.toList with
  | nil => exact .nothing
  | cons c rest ih =>
      rw [List.flatMap_cons]
      exact isInside_escaped c ih

/-! ## Layouts -/

/-- A sequence with white space in front of it and behind it is its parts with commas between
them, each with white space of its own. -/
theorem exists_padded (style : Style) (level : ℕ) {texts : List (List Char)} (hne : texts ≠ [])
    {before after : List Char} (hbefore : ∀ c ∈ before, isSpace c = true)
    (hafter : ∀ c ∈ after, isSpace c = true) :
    ∃ parts : List Padded, parts.map Padded.body = texts ∧ (∀ part ∈ parts, part.IsSpaced) ∧
      before ++ (commas style level texts ++ after) = join [','] (parts.map Padded.text) := by
  have hbreak : ∀ c ∈ style.break level [' '], isSpace c = true :=
    isSpace_of_mem_break style level (by simp [isSpace])
  -- The break behind a comma belongs to the part that follows.
  induction texts generalizing before with
  | nil => exact absurd rfl hne
  | cons text rest ih =>
      cases rest with
      | nil =>
          have hspaced : ∀ part ∈ [Padded.mk before text after], part.IsSpaced :=
            List.forall_mem_singleton.2 ⟨hbefore, hafter⟩
          exact ⟨_, rfl, hspaced, rfl⟩
      | cons second others =>
          obtain ⟨parts, hbody, hspaced, hjoin⟩ := ih (by simp) hbreak
          have hfirst : (Padded.mk before text []).IsSpaced := ⟨hbefore, List.forall_mem_nil _⟩
          have hcommas : commas style level (text :: second :: others) ++ after =
              text ++ ',' :: join [','] (parts.map Padded.text) := by
            rw [← hjoin]
            simp [commas]
          have hparts : parts.map Padded.text ≠ [] := by
            intro hnil
            rw [List.map_eq_nil_iff.1 hnil] at hbody
            cases hbody
          refine ⟨⟨before, text, []⟩ :: parts, by rw [List.map_cons, hbody],
            List.forall_mem_cons.2 ⟨hfirst, hspaced⟩, ?_⟩
          rw [hcommas, List.map_cons, join_cons _ _ hparts]
          simp [Padded.text]

/-- What a container that is not empty has between its brackets: its parts, with commas between
them and white space around each. -/
theorem container_eq_join {texts : List (List Char)} (hne : texts ≠ []) (style : Style)
    (level : ℕ) (opening closing : Char) :
    ∃ parts : List Padded, parts.map Padded.body = texts ∧ (∀ part ∈ parts, part.IsSpaced) ∧
      container style level opening closing texts =
        opening :: (join [','] (parts.map Padded.text) ++ [closing]) := by
  have hspace (level : ℕ) : ∀ c ∈ style.break level [], isSpace c = true :=
    isSpace_of_mem_break style level (List.forall_mem_nil _)
  obtain ⟨parts, hbody, hspaced, hjoin⟩ :=
    exists_padded style (level + 1) hne (hspace (level + 1)) (hspace level)
  refine ⟨parts, hbody, hspaced, ?_⟩
  rw [container_of_ne_nil hne, ← hjoin]
  simp only [List.append_assoc]

/-- A list of values in either layout is a value. -/
theorem isValue_list {texts : List (List Char)} (h : ∀ text ∈ texts, IsValue text) (style : Style)
    (level : ℕ) : IsValue (container style level '[' ']' texts) := by
  by_cases hne : texts = []
  · subst hne
    exact .emptyArray (List.forall_mem_nil _)
  · obtain ⟨parts, rfl, hspaced, htext⟩ := container_eq_join hne style level '[' ']'
    rw [htext]
    exact .array (fun hnil => hne (congrArg _ hnil)) hspaced (List.forall_mem_map.1 h)

/-- The text of an entry: a string, a colon and a value. -/
def IsEntry (text : List Char) : Prop :=
  ∃ name value, IsString name ∧ IsValue value ∧ text = name ++ ':' :: ' ' :: value

/-- What is asked of a member of an object. -/
structure Member.IsGood (m : Member) : Prop where
  name_isSpaced : m.name.IsSpaced
  value_isSpaced : m.value.IsSpaced
  isString : IsString m.name.body
  isValue : IsValue m.value.body

/-- Entries with white space around them are members of an object. -/
theorem exists_members {parts : List Padded} (hspaced : ∀ part ∈ parts, part.IsSpaced)
    (h : ∀ part ∈ parts, IsEntry part.body) :
    ∃ members : List Member, members.map Member.text = parts.map Padded.text ∧
      ∀ m ∈ members, m.IsGood := by
  have hnone : ∀ c ∈ [], isSpace c = true := List.forall_mem_nil _
  have hblank : ∀ c ∈ [' '], isSpace c = true := List.forall_mem_singleton.2 rfl
  induction parts with
  | nil => exact ⟨[], rfl, List.forall_mem_nil _⟩
  | cons part rest ih =>
      rw [List.forall_mem_cons] at hspaced h
      obtain ⟨members, htext, hgood⟩ := ih hspaced.2 h.2
      obtain ⟨name, value, hname, hvalue, hbody⟩ := h.1
      -- The blank behind the colon is white space of the value.
      let m : Member := ⟨⟨part.before, name, []⟩, ⟨[' '], value, part.after⟩⟩
      have hm : m.IsGood :=
        ⟨⟨hspaced.1.before, hnone⟩, ⟨hblank, hspaced.1.after⟩, hname, hvalue⟩
      refine ⟨m :: members, ?_, List.forall_mem_cons.2 ⟨hm, hgood⟩⟩
      rw [List.map_cons, List.map_cons, htext]
      simp [m, Member.text, Padded.text, hbody]

/-- A list of entries in either layout is a value. -/
theorem isValue_object {texts : List (List Char)} (h : ∀ text ∈ texts, IsEntry text)
    (style : Style) (level : ℕ) : IsValue (container style level '\x7b' '\x7d' texts) := by
  by_cases hne : texts = []
  · subst hne
    exact .emptyObject (List.forall_mem_nil _)
  · obtain ⟨parts, rfl, hspaced, htext⟩ := container_eq_join hne style level '\x7b' '\x7d'
    obtain ⟨members, hmembers, hgood⟩ := exists_members hspaced (List.forall_mem_map.1 h)
    have hnil : members ≠ [] := by
      rintro rfl
      exact hne (congrArg _ (List.map_eq_nil_iff.1 hmembers.symm))
    rw [htext, ← hmembers]
    exact .object hnil (fun m hm => ⟨(hgood m hm).name_isSpaced, (hgood m hm).value_isSpaced⟩)
      (fun m hm => (hgood m hm).isString) fun m hm => (hgood m hm).isValue

/-! ## Plain data -/

/-- What is written for data with some doubles in it: a text that is strange if one of them is
not finite, and a value otherwise. -/
structure Conforms (text : List Char) (numbers : List Double) : Prop where
  walks : Walks text (∃ x ∈ numbers, x.isFinite = false)
  isValue : (∀ x ∈ numbers, x.isFinite = true) → IsValue text

/-- A value in which there are no doubles. -/
theorem IsValue.conforms {text : List Char} (h : IsValue text) : Conforms text [] where
  walks := h.walks.of_iff (by simp)
  isValue _ := h

/-- A double is written as a number, or as a word that begins with a strange letter behind
its sign. -/
theorem conforms_layout (x : Double) : Conforms (Layout.json.text x).toList [x] := by
  have hstrange {word : List Char} (hquote : '\x22' ∉ word) {c : Char} (hc : c ∈ word)
      (hmark : c ∈ ['I', 'N']) (hx : x.isFinite = false) : Conforms word [x] := by
    have hinfinite : ∃ y ∈ [x], y.isFinite = false := ⟨x, List.mem_singleton_self x, hx⟩
    apply Conforms.mk
    · exact (walks_of_no_quote hquote).of_iff (iff_of_true ⟨c, hc, hmark⟩ hinfinite)
    · intro hfinite
      rw [hfinite x (List.mem_singleton_self x)] at hx
      cases hx
  have hI : 'I' ∈ ['I', 'N'] := List.mem_cons_self
  have hN : 'N' ∈ ['I', 'N'] := List.mem_cons_of_mem _ List.mem_cons_self
  cases x with
  | infinite negative =>
      cases negative with
      | false => exact hstrange (by decide) (by decide) hI rfl
      | true => exact hstrange (by decide) (by decide) hI rfl
  | nan => exact hstrange (by decide) (by decide) hN rfl
  | finite negative m =>
      have hvalue : IsValue (Layout.json.text (.finite negative m)).toList :=
        .number (isNumber_layout rfl)
      exact ⟨hvalue.walks.of_iff (by simp [Double.isFinite]), fun _ => hvalue⟩

/-- A layout puts its commas, and the breaks behind them, between the parts. -/
theorem commas_eq_join (style : Style) (level : ℕ) (texts : List (List Char)) :
    commas style level texts = join (',' :: style.break level [' ']) texts := by
  induction texts with
  | nil => rfl
  | cons text rest ih =>
      cases rest with
      | nil => rfl
      | cons second others =>
          rw [join_cons _ _ (List.cons_ne_nil second others), ← ih]
          exact List.append_assoc _ _ _

/-- A container is as strange as one of its parts. -/
theorem walks_container {α : Type} {texts : List (List Char)} {as : List α}
    {doubles : α → List Double}
    (h : List.Forall₂ (fun text a => Walks text (∃ x ∈ doubles a, x.isFinite = false)) texts as)
    (style : Style) (level : ℕ) {opening closing : Char}
    (hmarks : IsOrdinary [opening, closing]) :
    Walks (container style level opening closing texts)
      (∃ x ∈ as.flatMap doubles, x.isFinite = false) := by
  have hparts : IsOrdinary [opening] ∧ IsOrdinary [closing] := List.forall_mem_append.1 hmarks
  have hbreak (level : ℕ) {otherwise : List Char} (hspace : ∀ c ∈ otherwise, isSpace c = true) :
      IsOrdinary (style.break level otherwise) :=
    isOrdinary_of_forall (isSpace_of_mem_break style level hspace) ⟨rfl, rfl, rfl⟩
  have hcomma : IsOrdinary [','] := by decide
  have hblank : ∀ c ∈ [' '], isSpace c = true := List.forall_mem_singleton.2 rfl
  by_cases hne : texts = []
  · subst hne
    cases h
    exact hmarks.walks.of_iff (by simp)
  · have hsequence := Walks.joined h (hcomma.append (hbreak (level + 1) hblank))
    have hwalks := hsequence.between
      (hparts.1.append (hbreak (level + 1) (List.forall_mem_nil _)))
      ((hbreak level (List.forall_mem_nil _)).append hparts.2)
    rw [container_of_ne_nil hne, commas_eq_join]
    exact hwalks.of_iff (by grind)

/-- What is related to something in a list is related to one thing in it. -/
theorem exists_of_mem_left {α β : Type} {R : α → β → Prop} {as : List α} {bs : List β}
    (h : List.Forall₂ R as bs) {a : α} (ha : a ∈ as) : ∃ b ∈ bs, R a b := by
  induction h with
  | nil => cases ha
  | @cons first b as bs hfirst _ ih =>
      rcases List.mem_cons.1 ha with rfl | ha
      · exact ⟨b, List.mem_cons_self, hfirst⟩
      · obtain ⟨b, hb, hrelated⟩ := ih ha
        exact ⟨b, List.mem_cons_of_mem _ hb, hrelated⟩

section Containers

variable {texts : List (List Char)} (style : Style) (level : ℕ)

/-- Values in a list are as strange as one of them, and a value together if each is. -/
theorem conforms_list {items : List Value}
    (h : List.Forall₂ (fun text item => Conforms text item.doubles) texts items) :
    Conforms (container style level '[' ']' texts) (Value.list items).doubles := by
  rw [Value.doubles_list]
  apply Conforms.mk
  · have hparts := h.imp fun _ _ hpart => hpart.walks
    exact walks_container hparts style level (by decide)
  · intro hfinite
    apply isValue_list
    intro text htext
    obtain ⟨item, hitem, hconforms⟩ := exists_of_mem_left h htext
    exact hconforms.isValue fun x hx => hfinite x (List.mem_flatMap.2 ⟨item, hitem, hx⟩)

/-- An entry is as strange as its value. -/
theorem WritesEntry.walks {text : List Char} {entry : String × Value}
    (h : WritesEntry (fun text v => Conforms text v.doubles) text entry) :
    Walks text (∃ x ∈ entry.2.doubles, x.isFinite = false) := by
  have hcolon : IsOrdinary [':', ' '] := by decide
  cases h with
  | mk name hvalue =>
      have hwalks := (isString_string name).walks.append (hcolon.walks.append hvalue.walks)
      exact hwalks.of_iff (by simp)

/-- So are entries in an object. -/
theorem conforms_object {entries : List (String × Value)}
    (h : List.Forall₂ (WritesEntry fun text v => Conforms text v.doubles) texts entries) :
    Conforms (container style level '\x7b' '\x7d' texts) (Value.fields entries).doubles := by
  rw [Value.doubles_fields]
  apply Conforms.mk
  · have hparts := h.imp fun _ _ hpart => hpart.walks
    exact walks_container hparts style level (by decide)
  · intro hfinite
    apply isValue_object
    intro text htext
    obtain ⟨entry, hentry, hwrites⟩ := exists_of_mem_left h htext
    cases hwrites with
    | @mk text value name hconforms =>
        have hvalue : IsValue text :=
          hconforms.isValue fun x hx => hfinite x (List.mem_flatMap.2 ⟨_, hentry, hx⟩)
        exact ⟨string name, text, isString_string name, hvalue, rfl⟩

end Containers

/-- **Plain data is always written**, and it is written as a value exactly if all doubles in it
are finite. -/
theorem exists_write_conforms {v : Value} (h : v.IsPlain) (style : Style) (level : ℕ) :
    ∃ text, write style level v = .ok text ∧ Conforms text v.doubles := by
  induction h generalizing level with
  | null => exact ⟨_, rfl, (IsValue.word (by decide)).conforms⟩
  | bool b =>
      have hwords : ∀ b : Bool, (if b then "true".toList else "false".toList) ∈
          ["true".toList, "false".toList, "null".toList] := by decide
      exact ⟨_, rfl, (IsValue.word (hwords b)).conforms⟩
  | int n => exact ⟨_, rfl, (IsValue.number (isNumber_integerText n)).conforms⟩
  | num x => exact ⟨_, rfl, conforms_layout x⟩
  | text s => exact ⟨_, rfl, (IsValue.string (isString_string s)).conforms⟩
  | list _ ih =>
      obtain ⟨texts, hwrite, hall⟩ := exists_writeItems style fun item hitem =>
        ih item hitem (level + 1)
      refine ⟨_, ?_, conforms_list style level hall⟩
      rw [write, hwrite]
      rfl
  | @fields entries _ _ ih =>
      obtain ⟨texts, hwrite, hall⟩ :=
        exists_writeEntries (P := fun text v => Conforms text v.doubles) style
          fun entry hentry => ih entry hentry (level + 1)
      refine ⟨_, ?_, conforms_object style level hall⟩
      rw [Value.fields, write, hwrite]
      rfl

/-- Plain data is a JSON text exactly if all doubles in it are finite. -/
theorem exists_text {v : Value} (h : v.IsPlain) (pretty : Bool) :
    ∃ t, text pretty v = .ok t ∧
      (IsText t.toList ↔ ∀ x ∈ v.doubles, x.isFinite = true) := by
  obtain ⟨chars, hwrite, hconforms⟩ := exists_write_conforms h ⟨pretty⟩ 0
  refine ⟨String.ofList chars, ?_, ?_⟩
  · rw [text, hwrite]
    rfl
  · rw [String.toList_ofList]
    apply Iff.intro
    · intro htext x hx
      by_contra hinfinite
      have hstrange : ∃ x ∈ v.doubles, x.isFinite = false := ⟨x, hx, Bool.eq_false_iff.2 hinfinite⟩
      exact htext.walks.strange_iff.1 (hconforms.walks.strange_iff.2 hstrange)
    · intro hfinite
      have hspaced : (Padded.mk [] chars []).IsSpaced :=
        ⟨List.forall_mem_nil _, List.forall_mem_nil _⟩
      refine ⟨⟨[], chars, []⟩, hspaced, hconforms.isValue hfinite, ?_⟩
      simp [Padded.text]

end Json

end FluentCalc
