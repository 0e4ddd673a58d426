/-
# Containers of JSON read back

The items of a list and the entries of an object are read in the same way: one
part after the other, with a comma between them and a bracket behind the last.
What a reader of such a sequence does with one part is stated in `ReadsParts`,
and from it follows that it reads back a whole sequence in either layout. The
white space that a layout puts between the parts is passed over.
-/

import FluentCalc.Proofs.Json.Scalar

namespace FluentCalc.Json

open Text

theorem skipSpace_append {pad : List Char} (hpad : ∀ c ∈ pad, isSpace c = true)
    (rest : List Char) : skipSpace (pad ++ rest) = skipSpace rest :=
  List.dropWhile_append_of_pos hpad

theorem skipSpace_cons {c : Char} (h : isSpace c = false) (rest : List Char) :
    skipSpace (c :: rest) = c :: rest := by
  simp [skipSpace, h]

/-- There is no white space in front of a text that is read. -/
theorem skipSpace_of_reads {text : List Char} {v : Value} (h : Reads text v) (rest : List Char) :
    skipSpace (text ++ rest) = text ++ rest := by
  obtain ⟨c, tail, rfl, hc, -⟩ := h.front
  exact skipSpace_cons hc _

/-- What a layout puts between parts is white space. -/
theorem isSpace_of_mem_break (style : Style) (level : ℕ) {otherwise : List Char}
    (h : ∀ c ∈ otherwise, isSpace c = true) :
    ∀ c ∈ style.break level otherwise, isSpace c = true := by
  intro c hc
  unfold Style.break at hc
  split at hc
  · rcases List.mem_cons.1 hc with rfl | hc
    · decide
    · rw [List.eq_of_mem_replicate hc]
      decide
  · exact h c hc

/-- A reader of parts that are divided by commas and closed by a mark: it reads one part and
goes on behind a comma, or ends behind the mark. -/
structure ReadsParts {α : Type} (reader : ℕ → List Char → Except ReadFault (List α × List Char))
    (closing : Char) (part : List Char → α → Prop) : Prop where
  front : ∀ {text a}, part text a →
    ∃ c tail, text = c :: tail ∧ isSpace c = false ∧ c ≠ closing
  next : ∀ {text a fuel} rest, part text a → 2 * text.length ≤ fuel →
    reader (fuel + 1) (text ++ ',' :: rest) =
      (reader fuel (skipSpace rest)).map fun (as, rest) => (a :: as, rest)
  last : ∀ {text a fuel pad} rest, part text a → 2 * text.length ≤ fuel →
    (∀ c ∈ pad, isSpace c = true) →
      reader (fuel + 1) (text ++ (pad ++ closing :: rest)) = .ok ([a], rest)

/-- A sequence begins with its first part. -/
theorem commas_cons (style : Style) (level : ℕ) (text : List Char) (texts : List (List Char)) :
    ∃ back, commas style level (text :: texts) = text ++ back := by
  cases texts with
  | nil => exact ⟨[], (List.append_nil text).symm⟩
  | cons _ _ => exact ⟨_, List.append_assoc _ _ _⟩

/-- A container that is not empty has its sequence between its brackets. -/
theorem container_of_ne_nil {texts : List (List Char)} (hne : texts ≠ []) (style : Style)
    (level : ℕ) (opening closing : Char) :
    container style level opening closing texts =
      opening :: (style.break (level + 1) [] ++
        (commas style (level + 1) texts ++ (style.break level [] ++ [closing]))) := by
  cases texts with
  | nil => exact absurd rfl hne
  | cons _ _ => simp [container]

namespace ReadsParts

variable {α : Type} {reader : ℕ → List Char → Except ReadFault (List α × List Char)}
  {closing : Char} {part : List Char → α → Prop} {texts : List (List Char)} {as : List α}

/-- A sequence begins with a mark that is no white space and does not close it. -/
theorem front_commas (h : ReadsParts reader closing part) (hparts : List.Forall₂ part texts as)
    (hne : texts ≠ []) (style : Style) (level : ℕ) :
    ∃ c tail, commas style level texts = c :: tail ∧ isSpace c = false ∧ c ≠ closing := by
  cases hparts with
  | nil => exact absurd rfl hne
  | @cons text a texts as hpart hparts =>
      obtain ⟨c, tail, rfl, hc⟩ := h.front hpart
      obtain ⟨back, hback⟩ := commas_cons style level (c :: tail) texts
      exact ⟨c, tail ++ back, hback, hc⟩

/-- White space in front of a sequence is passed over, and no more. -/
theorem skipSpace_commas (h : ReadsParts reader closing part)
    (hparts : List.Forall₂ part texts as) (hne : texts ≠ []) (style : Style) (level : ℕ)
    {pad : List Char} (hpad : ∀ c ∈ pad, isSpace c = true) (rest : List Char) :
    skipSpace (pad ++ (commas style level texts ++ rest)) = commas style level texts ++ rest := by
  obtain ⟨c, tail, hfront, hc, -⟩ := h.front_commas hparts hne style level
  rw [skipSpace_append hpad, hfront]
  exact skipSpace_cons hc _

/-- **A sequence is read back**, up to the mark that closes it. -/
theorem read (h : ReadsParts reader closing part) (hparts : List.Forall₂ part texts as)
    (hne : texts ≠ []) (style : Style) (level : ℕ) {pad : List Char}
    (hpad : ∀ c ∈ pad, isSpace c = true) (rest : List Char) {fuel : ℕ}
    (hfuel : 2 * (commas style level texts).length < fuel) :
    reader fuel (commas style level texts ++ (pad ++ closing :: rest)) = .ok (as, rest) := by
  induction hparts generalizing fuel with
  | nil => exact absurd rfl hne
  | @cons text a texts as hpart hparts ih =>
      obtain ⟨fuel, rfl⟩ : ∃ n, fuel = n + 1 := ⟨fuel - 1, by omega⟩
      cases texts with
      | nil =>
          cases hparts
          exact h.last rest hpart (Nat.lt_succ_iff.1 hfuel) hpad
      | cons second others =>
          have hcommas : commas style level (text :: second :: others) =
              text ++ ',' :: (style.break level [' '] ++
                commas style level (second :: others)) := by
            simp [commas]
          have hspace : ∀ c ∈ style.break level [' '], isSpace c = true :=
            isSpace_of_mem_break style level (by simp [isSpace])
          rw [hcommas] at hfuel ⊢
          simp only [List.length_append, List.length_cons] at hfuel
          rw [List.append_assoc, List.cons_append, List.append_assoc,
            h.next _ hpart (by omega), h.skipSpace_commas hparts (by simp) style level hspace,
            ih (by simp) (by omega)]
          rfl

/-- **A container is read back** if its opening bracket is known to its reader: it stands
for nothing in front of the closing one, and for a sequence in front of anything else. -/
theorem reads_container (h : ReadsParts reader closing part) {opening : Char}
    {wrap : List α → Value} (hopening : isSpace opening = false ∧ opening ≠ ']')
    (hempty : ∀ fuel rest, readValue (fuel + 1) (opening :: closing :: rest) = .ok (wrap [], rest))
    (hsequence : ∀ {fuel inner c tail}, skipSpace inner = c :: tail → c ≠ closing →
      readValue (fuel + 1) (opening :: inner) =
        (reader fuel (c :: tail)).map fun (as, rest) => (wrap as, rest))
    (hparts : List.Forall₂ part texts as) (style : Style) (level : ℕ) :
    Reads (container style level opening closing texts) (wrap as) := by
  by_cases hne : texts = []
  · subst hne
    cases hparts
    refine ⟨⟨opening, [closing], rfl, hopening⟩, fun rest fuel _ hfuel => ?_⟩
    obtain ⟨fuel, rfl⟩ : ∃ n, fuel = n + 1 := ⟨fuel - 1, by simp [container] at hfuel; omega⟩
    exact hempty fuel rest
  · have hspace (level : ℕ) : ∀ c ∈ style.break level [], isSpace c = true :=
      isSpace_of_mem_break style level (by simp)
    rw [container_of_ne_nil hne]
    refine ⟨⟨opening, _, rfl, hopening⟩, fun rest fuel _ hfuel => ?_⟩
    simp only [List.length_append, List.length_cons, List.length_nil] at hfuel
    obtain ⟨fuel, rfl⟩ : ∃ n, fuel = n + 1 := ⟨fuel - 1, by omega⟩
    obtain ⟨c, tail, hfront, -, hc⟩ := h.front_commas hparts hne style (level + 1)
    have hskip := h.skipSpace_commas hparts hne style (level + 1) (hspace (level + 1))
      (style.break level [] ++ closing :: rest)
    have hread : reader fuel (commas style (level + 1) texts ++
        (style.break level [] ++ closing :: rest)) = .ok (as, rest) :=
      h.read hparts hne style (level + 1) (hspace level) rest (by omega)
    rw [hfront] at hskip hread
    simp only [List.cons_append, List.append_assoc, List.nil_append]
    rw [hfront, hsequence hskip hc]
    exact congrArg (Except.map _) hread

end ReadsParts

/-- The items of a list are read one after the other. -/
theorem readsParts_items : ReadsParts readItems ']' Reads where
  front h := h.front
  next {_ _ fuel} rest h hfuel := by
    rw [readItems, h.read _ fuel (closes_cons (by decide) rest) hfuel]
    simp only [bind, Except.bind, skipSpace_cons (c := ',') (by decide)]
    cases readItems fuel (skipSpace rest) <;> rfl
  last {_ _ fuel _} rest h hfuel hpad := by
    rw [readItems, h.read _ fuel (closes_append hpad (closes_cons (by decide) rest)) hfuel]
    simp only [bind, Except.bind, skipSpace_append hpad, skipSpace_cons (c := ']') (by decide)]
    rfl

/-- A text that is read as an entry of an object: a string, a colon and a value. -/
inductive ReadsEntry : List Char → Value × Value → Prop
  | mk {text : List Char} {v : Value} (name : String) (h : Reads text v) :
      ReadsEntry (string name ++ ':' :: ' ' :: text) (.text name, v)

/-- Behind an entry the reader of an object goes on at a comma and ends at a bracket. -/
theorem readEntries_entry {text : List Char} {v : Value} (name : String) (h : Reads text v)
    {rest back : List Char} (hrest : Closes rest) {fuel : ℕ} (hfuel : 2 * text.length ≤ fuel) :
    (skipSpace rest = ',' :: back →
      readEntries (fuel + 1) (string name ++ ':' :: ' ' :: text ++ rest) =
        (readEntries fuel (skipSpace back)).map fun (entries, rest) =>
          ((.text name, v) :: entries, rest)) ∧
    (skipSpace rest = '\x7d' :: back →
      readEntries (fuel + 1) (string name ++ ':' :: ' ' :: text ++ rest) =
        .ok ([(.text name, v)], back)) := by
  obtain ⟨body, hbody, hname⟩ := readString_string name (':' :: ' ' :: (text ++ rest))
  have hvalue : skipSpace (' ' :: (text ++ rest)) = text ++ rest := skipSpace_of_reads h rest
  rw [List.append_assoc, List.cons_append, List.cons_append, hbody, readEntries]
  simp only [bind, Except.bind, hname, skipSpace_cons (c := ':') (by decide), hvalue,
    h.read rest fuel hrest hfuel, String.ofList_toList]
  refine ⟨fun hskip => ?_, fun hskip => ?_⟩
  · simp only [hskip]
    cases readEntries fuel (skipSpace back) <;> rfl
  · simp only [hskip]
    rfl

/-- The entries of an object are read one after the other. -/
theorem readsParts_entries : ReadsParts readEntries '\x7d' ReadsEntry where
  front h := by
    obtain ⟨name, h⟩ := h
    exact ⟨'\x22', _, rfl, by decide, by decide⟩
  next {_ _ fuel} rest h hfuel := by
    obtain ⟨name, h⟩ := h
    simp only [List.length_append, List.length_cons] at hfuel
    have hclose : Closes (',' :: rest) := closes_cons (by decide) rest
    exact (readEntries_entry name h hclose (by omega)).1 (skipSpace_cons (by decide) rest)
  last {_ _ fuel pad} rest h hfuel hpad := by
    obtain ⟨name, h⟩ := h
    simp only [List.length_append, List.length_cons] at hfuel
    have hclose : Closes (pad ++ '\x7d' :: rest) := closes_append hpad (closes_cons (by decide) rest)
    refine (readEntries_entry name h hclose (by omega)).2 ?_
    rw [skipSpace_append hpad]
    exact skipSpace_cons (by decide) rest

section Containers

variable {texts : List (List Char)} (style : Style) (level : ℕ)

/-- **The text of a list is read** as the list of what its items are read as. -/
theorem reads_list {items : List Value} (h : List.Forall₂ Reads texts items) :
    Reads (container style level '[' ']' texts) (.list items) := by
  refine readsParts_items.reads_container (by decide) (fun fuel rest => rfl) ?_ h style level
  intro fuel inner c tail hskip hc
  simp [readValue, hskip, hc]

/-- **The text of an object is read** as the mapping that arises from its entries. -/
theorem reads_object {entries : List (Value × Value)} (h : List.Forall₂ ReadsEntry texts entries) :
    Reads (container style level '\x7b' '\x7d' texts) (Value.ofEntries entries) := by
  refine readsParts_entries.reads_container (by decide) (fun fuel rest => rfl) ?_ h style level
  intro fuel inner c tail hskip hc
  simp [readValue, hskip, hc]

end Containers

end FluentCalc.Json
