/-
# Enough steps for JSON

The reader is given a number of steps. If it ran out of them, that would be taken
for a fault of the text. It does not: whatever is read takes a character at least,
so twice as many steps as there are characters go further than the text does, and
with any greater number the same is read.
-/

import FluentCalc.Json.Reader

namespace FluentCalc.Json

variable {α β : Type} {text : List Char}

theorem length_skipSpace_le (text : List Char) : (skipSpace text).length ≤ text.length :=
  (List.dropWhile_sublist _).length_le

/-- Behind a character that white space may stand in front of there is less. -/
theorem length_of_skipSpace {c : Char} {rest : List Char} (h : skipSpace text = c :: rest) :
    rest.length < text.length := by
  have hle := length_skipSpace_le text
  rw [h] at hle
  exact hle

/-- A reading that comes to something takes a character at least off the front of a text. -/
def Takes (text : List Char) (reading : Reading α) : Prop :=
  ∀ a rest, reading = .ok (a, rest) → rest.length < text.length

theorem takes_error (fault : ReadFault) : Takes text (.error fault : Reading α) := by
  intro _ _ h
  cases h

theorem takes_ok {a : α} {rest : List Char} (h : rest.length < text.length) :
    Takes text (.ok (a, rest)) := by
  intro _ _ heq
  cases heq
  exact h

namespace Takes

variable {reading : Except ReadFault (α × List Char)}

/-- What takes something off a text does so behind other characters as well. -/
theorem mono (h : Takes text reading) {longer : List Char} (hle : text.length ≤ longer.length) :
    Takes longer reading :=
  fun a rest heq => Nat.lt_of_lt_of_le (h a rest heq) hle

theorem map (h : Takes text reading) {f : α × List Char → β × List Char}
    (hf : ∀ a rest, (f (a, rest)).2 = rest) : Takes text (reading.map f) := by
  cases hread : reading with
  | error fault => exact takes_error fault
  | ok result =>
      intro b rest heq
      have hrest : result.2 = rest := (hf _ _).symm.trans (congrArg Prod.snd (Except.ok.inj heq))
      exact h result.1 rest (hrest ▸ hread)

theorem bind (h : Takes text reading) {next : α × List Char → Except ReadFault (β × List Char)}
    (hnext : ∀ a rest, rest.length < text.length → Takes text (next (a, rest))) :
    Takes text (reading >>= next : Except ReadFault (β × List Char)) := by
  cases hread : reading with
  | error fault => exact takes_error fault
  | ok result => exact hnext result.1 result.2 (h _ _ hread)

/-- Readings that go on in the same way with every shorter text are the same. -/
theorem bind_congr (h : Takes text reading)
    {next next' : α × List Char → Except ReadFault (β × List Char)}
    (hnext : ∀ a rest, rest.length < text.length → next (a, rest) = next' (a, rest)) :
    reading >>= next = reading >>= next' := by
  cases hread : reading with
  | error fault => rfl
  | ok result => exact hnext result.1 result.2 (h _ _ hread)

end Takes

theorem length_of_hexFour? {n : Nat} {rest : List Char} (h : hexFour? text = some (n, rest)) :
    rest.length < text.length := by
  rw [hexFour?] at h
  split at h
  · next hfour =>
    obtain ⟨_, -, heq⟩ := Option.map_eq_some_iff.1 h
    cases heq
    rw [List.length_take] at hfour
    rw [List.length_drop]
    omega
  · cases h

theorem length_of_unicodeEscape? {c : Char} {rest : List Char}
    (h : unicodeEscape? text = some (c, rest)) : rest.length < text.length := by
  rw [unicodeEscape?] at h
  split at h
  · cases h
  · next hhigh =>
    have hle := length_of_hexFour? hhigh
    split at h
    · next tail =>
      have htail : tail.length + 2 < text.length := hle
      split at h
      · next hlow =>
        have hlt := length_of_hexFour? hlow
        split at h
        · obtain ⟨-, rfl⟩ := Prod.mk.inj (Option.some.inj h)
          omega
        · obtain ⟨-, rfl⟩ := Prod.mk.inj (Option.some.inj h)
          exact hle
      · obtain ⟨-, rfl⟩ := Prod.mk.inj (Option.some.inj h)
        exact hle
    · obtain ⟨-, rfl⟩ := Prod.mk.inj (Option.some.inj h)
      exact hle

theorem takes_readString (fuel : Nat) (text : List Char) : Takes text (readString fuel text) := by
  fun_induction readString fuel text with
  | case1 | case2 | case4 | case6 | case8 | case9 => exact takes_error _
  | case3 _ c rest => exact takes_ok (Nat.lt_succ_self _)
  | case5 _ _ _ _ _ _ _ hescape ih =>
      have hle := length_of_unicodeEscape? hescape
      exact (ih.map fun _ _ => rfl).mono (by simp only [List.length_cons]; omega)
  | case7 _ _ _ _ _ _ _ _ _ ih | case10 _ _ _ _ _ _ ih =>
      exact (ih.map fun _ _ => rfl).mono (by simp only [List.length_cons]; omega)

theorem readString_succ {n : Nat} (h : text.length < n) :
    readString (n + 1) text = readString n text := by
  fun_induction readString n text with
  | case1 => omega
  | case2 | case3 | case4 | case6 | case8 | case9 => simp [readString, *]
  | case5 _ _ _ _ _ _ _ hescape ih =>
      have hle := length_of_unicodeEscape? hescape
      rw [List.length_cons, List.length_cons] at h
      simp [readString, *, ih (by omega)]
  | case7 _ _ _ _ _ _ _ _ _ ih =>
      simp [readString, *, ih (by simp only [List.length_cons] at h; omega)]
  | case10 _ _ _ _ _ _ ih =>
      simp [readString, *, ih (by simp only [List.length_cons] at h; omega)]

/-- A string is read in one step for each of its characters and one for the closing quote: with
any greater number the same is read. -/
theorem readString_of_lt {n : Nat} (h : text.length < n) :
    readString n text = readString (text.length + 1) text := by
  obtain ⟨more, rfl⟩ := Nat.exists_eq_add_of_le (Nat.succ_le_of_lt h)
  induction more with
  | zero => rfl
  | succ more ih => rw [← Nat.add_assoc, readString_succ (by omega), ih (by omega)]

theorem length_of_wholeDigits? {digits rest : List Char}
    (h : wholeDigits? text = some (digits, rest)) : rest.length < text.length := by
  unfold wholeDigits? at h
  split at h
  · cases h
    exact Nat.lt_succ_self _
  · dsimp only at h
    split at h
    · cases h
    · next hsome =>
      cases h
      have hlength := congrArg List.length
        (List.takeWhile_append_dropWhile (p := isAsciiDigit) (l := text))
      rw [List.length_append] at hlength
      have hpos : (text.takeWhile isAsciiDigit).length ≠ 0 := by simpa using hsome
      omega

theorem length_fraction_le (text : List Char) : (fraction text).2.length ≤ text.length := by
  unfold fraction
  split
  · dsimp only
    split
    · exact Nat.le_refl _
    · exact Nat.le_succ_of_le (List.dropWhile_sublist _).length_le
  · exact Nat.le_refl _

theorem length_exponentPart_le (text : List Char) : (exponentPart text).2.length ≤ text.length := by
  fun_cases exponentPart text with
  | case1 | case2 | case4 => exact Nat.le_refl _
  | case3 mark rest _ sign body hsign digits _ =>
      have hbody : body.length ≤ rest.length := by split at hsign <;> cases hsign <;> simp
      have hdrop := (List.dropWhile_sublist (l := body) isAsciiDigit).length_le
      exact Nat.le_succ_of_le (Nat.le_trans hdrop hbody)

/-- The parts of a number behind its sign take a digit at least. -/
theorem length_of_numberParts {digits front back rest rest' rest'' : List Char}
    (hdigits : wholeDigits? text = some (digits, rest)) (hfront : fraction rest = (front, rest'))
    (hback : exponentPart rest' = (back, rest'')) : rest''.length < text.length := by
  have hlt := length_of_wholeDigits? hdigits
  have hle := length_fraction_le rest
  have hle' := length_exponentPart_le rest'
  rw [hfront] at hle
  rw [hback] at hle'
  exact Nat.lt_of_le_of_lt (Nat.le_trans hle' hle) hlt

theorem takes_readNumber (text : List Char) : Takes text (readNumber text) := by
  fun_cases readNumber text with
  | case1 | case2 | case5 => exact takes_error _
  | case3 sign body hsign _ _ hdigits _ _ hfront _ _ hback
  | case4 sign body hsign _ _ hdigits _ _ hfront _ _ hback =>
      have hbody : body.length ≤ text.length := by split at hsign <;> cases hsign <;> simp
      exact takes_ok (Nat.lt_of_lt_of_le (length_of_numberParts hdigits hfront hback) hbody)

theorem takes_readScalar (text : List Char) : Takes text (readScalar text) := by
  unfold readScalar
  split
  · next word value hfind =>
    have hfront : word.isPrefixOf text = true :=
      List.find?_some (p := fun entry : List Char × Value => entry.1.isPrefixOf text) hfind
    have hpos : ∀ entry ∈ words, 0 < entry.1.length := by decide
    have hword : 0 < word.length := hpos _ (List.mem_of_find?_eq_some hfind)
    have hle := (List.isPrefixOf_iff_prefix.1 hfront).length_le
    exact takes_ok (by rw [List.length_drop]; omega)
  · exact takes_readNumber text

/-- What is read in a number of steps takes a character at least, be it a value, or the rest of a
list or of an object. -/
structure TakesAll (n : Nat) : Prop where
  value : ∀ text, Takes text (readValue n text)
  items : ∀ text, Takes text (readItems n text)
  entries : ∀ text, Takes text (readEntries n text)

namespace TakesAll

variable {n : Nat} (h : TakesAll n)

include h

theorem value_succ (text : List Char) : Takes text (readValue (n + 1) text) := by
  unfold readValue
  split
  · exact ((takes_readString _ _).map fun _ _ => rfl).mono (Nat.le_succ _)
  · next rest =>
    split
    · next hskip => exact takes_ok (Nat.lt_succ_of_lt (length_of_skipSpace hskip))
    · exact ((h.items _).map fun _ _ => rfl).mono (Nat.le_succ_of_le (length_skipSpace_le rest))
  · next rest =>
    split
    · next hskip => exact takes_ok (Nat.lt_succ_of_lt (length_of_skipSpace hskip))
    · exact ((h.entries _).map fun _ _ => rfl).mono (Nat.le_succ_of_le (length_skipSpace_le rest))
  · exact takes_readScalar _

theorem items_succ (text : List Char) : Takes text (readItems (n + 1) text) := by
  unfold readItems
  refine (h.value text).bind fun item rest hrest => ?_
  dsimp only
  split
  · next behind hskip =>
    have hlt := Nat.lt_trans (length_of_skipSpace hskip) hrest
    have hle := Nat.le_trans (length_skipSpace_le behind) (Nat.le_of_lt hlt)
    exact .bind ((h.items _).mono hle) fun _ _ hlt => takes_ok hlt
  · next hskip => exact takes_ok (Nat.lt_trans (length_of_skipSpace hskip) hrest)
  · exact takes_error _

theorem entries_succ (text : List Char) : Takes text (readEntries (n + 1) text) := by
  unfold readEntries
  split
  · next inside =>
    refine ((takes_readString _ inside).mono (Nat.le_succ _)).bind fun name rest hrest => ?_
    dsimp only
    split
    · next behind hskip =>
      have hlt := Nat.lt_trans (length_of_skipSpace hskip) hrest
      have hle := Nat.le_trans (length_skipSpace_le behind) (Nat.le_of_lt hlt)
      refine ((h.value _).mono hle).bind fun value rest hrest => ?_
      dsimp only
      split
      · next behind hskip =>
        have hlt := Nat.lt_trans (length_of_skipSpace hskip) hrest
        have hle := Nat.le_trans (length_skipSpace_le behind) (Nat.le_of_lt hlt)
        exact .bind ((h.entries _).mono hle) fun _ _ hlt => takes_ok hlt
      · next hskip => exact takes_ok (Nat.lt_trans (length_of_skipSpace hskip) hrest)
      · exact takes_error _
    · exact takes_error _
  · exact takes_error _

end TakesAll

theorem takesAll (n : Nat) : TakesAll n := by
  induction n with
  | zero => exact ⟨fun _ => takes_error _, fun _ => takes_error _, fun _ => takes_error _⟩
  | succ n ih => exact ⟨ih.value_succ, ih.items_succ, ih.entries_succ⟩

/-- One step more makes no difference to texts that are short enough. -/
structure Suffices (n : Nat) : Prop where
  value : ∀ {text}, 2 * text.length + 1 ≤ n → readValue (n + 1) text = readValue n text
  items : ∀ {text}, 2 * text.length + 2 ≤ n → readItems (n + 1) text = readItems n text
  entries : ∀ {text}, 2 * text.length + 1 ≤ n → readEntries (n + 1) text = readEntries n text

namespace Suffices

variable {n : Nat} (h : Suffices n)

include h

theorem value_succ (hn : 2 * text.length + 1 ≤ n + 1) :
    readValue (n + 1 + 1) text = readValue (n + 1) text := by
  unfold readValue
  split
  · rfl
  · next rest =>
    have hle := length_skipSpace_le rest
    rw [List.length_cons] at hn
    split
    · rfl
    · rw [h.items (by omega)]
  · next rest =>
    have hle := length_skipSpace_le rest
    rw [List.length_cons] at hn
    split
    · rfl
    · rw [h.entries (by omega)]
  · rfl

theorem items_succ (hn : 2 * text.length + 2 ≤ n + 1) :
    readItems (n + 1 + 1) text = readItems (n + 1) text := by
  unfold readItems
  rw [h.value (by omega)]
  refine ((takesAll n).value text).bind_congr fun item rest hrest => ?_
  dsimp only
  split
  · next behind hskip =>
    have hlt := length_of_skipSpace hskip
    have hle := length_skipSpace_le behind
    rw [h.items (by omega)]
  · rfl
  · rfl

theorem entries_succ (hn : 2 * text.length + 1 ≤ n + 1) :
    readEntries (n + 1 + 1) text = readEntries (n + 1) text := by
  unfold readEntries
  split
  · next inside =>
    rw [List.length_cons] at hn
    refine (takes_readString _ inside).bind_congr fun name rest hrest => ?_
    dsimp only
    split
    · next behind hskip =>
      have hlt := length_of_skipSpace hskip
      have hle := length_skipSpace_le behind
      rw [h.value (by omega)]
      refine ((takesAll n).value _).bind_congr fun value rest hrest => ?_
      dsimp only
      split
      · next behind hskip =>
        have hlt := length_of_skipSpace hskip
        have hle := length_skipSpace_le behind
        rw [h.entries (by omega)]
      · rfl
      · rfl
    · rfl
  · rfl

end Suffices

theorem suffices_steps (n : Nat) : Suffices n := by
  induction n with
  | zero => exact ⟨fun h => by omega, fun h => by omega, fun h => by omega⟩
  | succ n ih => exact ⟨ih.value_succ, ih.items_succ, ih.entries_succ⟩

/-- **The steps that a text is given are enough.** With any greater number of them the same value
is read off its front, or the same fault is found. -/
theorem readValue_of_le {n : Nat} (h : 2 * text.length + 2 ≤ n) :
    readValue n (skipSpace text) = readValue (2 * text.length + 2) (skipSpace text) := by
  have hle := length_skipSpace_le text
  obtain ⟨more, rfl⟩ := Nat.exists_eq_add_of_le h
  induction more with
  | zero => rfl
  | succ more ih => rw [← Nat.add_assoc, (suffices_steps _).value (by omega), ih (by omega)]

end FluentCalc.Json
