/-
# Lines put together

Lines without a break in them are found again in a text that is made of them, be they cut
where `lines` breaks or at the line feeds between them. A line that is empty is not found
again as the last one, so none of them may be empty where that matters.
-/

import Mathlib.Data.Nat.Notation
import FluentCalc.Text.Lines

namespace FluentCalc.Text

/-- There is no line break in a text. -/
def IsUnbroken (text : List Char) : Prop := ∀ c ∈ text, isLineBreak c = false

instance (text : List Char) : Decidable (IsUnbroken text) :=
  List.decidableBAll (fun c => isLineBreak c = false) text

/-- A line break is none of the characters of an unbroken text. -/
theorem IsUnbroken.not_mem {text : List Char} (h : IsUnbroken text) {c : Char}
    (hc : isLineBreak c = true) : c ∉ text := by
  intro hmem
  rw [h c hmem] at hc
  cases hc

@[simp] theorem join_singleton (separator piece : List Char) : join separator [piece] = piece := rfl

/-- There is a separator between a piece and others behind it. -/
theorem join_cons (separator piece : List Char) {rest : List (List Char)} (h : rest ≠ []) :
    join separator (piece :: rest) = piece ++ (separator ++ join separator rest) := by
  cases rest with
  | nil => exact absurd rfl h
  | cons second others => exact List.append_assoc _ _ _

theorem join_eq_intercalate (separator : List Char) (pieces : List (List Char)) :
    join separator pieces = separator.intercalate pieces := by
  induction pieces with
  | nil => rfl
  | cons piece rest ih =>
      cases rest with
      | nil => simp
      | cons second others => rw [join_cons _ _ (by simp), ih, List.intercalate_cons_cons,
          List.append_assoc]

/-- What is in joined pieces is in the separator or in one of them. -/
theorem mem_join {c : Char} {separator : List Char} {pieces : List (List Char)}
    (h : c ∈ join separator pieces) : c ∈ separator ∨ ∃ piece ∈ pieces, c ∈ piece := by
  induction pieces with
  | nil => cases h
  | cons piece rest ih =>
      by_cases hnil : rest = []
      · subst hnil
        exact .inr ⟨piece, List.mem_cons_self, h⟩
      · rw [join_cons separator piece hnil, List.mem_append, List.mem_append] at h
        rcases h with hpiece | hseparator | hrest
        · exact .inr ⟨piece, List.mem_cons_self, hpiece⟩
        · exact .inl hseparator
        · exact (ih hrest).imp_right fun ⟨other, hother, hc⟩ =>
            ⟨other, List.mem_cons_of_mem _ hother, hc⟩

/-- A character that is no line break belongs to the first line. -/
theorem lines_cons {c : Char} (h : isLineBreak c = false) (rest : List Char) :
    lines (c :: rest) = consFirst c (lines rest) := by
  rw [lines, h]
  · rfl
  · rintro _ rfl
    cases h

/-- A line that is ended is the first one. -/
theorem lines_append_break {line : List Char} (h : IsUnbroken line) (rest : List Char) :
    lines (line ++ '\n' :: rest) = line :: lines rest := by
  induction line with
  | nil => rfl
  | cons c line ih =>
      have hline : IsUnbroken line := fun d hd => h d (List.mem_cons_of_mem c hd)
      rw [List.cons_append, lines_cons (h c List.mem_cons_self), ih hline]
      rfl

theorem lines_of_isUnbroken {line : List Char} (h : IsUnbroken line) (hne : line ≠ []) :
    lines line = [line] := by
  induction line with
  | nil => exact absurd rfl hne
  | cons c line ih =>
      have hline : IsUnbroken line := fun d hd => h d (List.mem_cons_of_mem c hd)
      rw [lines_cons (h c List.mem_cons_self)]
      by_cases hnil : line = []
      · rw [hnil]
        rfl
      · rw [ih hline hnil]
        rfl

/-- Lines with line feeds between them are the lines of a text. -/
theorem lines_join {pieces : List (List Char)} (h : ∀ line ∈ pieces, IsUnbroken line)
    (hne : ∀ line ∈ pieces, line ≠ []) : lines (join ['\n'] pieces) = pieces := by
  induction pieces with
  | nil => rfl
  | cons line rest ih =>
      rw [List.forall_mem_cons] at h hne
      by_cases hnil : rest = []
      · rw [hnil, join_singleton, lines_of_isUnbroken h.1 hne.1]
      · rw [join_cons _ _ hnil, List.singleton_append, lines_append_break h.1, ih h.2 hne.2]

/-- Lines that are all ended are the lines of a text, be some of them empty or not. -/
theorem lines_flatMap {pieces : List (List Char)} (h : ∀ line ∈ pieces, IsUnbroken line) :
    lines (pieces.flatMap (· ++ ['\n'])) = pieces := by
  induction pieces with
  | nil => rfl
  | cons line rest ih =>
      rw [List.forall_mem_cons] at h
      rw [List.flatMap_cons, List.append_assoc, List.singleton_append, lines_append_break h.1,
        ih h.2]

section Separators

variable {separator : Char} {piece : List Char} {pieces : List (List Char)}

/-- A piece that is ended is the first one. -/
theorem splitAt_append (h : separator ∉ piece) (rest : List Char) :
    splitAt separator (piece ++ separator :: rest) = piece :: splitAt separator rest := by
  induction piece with
  | nil => simp [splitAt]
  | cons c piece ih =>
      rw [List.mem_cons, not_or] at h
      have hc : (c == separator) = false := beq_eq_false_iff_ne.2 (Ne.symm h.1)
      rw [List.cons_append, splitAt, hc, ih h.2]
      rfl

theorem splitAt_of_not_mem (h : separator ∉ piece) : splitAt separator piece = [piece] := by
  induction piece with
  | nil => rfl
  | cons c piece ih =>
      rw [List.mem_cons, not_or] at h
      have hc : (c == separator) = false := beq_eq_false_iff_ne.2 (Ne.symm h.1)
      rw [splitAt, hc, ih h.2]
      rfl

/-- Splitting undoes joining. -/
theorem splitAt_join (h : ∀ piece ∈ pieces, separator ∉ piece) (hne : pieces ≠ []) :
    splitAt separator (join [separator] pieces) = pieces := by
  induction pieces with
  | nil => exact absurd rfl hne
  | cons piece rest ih =>
      rw [List.forall_mem_cons] at h
      by_cases hnil : rest = []
      · rw [hnil, join_singleton, splitAt_of_not_mem h.1]
      · rw [join_cons _ _ hnil, List.singleton_append, splitAt_append h.1, ih h.2 hnil]

/-- Behind pieces that are all ended there is an empty one. -/
theorem splitAt_flatMap (h : ∀ piece ∈ pieces, separator ∉ piece) :
    splitAt separator (pieces.flatMap (· ++ [separator])) = pieces ++ [[]] := by
  induction pieces with
  | nil => rfl
  | cons piece rest ih =>
      rw [List.forall_mem_cons] at h
      rw [List.flatMap_cons, List.append_assoc, List.singleton_append, splitAt_append h.1,
        ih h.2, List.cons_append]

end Separators

/-- Where there is no carriage return, line ends are left as they are. -/
theorem unifyLineEnds_of_not_mem {text : List Char} (h : '\r' ∉ text) :
    unifyLineEnds text = text := by
  induction text with
  | nil => rfl
  | cons c rest ih =>
      rw [List.mem_cons, not_or] at h
      have hc : (c == '\r') = false := beq_eq_false_iff_ne.2 (Ne.symm h.1)
      rw [unifyLineEnds, ih h.2, hc]
      · rfl
      · intro _ hreturn
        exact absurd hreturn.symm h.1

end FluentCalc.Text
