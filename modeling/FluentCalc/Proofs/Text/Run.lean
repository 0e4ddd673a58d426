/-
# Runs of characters

Everything that is read from a text is a run: as many characters of one kind as
there are. A run that was written down is read back whole when a character of
another kind, or nothing, stands behind it. Trimming is the other use of runs.
Trimmed texts stay as they are when they are trimmed again, and trimming never
brings in a character.
-/

import Mathlib.Data.List.DropRight
import Mathlib.Data.List.TakeWhile
import FluentCalc.Text.Blank

namespace FluentCalc.Text

section Runs

variable {p : Char → Bool} {run rest : List Char}

/-- A run ends in front of the first character of another kind. -/
theorem takeWhile_run (hrun : ∀ c ∈ run, p c = true) (hstop : ∀ c ∈ rest.head?, p c = false) :
    (run ++ rest).takeWhile p = run := by
  rw [List.takeWhile_append_of_pos hrun]
  cases rest with
  | nil => simp
  | cons c tail => simp [hstop c rfl]

/-- What is behind a run is left over. -/
theorem dropWhile_run (hrun : ∀ c ∈ run, p c = true) (hstop : ∀ c ∈ rest.head?, p c = false) :
    (run ++ rest).dropWhile p = rest := by
  rw [List.dropWhile_append_of_pos hrun]
  cases rest with
  | nil => rfl
  | cons c tail => simp [hstop c rfl]

end Runs

theorem mem_of_mem_strip {text : List Char} {c : Char} (h : c ∈ strip text) : c ∈ text :=
  (List.dropWhile_sublist isBlank).subset
    ((List.rdropWhile_prefix isBlank (stripFront text)).subset h)

/-- A text without blank characters has nothing to trim. -/
theorem strip_of_forall_not_blank {text : List Char} (h : ∀ c ∈ text, isBlank c = false) :
    strip text = text := by
  have hfront : stripFront text = text := by
    rw [stripFront, List.dropWhile_eq_self_iff]
    intro hpos
    simp [h _ (List.getElem_mem hpos)]
  have hback : List.rdropWhile isBlank text = text := by
    rw [List.rdropWhile_eq_self_iff]
    intro hne
    simp [h _ (List.getLast_mem hne)]
  rw [strip, hfront]
  exact hback

/-- The front of a text that is trimmed at the back is trimmed if that of the
text is. -/
theorem stripFront_stripBack {text : List Char} (h : stripFront text = text) :
    stripFront (stripBack text) = stripBack text := by
  rw [stripFront, List.dropWhile_eq_self_iff] at h ⊢
  intro hpos
  have hback : stripBack text <+: text := List.rdropWhile_prefix isBlank text
  have hlength := hback.length_le
  rw [hback.getElem hpos]
  exact h (by omega)

/-- Trimmed texts are trimmed. -/
theorem strip_strip (text : List Char) : strip (strip text) = strip text := by
  have hfront : stripFront (stripFront text) = stripFront text :=
    List.dropWhile_idempotent isBlank text
  have hback : stripBack (stripBack (stripFront text)) = stripBack (stripFront text) :=
    List.rdropWhile_idempotent isBlank (stripFront text)
  rw [strip, strip, stripFront_stripBack hfront, hback]

end FluentCalc.Text
