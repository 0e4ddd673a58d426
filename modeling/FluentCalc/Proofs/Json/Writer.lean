/-
# Writing parts

Items and entries are written one after the other, each a level below its container.
What is known of the text of every part is therefore known of all of them in a row.
-/

import Mathlib.Data.List.Forall2
import Mathlib.Data.Nat.Notation
import FluentCalc.Json.Writer

namespace FluentCalc.Json

variable {P : List Char → Value → Prop} (style : Style) {level : ℕ}

/-- The items of a list are written one after the other. -/
theorem exists_writeItems {items : List Value}
    (h : ∀ item ∈ items, ∃ text, write style (level + 1) item = .ok text ∧ P text item) :
    ∃ texts, writeItems style level items = .ok texts ∧ List.Forall₂ P texts items := by
  induction items with
  | nil => exact ⟨[], rfl, .nil⟩
  | cons item rest ih =>
      rw [List.forall_mem_cons] at h
      obtain ⟨text, hwrite, htext⟩ := h.1
      obtain ⟨texts, hrest, hall⟩ := ih h.2
      refine ⟨text :: texts, ?_, .cons htext hall⟩
      rw [writeItems, hwrite, hrest]
      rfl

/-- The text of an entry: its key as a string, a colon, and a text of its value. -/
inductive WritesEntry (P : List Char → Value → Prop) : List Char → String × Value → Prop
  | mk {text : List Char} {value : Value} (name : String) (h : P text value) :
      WritesEntry P (string name ++ ':' :: ' ' :: text) (name, value)

/-- The entries of a mapping are written one after the other. -/
theorem exists_writeEntries {entries : List (String × Value)}
    (h : ∀ entry ∈ entries, ∃ text, write style (level + 1) entry.2 = .ok text ∧ P text entry.2) :
    ∃ texts, writeEntries style level (entries.map fun e => (.text e.1, e.2)) = .ok texts ∧
      List.Forall₂ (WritesEntry P) texts entries := by
  induction entries with
  | nil => exact ⟨[], rfl, .nil⟩
  | cons entry rest ih =>
      rw [List.forall_mem_cons] at h
      obtain ⟨text, hwrite, htext⟩ := h.1
      obtain ⟨texts, hrest, hall⟩ := ih h.2
      refine ⟨(string entry.1 ++ ':' :: ' ' :: text) :: texts, ?_, .cons (.mk entry.1 htext) hall⟩
      rw [List.map_cons, writeEntries, key, hwrite, hrest]
      rfl

end FluentCalc.Json
