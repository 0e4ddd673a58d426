/-
# Quoted texts stay on one line

There are ten characters at which a text is cut into lines. None of them is printable and none
belongs to a word, so a quoted text and a name are each on one line, whatever the text is.
-/

import Mathlib.Tactic.SplitIfs
import FluentCalc.Proofs.Text.Lines
import FluentCalc.Text.Quoted
import FluentCalc.Text.Word

namespace FluentCalc.Text

/-- The characters that break lines. -/
def lineBreaks : List Char :=
  ['\n', '\x0b', '\x0c', '\r', '\x1c', '\x1d', '\x1e', '\u0085', '\u2028', '\u2029']

theorem mem_lineBreaks {c : Char} (h : isLineBreak c = true) : c ∈ lineBreaks := by
  have hcode : c.toNat ∈ lineBreaks.map Char.toNat := by
    simp [isLineBreak] at h
    simp [lineBreaks]
    omega
  obtain ⟨d, hd, heq⟩ := List.mem_map.1 hcode
  rwa [← Char.toNat_inj.1 heq]

/-- A class of characters that has none of the line breaks in it. -/
theorem not_isLineBreak_of {p : Char → Bool} (hp : lineBreaks.any p = false) {c : Char}
    (h : p c = true) : isLineBreak c = false := by
  rw [List.any_eq_false] at hp
  rw [Bool.eq_false_iff]
  exact fun hbreak => hp c (mem_lineBreaks hbreak) h

theorem not_isLineBreak_of_isWord {c : Char} (h : isWord c = true) : isLineBreak c = false :=
  not_isLineBreak_of (by decide +kernel) h

theorem not_isLineBreak_of_isPrintable {c : Char} (h : isPrintable c = true) :
    isLineBreak c = false :=
  not_isLineBreak_of (by decide +kernel) h

theorem isUnbroken_cons {c : Char} {text : List Char} :
    IsUnbroken (c :: text) ↔ isLineBreak c = false ∧ IsUnbroken text :=
  List.forall_mem_cons

theorem isUnbroken_append {front back : List Char} :
    IsUnbroken (front ++ back) ↔ IsUnbroken front ∧ IsUnbroken back :=
  List.forall_mem_append

theorem isUnbroken_toList_append {front back : String} :
    IsUnbroken (front ++ back).toList ↔ IsUnbroken front.toList ∧ IsUnbroken back.toList := by
  rw [String.toList_append, isUnbroken_append]

/-- The digits of an escape are on one line. -/
theorem isUnbroken_hex (width n : ℕ) : IsUnbroken (hex width n) := by
  have hdigit : ∀ k < 16, isLineBreak (Nat.digitChar k) = false := by decide
  induction width generalizing n with
  | zero => exact List.forall_mem_nil _
  | succ width ih =>
      refine isUnbroken_append.2 ⟨ih _, List.forall_mem_singleton.2 ?_⟩
      exact hdigit _ (Nat.mod_lt n (by decide))

theorem isUnbroken_numericEscape (c : Char) : IsUnbroken (numericEscape c) := by
  have hmarked {letter : Char} (hletter : isLineBreak letter = false) (width : ℕ) :
      IsUnbroken ('\\' :: letter :: hex width c.toNat) :=
    isUnbroken_cons.2 ⟨by decide, isUnbroken_cons.2 ⟨hletter, isUnbroken_hex width _⟩⟩
  rw [numericEscape]
  split_ifs
  · exact hmarked (by decide) 2
  · exact hmarked (by decide) 4
  · exact hmarked (by decide) 8

/-- A character is written on one line between quotes that are. -/
theorem isUnbroken_escaped {mark : Char} (hmark : isLineBreak mark = false) (c : Char) :
    IsUnbroken (escaped mark c) := by
  rw [escaped]
  split_ifs with hself hfeed hreturn htab hprintable
  · have hc : isLineBreak c = false := by
      rcases Bool.or_eq_true_iff.1 hself with heq | heq
      · rwa [beq_iff_eq.1 heq]
      · rw [beq_iff_eq.1 heq]
        decide
    exact isUnbroken_cons.2 ⟨by decide, List.forall_mem_singleton.2 hc⟩
  · decide
  · decide
  · decide
  · exact List.forall_mem_singleton.2 (not_isLineBreak_of_isPrintable hprintable)
  · exact isUnbroken_numericEscape c

/-- **A quoted text is on one line.** -/
theorem isUnbroken_quoted (text : String) : IsUnbroken (quoted text).toList := by
  have hmark : isLineBreak (quoteFor text.toList) = false := by
    rw [quoteFor]
    split <;> decide
  rw [quoted, String.toList_ofList, quote]
  refine isUnbroken_append.2 ⟨isUnbroken_cons.2 ⟨hmark, ?_⟩, List.forall_mem_singleton.2 hmark⟩
  intro c hc
  obtain ⟨d, -, hd⟩ := List.mem_flatMap.1 hc
  exact isUnbroken_escaped hmark d c hd

end FluentCalc.Text
