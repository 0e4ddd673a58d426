/-
# Encoded texts

A text in UTF-8 is decoded to itself. Each of its characters is a sequence of one to four
octets that the decoder takes as a whole: the lead octet announces how many there are,
none of the others is out of its range, and their bits make up the code point.
-/

import Mathlib.Data.List.TakeWhile
import Mathlib.Data.Nat.Notation
import Mathlib.Tactic.SplitIfs
import FluentCalc.Text.Utf8

namespace FluentCalc.Text

/-- A lead octet and what stands behind it are a sequence for a code point. -/
structure IsSequence (point : ℕ) (lead : UInt8) (tail : List UInt8) : Prop where
  width : sequenceWidth? lead.toNat = some (tail.length + 1)
  second : ∀ octet ∈ tail.head?, isSecond lead.toNat octet.toNat = true
  continuation : ∀ octet ∈ tail.tail, isContinuation octet.toNat = true
  codePoint : codePoint lead.toNat (tail.length + 1) (tail.map UInt8.toNat) = point

/-- A character is encoded as a sequence. -/
theorem exists_isSequence (c : Char) :
    ∃ lead tail, String.utf8EncodeChar c = lead :: tail ∧ IsSequence c.toNat lead tail := by
  have hvalid : c.toNat < 0xd800 ∨ 0xdfff < c.toNat ∧ c.toNat < 0x110000 := c.valid
  have hvalue : c.val.toNat = c.toNat := rfl
  rw [String.utf8EncodeChar, hvalue]
  generalize c.toNat = n at hvalid
  -- In each width the fields are facts about the digits of the code point to the base 64.
  split_ifs with hone htwo hthree
  all_goals refine ⟨_, _, rfl, ?_, ?_, ?_, ?_⟩
  all_goals simp [sequenceWidth?, isSecond, isContinuation, codePoint]
  any_goals omega
  -- What is left are the widths: the lead octets lie in ranges that do not overlap.
  all_goals split_ifs <;> first | rfl | omega

/-- What a lead octet announces is well formed up to its end. -/
theorem wellFormed_append {lead : ℕ} {tail : List UInt8}
    (hsecond : ∀ octet ∈ tail.head?, isSecond lead octet.toNat = true)
    (hcontinuation : ∀ octet ∈ tail.tail, isContinuation octet.toNat = true)
    (rest : List UInt8) :
    wellFormed lead tail.length (tail ++ rest) = tail.map UInt8.toNat := by
  cases tail with
  | nil => cases rest <;> rfl
  | cons second tail =>
      have htake : (tail ++ rest).take tail.length = tail := List.take_left
      have hall : (tail.map UInt8.toNat).takeWhile isContinuation = tail.map UInt8.toNat :=
        List.takeWhile_eq_self_iff.2 (List.forall_mem_map.2 hcontinuation)
      simp [wellFormed, hsecond second rfl, htake, hall]

/-- Octets of a sequence that is known are passed over. -/
theorem decodeFrom_skip (octets rest : List UInt8) (position : ℕ) :
    decodeFrom position octets.length (octets ++ rest) =
      decodeFrom (position + octets.length) 0 rest := by
  induction octets generalizing position with
  | nil => rfl
  | cons octet octets ih =>
      rw [List.cons_append, List.length_cons, decodeFrom, ih, Nat.add_right_comm, Nat.add_assoc]

/-- A character is decoded from its octets, whatever stands behind them. -/
theorem decodeFrom_encode (c : Char) (rest : List UInt8) (position : ℕ) :
    ∃ next, decodeFrom position 0 (String.utf8EncodeChar c ++ rest) =
      (decodeFrom next 0 rest).map (c :: ·) := by
  obtain ⟨lead, tail, hencode, hsequence⟩ := exists_isSequence c
  refine ⟨position + 1 + tail.length, ?_⟩
  have hwell := wellFormed_append hsequence.second hsequence.continuation rest
  rw [hencode, List.cons_append, decodeFrom]
  simp only [hsequence.width, Nat.add_sub_cancel, hwell, List.length_map, if_true,
    hsequence.codePoint, Char.ofNat_toNat, decodeFrom_skip]
  cases decodeFrom (position + 1 + tail.length) 0 rest <;> rfl

/-- **An encoded text is decoded** to itself. -/
theorem decodeUtf8_toUTF8 (s : String) : decodeUtf8 s.toUTF8.data.toList = .ok s.toList := by
  have hdecode : ∀ (text : List Char) (position : ℕ),
      decodeFrom position 0 (text.flatMap String.utf8EncodeChar) = .ok text := by
    intro text
    induction text with
    | nil => exact fun _ => rfl
    | cons c rest ih =>
        intro position
        obtain ⟨next, hnext⟩ := decodeFrom_encode c (rest.flatMap String.utf8EncodeChar) position
        rw [List.flatMap_cons, hnext, ih next]
        rfl
  have hoctets : s.toUTF8.data.toList = s.toList.flatMap String.utf8EncodeChar := by
    rw [String.toUTF8, ← String.utf8Encode_toList, List.utf8Encode, List.toList_data_toByteArray]
  rw [hoctets]
  exact hdecode s.toList 0

end FluentCalc.Text
