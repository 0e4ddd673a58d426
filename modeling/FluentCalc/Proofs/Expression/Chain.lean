/-
# Chains of calls

Both ways of reading a chain are told by how they go on: behind a call that is
spelled at the front, over a gap, and at a place where no call begins. From
these steps follow, by induction along the text, the two facts about whole
chains. What the strict reading takes is taken by the permissive reading, too,
with the same columns. And the permissive reading of a longer text begins with
the calls of the shorter one.
-/

import FluentCalc.Proofs.Expression.Scan

namespace FluentCalc.Scan

open Text

@[simp]
theorem findCalls_nil (offset : ℕ) : findCalls offset [] = [] := by
  simp [findCalls, call?]

theorem findCalls_of_call? {text rest : List Char} {c : RawCall} (offset : ℕ)
    (h : call? text = some (c, rest)) :
    findCalls offset text = c.toCall offset :: findCalls (offset + c.width + 1) rest := by
  rw [findCalls.eq_def]
  split
  · rename_i c' rest' h'
    rw [h] at h'
    cases h'
    rfl
  · rename_i h'
    rw [h] at h'
    cases h'

theorem findCalls_skip {d : Char} {rest : List Char} (offset : ℕ)
    (h : call? (d :: rest) = none) :
    findCalls offset (d :: rest) = findCalls (offset + 1) rest := by
  rw [findCalls.eq_def]
  split
  · rename_i h'
    rw [h] at h'
    cases h'
  · rfl

theorem readCalls_of_call? {gap text rest : List Char} {c : RawCall} (offset : ℕ)
    (hgap : ∀ d ∈ gap, isGap d = true) (h : call? text = some (c, rest)) :
    readCalls offset (gap ++ text) =
      (c.toCall (offset + gap.length) :: (readCalls (offset + gap.length + c.width + 1) rest).1,
        (readCalls (offset + gap.length + c.width + 1) rest).2) := by
  have hstop : ∀ d ∈ text.head?, isGap d = false := by
    obtain ⟨-, rfl⟩ := call?_eq_some_iff.1 h
    rintro d ⟨⟩
    exact not_isGap_point
  rw [readCalls.eq_def]
  simp only [takeWhile_run hgap hstop]
  split
  · rename_i c' rest' h'
    rw [dropWhile_run hgap hstop, h] at h'
    cases h'
    rfl
  · rename_i h'
    rw [dropWhile_run hgap hstop, h] at h'
    cases h'

theorem readCalls_stop {text : List Char} (offset : ℕ)
    (h : call? (text.dropWhile isGap) = none) :
    readCalls offset text =
      ([], offset + (text.takeWhile isGap).length, text.dropWhile isGap) := by
  rw [readCalls.eq_def]
  split
  · rename_i h'
    rw [h] at h'
    cases h'
  · rfl

@[simp]
theorem readCalls_nil (offset : ℕ) : readCalls offset [] = ([], offset, []) :=
  readCalls_stop offset rfl

/-- No call begins in a gap. -/
theorem call?_eq_none_of_isGap {d : Char} {rest : List Char} (h : isGap d = true) :
    call? (d :: rest) = none := by
  cases hcall : call? (d :: rest) with
  | none => rfl
  | some found =>
      obtain ⟨c, tail⟩ := found
      obtain ⟨-, htext⟩ := call?_eq_some_iff.1 hcall
      cases htext
      rw [not_isGap_point] at h
      cases h

/-- A call that is found is still found with text behind it. -/
theorem call?_append {text rest : List Char} {c : RawCall} (more : List Char)
    (h : call? text = some (c, rest)) : call? (text ++ more) = some (c, rest ++ more) := by
  obtain ⟨hspelled, rfl⟩ := call?_eq_some_iff.1 h
  exact call?_eq_some_iff.2 ⟨hspelled, by simp⟩

/-- Where text behind makes a call out of none, no bracket closes before it. -/
theorem not_mem_of_call?_append {text more rest : List Char} {c : RawCall}
    (h : call? text = none) (hmore : call? (text ++ more) = some (c, rest)) : ')' ∉ text := by
  intro hmem
  obtain ⟨hspelled, htext⟩ := call?_eq_some_iff.1 hmore
  have hname : ')' ∉ c.name := hspelled.name.not_mem_bracket
  have hopen : ')' ∉ '.' :: (c.name ++ '(' :: c.argument) := by
    simp [hname, hspelled.argument]
  have hwhole : text ++ more = '.' :: (c.name ++ '(' :: c.argument) ++ ')' :: rest := by
    simp [htext, RawCall.spell]
  rcases List.append_eq_append_iff.1 hwhole with ⟨left, hleft, -⟩ | ⟨left, hleft, hrest⟩
  · exact hopen (hleft ▸ List.mem_append_left left hmem)
  · -- What the text has behind the argument begins with the closing bracket.
    cases left with
    | nil => exact hopen (by simpa [hleft] using hmem)
    | cons d tail =>
        obtain ⟨rfl, -⟩ := List.cons.inj hrest
        have hread := call?_eq_some_iff.2 ⟨hspelled, show text = '.' :: c.spell tail by
          simp [hleft, RawCall.spell]⟩
        rw [h] at hread
        cases hread

/-- The gap in front of a chain is passed over. -/
theorem findCalls_gap {gap : List Char} (hgap : ∀ d ∈ gap, isGap d = true) (offset : ℕ)
    (rest : List Char) :
    findCalls offset (gap ++ rest) = findCalls (offset + gap.length) rest := by
  induction gap generalizing offset with
  | nil => rfl
  | cons d gap ih =>
      rw [List.forall_mem_cons] at hgap
      rw [List.cons_append, findCalls_skip offset (call?_eq_none_of_isGap hgap.1), ih hgap.2,
        List.length_cons, Nat.add_right_comm, Nat.add_assoc]

/-- Without a closing bracket there are no calls. -/
theorem findCalls_eq_nil {text : List Char} (h : ')' ∉ text) (offset : ℕ) :
    findCalls offset text = [] := by
  induction text generalizing offset with
  | nil => exact findCalls_nil offset
  | cons d rest ih =>
      have hcall : call? (d :: rest) = none := by
        rw [Option.eq_none_iff_forall_not_mem]
        rintro ⟨c, tail⟩ hc
        obtain ⟨-, htext⟩ := call?_eq_some_iff.1 hc
        apply h
        simp [htext, RawCall.spell]
      rw [findCalls_skip offset hcall]
      exact ih (fun hmem => h (List.mem_cons_of_mem d hmem)) _

/-- What the strict reading takes is what the permissive reading finds first, and
at the same columns. -/
theorem findCalls_eq_readCalls_append (offset : ℕ) (text : List Char) :
    findCalls offset text = (readCalls offset text).1 ++
      findCalls (readCalls offset text).2.1 (readCalls offset text).2.2 := by
  induction offset, text using readCalls.induct with
  | case1 offset text start c rest hcall calls stop hread ih =>
      have hgap : ∀ d ∈ text.takeWhile isGap, isGap d = true := fun d hd =>
        List.mem_takeWhile_imp hd
      have hsplit := List.takeWhile_append_dropWhile (p := isGap) (l := text)
      rw [← hsplit, readCalls_of_call? offset hgap hcall, findCalls_gap hgap,
        findCalls_of_call? _ hcall, ih]
      rfl
  | case2 offset text hcall =>
      rw [readCalls_stop offset hcall, List.nil_append, ← findCalls_gap (fun d hd =>
        List.mem_takeWhile_imp hd), List.takeWhile_append_dropWhile]

/-- With text behind it, a text keeps the calls that it has and only gets more
of them. -/
theorem findCalls_prefix_append (offset : ℕ) (text more : List Char) :
    findCalls offset text <+: findCalls offset (text ++ more) := by
  induction offset, text using findCalls.induct with
  | case1 offset text c rest hcall ih =>
      rw [findCalls_of_call? offset hcall, findCalls_of_call? offset (call?_append more hcall)]
      exact (List.prefix_cons_inj _).2 ih
  | case2 offset hcall =>
      rw [findCalls_nil]
      exact List.nil_prefix
  | case3 offset d rest hcall ih =>
      cases hmore : call? (d :: (rest ++ more)) with
      | none =>
          rw [findCalls_skip offset hcall, List.cons_append, findCalls_skip offset hmore]
          exact ih
      | some found =>
          rw [findCalls_eq_nil (not_mem_of_call?_append hcall hmore)]
          exact List.nil_prefix

end FluentCalc.Scan
