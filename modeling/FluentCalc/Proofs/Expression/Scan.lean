/-
# What the scanner takes

Each function of the scanner is told by the texts that it accepts: a name is a
start character and word characters, taken to the last of them; an argument has
no closing bracket in it; a call is a point, a name and an argument between
brackets. Nothing is lost on the way, so a text that is accepted is what was
taken followed by what is left.

A call that was found stays found when text is put behind it, since it ends in
its own closing bracket. A call that is not complete has no closing bracket, so
no call can stand behind it.
-/

import FluentCalc.Expression.Parse
import FluentCalc.Proofs.Text.Run

namespace FluentCalc.Scan

open Text

/-- A word stops in front of a bracket. -/
theorem not_isWord_head_bracket (text : List Char) :
    ∀ c ∈ ('(' :: text).head?, isWord c = false := by
  rintro c ⟨⟩
  decide +kernel

theorem not_isGap_point : isGap '.' = false := by decide

/-- Names begin between `A` and `z`, and so with nothing of a class that has none of these
characters in it. -/
theorem not_contains_of_isNameStart {ranges : Ranges}
    (apart : ∀ interval ∈ ranges, interval.2 < 65 ∨ 122 < interval.1) {c : Char}
    (h : isNameStart c = true) : ranges.contains c = false := by
  have hrange : 65 ≤ c.toNat ∧ c.toNat ≤ 122 := by
    rcases Bool.or_eq_true_iff.1 h with h | h
    · rw [beq_iff_eq.1 h]
      decide
    · rcases Bool.or_eq_true_iff.1 h with h | h
      · obtain ⟨hlow, hhigh⟩ : 65 ≤ c.toNat ∧ c.toNat ≤ 90 := of_decide_eq_true h
        omega
      · obtain ⟨hlow, hhigh⟩ := Bool.and_eq_true_iff.1 h
        have hlow : 97 ≤ c.toNat := of_decide_eq_true hlow
        have hhigh : c.toNat ≤ 122 := of_decide_eq_true hhigh
        omega
  rw [Bool.eq_false_iff]
  intro hmem
  obtain ⟨interval, hinterval, hlow, hhigh⟩ := (Ranges.contains_iff _ _).1 hmem
  have := apart interval hinterval
  omega

/-- A name does not begin with a gap. -/
theorem not_isGap_of_isNameStart {c : Char} (h : isNameStart c = true) : isGap c = false :=
  not_contains_of_isNameStart (by decide) h

theorem not_isBlank_of_isNameStart {c : Char} (h : isNameStart c = true) : isBlank c = false :=
  not_contains_of_isNameStart (by decide) h

/-- What counts as a name. -/
def IsName : List Char → Prop
  | [] => False
  | c :: rest => isNameStart c = true ∧ ∀ d ∈ rest, isWord d = true

instance : DecidablePred IsName
  | [] => .isFalse id
  | c :: rest => decidable_of_iff ((isNameStart c && rest.all isWord) = true) (by simp [IsName])

/-- No bracket closes within a name. -/
theorem IsName.not_mem_bracket {name : List Char} (h : IsName name) : ')' ∉ name := by
  cases name with
  | nil => exact List.not_mem_nil
  | cons c rest =>
      intro hmem
      rcases List.mem_cons.1 hmem with rfl | hmem
      · exact absurd h.1 (by decide)
      · exact absurd (h.2 _ hmem) (by decide +kernel)

/-- A call that can be written down: its name is one, and no bracket closes
within its argument. -/
structure RawCall.IsSpelled (c : RawCall) : Prop where
  name : IsName c.name
  argument : ')' ∉ c.argument

/-- The text of a call without its point, and text behind it. -/
def RawCall.spell (c : RawCall) (rest : List Char) : List Char :=
  c.name ++ '(' :: (c.argument ++ ')' :: rest)

@[simp]
theorem RawCall.spell_append (c : RawCall) (rest more : List Char) :
    c.spell rest ++ more = c.spell (rest ++ more) := by
  simp [spell]

theorem name?_eq_some_iff {text name rest : List Char} :
    name? text = some (name, rest) ↔
      IsName name ∧ (∀ c ∈ rest.head?, isWord c = false) ∧ text = name ++ rest := by
  apply Iff.intro
  · intro h
    have hwhole := append_of_name? h
    cases text with
    | nil => simp [name?] at h
    | cons c tail =>
        simp only [name?] at h
        split at h
        · rename_i hstart
          simp only [Option.some.injEq, Prod.mk.injEq] at h
          obtain ⟨rfl, rfl⟩ := h
          refine ⟨⟨hstart, fun d hd => List.mem_takeWhile_imp hd⟩, fun d hd => ?_, hwhole⟩
          have hhead := List.head?_dropWhile_not isWord tail
          rw [Option.mem_def.1 hd] at hhead
          simpa using hhead
        · cases h
  · rintro ⟨hname, hstop, rfl⟩
    cases name with
    | nil => exact hname.elim
    | cons c run =>
        obtain ⟨hstart, hrun⟩ := hname
        rw [List.cons_append, name?, if_pos hstart, takeWhile_run hrun hstop,
          dropWhile_run hrun hstop]

theorem argument?_eq_some_iff {text argument rest : List Char} :
    argument? text = some (argument, rest) ↔
      ')' ∉ argument ∧ text = argument ++ ')' :: rest := by
  apply Iff.intro
  · intro h
    refine ⟨fun hmem => ?_, append_of_argument? h⟩
    simp only [argument?] at h
    split at h
    · cases h
    · simp only [Option.some.injEq, Prod.mk.injEq] at h
      obtain ⟨rfl, -⟩ := h
      have := List.mem_takeWhile_imp hmem
      simp at this
  · rintro ⟨hargument, rfl⟩
    have hrun : ∀ c ∈ argument, (c != ')') = true := by
      intro c hc
      rw [bne_iff_ne]
      rintro rfl
      exact hargument hc
    have hstop : ∀ c ∈ (')' :: rest).head?, (c != ')') = false := by
      rintro c ⟨⟩
      rfl
    rw [argument?, dropWhile_run hrun hstop, takeWhile_run hrun hstop]

/-- An invocation is read from a text exactly when it is spelled at its front. -/
theorem invocation?_eq_some_iff {text rest : List Char} {c : RawCall} :
    invocation? text = some (c, rest) ↔ c.IsSpelled ∧ text = c.spell rest := by
  apply Iff.intro
  · intro h
    simp only [invocation?] at h
    split at h
    · rename_i name tail hname
      obtain ⟨⟨argument, rest'⟩, hargument, heq⟩ := Option.map_eq_some_iff.1 h
      simp only [Prod.mk.injEq] at heq
      obtain ⟨rfl, rfl⟩ := heq
      obtain ⟨hisName, -, rfl⟩ := name?_eq_some_iff.1 hname
      obtain ⟨hclosed, rfl⟩ := argument?_eq_some_iff.1 hargument
      exact ⟨⟨hisName, hclosed⟩, rfl⟩
    · cases h
  · rintro ⟨⟨hname, hargument⟩, rfl⟩
    have hread := name?_eq_some_iff.2
      ⟨hname, not_isWord_head_bracket (c.argument ++ ')' :: rest), rfl⟩
    rw [invocation?, RawCall.spell, hread]
    simp [argument?_eq_some_iff.2 ⟨hargument, rfl⟩]

/-- A call is read from a text exactly when it is spelled at its front, behind a
point. -/
theorem call?_eq_some_iff {text rest : List Char} {c : RawCall} :
    call? text = some (c, rest) ↔ c.IsSpelled ∧ text = '.' :: c.spell rest := by
  apply Iff.intro
  · intro h
    cases text with
    | nil => simp [call?] at h
    | cons d tail =>
        simp only [call?] at h
        split at h
        · rename_i heq
          cases heq
          obtain ⟨hspelled, rfl⟩ := invocation?_eq_some_iff.1 h
          exact ⟨hspelled, rfl⟩
        · cases h
  · rintro ⟨hspelled, rfl⟩
    exact invocation?_eq_some_iff.2 ⟨hspelled, rfl⟩

/-- A call begins with the first character of a name. -/
theorem RawCall.IsSpelled.isNameStart_head {c : RawCall} (h : c.IsSpelled) (rest : List Char) :
    ∀ d ∈ (c.spell rest).head?, isNameStart d = true := by
  intro d hd
  have hname := h.name
  cases heq : c.name with
  | nil => exact (heq ▸ hname).elim
  | cons first tail =>
      rw [heq] at hname
      obtain rfl : first = d := by simpa [RawCall.spell, heq] using hd
      exact hname.1

/-- A call does not begin with a gap. -/
theorem RawCall.IsSpelled.not_isGap_head {c : RawCall} (h : c.IsSpelled) (rest : List Char) :
    ∀ d ∈ (c.spell rest).head?, isGap d = false :=
  fun d hd => not_isGap_of_isNameStart (h.isNameStart_head rest d hd)

/-- A constructor call is read from a text exactly when it is spelled at its
front behind a gap. The offsets count the gap. -/
theorem seed_eq_ok_iff {text : List Char} {found : RawSeed} :
    seed text = .ok found ↔ ∃ gap : List Char, (∀ c ∈ gap, isGap c = true) ∧
      found.invocation.IsSpelled ∧ text = gap ++ found.invocation.spell found.rest ∧
      found.argumentOffset = gap.length + found.invocation.name.length + 1 ∧
      found.restOffset = gap.length + found.invocation.width := by
  apply Iff.intro
  · intro h
    have hsplit := List.takeWhile_append_dropWhile (p := isGap) (l := text)
    refine ⟨text.takeWhile isGap, fun c hc => List.mem_takeWhile_imp hc, ?_⟩
    simp only [seed] at h
    split at h
    · cases h
    · rename_i name inside hname
      split at h
      · cases h
      · rename_i argument rest hargument
        cases h
        have hinvocation : invocation? (text.dropWhile isGap) = some (⟨name, argument⟩, rest) := by
          simp [invocation?, hname, hargument]
        obtain ⟨hspelled, hbody⟩ := invocation?_eq_some_iff.1 hinvocation
        rw [hbody] at hsplit
        exact ⟨hspelled, hsplit.symm, rfl, rfl⟩
    · cases h
  · rintro ⟨gap, hgap, hspelled, rfl, hargument, hrest⟩
    have hstop := hspelled.not_isGap_head found.rest
    have hname := name?_eq_some_iff.2 ⟨hspelled.name,
      not_isWord_head_bracket (found.invocation.argument ++ ')' :: found.rest), rfl⟩
    have hread : argument? (found.invocation.argument ++ ')' :: found.rest) =
        some (found.invocation.argument, found.rest) :=
      argument?_eq_some_iff.2 ⟨hspelled.argument, rfl⟩
    simp only [seed, takeWhile_run hgap hstop, dropWhile_run hgap hstop]
    rw [RawCall.spell, hname]
    simp only [hread, ← hargument, ← hrest]

/-- A constructor call stays where it is when text is put behind it. -/
theorem seed_append {text : List Char} {found : RawSeed} (h : seed text = .ok found)
    (more : List Char) : seed (text ++ more) = .ok { found with rest := found.rest ++ more } := by
  obtain ⟨gap, hgap, hspelled, rfl, hargument, hrest⟩ := seed_eq_ok_iff.1 h
  exact seed_eq_ok_iff.2 ⟨gap, hgap, hspelled, by simp, hargument, hrest⟩

end FluentCalc.Scan
