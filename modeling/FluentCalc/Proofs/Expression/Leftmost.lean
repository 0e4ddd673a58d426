/-
# Calls at their places

What the permissive reading finds is told here by places in the source, without
the scanner: a call stands at a place if a point, a name and an argument between
brackets are spelled there. The calls of a source are those at its leftmost places.
Each stands at the first place behind the one before where a call stands at all,
and no call stands behind the last. Every source has exactly one such list of calls
from any place on, and the scanner finds it.

So a source is read exactly if it opens with a constructor call whose argument is
a number, and all faults point into the source or right behind its end.
-/

import FluentCalc.Proofs.Expression.Modes

namespace FluentCalc

open Text

namespace Scan

/-- A call is spelled in a source with its point at a place. -/
structure StandsAt (source : List Char) (place : ℕ) (c : RawCall) : Prop where
  spelled : c.IsSpelled
  text : ∃ rest, source.drop place = '.' :: c.spell rest

/-- What is made of the call that stands at a place: its name, its argument without
the blank characters around it or null if nothing else is in it, and the column of its
point. -/
structure Describes (place : ℕ) (raw : RawCall) (c : Call) : Prop where
  name : c.name = String.ofList raw.name
  argument : c.argument = if strip raw.argument = [] then .null
    else .text (String.ofList (strip raw.argument))
  column : c.column = some (place + 1 : ℕ)

/-- The calls of a source from a place on, each at the first place where a call
stands. -/
inductive Leftmost (source : List Char) : ℕ → List Call → Prop
  /-- No call stands anywhere behind. -/
  | none {start : ℕ} (h : ∀ place raw, start ≤ place → ¬ StandsAt source place raw) :
      Leftmost source start []
  /-- A call stands at a place, none in front of it, and the others come behind its
  closing bracket. -/
  | next {start place : ℕ} {raw : RawCall} {c : Call} {calls : List Call}
      (hstart : start ≤ place) (hstands : StandsAt source place raw)
      (hfirst : ∀ earlier other, start ≤ earlier → earlier < place →
        ¬ StandsAt source earlier other)
      (hdescribes : Describes place raw c)
      (hrest : Leftmost source (place + raw.width + 1) calls) : Leftmost source start (c :: calls)

/-- What is behind a call that is spelled. -/
theorem RawCall.drop_width_spell (c : RawCall) (rest : List Char) :
    (c.spell rest).drop c.width = rest := by
  have hlength : c.width = (c.name ++ '(' :: (c.argument ++ [')'])).length := by
    simp [width, Nat.add_assoc]
  have hspell : c.spell rest = c.name ++ '(' :: (c.argument ++ [')']) ++ rest := by
    simp [spell]
  rw [hspell, hlength, List.drop_left]

theorem standsAt_iff {source : List Char} {place : ℕ} {c : RawCall} :
    StandsAt source place c ↔ ∃ rest, call? (source.drop place) = some (c, rest) := by
  apply Iff.intro
  · intro h
    obtain ⟨rest, htext⟩ := h.text
    exact ⟨rest, call?_eq_some_iff.2 ⟨h.spelled, htext⟩⟩
  · intro h
    obtain ⟨rest, hcall⟩ := h
    obtain ⟨hspelled, htext⟩ := call?_eq_some_iff.1 hcall
    exact ⟨hspelled, rest, htext⟩

/-- At most one call stands at a place. -/
theorem StandsAt.unique {source : List Char} {place : ℕ} {c d : RawCall}
    (hc : StandsAt source place c) (hd : StandsAt source place d) : c = d := by
  obtain ⟨rest, hcall⟩ := standsAt_iff.1 hc
  obtain ⟨rest', hcall'⟩ := standsAt_iff.1 hd
  rw [hcall, Option.some.injEq, Prod.mk.injEq] at hcall'
  exact hcall'.1

theorem Describes.unique {place : ℕ} {raw : RawCall} {c d : Call} (hc : Describes place raw c)
    (hd : Describes place raw d) : c = d := by
  cases c
  cases d
  rw [Call.mk.injEq]
  exact ⟨hc.name.trans hd.name.symm, hc.argument.trans hd.argument.symm,
    hc.column.trans hd.column.symm⟩

theorem describes_toCall (place : ℕ) (raw : RawCall) :
    Describes place raw (raw.toCall place) := by
  refine ⟨rfl, ?_, rfl⟩
  cases hstrip : strip raw.argument <;> simp [RawCall.toCall, hstrip]

namespace Leftmost

variable {source : List Char} {start : ℕ} {calls : List Call}

/-- A place where no call stands can be put in front. -/
theorem skip (h : Leftmost source (start + 1) calls) (hnone : ∀ c, ¬ StandsAt source start c) :
    Leftmost source start calls := by
  have hcases {place : ℕ} (hplace : start ≤ place) : place = start ∨ start + 1 ≤ place := by
    omega
  cases h with
  | none hempty =>
      apply none
      intro place c hplace
      rcases hcases hplace with rfl | hbehind
      · exact hnone c
      · exact hempty place c hbehind
  | next hstart hstands hfirst hdescribes hrest =>
      apply next (by omega) hstands _ hdescribes hrest
      intro earlier other hfrom hbefore
      rcases hcases hfrom with rfl | hbehind
      · exact hnone other
      · exact hfirst earlier other hbehind hbefore

/-- There is only one list of leftmost calls. -/
theorem unique (h : Leftmost source start calls) {others : List Call}
    (hothers : Leftmost source start others) : calls = others := by
  induction h generalizing others with
  | none hempty =>
      cases hothers with
      | none _ => rfl
      | next hstart hstands _ _ _ => exact absurd hstands (hempty _ _ hstart)
  | @next start place raw c calls hstart hstands hfirst hdescribes _ ih =>
      cases hothers with
      | none hempty => exact absurd hstands (hempty _ _ hstart)
      | @next _ place' _ c' _ hstart' hstands' hfirst' hdescribes' hrest' =>
          -- The first place of one list is not in front of the first place of the other.
          have hnotBefore : ¬ place < place' := fun hlt => hfirst' _ _ hstart hlt hstands
          have hnotBehind : ¬ place' < place := fun hlt => hfirst _ _ hstart' hlt hstands'
          obtain rfl : place = place' := by omega
          obtain rfl := hstands.unique hstands'
          rw [hdescribes.unique hdescribes', ih hrest']

end Leftmost

/-- **The scanner finds the leftmost calls.** -/
theorem leftmost_findCalls (source : List Char) (start : ℕ) :
    Leftmost source start (findCalls start (source.drop start)) := by
  have hscan (text : List Char) (htext : source.drop start = text) :
      Leftmost source start (findCalls start text) := by
    induction start, text using findCalls.induct with
    | case1 start text c rest hcall ih =>
        rw [findCalls_of_call? start hcall]
        obtain ⟨hspelled, hspell⟩ := call?_eq_some_iff.1 hcall
        have hrest : source.drop (start + c.width + 1) = rest := by
          rw [Nat.add_assoc, ← List.drop_drop, htext, hspell, List.drop_succ_cons,
            c.drop_width_spell]
        have hnone : ∀ earlier other, start ≤ earlier → earlier < start →
            ¬ StandsAt source earlier other := by
          intro earlier other hfrom hbefore
          omega
        exact .next le_rfl ⟨hspelled, rest, htext.trans hspell⟩ hnone (describes_toCall start c)
          (ih hrest)
    | case2 start hcall =>
        rw [findCalls_nil]
        apply Leftmost.none
        intro place c hplace hstands
        have hend : source.length ≤ place := (List.drop_eq_nil_iff.1 htext).trans hplace
        obtain ⟨rest, hspell⟩ := hstands.text
        rw [List.drop_eq_nil_of_le hend] at hspell
        cases hspell
    | case3 start d rest hcall ih =>
        rw [findCalls_skip start hcall]
        have hrest : source.drop (start + 1) = rest := by
          rw [← List.drop_drop, htext]
          rfl
        apply (ih hrest).skip
        intro c hstands
        obtain ⟨tail, hread⟩ := standsAt_iff.1 hstands
        rw [htext, hcall] at hread
        cases hread
  exact hscan _ rfl

/-- A source opens with a constructor call behind a gap. -/
structure Opens (source gap : List Char) (head : RawCall) (rest : List Char) : Prop where
  isGap : ∀ c ∈ gap, isGap c = true
  spelled : head.IsSpelled
  text : source = gap ++ head.spell rest

/-- The seed is taken from the constructor call that the source opens with. -/
theorem Opens.seed_eq {source gap rest : List Char} {head : RawCall}
    (h : Opens source gap head rest) :
    seed source = .ok ⟨head, gap.length + head.name.length + 1, gap.length + head.width, rest⟩ :=
  seed_eq_ok_iff.2 ⟨gap, h.isGap, h.spelled, h.text, rfl, rfl⟩

theorem exists_opens_of_seed {source : List Char} {found : RawSeed} (h : seed source = .ok found) :
    ∃ gap, Opens source gap found.invocation found.rest := by
  obtain ⟨gap, hgap, hspelled, htext, -, -⟩ := seed_eq_ok_iff.1 h
  exact ⟨gap, hgap, hspelled, htext⟩

/-- What is behind the constructor call begins at the end of it. -/
theorem Opens.drop_eq {source gap rest : List Char} {head : RawCall}
    (h : Opens source gap head rest) : source.drop (gap.length + head.width) = rest := by
  rw [h.text, ← List.drop_drop, List.drop_left, head.drop_width_spell]

/-- Where the seed fails is in the source or at its end. -/
theorem seed_error_le {source : List Char} {stop : ℕ} (h : seed source = .error stop) :
    stop ≤ source.length := by
  have hsplit := List.takeWhile_append_dropWhile (p := isGap) (l := source)
  have hlength := congrArg List.length hsplit
  rw [List.length_append] at hlength
  simp only [seed] at h
  split at h
  · cases h
    omega
  · split at h
    · cases h
      exact le_rfl
    · cases h
  · rename_i name rest _ hname
    have hbody := congrArg List.length (append_of_name? hname)
    rw [List.length_append] at hbody
    cases h
    omega

end Scan

namespace Expression

open Scan

/-- A fault of the permissive reading is one of the seed, and points at a character or
right behind the last. -/
theorem column_of_ofCharsPermissive {source : List Char} {fault : ParseFault}
    (h : ofCharsPermissive source = .error fault) :
    1 ≤ fault.column ∧ fault.column ≤ source.length + 1 := by
  rw [ofCharsPermissive, Scan.permissive] at h
  cases hseed : Scan.seed source with
  | error stop =>
      rw [hseed] at h
      cases h
      have hle := seed_error_le hseed
      exact ⟨Nat.succ_pos stop, Nat.succ_le_succ hle⟩
  | ok found =>
      obtain ⟨gap, -, -, htext, hoffset, -⟩ := seed_eq_ok_iff.1 hseed
      have hlength : found.argumentOffset + 1 ≤ source.length + 1 := by
        rw [hoffset, htext, RawCall.spell]
        simp only [List.length_append, List.length_cons]
        omega
      simp only [hseed, build] at h
      split at h
      · cases h
        exact ⟨Nat.succ_pos _, hlength⟩
      · cases h

/-- A source is read exactly if it opens with a constructor call that holds a number. -/
theorem exists_parse_iff (source : String) :
    (∃ e, parse false source = .ok e) ↔ ∃ gap head rest x,
      Opens source.toList gap head rest ∧ number? head.argument = .ok x := by
  apply Iff.intro
  · intro h
    obtain ⟨e, hparse⟩ := h
    obtain ⟨found, hseed, hnumber, -, -⟩ := ofCharsPermissive_eq_ok_iff.1 hparse
    obtain ⟨gap, hopens⟩ := exists_opens_of_seed hseed
    exact ⟨gap, found.invocation, found.rest, e.seed, hopens, hnumber⟩
  · intro h
    obtain ⟨gap, head, rest, x, hopens, hnumber⟩ := h
    exact ⟨⟨String.ofList head.name, x, _⟩,
      ofCharsPermissive_eq_ok_iff.2 ⟨_, hopens.seed_eq, hnumber, rfl, rfl⟩⟩

/-- **The permissive reading finds exactly the calls.** A source is read exactly if it
opens with a constructor call that holds a number. The expression then has the name and
the number of that call, and its calls are the leftmost ones behind it. All other sources
have a fault of the seed, which points at one of their characters or right behind the
last. -/
theorem parse_leftmost (source : String) :
    ((∃ e, parse false source = .ok e) ↔ ∃ gap head rest x,
      Opens source.toList gap head rest ∧ number? head.argument = .ok x) ∧
    (∀ e gap head rest, parse false source = .ok e → Opens source.toList gap head rest →
      e.constructor = String.ofList head.name ∧ number? head.argument = .ok e.seed ∧
      ∀ calls, Leftmost source.toList (gap.length + head.width) calls ↔ calls = e.calls) ∧
    ∀ fault, parse false source = .error fault →
      fault.kind = "missing-or-invalid-seed" ∧ 1 ≤ fault.column ∧
        fault.column ≤ source.length + 1 := by
  refine ⟨exists_parse_iff source, ?_, ?_⟩
  · intro e gap head rest hparse hopens
    obtain ⟨found, hseed, hnumber, hconstructor, hcalls⟩ := ofCharsPermissive_eq_ok_iff.1 hparse
    cases hseed.symm.trans hopens.seed_eq
    refine ⟨hconstructor, hnumber, ?_⟩
    intro calls
    have hfound : Leftmost source.toList (gap.length + head.width) e.calls := by
      rw [hcalls, ← hopens.drop_eq]
      exact leftmost_findCalls _ _
    apply Iff.intro
    · intro hleftmost
      exact hleftmost.unique hfound
    · intro heq
      exact heq ▸ hfound
  · intro fault hfault
    have hcolumn := column_of_ofCharsPermissive hfault
    rw [String.length_toList] at hcolumn
    exact ⟨kind_of_ofCharsPermissive hfault, hcolumn⟩

/-- An argument that is not closed swallows the call behind it, stray text is passed over,
and a blank argument is none. -/
theorem parse_leftmost_of_swallowed_call :
    ∃ e, parse false "Calculator(0).Add(.Square()!.Add( )" = .ok e ∧
      e.calls = [⟨"Add", .text ".Square(", some 14⟩, ⟨"Add", .null, some 29⟩] ∧
      ∀ calls, Leftmost "Calculator(0).Add(.Square()!.Add( )".toList 13 calls ↔
        calls = e.calls := by
  have hopens : Opens "Calculator(0).Add(.Square()!.Add( )".toList []
      ⟨"Calculator".toList, "0".toList⟩ ".Add(.Square()!.Add( )".toList :=
    ⟨List.forall_mem_nil _, ⟨by decide +kernel, by decide⟩, rfl⟩
  have hnumber : number? "0".toList = .ok .zero := by decide +kernel
  obtain ⟨hread, htell, -⟩ := parse_leftmost "Calculator(0).Add(.Square()!.Add( )"
  obtain ⟨e, hparse⟩ := hread.2 ⟨_, _, _, _, hopens, hnumber⟩
  obtain ⟨-, -, hcalls⟩ := htell e _ _ _ hparse hopens
  have hswallowed : call? ".Add(.Square()!.Add( )".toList =
      some (⟨"Add".toList, ".Square(".toList⟩, '!' :: ".Add( )".toList) := by
    decide +kernel
  have hblank : call? ".Add( )".toList = some (⟨"Add".toList, " ".toList⟩, []) := by
    decide +kernel
  have hfound : findCalls 13 ".Add(.Square()!.Add( )".toList =
      [⟨"Add", .text ".Square(", some 14⟩, ⟨"Add", .null, some 29⟩] := by
    have hstray : call? ('!' :: ".Add( )".toList) = none := rfl
    rw [findCalls_of_call? 13 hswallowed, findCalls_skip _ hstray, findCalls_of_call? _ hblank,
      findCalls_nil]
    rfl
  have hleftmost := leftmost_findCalls "Calculator(0).Add(.Square()!.Add( )".toList 13
  have heq := (hcalls _).1 hleftmost
  exact ⟨e, hparse, heq.symm.trans hfound, hcalls⟩

end Expression

end FluentCalc
