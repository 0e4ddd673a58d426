/-
# Canonical texts

A parsed expression is printed without gaps, with its seed as the calculator
writes it and with trimmed arguments. Such a text is the same chain of calls to
both readings: each call closes with its own bracket and the point of the next
one stands right behind. So an expression that was read from some text is read
again from its canonical text, only the columns and the sign of a zero are new,
and the canonical texts of two expressions tell whether they are the same.
-/

import FluentCalc.Proofs.Decimal.RoundTrip
import FluentCalc.Proofs.Expression.Modes
import FluentCalc.Run.Printer

namespace FluentCalc

open Text

namespace Scan

/-- Calls one after the other, each behind its point. -/
def chain : List RawCall → List Char
  | [] => []
  | c :: rest => '.' :: c.spell (chain rest)

/-- The calls of a chain that begins at an offset. -/
def placed (offset : ℕ) : List RawCall → List Call
  | [] => []
  | c :: rest => c.toCall offset :: placed (offset + c.width + 1) rest

/-- The first call of a chain is read off its front. -/
theorem call?_chain {c : RawCall} (h : c.IsSpelled) (rest : List RawCall) :
    call? (chain (c :: rest)) = some (c, chain rest) :=
  call?_eq_some_iff.2 ⟨h, rfl⟩

/-- The strict reading takes the calls of a chain and leaves nothing behind. -/
theorem readCalls_chain {calls : List RawCall} (h : ∀ c ∈ calls, c.IsSpelled) (offset : ℕ) :
    ∃ stop, readCalls offset (chain calls) = (placed offset calls, stop, []) := by
  induction calls generalizing offset with
  | nil => exact ⟨offset, readCalls_nil offset⟩
  | cons c rest ih =>
      rw [List.forall_mem_cons] at h
      obtain ⟨stop, hread⟩ := ih h.2 (offset + c.width + 1)
      have hcall := readCalls_of_call? offset (List.forall_mem_nil _) (call?_chain h.1 rest)
      refine ⟨stop, hcall.trans ?_⟩
      simp only [List.length_nil, Nat.add_zero, hread]
      rfl

/-- A call with its argument trimmed. -/
def RawCall.trimmed (c : RawCall) : RawCall :=
  ⟨c.name, strip c.argument⟩

theorem RawCall.IsSpelled.trimmed {c : RawCall} (h : c.IsSpelled) : c.trimmed.IsSpelled :=
  ⟨h.name, fun hmem => h.argument (mem_of_mem_strip hmem)⟩

/-- Trimming changes nothing for a call. -/
@[simp]
theorem RawCall.toCall_trimmed (c : RawCall) (offset : ℕ) :
    c.trimmed.toCall offset = c.toCall offset := by
  simp [toCall, RawCall.trimmed, strip_strip]

/-- A call is printed with its trimmed argument. -/
theorem RawCall.toList_callText_toCall (c : RawCall) (offset : ℕ) :
    (Value.callText (c.toCall offset).name (c.toCall offset).argument).toList =
      c.trimmed.spell [] := by
  cases harg : strip c.argument with
  | nil => simp [Value.callText, toCall, harg, Value.isPresent, spell, RawCall.trimmed]
  | cons d tail =>
      simp [Value.callText, toCall, harg, Value.isPresent, Value.display, spell, RawCall.trimmed]

end Scan

open Scan

namespace Call

/-- A call that stands in some text. -/
def IsWritten (c : Call) : Prop :=
  ∃ (raw : RawCall) (offset : ℕ), raw.IsSpelled ∧ c = raw.toCall offset

/-- What a call says, wherever it stands. -/
def unplaced (c : Call) : Call :=
  { c with column := none }

theorem same_iff_unplaced {a b : Call} (ha : a.IsWritten) (hb : b.IsWritten) :
    a.same b = true ↔ a.unplaced = b.unplaced := by
  obtain ⟨raw, offset, -, rfl⟩ := ha
  obtain ⟨raw', offset', -, rfl⟩ := hb
  simp only [same, unplaced, RawCall.toCall, Bool.and_eq_true, beq_iff_eq, mk.injEq, and_true]
  apply and_congr_right
  intro _
  -- Keys are compared by their kinds first, and an argument is null or a text.
  split <;> split
  · exact iff_of_true rfl rfl
  · exact iff_of_false Bool.false_ne_true fun h => by cases h
  · exact iff_of_false Bool.false_ne_true fun h => by cases h
  · rw [Value.text.injEq]
    exact beq_iff_eq

end Call

/-- All calls that are found in a text stand in it. -/
theorem Scan.isWritten_of_mem_findCalls {offset : ℕ} {text : List Char} :
    ∀ c ∈ findCalls offset text, c.IsWritten := by
  induction offset, text using findCalls.induct with
  | case1 offset text raw rest hcall ih =>
      rw [findCalls_of_call? offset hcall, List.forall_mem_cons]
      exact ⟨⟨raw, offset, (call?_eq_some_iff.1 hcall).1, rfl⟩, ih⟩
  | case2 offset hcall =>
      rw [findCalls_nil]
      exact List.forall_mem_nil _
  | case3 offset d rest hcall ih =>
      rw [findCalls_skip offset hcall]
      exact ih

theorem isFinite_of_number? {text : List Char} {x : Double} (h : number? text = .ok x) :
    x.isFinite = true := by
  simp only [number?] at h
  split at h
  · cases h
  · split at h
    · cases h
      assumption
    · cases h

namespace Expression

/-- An expression that stands in some text: its constructor is a name, its seed
is finite, and its calls stand in the text, too. -/
structure IsWritten (e : Expression) : Prop where
  constructor : IsName e.constructor.toList
  seed : e.seed.isFinite = true
  calls : ∀ c ∈ e.calls, c.IsWritten

/-- What an expression says, wherever its calls stand. -/
def content (e : Expression) : Expression :=
  ⟨e.constructor, e.seed.unsignedZero, e.calls.map Call.unplaced⟩

theorem sameCalls_iff_unplaced {a b : List Call} (ha : ∀ c ∈ a, c.IsWritten)
    (hb : ∀ c ∈ b, c.IsWritten) :
    sameCalls a b = true ↔ a.map Call.unplaced = b.map Call.unplaced := by
  induction a generalizing b with
  | nil => cases b <;> simp [sameCalls]
  | cons c rest ih =>
      cases b with
      | nil => simp [sameCalls]
      | cons d tail =>
          rw [List.forall_mem_cons] at ha hb
          rw [sameCalls, Bool.and_eq_true, Call.same_iff_unplaced ha.1 hb.1, ih ha.2 hb.2,
            List.map_cons, List.map_cons, List.cons.injEq]

/-- Expressions are the same when they say the same. -/
theorem same_iff_content {a b : Expression} (ha : a.IsWritten) (hb : b.IsWritten) :
    a.same b = true ↔ a.content = b.content := by
  simp only [same, content, Bool.and_eq_true, beq_iff_eq, mk.injEq,
    Double.same_iff_unsignedZero ha.seed hb.seed, sameCalls_iff_unplaced ha.calls hb.calls]
  tauto

theorem renderCalls_map_toValue (calls : List Call) :
    Value.renderCalls standardIndent 0 (calls.map Call.toValue) =
      calls.map fun c => "." ++ Value.callText c.name c.argument := by
  induction calls with
  | nil => rfl
  | cons c rest ih => exact congrArg (("." ++ Value.callText c.name c.argument) :: ·) ih

/-- The printed calls of an expression. -/
theorem toList_intercalate_renderCalls (calls : List Call) :
    ("".intercalate (Value.renderCalls standardIndent 0 (calls.map Call.toValue))).toList =
      calls.flatMap fun c => '.' :: (Value.callText c.name c.argument).toList := by
  rw [renderCalls_map_toValue, String.toList_intercalate]
  induction calls with
  | nil => rfl
  | cons c rest ih =>
      rw [List.flatMap_cons, ← ih]
      cases rest <;> simp [List.intercalate]

/-- The parts of a canonical text. -/
theorem toList_text (e : Expression) :
    e.text.toList = e.constructor.toList ++ '(' :: ((plainNumber e.seed).toList ++
      ')' :: e.calls.flatMap fun c => '.' :: (Value.callText c.name c.argument).toList) := by
  have htext : e.text = e.constructor ++ "(" ++ plainNumber e.seed ++ ")" ++
      "".intercalate (Value.renderCalls standardIndent 0 (e.calls.map Call.toValue)) := rfl
  simp only [htext, String.toList_append, toList_intercalate_renderCalls]
  simp

/-- A canonical text shows what the expression says and nothing else. -/
theorem text_content (e : Expression) : e.content.text = e.text := by
  rw [← String.toList_inj, toList_text, toList_text]
  simp only [content, plainNumber_unsignedZero, List.flatMap_map, Call.unplaced]

/-- The calls of an expression that was read are printed as a chain of calls that
say the same. -/
theorem exists_chain {calls : List Call} (h : ∀ c ∈ calls, c.IsWritten) :
    ∃ raws : List RawCall, (∀ c ∈ raws, c.IsSpelled) ∧
      (calls.flatMap fun c => '.' :: (Value.callText c.name c.argument).toList) = chain raws ∧
      ∀ offset, (placed offset raws).map Call.unplaced = calls.map Call.unplaced := by
  induction calls with
  | nil => exact ⟨[], List.forall_mem_nil _, rfl, fun _ => rfl⟩
  | cons c rest ih =>
      rw [List.forall_mem_cons] at h
      obtain ⟨⟨raw, place, hspelled, rfl⟩, hrest⟩ := h
      obtain ⟨raws, hraws, hchain, hplaced⟩ := ih hrest
      refine ⟨raw.trimmed :: raws, List.forall_mem_cons.2 ⟨hspelled.trimmed, hraws⟩, ?_, ?_⟩
      · rw [List.flatMap_cons, hchain, raw.toList_callText_toCall, List.cons_append,
          RawCall.spell_append, List.nil_append, chain]
      · intro offset
        rw [placed, List.map_cons, List.map_cons, hplaced, RawCall.toCall_trimmed]
        rfl

/-- What was read can be written. -/
theorem isWritten_of_parse {strict : Bool} {source : String} {e : Expression}
    (h : parse strict source = .ok e) : e.IsWritten := by
  have hpermissive : ofCharsPermissive source.toList = .ok e := by
    cases strict with
    | false => exact h
    | true => exact ofCharsPermissive_of_ofCharsStrict h
  obtain ⟨found, hseed, hnumber, hconstructor, hcalls⟩ :=
    ofCharsPermissive_eq_ok_iff.1 hpermissive
  obtain ⟨gap, -, hspelled, -⟩ := seed_eq_ok_iff.1 hseed
  refine ⟨?_, isFinite_of_number? hnumber, ?_⟩
  · simpa [hconstructor] using hspelled.name
  · rw [hcalls]
    exact isWritten_of_mem_findCalls

/-- The canonical text of an expression that was read is read by both readings,
as an expression that says the same. -/
theorem IsWritten.parse_text {e : Expression} (h : e.IsWritten) (strict : Bool) :
    ∃ e', parse strict e.text = .ok e' ∧ e'.content = e.content := by
  obtain ⟨raws, hraws, hchain, hplaced⟩ := exists_chain h.calls
  let invocation : RawCall := ⟨e.constructor.toList, (plainNumber e.seed).toList⟩
  have hspelled : invocation.IsSpelled :=
    ⟨h.constructor, fun hmem => (plainNumber_chars h.seed _ hmem).2 rfl⟩
  let found : RawSeed :=
    ⟨invocation, invocation.name.length + 1, invocation.width, chain raws⟩
  let reading : Reading := ⟨found, placed found.restOffset raws⟩
  have hseed : Scan.seed e.text.toList = .ok found := by
    refine seed_eq_ok_iff.2 ⟨[], List.forall_mem_nil _, hspelled, ?_, ?_, ?_⟩
    · rw [toList_text, hchain]
      rfl
    · simp [found]
    · simp [found]
  have hstrict : Scan.strict e.text.toList = .ok reading := by
    obtain ⟨stop, hread⟩ := readCalls_chain hraws found.restOffset
    simp only [Scan.strict, hseed]
    rw [show found.rest = chain raws from rfl, hread]
  have hbuild : build reading = .ok ⟨e.constructor, e.seed.unsignedZero, reading.calls⟩ :=
    build_eq_ok_iff.2 ⟨number?_plainNumber h.seed, String.ofList_toList.symm, rfl⟩
  refine ⟨⟨e.constructor, e.seed.unsignedZero, reading.calls⟩, ?_, ?_⟩
  · cases strict with
    | false =>
        rw [parse_false]
        simp only [ofCharsPermissive, permissive_of_strict hstrict, hbuild]
    | true =>
        rw [parse_true]
        simp only [ofCharsStrict, hstrict, hbuild]
  · simp only [content, Double.unsignedZero_unsignedZero, mk.injEq, true_and]
    exact hplaced _

/-- Expressions that were read are the same when their canonical texts are. -/
theorem same_iff_text {a b : Expression} (ha : a.IsWritten) (hb : b.IsWritten) :
    a.same b = true ↔ a.text = b.text := by
  rw [same_iff_content ha hb]
  apply Iff.intro
  · intro hcontent
    rw [← text_content a, hcontent, text_content]
  · intro htext
    obtain ⟨a', hreadA, hcontentA⟩ := ha.parse_text false
    obtain ⟨b', hreadB, hcontentB⟩ := hb.parse_text false
    have heq : a' = b' := Except.ok.inj (hreadA.symm.trans (htext ▸ hreadB))
    rw [← hcontentA, heq, hcontentB]

/-- **Canonical texts.** An expression that was read from a text is read again
from its canonical text by both readings, as the same expression with the same
canonical text; and expressions that were read are the same exactly when their
canonical texts are. -/
theorem canonical_text {strict : Bool} {source : String} {e : Expression}
    (h : parse strict source = .ok e) :
    (∀ strict', ∃ e', parse strict' e.text = .ok e' ∧ e'.same e = true ∧ e'.text = e.text) ∧
      ∀ (strict' : Bool) (source' : String) (e' : Expression), parse strict' source' = .ok e' →
        (e.same e' = true ↔ e.text = e'.text) := by
  have hwritten := isWritten_of_parse h
  refine ⟨fun strict' => ?_, fun strict' source' e' hread =>
    same_iff_text hwritten (isWritten_of_parse hread)⟩
  obtain ⟨e', hread, hcontent⟩ := hwritten.parse_text strict'
  have htext : e'.text = e.text := by
    rw [← text_content e', hcontent, text_content]
  exact ⟨e', hread, (same_iff_content (isWritten_of_parse hread) hwritten).2 hcontent, htext⟩

/-- Gaps, blank characters, stray text and the sign of a zero are lost in print:
these two sources have the same canonical text. -/
theorem canonical_text_of_gaps_and_stray :
    ∃ a b, parse true " Calculator(-0.0) .Add( 5 )" = .ok a ∧
      parse false "Calculator(0)!.Add(5)" = .ok b ∧ a.text = b.text ∧
      ∃ c, parse true b.text = .ok c ∧ c.same a = true ∧ c.text = a.text := by
  have hname : IsName "Calculator".toList := by decide +kernel
  have hgap : ∀ c ∈ [' '], isGap c = true := List.forall_mem_singleton.2 (by decide)
  let left : RawSeed := ⟨⟨"Calculator".toList, "-0.0".toList⟩, 12, 17, " .Add( 5 )".toList⟩
  let right : RawSeed := ⟨⟨"Calculator".toList, "0".toList⟩, 11, 13, "!.Add(5)".toList⟩
  have hleft : Scan.seed " Calculator(-0.0) .Add( 5 )".toList = .ok left :=
    seed_eq_ok_iff.2 ⟨[' '], hgap, ⟨hname, by decide⟩, rfl, rfl, rfl⟩
  have hright : Scan.seed "Calculator(0)!.Add(5)".toList = .ok right :=
    seed_eq_ok_iff.2 ⟨[], List.forall_mem_nil _, ⟨hname, by decide⟩, rfl, rfl, rfl⟩
  have hcallLeft : call? ".Add( 5 )".toList = some (⟨"Add".toList, " 5 ".toList⟩, []) := by
    decide +kernel
  have hcallRight : call? ".Add(5)".toList = some (⟨"Add".toList, "5".toList⟩, []) := by
    decide +kernel
  have hreadLeft : readCalls 17 left.rest = ([⟨"Add", .text "5", some 19⟩], 27, []) := by
    apply (readCalls_of_call? 17 hgap hcallLeft).trans
    rw [readCalls_nil]
    rfl
  have hreadRight : findCalls 13 right.rest = [⟨"Add", .text "5", some 15⟩] := by
    refine (findCalls_skip 13 rfl).trans ((findCalls_of_call? 14 hcallRight).trans ?_)
    rw [findCalls_nil]
    rfl
  have hparseLeft : parse true " Calculator(-0.0) .Add( 5 )" =
      .ok ⟨"Calculator", .finite true .zero, [⟨"Add", .text "5", some 19⟩]⟩ := by
    simp only [parse_true, ofCharsStrict, Scan.strict, hleft]
    rw [show left.restOffset = 17 from rfl, hreadLeft]
    have hnumber : number? left.invocation.argument = .ok (.finite true .zero) := by decide +kernel
    simp only [build, hnumber]
    rfl
  have hparseRight : parse false "Calculator(0)!.Add(5)" =
      .ok ⟨"Calculator", .finite false .zero, [⟨"Add", .text "5", some 15⟩]⟩ := by
    rw [parse_false]
    exact ofCharsPermissive_eq_ok_iff.2 ⟨right, hright, by decide +kernel, rfl, hreadRight.symm⟩
  obtain ⟨hreread, hsame⟩ := canonical_text hparseLeft
  have htext := (hsame _ _ _ hparseRight).1 (by decide +kernel)
  refine ⟨_, _, hparseLeft, hparseRight, htext, ?_⟩
  rw [← htext]
  exact hreread true

end Expression

end FluentCalc
