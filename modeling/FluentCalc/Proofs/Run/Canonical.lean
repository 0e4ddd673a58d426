/-
# Canonical texts and their meaning

An expression and the one that is read from its canonical text differ in the columns
of the calls and in the sign of a zero. Runs take no notice of columns. On the
calculator they take no notice of the sign of a zero either: runs that start from
numbers that are alike go through numbers that are alike, and since the two zeros are
printed alike and neither is below zero, statuses, messages and effects are the same.
-/

import FluentCalc.Proofs.Double.SignedZero
import FluentCalc.Proofs.Expression.Canonical
import FluentCalc.Proofs.Host.Calculator

namespace FluentCalc

/-- A run takes no notice of where its calls stand. -/
theorem Run.runCalls_unplaced {h : Host} {r : Registry} (calls : List Call) (index : ℕ)
    (t : Thread) :
    runCalls h r index (calls.map Call.unplaced) t = runCalls h r index calls t := by
  induction calls generalizing index t with
  | nil => rfl
  | cons c rest ih =>
      have hstep : perform h r c.unplaced t = perform h r c t := rfl
      rw [List.map_cons, runCalls_cons, runCalls_cons, diagnosticOf, diagnosticOf, hstep, ih]
      rfl

/-- Numbers that are alike are printed alike. -/
theorem Double.Alike.plainNumber_eq {x y : Double} (h : x.Alike y) :
    plainNumber x = plainNumber y := by
  rw [← plainNumber_unsignedZero x, alike_iff.1 h, plainNumber_unsignedZero]

/-- Threads that differ in the sign of a zero at most. -/
structure Thread.Alike (t t' : Thread) : Prop where
  value : t.accumulator.value.Alike t'.accumulator.value
  marked : t.accumulator.marked = t'.accumulator.marked
  recorded : t.accumulator.recorded = t'.accumulator.recorded
  journal : t.journal = t'.journal

/-- Diagnostics that differ in the sign of a zero at most. -/
structure Diagnostic.Alike (d d' : Diagnostic) : Prop where
  index : d.index = d'.index
  name : d.name = d'.name
  status : d.status = d'.status
  message : d.message = d'.message
  value : d.value.Alike d'.value

/-- Outcomes that differ in the signs of zeros at most. -/
structure Outcome.Alike (o o' : Outcome) : Prop where
  final : o.final.Alike o'.final
  diagnostics : List.Forall₂ Diagnostic.Alike o.diagnostics o'.diagnostics
  effects : o.effects = o'.effects

namespace Calculator

/-- Reactions that differ in the sign of a zero at most. -/
structure Reaction.Alike (reaction reaction' : Reaction) : Prop where
  value : reaction.value.Alike reaction'.value
  effect : reaction.effect = reaction'.effect

theorem Reaction.Alike.logged {x y : Double} (h : x.Alike y) (deed : String) :
    (logged deed x).Alike (logged deed y) :=
  ⟨h, by simp only [Calculator.logged, h.plainNumber_eq]⟩

/-- Numbers that are alike react alike. -/
theorem Request.react_alike (request : Request) {x y : Double} (h : x.Alike y) :
    (request.react x).Alike (request.react y) := by
  cases request with
  | unknown | incomplete _ => exact ⟨h, rfl⟩
  | binary operation z =>
      cases operation with
      | add => exact .logged (h.add z) _
      | subtract => exact .logged (h.add z.negate) _
      | multiply => exact .logged (h.multiply z) _
      | divide =>
          simp only [react, Binary.react]
          split
          · exact ⟨h, rfl⟩
          · exact .logged (h.quotient z) _
  | unary operation =>
      cases operation with
      | square => exact .logged h.square _
      | squareRoot =>
          simp only [react, Unary.react, h.isNegative_eq]
          split
          · exact ⟨h, rfl⟩
          · exact .logged h.root _
      | clear => exact ⟨.refl _, rfl⟩
      | getResult => exact ⟨h, rfl⟩
      | displayResult => exact ⟨h, by simp only [react, Unary.react, h.plainNumber_eq]⟩

/-- Threads that are alike stay so when they take on the reaction to a request. -/
theorem Request.next_alike (request : Request) {t t' : Thread} (h : t.Alike t') :
    (request.next t).Alike (request.next t') := by
  have hreact := request.react_alike h.value
  refine ⟨hreact.value, h.marked, h.recorded, ?_⟩
  simp only [next, Reaction.apply, Journal.record, hreact.effect, h.recorded, h.journal]

/-- Runs that start alike go on alike, and all that they tell is alike. -/
theorem runCalls_alike {r : Registry} (hr : host.registry = .ok r) (calls : List Call) (index : ℕ)
    {t t' : Thread} (h : t.Alike t') :
    (Run.runCalls host r index calls t).1.Alike (Run.runCalls host r index calls t').1 ∧
      List.Forall₂ Diagnostic.Alike (Run.runCalls host r index calls t).2
        (Run.runCalls host r index calls t').2 := by
  induction calls generalizing index t t' with
  | nil => exact ⟨h, .nil⟩
  | cons c rest ih =>
      obtain ⟨request, hasks⟩ := exists_asks c
      obtain ⟨message, hperform⟩ := perform_of_asks hr hasks
      have hnext := request.next_alike h
      have hfirst : (Run.diagnosticOf host r index c t).Alike
          (Run.diagnosticOf host r index c t') := by
        rw [Run.diagnosticOf, Run.diagnosticOf, hperform, hperform, h.value.plainNumber_eq]
        exact ⟨rfl, rfl, rfl, rfl, hnext.value⟩
      obtain ⟨hlast, hdiagnostics⟩ := ih (index + 1) hnext
      rw [Run.runCalls_cons, Run.runCalls_cons, hperform, hperform]
      exact ⟨hlast, .cons hfirst hdiagnostics⟩

/-- **Canonical texts keep their meaning.** An expression that was read and the one
that is read from its canonical text, in either reading, have outcomes on the
calculator with the same statuses, messages and effects, and with values that are
equal or both not-a-number. -/
theorem exists_evaluate_text {r : Registry} (hr : host.registry = .ok r) {strict : Bool}
    {source : String} {e : Expression} (h : Expression.parse strict source = .ok e)
    (strict' : Bool) :
    ∃ e' o o', Expression.parse strict' e.text = .ok e' ∧ e.evaluate host r = .ok o ∧
      e'.evaluate host r = .ok o' ∧ o'.Alike o := by
  obtain ⟨e', hread, hcontent⟩ := (Expression.isWritten_of_parse h).parse_text strict'
  simp only [Expression.content, Expression.mk.injEq] at hcontent
  obtain ⟨-, hseed, hcalls⟩ := hcontent
  have hstart : Thread.Alike ⟨⟨e'.seed, false, true⟩, .empty⟩ ⟨⟨e.seed, false, true⟩, .empty⟩ :=
    ⟨Double.alike_iff.2 hseed, rfl, rfl, rfl⟩
  obtain ⟨hlast, hdiagnostics⟩ := runCalls_alike hr e.calls 0 hstart
  refine ⟨e', _, _, hread, evaluate_eq_ok_iff.2 ⟨_, create_num e.seed, rfl⟩,
    evaluate_eq_ok_iff.2 ⟨_, create_num e'.seed, rfl⟩, ?_⟩
  rw [← Run.runCalls_unplaced e'.calls, hcalls, Run.runCalls_unplaced]
  exact ⟨hlast.value, hdiagnostics, congrArg Journal.effects hlast.journal⟩

/-- The canonical text of this source loses the sign of the seed, which the square
root of a zero keeps. -/
theorem exists_evaluate_text_of_negative_zero :
    ∃ r e e' o o', host.registry = .ok r ∧
      Expression.parse false "Calculator(-0.0).SquareRoot()" = .ok e ∧
      e.text = "Calculator(0).SquareRoot()" ∧ Expression.parse true e.text = .ok e' ∧
      e.evaluate host r = .ok o ∧ o.final = .finite true .zero ∧
      e'.evaluate host r = .ok o' ∧ o'.Alike o := by
  obtain ⟨r, hr⟩ := exists_registry
  let found : Scan.RawSeed :=
    ⟨⟨"Calculator".toList, "-0.0".toList⟩, 11, 16, ".SquareRoot()".toList⟩
  have hseed : Scan.seed "Calculator(-0.0).SquareRoot()".toList = .ok found :=
    Scan.seed_eq_ok_iff.2
      ⟨[], List.forall_mem_nil _, ⟨by decide +kernel, by decide⟩, rfl, rfl, rfl⟩
  have hcall : Scan.call? found.rest = some (⟨"SquareRoot".toList, []⟩, []) := by decide +kernel
  have hcalls : Scan.findCalls 16 found.rest = [⟨"SquareRoot", .null, some 17⟩] := by
    rw [Scan.findCalls_of_call? 16 hcall, Scan.findCalls_nil]
    rfl
  have hparse : Expression.parse false "Calculator(-0.0).SquareRoot()" =
      .ok ⟨"Calculator", .finite true .zero, [⟨"SquareRoot", .null, some 17⟩]⟩ := by
    rw [Expression.parse_false]
    exact Expression.ofCharsPermissive_eq_ok_iff.2
      ⟨found, hseed, by decide +kernel, rfl, hcalls.symm⟩
  obtain ⟨e', o, o', hread, ho, ho', halike⟩ := exists_evaluate_text hr hparse true
  refine ⟨r, _, e', o, o', hr, hparse, by decide +kernel, hread, ho, ?_, ho', halike⟩
  have hroot : r.get? "SquareRoot" = some Unary.squareRoot.operation :=
    get?_unary hr .squareRoot (by decide +kernel)
  cases ho.symm.trans (evaluate_eq_ok_iff.2 ⟨_, create_num _, rfl⟩)
  simp only [Run.runCalls, Run.perform, Run.resolve, hroot, Unary.operation]
  decide +kernel

end Calculator

end FluentCalc
