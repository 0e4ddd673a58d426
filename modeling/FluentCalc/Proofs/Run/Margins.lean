/-
# White space around a source and results

Runs take no notice of where calls stand, so what is read to the same effect comes to the
same result. A source and the trimmed source have the same result on the calculator unless
there are blank characters around the source that are no gaps. These are the information
separators U+001C to U+001F: trimming takes them away, and expressions do not pass over
them.
-/

import FluentCalc.Proofs.Expression.Margins
import FluentCalc.Proofs.Run.Calculator
import FluentCalc.Proofs.Run.Canonical
import FluentCalc.Proofs.Session.Report

namespace FluentCalc

open Text

/-- Two results that cannot be told apart but for places in the source: the same outcome,
or faults of the same kind. -/
def Result.Agrees : Result → Result → Prop
  | .success _ o, .success _ o' => o = o'
  | .fault _ cause, .fault _ cause' => cause.kind = cause'.kind
  | _, _ => False

/-- Calls that differ in their columns at most are run to the same outcome. -/
theorem Expression.outcomeOf_eq_of_unplaced {h : Host} {r : Registry} {e e' : Expression}
    (hsame : e.unplaced = e'.unplaced) :
    Run.outcomeOf (Run.runCalls h r 0 e.calls ⟨⟨e.seed, false, true⟩, .empty⟩) =
      Run.outcomeOf (Run.runCalls h r 0 e'.calls ⟨⟨e'.seed, false, true⟩, .empty⟩) := by
  simp only [unplaced, mk.injEq] at hsame
  obtain ⟨-, hseed, hcalls⟩ := hsame
  rw [← Run.runCalls_unplaced e.calls, ← Run.runCalls_unplaced e'.calls, hcalls, hseed]

namespace Runner

/-- **When white space around a source does not matter for its result.** On the calculator
every source and the trimmed source have results, in either reading. They agree exactly if
the permissive reading refuses the trimmed source, or there is no information separator in
front of the source and, where the strict reading accepts the trimmed source, none behind it
either. -/
theorem agrees_stripped_iff (strict : Bool) (source : String) :
    ∃ r a b, ofHost Calculator.host strict = .ok r ∧ r.handle source = .ok a ∧
      r.handle (stripped source) = .ok b ∧
      (a.Agrees b ↔ Expression.HasPlainMargins strict source) := by
  obtain ⟨registry, hregistry⟩ := Calculator.exists_registry
  have hr : ofHost Calculator.host strict = .ok ⟨Calculator.host, registry, strict⟩ :=
    ofHost_eq_ok_iff.2 ⟨hregistry, rfl, rfl⟩
  have halike := Expression.meanAlike_stripped_iff strict source
  cases hparse : Expression.parse strict source with
  | ok e =>
      rw [hparse] at halike
      cases hstripped : Expression.parse strict (stripped source) with
      | ok e' =>
          have hsame := Expression.unplaced_eq_of_parse_stripped hparse hstripped
          rw [hstripped] at halike
          exact ⟨_, _, _, hr, handle_of_parse hparse, handle_of_parse hstripped,
            iff_of_true (Expression.outcomeOf_eq_of_unplaced hsame) (halike.1 hsame)⟩
      | error cause' =>
          rw [hstripped] at halike
          exact ⟨_, _, _, hr, handle_of_parse hparse, handle_of_fault hr hstripped, halike⟩
  | error cause =>
      rw [hparse] at halike
      cases hstripped : Expression.parse strict (stripped source) with
      | ok e' =>
          rw [hstripped] at halike
          exact ⟨_, _, _, hr, handle_of_fault hr hparse, handle_of_parse hstripped, halike⟩
      | error cause' =>
          rw [hstripped] at halike
          exact ⟨_, _, _, hr, handle_of_fault hr hparse, handle_of_fault hr hstripped, halike⟩

/-- A separator in front of a source keeps its seed from being read. -/
theorem not_agrees_stripped_of_separator :
    ∃ r a b, ofHost Calculator.host false = .ok r ∧
      r.handle "\x1cCalculator(1)" = .ok a ∧ stripped "\x1cCalculator(1)" = "Calculator(1)" ∧
      r.handle "Calculator(1)" = .ok b ∧ a.isSuccess = false ∧ b.isSuccess = true ∧
      ¬ a.Agrees b := by
  obtain ⟨registry, hregistry⟩ := Calculator.exists_registry
  have hr : ofHost Calculator.host false = .ok ⟨Calculator.host, registry, false⟩ :=
    ofHost_eq_ok_iff.2 ⟨hregistry, rfl, rfl⟩
  have hfault : Expression.parse false "\x1cCalculator(1)" = .error (.noSeed 1) := rfl
  let found : Scan.RawSeed := ⟨⟨"Calculator".toList, "1".toList⟩, 11, 13, []⟩
  have hseed : Scan.seed "Calculator(1)".toList = .ok found :=
    Scan.seed_eq_ok_iff.2
      ⟨[], List.forall_mem_nil _, ⟨by decide +kernel, by decide⟩, rfl, rfl, rfl⟩
  have hread : Expression.parse false "Calculator(1)" =
      .ok ⟨"Calculator", .finite false ⟨0x3ff0000000000000, by decide⟩, []⟩ := by
    rw [Expression.parse_false]
    exact Expression.ofCharsPermissive_eq_ok_iff.2
      ⟨found, hseed, by decide +kernel, rfl, (Scan.findCalls_nil 13).symm⟩
  exact ⟨_, _, _, hr, handle_of_fault hr hfault, by decide +kernel, handle_of_parse hread, rfl, rfl,
    id⟩

end Runner

end FluentCalc
