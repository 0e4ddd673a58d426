/-
# Runs on the calculator

On the calculator every source comes to a result. It is a fault exactly if the source
does not parse; otherwise all calls are dispatched, and how each of them ends is
told by its name and its argument alone. The seed, the other calls and the value of
the moment have no part in it, and no call fails, be the value huge, infinite or a
not-a-number.
-/

import FluentCalc.Proofs.Host.Calculator
import FluentCalc.Proofs.Run.Append
import FluentCalc.Proofs.Run.Trace

namespace FluentCalc

namespace Calculator

/-- In a run on the calculator each call ends as its request does. -/
theorem exists_asks_of_getElem? {r : Registry} (hr : host.registry = .ok r) {calls : List Call}
    {index k : ℕ} {t : Thread} {c : Call} {d : Diagnostic} (hc : calls[k]? = some c)
    (hd : (Run.runCalls host r index calls t).2[k]? = some d) :
    ∃ request, Asks c request ∧ d.status = request.status := by
  obtain ⟨request, hasks⟩ := exists_asks c
  refine ⟨request, hasks, ?_⟩
  rw [Run.getElem?_runCalls, hc, Option.map_some, Option.some.injEq] at hd
  obtain ⟨message, hperform⟩ := perform_of_asks hr hasks
  rw [← hd, Run.diagnosticOf, hperform]

end Calculator

namespace Runner

/-- On the calculator a source that is read comes to the outcome of its calls, which
start at its seed. -/
theorem handle_of_parse {registry : Registry} {strict : Bool} {source : String} {e : Expression}
    (h : Expression.parse strict source = .ok e) :
    handle ⟨Calculator.host, registry, strict⟩ source =
      .ok (.success source (Run.outcomeOf
        (Run.runCalls Calculator.host registry 0 e.calls ⟨⟨e.seed, false, true⟩, .empty⟩))) :=
  handle_eq_success_iff.2
    ⟨e, h, evaluate_eq_ok_iff.2 ⟨_, Calculator.create_num e.seed, rfl⟩⟩

/-- **On the calculator nothing fails.** Every source is handled, in either reading.
The result is a fault exactly if the source does not parse. Otherwise the call at
each place ends as its name and its argument say: its operation is unknown if the
name is none of the nine, its argument is bad if the operation takes one and there
is no number to be read, and in all other cases it succeeds. -/
theorem handle_calculator (strict : Bool) (source : String) :
    ∃ r result, ofHost Calculator.host strict = .ok r ∧ r.handle source = .ok result ∧
      (result.isSuccess = false ↔ ∃ fault, Expression.parse strict source = .error fault) ∧
      ∀ e, Expression.parse strict source = .ok e → ∃ o, result = .success source o ∧
        o.diagnostics.length = e.calls.length ∧
        ∀ (k : ℕ) (c : Call) (d : Diagnostic), e.calls[k]? = some c → o.diagnostics[k]? = some d →
          (d.status = .unknownOperation ↔
            c.name ∉ Calculator.binaryNames ++ Calculator.unaryNames) ∧
          (d.status = .badArgument ↔
            c.name ∈ Calculator.binaryNames ∧ ¬ Calculator.IsNumeral c.argument) ∧
          (d.status = .ok ↔ c.name ∈ Calculator.unaryNames ∨
            c.name ∈ Calculator.binaryNames ∧ Calculator.IsNumeral c.argument) ∧
          d.status ≠ .invocationFailed := by
  obtain ⟨registry, hregistry⟩ := Calculator.exists_registry
  have hr : ofHost Calculator.host strict = .ok ⟨Calculator.host, registry, strict⟩ :=
    ofHost_eq_ok_iff.2 ⟨hregistry, rfl, rfl⟩
  cases hparse : Expression.parse strict source with
  | error fault =>
      refine ⟨_, .fault source fault, hr, ?_, ?_, ?_⟩
      · rw [handle, hparse]
      · exact iff_of_true rfl ⟨fault, rfl⟩
      · rintro e ⟨⟩
  | ok e =>
      have heval : e.evaluate Calculator.host registry = .ok _ :=
        evaluate_eq_ok_iff.2 ⟨_, Calculator.create_num e.seed, rfl⟩
      refine ⟨_, _, hr, handle_eq_success_iff.2 ⟨e, hparse, heval⟩, ?_, ?_⟩
      · apply iff_of_false Bool.noConfusion
        rintro ⟨fault, ⟨⟩⟩
      · rintro _ ⟨⟩
        refine ⟨_, rfl, Run.length_runCalls _ _ _, fun k c d hc hd => ?_⟩
        obtain ⟨request, hasks, hstatus⟩ := Calculator.exists_asks_of_getElem? hregistry hc hd
        rw [hstatus]
        exact ⟨hasks.status_eq_unknownOperation_iff, hasks.status_eq_badArgument_iff,
          hasks.status_eq_ok_iff, request.status_ne_invocationFailed⟩

end Runner

end FluentCalc
