/-
# The diagnostics of a run

The diagnostics of a run are a complete trace of it. Each call has one, and the
diagnostic at a place is that of the call at this place, made in the thread that
the calls before it leave. So the values that the diagnostics show are the
values that the run goes through, a call that does not succeed shows the value
from before, and the value shown last is the final one.

A call that is passed over has its diagnostic and is otherwise invisible. Any of
these calls can be left out of a chain, and nothing of the run changes but the
places of the calls behind them. This holds of every host, whatever its
accumulators share.
-/

import FluentCalc.Proofs.Host.Catalogue
import FluentCalc.Proofs.Run.Dispatch

namespace FluentCalc

namespace Run

variable {h : Host} {r : Registry}

/-- The diagnostic at a place of a run is that of the call at this place, made in
the thread that the calls before it leave. -/
theorem getElem?_runCalls (calls : List Call) (index k : ℕ) (t : Thread) :
    (runCalls h r index calls t).2[k]? = calls[k]?.map fun c =>
      diagnosticOf h r (index + k) c (runCalls h r index (calls.take k) t).1 := by
  induction calls generalizing index k t with
  | nil => rfl
  | cons c rest ih =>
      cases k with
      | zero => rfl
      | succ k =>
          rw [runCalls_cons, List.getElem?_cons_succ, ih, List.getElem?_cons_succ,
            Nat.add_right_comm, Nat.add_assoc, List.take_succ_cons, runCalls_cons]

theorem length_runCalls (calls : List Call) (index : ℕ) (t : Thread) :
    (runCalls h r index calls t).2.length = calls.length := by
  induction calls generalizing index t with
  | nil => rfl
  | cons c rest ih => rw [runCalls_cons, List.length_cons, ih, List.length_cons]

/-- The values that a run goes through, told from its diagnostics: the one that it
starts with, then the one after each call. -/
def valuesFrom (start : Double) (diagnostics : List Diagnostic) : List Double :=
  start :: diagnostics.map Diagnostic.value

/-- The values told from the diagnostics are those of the accumulators. -/
theorem getElem?_valuesFrom_runCalls {calls : List Call} (index : ℕ) (t : Thread) {k : ℕ}
    (hk : k ≤ calls.length) :
    (valuesFrom t.accumulator.value (runCalls h r index calls t).2)[k]? =
      some (runCalls h r index (calls.take k) t).1.accumulator.value := by
  cases k with
  | zero => rfl
  | succ k =>
      have hcall : calls[k]? = some calls[k] := List.getElem?_eq_getElem hk
      rw [valuesFrom, List.getElem?_cons_succ, List.getElem?_map, getElem?_runCalls, hcall,
        List.take_add_one, hcall, runCalls_append]
      rfl

/-- A call that does not succeed shows the value from before. -/
theorem value_diagnosticOf_of_not_ok {c : Call} {t : Thread} {index : ℕ}
    (hstatus : (diagnosticOf h r index c t).status ≠ .ok) :
    (diagnosticOf h r index c t).value = t.accumulator.value :=
  congrArg Accumulator.value (accumulator_of_not_ok hstatus)

/-- The value shown last is that of the accumulator at the end of a run. -/
theorem getLast?_valuesFrom_runCalls (calls : List Call) (index : ℕ) (t : Thread) :
    (valuesFrom t.accumulator.value (runCalls h r index calls t).2).getLast? =
      some (runCalls h r index calls t).1.accumulator.value := by
  have hlength : (valuesFrom t.accumulator.value (runCalls h r index calls t).2).length - 1 =
      calls.length := by
    rw [valuesFrom, List.length_cons, List.length_map, length_runCalls, Nat.add_sub_cancel]
  have hlast := getElem?_valuesFrom_runCalls (h := h) (r := r) index t (Nat.le_refl calls.length)
  rw [List.take_length] at hlast
  rw [List.getLast?_eq_getElem?, hlength]
  exact hlast

end Run

/-- **The diagnostics are a complete trace.** Once an accumulator is made, every
chain of calls has an outcome, with one diagnostic for each call, in order. A call
that does not succeed shows the value from before it, and the final value is the
one shown last, or that of the fresh accumulator if there are no calls. -/
theorem exists_evaluate_trace {h : Host} {r : Registry} {seed : Value} {start : Accumulator}
    (hcreate : h.create seed = .ok start) (calls : List Call) :
    ∃ o, evaluate h r seed calls = .ok o ∧ o.diagnostics.length = calls.length ∧
      (∀ (k : ℕ) (c : Call) (d : Diagnostic), calls[k]? = some c → o.diagnostics[k]? = some d →
        d.index = k ∧ d.name = c.name ∧
          (d.status ≠ .ok →
            (Run.valuesFrom start.value o.diagnostics)[k]? = some d.value)) ∧
      (Run.valuesFrom start.value o.diagnostics).getLast? = some o.final := by
  refine ⟨_, evaluate_eq_ok_iff.2 ⟨start, hcreate, rfl⟩, Run.length_runCalls calls 0 _, ?_,
    Run.getLast?_valuesFrom_runCalls calls 0 ⟨start, .empty⟩⟩
  intro k c d hc hd
  have hk : k < calls.length := (List.getElem?_eq_some_iff.1 hc).1
  rw [Run.outcomeOf, Run.getElem?_runCalls, hc, Option.map_some, Option.some.injEq] at hd
  subst hd
  refine ⟨Nat.zero_add k, rfl, fun hstatus => ?_⟩
  rw [Run.value_diagnosticOf_of_not_ok hstatus]
  exact Run.getElem?_valuesFrom_runCalls 0 ⟨start, .empty⟩ (Nat.le_of_lt hk)

/-- A swapped accumulator has no marks. The failure to leave one shows the value
from before, which is the one that the swap brought. -/
theorem exists_evaluate_trace_of_swap :
    ∃ r o d, Host.lab.registry = .ok r ∧
      Host.lab.create (.num .zero) = .ok ⟨.zero, true, true⟩ ∧
      evaluate Host.lab r (.num .zero)
        [⟨"Swap", .text "3", none⟩, ⟨"MarkFail", .null, none⟩] = .ok o ∧
      o.diagnostics.length = 2 ∧ o.diagnostics[1]? = some d ∧ d.status = .invocationFailed ∧
      d.index = 1 ∧ d.name = "MarkFail" ∧
      (Run.valuesFrom .zero o.diagnostics)[1]? = some d.value ∧
      (Run.valuesFrom .zero o.diagnostics).getLast? = some o.final := by
  obtain ⟨r, hr⟩ := Host.exists_registry_lab
  obtain ⟨three, hrun⟩ : ∃ three, Run.runCalls Host.lab r 0
      [⟨"Swap", .text "3", none⟩, ⟨"MarkFail", .null, none⟩] ⟨⟨.zero, true, true⟩, .empty⟩ =
        (⟨⟨three, false, false⟩, .empty⟩,
          [⟨0, "Swap", .ok, "", three⟩, ⟨1, "MarkFail", .invocationFailed,
            "InvocationFailed: AttributeError: 'Calculator' object has no attribute 'marks'",
            three⟩]) := by
    simp only [Run.runCalls, Run.perform, Run.resolve, Host.get?_swap hr, Host.get?_markFail hr,
      Host.markFail]
    exact ⟨Double.ofUnits false (3 * 2 ^ 1074) 1, by decide +kernel⟩
  have hcreate : Host.lab.create (.num .zero) = .ok ⟨.zero, true, true⟩ := rfl
  obtain ⟨o, ho, hlength, hplaces, hfinal⟩ := exists_evaluate_trace (r := r) hcreate
    [⟨"Swap", .text "3", none⟩, ⟨"MarkFail", .null, none⟩]
  cases ho.symm.trans (evaluate_eq_ok_iff.2 ⟨_, hcreate, congrArg Run.outcomeOf hrun⟩)
  obtain ⟨hindex, hname, hvalue⟩ := hplaces 1 _ _ rfl rfl
  exact ⟨r, _, _, hr, hcreate, ho, hlength, rfl, rfl, hindex, hname, hvalue (by simp), hfinal⟩

/-- Without some of the calls that it passes over, a run ends in the same thread
and has the same diagnostics for the others. -/
theorem Run.runCalls_keptCalls_of_skipped {h : Host} {r : Registry} {keep : Diagnostic → Bool}
    {calls : List Call} {index : ℕ} (index' : ℕ) {t : Thread}
    (hskipped : ∀ d ∈ (runCalls h r index calls t).2, keep d = false →
      d.status = .unknownOperation ∨ d.status = .badArgument) :
    runCalls h r index' (keptCalls keep calls (runCalls h r index calls t).2) t =
      ((runCalls h r index calls t).1,
        numbered index' ((runCalls h r index calls t).2.filter keep)) := by
  induction calls generalizing index index' t with
  | nil => rfl
  | cons c rest ih =>
      rw [runCalls_cons, List.forall_mem_cons] at hskipped
      obtain ⟨hfirst, hrest⟩ := hskipped
      simp only [runCalls_cons, keptCalls_cons, List.filter_cons]
      by_cases hkeep : keep (diagnosticOf h r index c t) = true
      · rw [if_pos hkeep, if_pos hkeep, runCalls_cons, ih (index' + 1) hrest, numbered]
        rfl
      · -- The call is left out, and the run goes on from the thread as it was.
        have hthread : (perform h r c t).1 = t :=
          thread_of_status_skipped (hfirst (Bool.eq_false_iff.2 hkeep))
        rw [hthread] at hrest ⊢
        rw [if_neg hkeep, if_neg hkeep, ih index' hrest]

/-- **Calls that are passed over are invisible.** Each call has its diagnostic. Leave any
of the calls that are passed over out of a chain, chosen by their places or in any other
way: the evaluation comes to the same final value and the same effects, and the calls
that are left have the same diagnostics, numbered anew. -/
theorem evaluate_keptCalls_of_skipped {h : Host} {r : Registry} {seed : Value} {calls : List Call}
    {o : Outcome} {keep : Diagnostic → Bool} (ho : evaluate h r seed calls = .ok o)
    (hskipped : ∀ d ∈ o.diagnostics, keep d = false →
      d.status = .unknownOperation ∨ d.status = .badArgument) :
    o.diagnostics.length = calls.length ∧
      evaluate h r seed (Run.keptCalls keep calls o.diagnostics) =
        .ok { o with diagnostics := Run.numbered 0 (o.diagnostics.filter keep) } := by
  obtain ⟨start, hcreate, rfl⟩ := evaluate_eq_ok_iff.1 ho
  refine ⟨Run.length_runCalls calls 0 _, evaluate_eq_ok_iff.2 ⟨start, hcreate, ?_⟩⟩
  rw [Run.outcomeOf, Run.outcomeOf, Run.runCalls_keptCalls_of_skipped 0 hskipped]

/-- One of two calls without a meaning is left out of a chain in which a failure
leaves a mark that is counted. -/
theorem evaluate_keptCalls_of_skipped_between_marks :
    ∃ r o, Host.lab.registry = .ok r ∧
      evaluate Host.lab r (.num .zero) [⟨"MarkFail", .null, none⟩, ⟨"Nope", .null, none⟩,
        ⟨"MarksCount", .null, none⟩, ⟨"Nope", .null, none⟩] = .ok o ∧
      (∀ d ∈ o.diagnostics, (d.index != 1) = false →
        d.status = .unknownOperation ∨ d.status = .badArgument) ∧
      o.diagnostics.length = 4 ∧
      evaluate Host.lab r (.num .zero) [⟨"MarkFail", .null, none⟩, ⟨"MarksCount", .null, none⟩,
        ⟨"Nope", .null, none⟩] =
          .ok { o with diagnostics := Run.numbered 0 (o.diagnostics.filter (·.index != 1)) } := by
  obtain ⟨r, hr⟩ := Host.exists_registry_lab
  have hnope : r.get? "Nope" = none := Host.get?_eq_none hr (by decide +kernel)
  have hrun : Run.runCalls Host.lab r 0 [⟨"MarkFail", .null, none⟩, ⟨"Nope", .null, none⟩,
      ⟨"MarksCount", .null, none⟩, ⟨"Nope", .null, none⟩] ⟨⟨.zero, true, true⟩, .empty⟩ =
        (⟨⟨.zero, true, true⟩, ⟨[.output "marked"], 1⟩⟩,
          [⟨0, "MarkFail", .invocationFailed, "InvocationFailed: ValueError: logged", .zero⟩,
            ⟨1, "Nope", .unknownOperation, "UnknownOperation: Nope", .zero⟩,
            ⟨2, "MarksCount", .ok, "returned 1", .zero⟩,
            ⟨3, "Nope", .unknownOperation, "UnknownOperation: Nope", .zero⟩]) := by
    simp only [Run.runCalls, Run.perform, Run.resolve, hnope, Host.get?_markFail hr,
      Host.get?_marksCount hr, Host.markFail, Host.marksCount]
    decide +kernel
  have hcreate : Host.lab.create (.num .zero) = .ok ⟨.zero, true, true⟩ := rfl
  have ho := evaluate_eq_ok_iff.2 ⟨_, hcreate, congrArg Run.outcomeOf hrun⟩
  refine ⟨r, _, hr, ho, by decide, ?_⟩
  exact @evaluate_keptCalls_of_skipped _ _ _ _ _ (fun d => d.index != 1) ho (by decide)

end FluentCalc
