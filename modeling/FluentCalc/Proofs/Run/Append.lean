/-
# Text behind a source

Whatever is put behind a source that was evaluated, the evaluation begins in the
same way. The constructor call closes with its own bracket, so the seed is the
same; the calls that were found are found again; and what a chain of calls does
to a run does not depend on the calls behind it. The effects of the longer run
begin with those of the shorter one on every host that takes back no effect,
which is to say on every host of the catalogue.
-/

import FluentCalc.Proofs.Expression.Modes
import FluentCalc.Proofs.Host.Catalogue
import FluentCalc.Proofs.Run.Dispatch
import FluentCalc.Run.Result

namespace FluentCalc

namespace Run

variable {h : Host} {r : Registry}

theorem effects_prefix_perform (hemits : h.OnlyEmits) (hr : h.registry = .ok r) (c : Call)
    (t : Thread) : t.journal.effects <+: (perform h r c t).1.journal.effects := by
  cases hc : resolve r c with
  | skipped verdict =>
      simp only [perform_of_skipped hc, List.prefix_rfl]
  | bound note action =>
      have haction : Action.OnlyEmits action := satisfies_of_bound hemits hr hc
      rw [perform_of_bound hc, invoke]
      split
      · simp only [journal_settle, List.prefix_rfl]
      · simp only [journal_settle]
        exact haction _ _

/-- A run takes back no effect. -/
theorem effects_prefix_runCalls (hemits : h.OnlyEmits) (hr : h.registry = .ok r)
    (calls : List Call) (index : ℕ) (t : Thread) :
    t.journal.effects <+: (runCalls h r index calls t).1.journal.effects := by
  induction calls generalizing index t with
  | nil => exact List.prefix_rfl
  | cons c rest ih => exact (effects_prefix_perform hemits hr c t).trans (ih _ _)

end Run

/-- More calls leave the outcome of the first ones as it is. -/
theorem exists_evaluate_append {h : Host} {r : Registry} {seed : Value} {calls : List Call}
    {o : Outcome} (ho : evaluate h r seed calls = .ok o) (more : List Call) :
    ∃ o', evaluate h r seed (calls ++ more) = .ok o' ∧ o.diagnostics <+: o'.diagnostics ∧
      (h.OnlyEmits → h.registry = .ok r → o.effects <+: o'.effects) := by
  obtain ⟨start, hcreate, rfl⟩ := evaluate_eq_ok_iff.1 ho
  refine ⟨_, evaluate_eq_ok_iff.2 ⟨start, hcreate, rfl⟩, ?_, fun hemits hr => ?_⟩
  · rw [Run.runCalls_append]
    exact List.prefix_append _ _
  · rw [Run.runCalls_append]
    exact Run.effects_prefix_runCalls hemits hr more _ _

namespace Runner

variable {r : Runner} {source : String} {o : Outcome}

theorem ofHost_eq_ok_iff {h : Host} {strict : Bool} :
    ofHost h strict = .ok r ↔ h.registry = .ok r.registry ∧ r.host = h ∧ r.strict = strict := by
  rw [ofHost]
  cases h.registry with
  | error fault => simp [bind, Except.bind]
  | ok registry =>
      cases r
      simp [bind, Except.bind, pure, Except.pure, eq_comm, and_left_comm]

/-- Handling succeeds exactly when the source is read and evaluated. -/
theorem handle_eq_success_iff :
    r.handle source = .ok (.success source o) ↔ ∃ e, Expression.parse r.strict source = .ok e ∧
      e.evaluate r.host r.registry = .ok o := by
  rw [handle]
  cases Expression.parse r.strict source with
  | error fault => simp
  | ok e =>
      cases heval : e.evaluate r.host r.registry <;>
        simp [heval, bind, Except.bind, pure, Except.pure]

/-- **Text behind a source changes nothing of what came before.** If a source is
evaluated, then so is the source with any text behind it: the constructor and the
seed are the same, the diagnostics of the source come first, and, on every host
of the catalogue and every other one that takes back no effect, so do its
effects. -/
theorem handle_append {h : Host} (hr : ofHost h false = .ok r)
    (hs : r.handle source = .ok (.success source o))
    (more : String) :
    ∃ e e' o', Expression.parse false source = .ok e ∧
      Expression.parse false (source ++ more) = .ok e' ∧
      e'.constructor = e.constructor ∧ e'.seed = e.seed ∧
      r.handle (source ++ more) = .ok (.success (source ++ more) o') ∧
      o.diagnostics <+: o'.diagnostics ∧
      (h ∈ Host.catalogue ∨ h.OnlyEmits → o.effects <+: o'.effects) := by
  obtain ⟨hregistry, rfl, hstrict⟩ := ofHost_eq_ok_iff.1 hr
  obtain ⟨e, hparse, heval⟩ := handle_eq_success_iff.1 hs
  rw [hstrict] at hparse
  obtain ⟨calls, hmore⟩ := Expression.exists_ofCharsPermissive_append hparse more.toList
  have hparse' : Expression.parse false (source ++ more) =
      .ok { e with calls := e.calls ++ calls } := by
    rw [Expression.parse_false, String.toList_append, hmore]
  obtain ⟨o', heval', hdiagnostics, heffects⟩ := exists_evaluate_append heval calls
  have hhandle : r.handle (source ++ more) = .ok (.success (source ++ more) o') :=
    handle_eq_success_iff.2 ⟨{ e with calls := e.calls ++ calls }, hstrict ▸ hparse', heval'⟩
  refine ⟨e, _, o', hparse, hparse', rfl, rfl, hhandle, hdiagnostics, fun hh => ?_⟩
  exact heffects (hh.elim Host.onlyEmits_of_mem_catalogue id) hregistry

/-- A name at the end of a source is no call, but text behind it may make it
one. -/
theorem handle_append_unfinished_call :
    ∃ r o o', ofHost Calculator.host false = .ok r ∧
      r.handle "Calculator(0).Add(2).Squ" = .ok (.success "Calculator(0).Add(2).Squ" o) ∧
      r.handle ("Calculator(0).Add(2).Squ" ++ "are()") =
        .ok (.success ("Calculator(0).Add(2).Squ" ++ "are()") o') ∧
      o.diagnostics <+: o'.diagnostics ∧ o.effects <+: o'.effects := by
  obtain ⟨registry, hregistry⟩ := Calculator.exists_registry
  have hr : ofHost Calculator.host false = .ok ⟨Calculator.host, registry, false⟩ :=
    ofHost_eq_ok_iff.2 ⟨hregistry, rfl, rfl⟩
  have hseed : Scan.seed "Calculator(0).Add(2).Squ".toList =
      .ok ⟨⟨"Calculator".toList, "0".toList⟩, 11, 13, ".Add(2).Squ".toList⟩ := by
    have hname : Scan.IsName "Calculator".toList := by decide +kernel
    exact Scan.seed_eq_ok_iff.2 ⟨[], List.forall_mem_nil _, ⟨hname, by decide⟩, rfl, rfl, rfl⟩
  have hparse : Expression.parse false "Calculator(0).Add(2).Squ" =
      .ok ⟨"Calculator", .zero, Scan.findCalls 13 ".Add(2).Squ".toList⟩ := by
    rw [Expression.parse_false]
    exact Expression.ofCharsPermissive_eq_ok_iff.2 ⟨_, hseed, by decide +kernel, rfl, rfl⟩
  have hhandle := handle_eq_success_iff (r := ⟨Calculator.host, registry, false⟩)
    |>.2 ⟨_, hparse, evaluate_eq_ok_iff.2 ⟨⟨.zero, false, true⟩, rfl, rfl⟩⟩
  obtain ⟨-, -, o', -, -, -, -, hmore, hdiagnostics, heffects⟩ := handle_append hr hhandle "are()"
  exact ⟨_, _, o', hr, hhandle, hmore, hdiagnostics, heffects (.inl (.head _))⟩

end Runner

end FluentCalc
