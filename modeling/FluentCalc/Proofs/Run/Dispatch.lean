/-
# Steps of a run

A call is either passed over, which takes no notice of the accumulator and the
journal, or it invokes an action. An action is invoked on the accumulator of the
run and the run goes on from its answer. A chain of calls is run from front to
back, so it can be cut anywhere: the second part goes on from the thread that
the first one leaves.
-/

import Mathlib.Data.Nat.Notation
import FluentCalc.Proofs.Host.Catalogue
import FluentCalc.Run.Dispatch

namespace FluentCalc

namespace Run

variable {h : Host} {r : Registry} {c : Call} {t : Thread}

theorem resolve_of_none (hget : r.get? c.name = none) :
    ∃ message, resolve r c = .skipped ⟨.unknownOperation, message⟩ := by
  rw [resolve, hget]
  exact ⟨_, rfl⟩

theorem resolve_nullary {action : Action} (hget : r.get? c.name = some (.nullary action)) :
    ∃ note, resolve r c = .bound note action := by
  rw [resolve, hget]
  dsimp only
  split
  · exact ⟨_, rfl⟩
  · exact ⟨_, rfl⟩

theorem resolve_unary {run : Double → Action} (hget : r.get? c.name = some (.unary run)) :
    (argument? c.argument = none ∧ ∃ message, resolve r c = .skipped ⟨.badArgument, message⟩) ∨
      ∃ x, argument? c.argument = some x ∧ resolve r c = .bound "" (run x) := by
  rw [resolve, hget]
  dsimp only
  split
  · rename_i hnull
    rw [hnull]
    exact .inl ⟨rfl, _, rfl⟩
  · split
    · rename_i hargument
      exact .inl ⟨hargument, _, rfl⟩
    · rename_i x hargument
      exact .inr ⟨x, hargument, rfl⟩

theorem status_of_skipped {verdict : Verdict} (hc : resolve r c = .skipped verdict) :
    verdict.status = .unknownOperation ∨ verdict.status = .badArgument := by
  cases hget : r.get? c.name with
  | none =>
      obtain ⟨message, hskipped⟩ := resolve_of_none hget
      cases hskipped.symm.trans hc
      exact .inl rfl
  | some operation =>
      cases operation with
      | nullary action =>
          obtain ⟨note, hbound⟩ := resolve_nullary hget
          cases hbound.symm.trans hc
      | unary run =>
          rcases resolve_unary hget with ⟨-, message, hskipped⟩ | ⟨x, -, hbound⟩
          · cases hskipped.symm.trans hc
            exact .inr rfl
          · cases hbound.symm.trans hc

/-- A call that is passed over did not fail, nor did it succeed. -/
theorem status_ne_of_skipped {verdict : Verdict} (hc : resolve r c = .skipped verdict) :
    verdict.status ≠ .ok ∧ verdict.status ≠ .invocationFailed := by
  rcases status_of_skipped hc with hstatus | hstatus
  · simp [hstatus]
  · simp [hstatus]

/-- An action is invoked for a call only if it belongs to the operation of the
name of the call. -/
theorem exists_get?_of_bound {note : String} {action : Action}
    (hc : resolve r c = .bound note action) :
    ∃ operation, r.get? c.name = some operation ∧
      (operation = .nullary action ∨ ∃ run x, operation = .unary run ∧ action = run x) := by
  cases hget : r.get? c.name with
  | none =>
      obtain ⟨message, hskipped⟩ := resolve_of_none hget
      cases hskipped.symm.trans hc
  | some operation =>
      refine ⟨operation, rfl, ?_⟩
      cases operation with
      | nullary run =>
          obtain ⟨note', hbound⟩ := resolve_nullary hget
          cases hbound.symm.trans hc
          exact .inl rfl
      | unary run =>
          rcases resolve_unary hget with ⟨-, message, hskipped⟩ | ⟨x, -, hbound⟩
          · cases hskipped.symm.trans hc
          · cases hbound.symm.trans hc
            exact .inr ⟨run, x, rfl, rfl⟩

/-- What holds of all methods of a host holds of the action that is invoked. -/
theorem satisfies_of_bound {P : Action → Prop} {note : String} {action : Action}
    (hmethods : ∀ m ∈ h.methods, m.Satisfies P) (hr : h.registry = .ok r)
    (hc : resolve r c = .bound note action) : P action := by
  obtain ⟨operation, hget, hoperation⟩ := exists_get?_of_bound hc
  have hsatisfies := h.satisfies_of_get? hmethods hr hget
  rcases hoperation with rfl | ⟨run, x, rfl, rfl⟩
  · exact hsatisfies
  · exact hsatisfies x

theorem perform_of_skipped {verdict : Verdict} (hc : resolve r c = .skipped verdict) :
    perform h r c t = (t, verdict) := by
  rw [perform, hc]

theorem perform_of_bound {note : String} {operation : Action}
    (hc : resolve r c = .bound note operation) :
    perform h r c t = invoke h t note operation := by
  rw [perform, hc]

/-- Without a working copy a call leaves the run as it is. -/
theorem perform_of_uncopyable {note : String} {action : Action} {cause : Failure}
    (hcopy : h.copyFailure = some cause) (hc : resolve r c = .bound note action) :
    perform h r c t = settle t note (.failure t.accumulator cause, t.journal) := by
  rw [perform_of_bound hc, invoke, hcopy]

theorem perform_of_copyable {note : String} {action : Action} (hcopy : h.copyFailure = none)
    (hc : resolve r c = .bound note action) :
    perform h r c t = settle t note (action t.accumulator t.journal) := by
  rw [perform_of_bound hc, invoke, hcopy]

/-- The journal that an action leaves behind is kept, whatever it answers. -/
@[simp]
theorem journal_settle (note : String) (answer : Answer × Journal) :
    (settle t note answer).1.journal = answer.2 := by
  obtain ⟨_ | _ | _, j⟩ := answer <;> rfl

/-- A run goes on with the accumulator of the answer, unless that is a failure. -/
theorem accumulator_settle (note : String) (answer : Answer × Journal) :
    (settle t note answer).1.accumulator = answer.1.next?.getD t.accumulator := by
  obtain ⟨_ | _ | _, j⟩ := answer <;> rfl

/-- A call is passed over and changes nothing, or it fails and may change the
journal, or it succeeds. -/
inductive Performed (t : Thread) : Thread × Verdict → Prop
  | skipped {verdict : Verdict}
      (hstatus : verdict.status = .unknownOperation ∨ verdict.status = .badArgument) :
      Performed t (t, verdict)
  | failed (j : Journal) (message : String) :
      Performed t (⟨t.accumulator, j⟩, ⟨.invocationFailed, message⟩)
  | succeeded (next : Thread) (message : String) : Performed t (next, ⟨.ok, message⟩)

theorem performed_settle (t : Thread) (note : String) (answer : Answer × Journal) :
    Performed t (settle t note answer) := by
  obtain ⟨answer, j⟩ := answer
  cases answer with
  | accumulator next => exact .succeeded _ _
  | plain next value => exact .succeeded _ _
  | failure cause => exact .failed _ _

theorem performed (h : Host) (r : Registry) (c : Call) (t : Thread) :
    Performed t (perform h r c t) := by
  cases hc : resolve r c with
  | skipped verdict =>
      rw [perform_of_skipped hc]
      exact .skipped (status_of_skipped hc)
  | bound note action =>
      rw [perform_of_bound hc, invoke]
      split
      · exact performed_settle _ _ _
      · exact performed_settle _ _ _

/-- **Only success changes the accumulator.** -/
theorem accumulator_of_not_ok (hstatus : (perform h r c t).2.status ≠ .ok) :
    (perform h r c t).1.accumulator = t.accumulator := by
  have hperformed := performed h r c t
  generalize perform h r c t = result at hperformed hstatus
  cases hperformed with
  | skipped _ => rfl
  | failed _ _ => rfl
  | succeeded _ _ => exact absurd rfl hstatus

theorem accumulator_of_failed (hfailed : (perform h r c t).2.status = .invocationFailed) :
    (perform h r c t).1.accumulator = t.accumulator :=
  accumulator_of_not_ok (by simp [hfailed])

/-- A call that is passed over changes nothing. -/
theorem thread_of_status_skipped
    (hstatus : (perform h r c t).2.status = .unknownOperation ∨
      (perform h r c t).2.status = .badArgument) : (perform h r c t).1 = t := by
  have hperformed := performed h r c t
  generalize perform h r c t = result at hperformed hstatus
  cases hperformed with
  | skipped _ => rfl
  | failed _ _ => simp at hstatus
  | succeeded _ _ => simp at hstatus

/-- How a steady call goes is a matter of the accumulator, whether or not there
is a working copy of it. -/
theorem exists_perform_of_steady {note : String} {action : Action}
    (hc : resolve r c = .bound note action) (hsteady : action.IsSteady) :
    ∃ (answer : Accumulator → Answer) (effects : Accumulator → List Effect),
      (∀ t, perform h r c t = settle t note
        (answer t.accumulator, t.journal.record t.accumulator (effects t.accumulator))) ∧
      ∀ a, (answer a).KeepsMarked a := by
  cases hcopy : h.copyFailure with
  | some cause =>
      refine ⟨fun a => .failure a cause, fun _ => [], fun t => ?_, fun a =>
        Answer.keepsMarked_failure a cause⟩
      rw [perform_of_uncopyable hcopy hc, Journal.record_nil]
  | none =>
      obtain ⟨answer, effects, heq, hkeeps⟩ := hsteady
      refine ⟨answer, effects, fun t => ?_, hkeeps⟩
      rw [perform_of_copyable hcopy hc, heq]

/-- The record of one call in a run. -/
def diagnosticOf (h : Host) (r : Registry) (index : ℕ) (c : Call) (t : Thread) : Diagnostic :=
  ⟨index, c.name, (perform h r c t).2.status, (perform h r c t).2.message,
    (perform h r c t).1.accumulator.value⟩

theorem runCalls_cons (index : ℕ) (rest : List Call) :
    runCalls h r index (c :: rest) t =
      ((runCalls h r (index + 1) rest (perform h r c t).1).1,
        diagnosticOf h r index c t :: (runCalls h r (index + 1) rest (perform h r c t).1).2) :=
  rfl

/-- A run can be cut anywhere in its chain. -/
theorem runCalls_append (index : ℕ) (calls more : List Call) :
    runCalls h r index (calls ++ more) t =
      ((runCalls h r (index + calls.length) more (runCalls h r index calls t).1).1,
        (runCalls h r index calls t).2 ++
          (runCalls h r (index + calls.length) more (runCalls h r index calls t).1).2) := by
  induction calls generalizing index t with
  | nil => rfl
  | cons c rest ih =>
      rw [List.cons_append, runCalls_cons, ih, runCalls_cons, List.length_cons,
        Nat.add_right_comm, Nat.add_assoc, List.cons_append]

/-- The calls of a run whose diagnostics are to be kept. -/
def keptCalls (keep : Diagnostic → Bool) (calls : List Call) (diagnostics : List Diagnostic) :
    List Call :=
  ((calls.zip diagnostics).filter fun pair => keep pair.2).map Prod.fst

theorem keptCalls_cons (keep : Diagnostic → Bool) (c : Call) (calls : List Call) (d : Diagnostic)
    (diagnostics : List Diagnostic) :
    keptCalls keep (c :: calls) (d :: diagnostics) =
      if keep d then c :: keptCalls keep calls diagnostics
      else keptCalls keep calls diagnostics := by
  by_cases hkeep : keep d = true
  · simp [keptCalls, hkeep]
  · simp [keptCalls, hkeep]

/-- Diagnostics numbered anew, the first of them with a given index. -/
def numbered (index : ℕ) : List Diagnostic → List Diagnostic
  | [] => []
  | d :: rest => { d with index := index } :: numbered (index + 1) rest

/-- What a run has to show for itself. -/
def outcomeOf (run : Thread × List Diagnostic) : Outcome :=
  ⟨run.1.accumulator.value, run.2, run.1.journal.effects⟩

end Run

/-- An evaluation fails only where no accumulator can be made. -/
theorem evaluate_eq_ok_iff {h : Host} {r : Registry} {seed : Value} {calls : List Call}
    {o : Outcome} :
    evaluate h r seed calls = .ok o ↔ ∃ start, h.create seed = .ok start ∧
      Run.outcomeOf (Run.runCalls h r 0 calls ⟨start, .empty⟩) = o := by
  rw [evaluate]
  cases h.create seed with
  | error cause => simp [bind, Except.bind]
  | ok start => simp [bind, Except.bind, pure, Except.pure, Run.outcomeOf]

end FluentCalc
