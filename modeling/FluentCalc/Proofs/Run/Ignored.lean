/-
# Ignored arguments

An operation without a parameter takes no notice of an argument, and an argument is
not even looked at if the operation is not there. Two chains that differ in nothing
but such arguments are run alike. Call by call they leave the same thread, so no later
call can tell them apart, whatever host it is on and whatever the operations do. What
is left of an ignored argument is a note in front of the message, and only if the call
succeeds.
-/

import Mathlib.Data.List.Forall2
import FluentCalc.Proofs.Run.Trace

namespace FluentCalc

/-- Two calls that differ at most in an argument that is ignored: they have one name,
and one argument if the operation of that name takes any. -/
structure Call.Agrees (r : Registry) (c c' : Call) : Prop where
  name : c'.name = c.name
  argument : ∀ run, r.get? c.name = some (.unary run) → c'.argument = c.argument

namespace Run

variable {h : Host} {r : Registry} {c c' : Call}

/-- The note on the argument of an operation without a parameter. -/
def ignoredNote : Value → String
  | .null => ""
  | argument => "ignored argument " ++ argument.quoted

theorem joinNotes_empty (note : String) : joinNotes note "" = note := by
  rw [joinNotes]
  split
  · rename_i hempty
    exact (String.isEmpty_iff.1 hempty).symm
  · rfl

/-- The operation is invoked, and its argument is a note. -/
theorem resolve_ignored {action : Action} (hget : r.get? c.name = some (.nullary action)) :
    resolve r c = .bound (ignoredNote c.argument) action := by
  rw [resolve, hget]
  dsimp only
  split
  · rename_i hnull
    rw [hnull, ignoredNote]
  · rename_i hpresent
    rw [ignoredNote]
    exact hpresent

/-- A note stands in front of the message of a success, and is no part of a failure. -/
theorem settle_cases (t : Thread) (answer : Answer × Journal) :
    (∃ next rest, ∀ note, settle t note answer = (next, ⟨.ok, joinNotes note rest⟩)) ∨
      ∃ next message, ∀ note, settle t note answer = (next, ⟨.invocationFailed, message⟩) := by
  obtain ⟨answer, j⟩ := answer
  cases answer with
  | accumulator next =>
      refine .inl ⟨⟨next, j⟩, "", fun note => ?_⟩
      rw [joinNotes_empty]
      rfl
  | plain next value => exact .inl ⟨_, _, fun _ => rfl⟩
  | failure cause => exact .inr ⟨_, _, fun _ => rfl⟩

theorem invoke_cases (h : Host) (t : Thread) (action : Action) :
    (∃ next rest, ∀ note, invoke h t note action = (next, ⟨.ok, joinNotes note rest⟩)) ∨
      ∃ next message, ∀ note, invoke h t note action = (next, ⟨.invocationFailed, message⟩) := by
  cases hcopy : h.copyFailure with
  | some cause =>
      simp only [invoke, hcopy]
      exact settle_cases t (.failure t.accumulator cause, t.journal)
  | none =>
      simp only [invoke, hcopy]
      exact settle_cases t (action t.accumulator t.journal)

/-- Calls that agree are resolved alike if their operation is not there or takes an
argument. -/
theorem resolve_of_agrees (hc : c.Agrees r c')
    (hget : ∀ action, r.get? c.name ≠ some (.nullary action)) : resolve r c' = resolve r c := by
  rw [resolve, resolve, hc.name]
  cases hoperation : r.get? c.name with
  | none => rfl
  | some operation =>
      cases operation with
      | nullary action => exact absurd hoperation (hget action)
      | unary run => rw [hc.argument run hoperation]

end Run

/-- The diagnostics of two calls, which are the same but for the note on an ignored
argument in the message of a success. -/
inductive Diagnostic.SameButNote (r : Registry) (c c' : Call) (d : Diagnostic) : Diagnostic → Prop
  | same : SameButNote r c c' d d
  | noted {action : Action} {rest : String} (hget : r.get? c.name = some (.nullary action))
      (hok : d.status = .ok)
      (hmessage : d.message = Run.joinNotes (Run.ignoredNote c.argument) rest) :
      SameButNote r c c' d { d with message := Run.joinNotes (Run.ignoredNote c'.argument) rest }

namespace Run

variable {h : Host} {r : Registry} {c c' : Call}

/-- **What is ignored does not reach the run.** Calls that agree leave the same thread,
and their diagnostics are the same but for a note. -/
theorem perform_of_agrees (hc : c.Agrees r c') (index : ℕ) (t : Thread) :
    (perform h r c' t).1 = (perform h r c t).1 ∧
      (diagnosticOf h r index c t).SameButNote r c c' (diagnosticOf h r index c' t) := by
  by_cases hget : ∃ action, r.get? c.name = some (.nullary action)
  · obtain ⟨action, hget⟩ := hget
    have hget' : r.get? c'.name = some (.nullary action) := by rw [hc.name, hget]
    rw [diagnosticOf, diagnosticOf, perform_of_bound (resolve_ignored hget),
      perform_of_bound (resolve_ignored hget'), hc.name]
    rcases invoke_cases h t action with ⟨next, rest, hok⟩ | ⟨next, message, hfailed⟩
    · rw [hok, hok]
      exact ⟨rfl, .noted hget rfl rfl⟩
    · rw [hfailed, hfailed]
      exact ⟨rfl, .same⟩
  · have hresolve := resolve_of_agrees hc (not_exists.1 hget)
    rw [diagnosticOf, diagnosticOf, perform, perform, hresolve, hc.name]
    exact ⟨rfl, .same⟩

/-- Chains whose calls agree end in the same thread. -/
theorem thread_runCalls_of_agrees {calls calls' : List Call}
    (hcalls : List.Forall₂ (Call.Agrees r) calls calls') (index : ℕ) (t : Thread) :
    (runCalls h r index calls' t).1 = (runCalls h r index calls t).1 := by
  induction hcalls generalizing index t with
  | nil => rfl
  | cons hc _ ih =>
      rw [runCalls_cons, runCalls_cons]
      dsimp only
      rw [ih, (perform_of_agrees hc index t).1]

/-- At each place the diagnostics of such chains are the same but for a note. -/
theorem sameButNote_runCalls {calls calls' : List Call}
    (hcalls : List.Forall₂ (Call.Agrees r) calls calls') {index k : ℕ} {t : Thread}
    {d d' : Diagnostic}
    (hc : calls[k]? = some c) (hc' : calls'[k]? = some c')
    (hd : (runCalls h r index calls t).2[k]? = some d)
    (hd' : (runCalls h r index calls' t).2[k]? = some d') : d.SameButNote r c c' d' := by
  rw [getElem?_runCalls, hc, Option.map_some, Option.some.injEq] at hd
  rw [getElem?_runCalls, hc', Option.map_some, Option.some.injEq] at hd'
  have hagrees : c.Agrees r c' := by
    obtain ⟨hk, rfl⟩ := List.getElem?_eq_some_iff.1 hc
    obtain ⟨hk', rfl⟩ := List.getElem?_eq_some_iff.1 hc'
    exact hcalls.get hk hk'
  -- The calls before this place leave one thread.
  rw [thread_runCalls_of_agrees (List.forall₂_take k hcalls)] at hd'
  subst hd hd'
  exact (perform_of_agrees hagrees _ _).2

end Run

/-- **Ignored arguments do not interfere.** Take two chains whose calls have the same names,
and the same arguments where the operation takes one. On every host they are evaluated to
the same final value and the same effects. Place by place their diagnostics are the same,
apart from notes on ignored arguments in the messages of calls that succeed. -/
theorem evaluate_of_agrees {h : Host} {r : Registry} {seed : Value} {start : Accumulator}
    {calls calls' : List Call} (hcreate : h.create seed = .ok start)
    (hcalls : List.Forall₂ (Call.Agrees r) calls calls') :
    ∃ o o', evaluate h r seed calls = .ok o ∧ evaluate h r seed calls' = .ok o' ∧
      o'.final = o.final ∧ o'.effects = o.effects ∧
      o.diagnostics.length = calls.length ∧ o'.diagnostics.length = calls'.length ∧
      ∀ (k : ℕ) (c c' : Call) (d d' : Diagnostic), calls[k]? = some c → calls'[k]? = some c' →
        o.diagnostics[k]? = some d → o'.diagnostics[k]? = some d' → d.SameButNote r c c' d' := by
  have hthread := Run.thread_runCalls_of_agrees (h := h) hcalls 0 ⟨start, .empty⟩
  refine ⟨_, _, evaluate_eq_ok_iff.2 ⟨start, hcreate, rfl⟩,
    evaluate_eq_ok_iff.2 ⟨start, hcreate, rfl⟩, ?_, ?_, Run.length_runCalls calls 0 _,
    Run.length_runCalls calls' 0 _, ?_⟩
  · exact congrArg (fun t => t.accumulator.value) hthread
  · exact congrArg (fun t => t.journal.effects) hthread
  · intro k c c' d d' hc hc' hd hd'
    exact Run.sameButNote_runCalls hcalls hc hc' hd hd'

/-- Arguments are ignored by a call that fails, by one that succeeds and by one without an
operation, and the note on one of them shows. -/
theorem evaluate_of_agrees_around_marks :
    ∃ r o o', Host.lab.registry = .ok r ∧
      Host.lab.create (.num .zero) = .ok ⟨.zero, true, true⟩ ∧
      List.Forall₂ (Call.Agrees r)
        [⟨"MarkFail", .text "x", none⟩, ⟨"MarksCount", .text "it's", none⟩,
          ⟨"Nope", .text "1", none⟩, ⟨"Swap", .text "3", none⟩]
        [⟨"MarkFail", .null, none⟩, ⟨"MarksCount", .null, none⟩, ⟨"Nope", .null, none⟩,
          ⟨"Swap", .text "3", none⟩] ∧
      evaluate Host.lab r (.num .zero)
        [⟨"MarkFail", .text "x", none⟩, ⟨"MarksCount", .text "it's", none⟩,
          ⟨"Nope", .text "1", none⟩, ⟨"Swap", .text "3", none⟩] = .ok o ∧
      evaluate Host.lab r (.num .zero)
        [⟨"MarkFail", .null, none⟩, ⟨"MarksCount", .null, none⟩, ⟨"Nope", .null, none⟩,
          ⟨"Swap", .text "3", none⟩] = .ok o' ∧
      o'.final = o.final ∧ o'.effects = o.effects ∧
      o.diagnostics[1]? =
        some ⟨1, "MarksCount", .ok, "ignored argument \"it's\"; returned 1", .zero⟩ ∧
      o'.diagnostics[1]? = some ⟨1, "MarksCount", .ok, "returned 1", .zero⟩ := by
  obtain ⟨r, hr⟩ := Host.exists_registry_lab
  have hnope : r.get? "Nope" = none := Host.get?_eq_none hr (by decide +kernel)
  have hfail : r.get? "MarkFail" = some Host.markFail := Host.get?_markFail hr
  have hcount : r.get? "MarksCount" = some Host.marksCount := Host.get?_marksCount hr
  have hcreate : Host.lab.create (.num .zero) = .ok ⟨.zero, true, true⟩ := rfl
  have hcalls : List.Forall₂ (Call.Agrees r)
      [⟨"MarkFail", .text "x", none⟩, ⟨"MarksCount", .text "it's", none⟩,
        ⟨"Nope", .text "1", none⟩, ⟨"Swap", .text "3", none⟩]
      [⟨"MarkFail", .null, none⟩, ⟨"MarksCount", .null, none⟩, ⟨"Nope", .null, none⟩,
        ⟨"Swap", .text "3", none⟩] := by
    refine .cons ⟨rfl, fun run hrun => ?_⟩ (.cons ⟨rfl, fun run hrun => ?_⟩
      (.cons ⟨rfl, fun run hrun => ?_⟩ (.cons ⟨rfl, fun run hrun => rfl⟩ .nil)))
    · cases hfail.symm.trans hrun
    · cases hcount.symm.trans hrun
    · cases hnope.symm.trans hrun
  obtain ⟨o, o', ho, ho', hfinal, heffects, -⟩ := evaluate_of_agrees hcreate hcalls
  refine ⟨r, o, o', hr, hcreate, hcalls, ho, ho', hfinal, heffects, ?_⟩
  cases ho.symm.trans (evaluate_eq_ok_iff.2 ⟨_, hcreate, rfl⟩)
  cases ho'.symm.trans (evaluate_eq_ok_iff.2 ⟨_, hcreate, rfl⟩)
  simp only [Run.runCalls, Run.perform, Run.resolve, hnope, hfail, hcount, Host.get?_swap hr,
    Host.markFail, Host.marksCount]
  decide +kernel

end FluentCalc
