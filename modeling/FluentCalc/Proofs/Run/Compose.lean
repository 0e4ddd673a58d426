/-
# Runs in two parts

On some hosts an accumulator holds nothing but its value, and its operations look
at nothing else. There a chain can be cut anywhere and evaluated in two parts, the
second with the final value of the first as its seed. Nothing else passes from one
call to the next: not the journal, to which steady calls only add, and not what a
failing call did to its working copy.

The value is passed on as it is, so infinities, not-a-numbers and negative zeros
may stand where the chain is cut.
-/

import FluentCalc.Proofs.Host.Calculator

namespace FluentCalc

namespace Journal

/-- One journal behind another. -/
def append (j k : Journal) : Journal :=
  ⟨j.effects ++ k.effects, j.marks + k.marks⟩

instance : Append Journal := ⟨append⟩

@[simp]
theorem append_empty (j : Journal) : j ++ empty = j := by
  obtain ⟨effects, marks⟩ := j
  exact congrArg (fun effects => Journal.mk effects marks) (List.append_nil effects)

/-- Effects are recorded in the last of two journals. -/
theorem record_append (j k : Journal) (a : Accumulator) (effects : List Effect) :
    (j ++ k).record a effects = j ++ k.record a effects := by
  rw [record, record]
  split
  · exact congrArg (fun effects => Journal.mk effects _) (List.append_assoc _ _ _)
  · rfl

end Journal

/-- A thread with an earlier journal in front of its own. -/
def Thread.behind (t : Thread) (j : Journal) : Thread :=
  ⟨t.accumulator, j ++ t.journal⟩

/-- A diagnostic at a place further back. -/
def Diagnostic.later (n : ℕ) (d : Diagnostic) : Diagnostic :=
  { d with index := d.index + n }

namespace Run

variable {h : Host} {r : Registry}

theorem settle_behind (j k : Journal) (t : Thread) (note : String) (answer : Answer) :
    settle (t.behind j) note (answer, j ++ k) =
      ((settle t note (answer, k)).1.behind j, (settle t note (answer, k)).2) := by
  cases answer with
  | accumulator next => rfl
  | plain next value => rfl
  | failure cause => rfl

section Steady

variable (hsteady : ∀ m ∈ h.methods, m.Satisfies Action.IsSteady) (hr : h.registry = .ok r)

include hsteady hr

/-- A steady call takes no notice of an earlier journal. -/
theorem perform_behind (c : Call) (j : Journal) (t : Thread) :
    perform h r c (t.behind j) = ((perform h r c t).1.behind j, (perform h r c t).2) := by
  cases hc : resolve r c with
  | skipped verdict => rw [perform_of_skipped hc, perform_of_skipped hc]
  | bound note action =>
      have haction : Action.IsSteady action := satisfies_of_bound hsteady hr hc
      obtain ⟨answer, effects, hperform, -⟩ := exists_perform_of_steady hc haction
      have hrecord := Journal.record_append j t.journal t.accumulator (effects t.accumulator)
      rw [hperform, hperform, ← settle_behind, ← hrecord]
      rfl

/-- A chain of steady calls takes no notice of an earlier journal, and what it is
behind only moves its places. -/
theorem runCalls_behind (calls : List Call) (index n : ℕ) (j : Journal) (t : Thread) :
    runCalls h r (index + n) calls (t.behind j) =
      ((runCalls h r index calls t).1.behind j,
        (runCalls h r index calls t).2.map (Diagnostic.later n)) := by
  induction calls generalizing index t with
  | nil => rfl
  | cons c rest ih =>
      have hstep := perform_behind hsteady hr c j t
      have hfirst : diagnosticOf h r (index + n) c (t.behind j) =
          (diagnosticOf h r index c t).later n := by
        rw [diagnosticOf, hstep]
        rfl
      rw [runCalls_cons, runCalls_cons, hstep, Nat.add_right_comm, ih, hfirst, List.map_cons]

end Steady

end Run

/-- An answer that changes nothing of an accumulator but its value. -/
def Answer.ChangesOnlyValue (a : Accumulator) (answer : Answer) : Prop :=
  ∀ next, answer.next? = some next → ∃ x, next = { a with value := x }

/-- An action that changes nothing of an accumulator but its value. -/
def Action.ChangesOnlyValue (action : Action) : Prop :=
  ∀ a j, (action a j).1.ChangesOnlyValue a

/-- A host whose accumulators are told apart by their values: operations change
nothing else, and an accumulator with any value can be made afresh. -/
structure Host.IsValueOnly (h : Host) : Prop where
  steady : ∀ m ∈ h.methods, m.Satisfies Action.IsSteady
  changes : ∀ m ∈ h.methods, m.Satisfies Action.ChangesOnlyValue
  create : ∀ seed a x, h.create seed = .ok a → h.create (.num x) = .ok { a with value := x }

namespace Run

variable {h : Host} {r : Registry}
  (hchanges : ∀ m ∈ h.methods, m.Satisfies Action.ChangesOnlyValue) (hr : h.registry = .ok r)

include hchanges hr

theorem exists_value_perform (c : Call) (t : Thread) :
    ∃ x, (perform h r c t).1.accumulator = { t.accumulator with value := x } := by
  cases hc : resolve r c with
  | skipped verdict =>
      rw [perform_of_skipped hc]
      exact ⟨t.accumulator.value, rfl⟩
  | bound note action =>
      rw [perform_of_bound hc, invoke]
      split
      · exact ⟨t.accumulator.value, rfl⟩
      · rw [accumulator_settle]
        cases hnext : (action t.accumulator t.journal).1.next? with
        | none => exact ⟨t.accumulator.value, rfl⟩
        | some next =>
            have haction : Action.ChangesOnlyValue action := satisfies_of_bound hchanges hr hc
            exact haction _ _ next hnext

theorem exists_value_runCalls (calls : List Call) (index : ℕ) (t : Thread) :
    ∃ x, (runCalls h r index calls t).1.accumulator = { t.accumulator with value := x } := by
  induction calls generalizing index t with
  | nil => exact ⟨t.accumulator.value, rfl⟩
  | cons c rest ih =>
      obtain ⟨x, hx⟩ := exists_value_perform hchanges hr c t
      obtain ⟨y, hy⟩ := ih (index + 1) (perform h r c t).1
      refine ⟨y, ?_⟩
      rw [runCalls_cons, hy, hx]

end Run

namespace Calculator

theorem changesOnlyValue_of_mem_methods :
    ∀ m ∈ methods, m.Satisfies Action.ChangesOnlyValue := by
  apply satisfies_of_mem_methods
  · intro operation x a j
    rw [operation.action_method x ⟨a, j⟩]
    rintro _ ⟨⟩
    exact ⟨_, rfl⟩
  · intro operation a j
    rw [operation.action_method ⟨a, j⟩]
    cases operation with
    | square | squareRoot | clear | getResult | displayResult =>
        rintro _ ⟨⟩
        exact ⟨_, rfl⟩

/-- A host that is made as the calculator is and only has more methods. -/
theorem isValueOnly_append {h : Host} {more : List Method}
    (hmethods : h.methods = methods ++ more) (hcreate : h.create = create)
    (hsteady : ∀ m ∈ more, m.Satisfies Action.IsSteady)
    (hchanges : ∀ m ∈ more, m.Satisfies Action.ChangesOnlyValue) : h.IsValueOnly where
  steady := by
    rw [hmethods]
    exact List.forall_mem_append.2 ⟨fun m hm => (isSteady_of_mem_methods m hm).actions, hsteady⟩
  changes := by
    rw [hmethods]
    exact List.forall_mem_append.2 ⟨changesOnlyValue_of_mem_methods, hchanges⟩
  create := by
    intro seed a x ha
    rw [hcreate] at ha ⊢
    rw [create_num, eq_of_create ha]

end Calculator

namespace Host

/-- The calculator and two hosts that have one operation more and no more state. -/
def valueOnly : List Host :=
  [Calculator.host, doubler, flaky]

theorem isValueOnly_of_mem_valueOnly {h : Host} (hh : h ∈ valueOnly) : h.IsValueOnly := by
  simp only [valueOnly, List.mem_cons, List.not_mem_nil, or_false] at hh
  rcases hh with rfl | rfl | rfl
  · exact Calculator.isValueOnly_append (List.append_nil _).symm rfl (List.forall_mem_nil _)
      (List.forall_mem_nil _)
  · refine Calculator.isValueOnly_append rfl rfl
      (List.forall_mem_singleton.2 (Method.satisfies_runs (isSteady_silently _)))
      (List.forall_mem_singleton.2 (Method.satisfies_runs ?_))
    rintro a j _ ⟨⟩
    exact ⟨_, rfl⟩
  · refine Calculator.isValueOnly_append rfl rfl
      (List.forall_mem_singleton.2 (Method.satisfies_runs isSteady_explode))
      (List.forall_mem_singleton.2 (Method.satisfies_runs ?_))
    rintro x a j _ ⟨⟩

end Host

/-- **Evaluation is compositional where the state is a value.** A chain in two parts
is evaluated to the outcome of its first part followed by that of the second, which
starts from the final value of the first. -/
theorem evaluate_append {h : Host} {r : Registry} {seed : Value} {first : List Call}
    {o₁ : Outcome} (hh : h ∈ Host.valueOnly) (hr : h.registry = .ok r)
    (ho : evaluate h r seed first = .ok o₁) (second : List Call) :
    ∃ o₂, evaluate h r (.num o₁.final) second = .ok o₂ ∧
      evaluate h r seed (first ++ second) = .ok
        { final := o₂.final
          diagnostics := o₁.diagnostics ++ o₂.diagnostics.map (Diagnostic.later first.length)
          effects := o₁.effects ++ o₂.effects } := by
  have hvalue := Host.isValueOnly_of_mem_valueOnly hh
  obtain ⟨start, hcreate, rfl⟩ := evaluate_eq_ok_iff.1 ho
  -- The second part starts with the accumulator that the first one leaves.
  obtain ⟨x, hx⟩ := Run.exists_value_runCalls hvalue.changes hr first 0 ⟨start, .empty⟩
  set middle := (Run.runCalls h r 0 first ⟨start, .empty⟩).1 with hmiddle
  have hmade : h.create (.num middle.accumulator.value) = .ok middle.accumulator := by
    rw [hx]
    exact hvalue.create seed start x hcreate
  have hbehind : middle = Thread.behind ⟨middle.accumulator, .empty⟩ middle.journal := by
    rw [Thread.behind, Journal.append_empty]
  refine ⟨_, evaluate_eq_ok_iff.2 ⟨_, hmade, rfl⟩, evaluate_eq_ok_iff.2 ⟨start, hcreate, ?_⟩⟩
  rw [Run.runCalls_append, ← hmiddle, hbehind, Run.runCalls_behind hvalue.steady hr]
  rfl

/-- The chain is cut behind a failing call, where the value is not-a-number. -/
theorem evaluate_append_of_nan :
    ∃ r o₁ o₂, Host.flaky ∈ Host.valueOnly ∧ Host.flaky.registry = .ok r ∧
      evaluate Host.flaky r (.num (.infinite false))
        [⟨"Multiply", .text "0", none⟩, ⟨"Explode", .text "1", none⟩] = .ok o₁ ∧
      o₁.final = .nan ∧ o₁.effects.length = 2 ∧
      evaluate Host.flaky r (.num .nan) [⟨"Explode", .text "2", none⟩] = .ok o₂ ∧
      evaluate Host.flaky r (.num (.infinite false)) [⟨"Multiply", .text "0", none⟩,
        ⟨"Explode", .text "1", none⟩, ⟨"Explode", .text "2", none⟩] = .ok
          { final := o₂.final
            diagnostics := o₁.diagnostics ++ o₂.diagnostics.map (Diagnostic.later 2)
            effects := o₁.effects ++ o₂.effects } := by
  obtain ⟨r, hr⟩ := Host.exists_registry_flaky
  have hmultiply : r.get? "Multiply" = some Calculator.Binary.multiply.operation :=
    Host.get?_of_count hr (List.mem_of_getElem? (i := 2) rfl) rfl rfl (by decide +kernel)
      (by decide +kernel)
  have hexplode : r.get? "Explode" = some Host.explode :=
    Host.get?_of_count hr (List.mem_of_getElem? (i := 9) rfl) rfl rfl (by decide +kernel)
      (by decide +kernel)
  obtain ⟨o₁, ho₁, hfinal, heffects⟩ : ∃ o₁,
      evaluate Host.flaky r (.num (.infinite false))
        [⟨"Multiply", .text "0", none⟩, ⟨"Explode", .text "1", none⟩] = .ok o₁ ∧
      o₁.final = .nan ∧ o₁.effects.length = 2 := by
    refine ⟨_, evaluate_eq_ok_iff.2 ⟨_, Calculator.create_num _, rfl⟩, ?_⟩
    simp only [Run.runCalls, Run.perform, Run.resolve, hmultiply, hexplode, Host.explode,
      Calculator.Binary.operation]
    decide +kernel
  have hmem : Host.flaky ∈ Host.valueOnly := by simp [Host.valueOnly]
  obtain ⟨o₂, ho₂, hwhole⟩ := evaluate_append hmem hr ho₁ [⟨"Explode", .text "2", none⟩]
  rw [hfinal] at ho₂
  exact ⟨r, o₁, o₂, hmem, hr, ho₁, hfinal, heffects, ho₂, hwhole⟩

end FluentCalc
