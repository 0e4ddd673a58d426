/-
# What the hosts of the catalogue can do

Nearly all actions of the catalogue are *steady*: they answer by the accumulator
alone, and all they do to the journal is to record effects. The two that deal
with the marks are not. One leaves a mark before it fails, the other counts the
marks. Only one host has them.

So no action of the catalogue takes back an effect, and what accumulators share
besides the effects is told by the names of two operations.
-/

import Mathlib.Data.List.Basic
import FluentCalc.Host.Catalogue
import FluentCalc.Proofs.Host.Reaction
import FluentCalc.Proofs.Host.Registry

namespace FluentCalc

namespace Journal

theorem effects_prefix_record (j : Journal) (a : Accumulator) (effects : List Effect) :
    j.effects <+: (j.record a effects).effects := by
  rw [record]
  split
  · exact List.prefix_append _ _
  · exact List.prefix_rfl

@[simp]
theorem marks_record (j : Journal) (a : Accumulator) (effects : List Effect) :
    (j.record a effects).marks = j.marks := by
  rw [record]
  split <;> rfl

end Journal

/-- The accumulator that a run goes on with, unless the answer is a failure. -/
def Answer.next? : Answer → Option Accumulator
  | accumulator next => some next
  | plain next _ => some next
  | failure _ _ => none

/-- An answer to an accumulator that does not bring it the marks. -/
def Answer.KeepsMarked (a : Accumulator) (answer : Answer) : Prop :=
  ∀ next, answer.next? = some next → next.marked = true → a.marked = true

namespace Answer

variable {a next : Accumulator}

theorem keepsMarked_accumulator (h : next.marked = true → a.marked = true) :
    (accumulator next).KeepsMarked a := by
  rintro _ ⟨⟩
  exact h

theorem keepsMarked_plain (value : Value) (h : next.marked = true → a.marked = true) :
    (plain next value).KeepsMarked a := by
  rintro _ ⟨⟩
  exact h

theorem keepsMarked_failure (left : Accumulator) (cause : Failure) :
    (failure left cause).KeepsMarked a := by
  rintro _ ⟨⟩

end Answer

namespace Action

/-- An action that takes back no effect of the run. -/
def OnlyEmits (action : Action) : Prop :=
  ∀ a j, j.effects <+: (action a j).2.effects

/-- An action whose answer and whose effects depend on the accumulator alone,
and that makes no accumulator share the marks. -/
def IsSteady (action : Action) : Prop :=
  ∃ (answer : Accumulator → Answer) (effects : Accumulator → List Effect),
    (∀ a j, action a j = (answer a, j.record a (effects a))) ∧ ∀ a, (answer a).KeepsMarked a

theorem IsSteady.onlyEmits {action : Action} (h : action.IsSteady) : action.OnlyEmits := by
  obtain ⟨answer, effects, heq, -⟩ := h
  intro a j
  rw [heq]
  exact j.effects_prefix_record a (effects a)

/-- An action that has no effects is steady. -/
theorem isSteady_of_answer {answer : Accumulator → Answer} (h : ∀ a, (answer a).KeepsMarked a) :
    IsSteady fun a j => (answer a, j) :=
  ⟨answer, fun _ => [], fun a j => by rw [Journal.record_nil], h⟩

end Action

/-- A host none of whose methods takes back an effect. -/
def Host.OnlyEmits (h : Host) : Prop :=
  ∀ m ∈ h.methods, m.Satisfies Action.OnlyEmits

/-- The names by which expressions leave a mark and count the marks. -/
def Host.markNames : List String :=
  ["MarkFail", "MarksCount"]

/-- A method with steady actions and a name that has nothing to do with marks. -/
structure Method.IsSteady (m : Method) : Prop where
  actions : m.Satisfies Action.IsSteady
  name : expressionName m.name ∉ Host.markNames

theorem Method.isSteady_runs {name : String} {exposed : Bool} {operation : Operation}
    (h : operation.Satisfies Action.IsSteady)
    (hname : expressionName name ∉ Host.markNames := by decide +kernel) :
    Method.IsSteady ⟨name, exposed, .runs operation⟩ :=
  ⟨Method.satisfies_runs h, hname⟩

namespace Calculator

theorem Binary.isSteady (operation : Binary) : operation.operation.Satisfies Action.IsSteady :=
  fun x =>
    ⟨fun a => .accumulator { a with value := (operation.react (plainNumber x) x a.value).value },
      fun a => (operation.react (plainNumber x) x a.value).effect.toList,
      fun a j => operation.action_method x ⟨a, j⟩, fun _ => Answer.keepsMarked_accumulator id⟩

theorem Unary.isSteady (operation : Unary) : operation.operation.Satisfies Action.IsSteady := by
  have haction := fun a j => operation.action_method ⟨a, j⟩
  cases operation with
  | getResult =>
      exact ⟨fun a => .plain a (.num a.value), fun a => (getResult.react a.value).effect.toList,
        haction, fun a => Answer.keepsMarked_plain (.num a.value) id⟩
  | square | squareRoot | clear | displayResult =>
      exact ⟨fun a => .accumulator { a with value := (Unary.react _ a.value).value },
        fun a => (Unary.react _ a.value).effect.toList, haction,
        fun _ => Answer.keepsMarked_accumulator id⟩

/-- What holds of the actions of both sorts of operations holds of all methods. -/
theorem satisfies_of_mem_methods {P : Action → Prop}
    (hbinary : ∀ (operation : Binary) x, P (operation.method (.num x)).action)
    (hunary : ∀ operation : Unary, P operation.method.action) : ∀ m ∈ methods, m.Satisfies P := by
  intro m hm
  rcases List.mem_append.1 hm with hm | hm
  · obtain ⟨operation, -, rfl⟩ := List.mem_map.1 hm
    exact Method.satisfies_runs (hbinary operation)
  · obtain ⟨operation, -, rfl⟩ := List.mem_map.1 hm
    exact Method.satisfies_runs (hunary operation)

theorem isSteady_of_mem_methods : ∀ m ∈ methods, m.IsSteady := by
  have hbinary : ∀ operation : Binary, expressionName operation.name ∉ Host.markNames := by
    rintro (_ | _) <;> decide +kernel
  have hunary : ∀ operation : Unary, expressionName operation.name ∉ Host.markNames := by
    rintro (_ | _) <;> decide +kernel
  intro m hm
  rcases List.mem_append.1 hm with hm | hm
  · obtain ⟨operation, -, rfl⟩ := List.mem_map.1 hm
    exact Method.isSteady_runs operation.isSteady (hbinary operation)
  · obtain ⟨operation, -, rfl⟩ := List.mem_map.1 hm
    exact Method.isSteady_runs operation.isSteady (hunary operation)

theorem exists_operation {m : Method} (hm : m ∈ methods) :
    ∃ operation, m.body = .runs operation := by
  rcases List.mem_append.1 hm with hm | hm
  · obtain ⟨operation, -, rfl⟩ := List.mem_map.1 hm
    exact ⟨operation.operation, rfl⟩
  · obtain ⟨operation, -, rfl⟩ := List.mem_map.1 hm
    exact ⟨operation.operation, rfl⟩

theorem exists_registry : ∃ r, host.registry = .ok r :=
  Host.exists_registry fun _ hm _ => exists_operation hm

end Calculator

namespace Host

open FluentCalc.Action

theorem isSteady_silently (change : Double → Double) : (silently change).Satisfies IsSteady :=
  isSteady_of_answer fun _ => Answer.keepsMarked_accumulator id

theorem isSteady_returning (value : Value) : (returning value).Satisfies IsSteady :=
  isSteady_of_answer fun _ => Answer.keepsMarked_plain value id

theorem isSteady_failing (cause : Failure) : (failing cause).Satisfies IsSteady :=
  isSteady_of_answer fun a => Answer.keepsMarked_failure a cause

theorem isSteady_bump : bump.Satisfies IsSteady :=
  isSteady_of_answer fun a => Answer.keepsMarked_plain (.num a.value) id

/-- An explosion leaves an accumulator with a value of its own. -/
theorem explode_eq : explode = .unary fun x a j =>
    (.failure { a with value := Double.ofUnits false (999 * 2 ^ 1074) 1 }
      (.runtime ("boom " ++ Layout.standard.text x)), j.record a [.error "about to explode"]) :=
  rfl

theorem isSteady_explode : explode.Satisfies IsSteady := by
  rw [explode_eq]
  exact fun x => ⟨fun a => .failure { a with value := Double.ofUnits false (999 * 2 ^ 1074) 1 }
      (.runtime ("boom " ++ Layout.standard.text x)), fun _ => [.error "about to explode"],
    fun _ _ => rfl, fun _ => Answer.keepsMarked_failure _ _⟩

theorem isSteady_whisper : whisper.Satisfies IsSteady :=
  ⟨_, _, fun _ _ => rfl, fun _ => Answer.keepsMarked_accumulator id⟩

/-- The methods that leave a mark and count them. -/
def markMethods : List Method :=
  [⟨"mark_fail", true, .runs markFail⟩, ⟨"marks_count", true, .runs marksCount⟩]

theorem isSteady_lab : ∀ m ∈ lab.methods, m.IsSteady ∨ m ∈ markMethods := by
  have hfresh : ∀ (recorded : Accumulator → Bool) (x : Double),
      IsSteady fun a j => (.accumulator ⟨x, false, recorded a⟩, j) := fun recorded x =>
    isSteady_of_answer fun _ => Answer.keepsMarked_accumulator fun h => absurd h Bool.false_ne_true
  refine List.forall_mem_append.2 ⟨fun m hm => .inl (Calculator.isSteady_of_mem_methods m hm), ?_⟩
  simp only [List.forall_mem_cons]
  refine ⟨.inl ⟨Method.satisfies_runs (Calculator.Binary.isSteady .add), by decide +kernel⟩,
    .inl ⟨Method.satisfies_runs (Calculator.Unary.isSteady .square), by decide +kernel⟩,
    .inl (Method.isSteady_runs fun x =>
      isSteady_of_answer fun _ => Answer.keepsMarked_accumulator id),
    .inl (Method.isSteady_runs (isSteady_returning _)),
    .inl (Method.isSteady_runs (isSteady_returning _)),
    .inl (Method.isSteady_runs (isSteady_returning _)),
    .inl (Method.isSteady_runs (isSteady_returning _)),
    .inl (Method.isSteady_runs (isSteady_returning _)),
    .inl (Method.isSteady_runs (isSteady_returning _)),
    .inl (Method.isSteady_runs isSteady_bump),
    .inl (Method.isSteady_runs fun x =>
      isSteady_of_answer fun _ => Answer.keepsMarked_plain (.num x) id),
    .inl (Method.isSteady_runs (hfresh _)), .inl (Method.isSteady_runs (hfresh _)),
    .inr (by simp [markMethods]), .inr (by simp [markMethods]),
    .inl (Method.isSteady_runs (isSteady_failing _)),
    .inl (Method.isSteady_runs (isSteady_failing _)),
    .inl (Method.isSteady_runs (isSteady_failing _)),
    .inl (Method.isSteady_runs isSteady_whisper),
    .inl (Method.isSteady_runs (isSteady_silently _)), List.forall_mem_nil _⟩

theorem isSteady_counter : ∀ m ∈ counter.methods, m.IsSteady := by
  simp only [counter, List.forall_mem_cons]
  refine ⟨Method.isSteady_runs fun x =>
      isSteady_of_answer fun _ => Answer.keepsMarked_accumulator id,
    Method.isSteady_runs (isSteady_of_answer fun _ =>
      Answer.keepsMarked_accumulator fun h => absurd h Bool.false_ne_true),
    List.forall_mem_nil _⟩

/-- The calculator with one more steady method. -/
theorem isSteady_append {m : Method} (hm : m.IsSteady) :
    ∀ m' ∈ Calculator.methods ++ [m], m'.IsSteady :=
  List.forall_mem_append.2 ⟨Calculator.isSteady_of_mem_methods, List.forall_mem_singleton.2 hm⟩

/-- All methods of the catalogue are steady but the two that deal with marks. -/
theorem isSteady_of_mem_catalogue {h : Host} (hh : h ∈ catalogue) :
    ∀ m ∈ h.methods, m.IsSteady ∨ h = lab ∧ m ∈ markMethods := by
  have hboth : Method.IsSteady ⟨"add_both", true, .takes 2⟩ :=
    ⟨by rintro _ ⟨⟩, by decide +kernel⟩
  simp only [catalogue, List.mem_cons, List.not_mem_nil, or_false] at hh
  rcases hh with rfl | rfl | rfl | rfl | rfl | rfl | rfl | rfl
  · exact fun m hm => .inl (Calculator.isSteady_of_mem_methods m hm)
  · exact fun m hm => .inl (isSteady_append (Method.isSteady_runs (isSteady_silently _)) m hm)
  · exact fun m hm => .inl (isSteady_append (Method.isSteady_runs isSteady_explode) m hm)
  · exact fun m hm => .inl (Calculator.isSteady_of_mem_methods m hm)
  · exact fun m hm => .inl (Calculator.isSteady_of_mem_methods m hm)
  · exact fun m hm => .inl (isSteady_append hboth m hm)
  · exact fun m hm => .inl (isSteady_counter m hm)
  · exact fun m hm => (isSteady_lab m hm).imp_right fun hmark => ⟨rfl, hmark⟩

theorem exists_operation_lab {m : Method} (hm : m ∈ lab.methods) :
    ∃ operation, m.body = .runs operation := by
  rcases List.mem_append.1 hm with hm | hm
  · exact Calculator.exists_operation hm
  · simp only [List.mem_cons, List.not_mem_nil, or_false] at hm
    rcases hm with rfl | rfl | rfl | rfl | rfl | rfl | rfl | rfl | rfl | rfl | rfl | rfl | rfl |
      rfl | rfl | rfl | rfl | rfl | rfl | rfl <;> exact ⟨_, rfl⟩

theorem exists_registry_lab : ∃ r, lab.registry = .ok r :=
  exists_registry fun _ hm _ => exists_operation_lab hm

theorem exists_registry_flaky : ∃ r, flaky.registry = .ok r := by
  apply exists_registry
  intro m hm _
  rcases List.mem_append.1 hm with hm | hm
  · exact Calculator.exists_operation hm
  · cases List.mem_singleton.1 hm
    exact ⟨explode, rfl⟩

theorem get?_swap {r : Registry} (hr : lab.registry = .ok r) :
    r.get? "Swap" = some (.unary fun x _ j => (.accumulator ⟨x, false, false⟩, j)) :=
  get?_of_count hr (List.mem_of_getElem? (i := 20) rfl) rfl rfl (by decide +kernel)
    (by decide +kernel)

theorem get?_markFail {r : Registry} (hr : lab.registry = .ok r) :
    r.get? "MarkFail" = some markFail :=
  get?_of_count hr (List.mem_of_getElem? (i := 22) rfl) rfl rfl (by decide +kernel)
    (by decide +kernel)

theorem get?_marksCount {r : Registry} (hr : lab.registry = .ok r) :
    r.get? "MarksCount" = some marksCount :=
  get?_of_count hr (List.mem_of_getElem? (i := 23) rfl) rfl rfl (by decide +kernel)
    (by decide +kernel)

/-- An operation of a host in the catalogue is steady, or it is one of the two
that deal with marks, under its name. -/
theorem operation_cases {h : Host} {r : Registry} {name : String} {operation : Operation}
    (hh : h ∈ catalogue) (hr : h.registry = .ok r) (hget : r.get? name = some operation) :
    (operation.Satisfies IsSteady ∧ name ∉ markNames) ∨
      (h = lab ∧ name = "MarkFail" ∧ operation = markFail) ∨
      (h = lab ∧ name = "MarksCount" ∧ operation = marksCount) := by
  obtain ⟨m, hm, -, hbody, rfl⟩ := h.exists_method_of_get? hr hget
  rcases isSteady_of_mem_catalogue hh m hm with hsteady | ⟨hlab, hmark⟩
  · exact .inl ⟨hsteady.actions operation hbody, hsteady.name⟩
  · simp only [markMethods, List.mem_cons, List.not_mem_nil, or_false] at hmark
    rcases hmark with rfl | rfl
    · cases hbody
      exact .inr (.inl ⟨hlab, by decide +kernel, rfl⟩)
    · cases hbody
      exact .inr (.inr ⟨hlab, by decide +kernel, rfl⟩)

/-- A mark is left, and the accumulator with a value of its own, before the failure. -/
theorem markFail_eq : markFail = .nullary fun a j =>
    if a.marked then (.failure { a with value := Double.ofUnits true (7 * 2 ^ 1074) 1 }
      (.badValue "logged"), j.mark.record a [.output "marked"])
    else (.failure a noMarks, j) := by
  rw [markFail, Operation.nullary.injEq]
  funext a j
  have hget (next : Thread → Work Returned) : (get >>= next) ⟨a, j⟩ = next ⟨a, j⟩ ⟨a, j⟩ := rfl
  rw [Work.action, hget]
  by_cases hmarked : a.marked = true
  · rw [if_pos hmarked, if_pos hmarked]
    rfl
  · rw [if_neg hmarked, if_neg hmarked]
    rfl

theorem onlyEmits_markFail : markFail.Satisfies Action.OnlyEmits := by
  rw [markFail_eq]
  intro a j
  dsimp only
  split
  · exact j.mark.effects_prefix_record a _
  · exact List.prefix_rfl

theorem onlyEmits_marksCount : marksCount.Satisfies Action.OnlyEmits := by
  intro a j
  dsimp only
  split <;> exact List.prefix_rfl

/-- **No host of the catalogue takes back an effect.** -/
theorem onlyEmits_of_mem_catalogue {h : Host} (hh : h ∈ catalogue) : h.OnlyEmits := by
  intro m hm
  rcases isSteady_of_mem_catalogue hh m hm with hsteady | ⟨-, hmark⟩
  · exact fun operation hbody =>
      (hsteady.actions operation hbody).imp fun _ => Action.IsSteady.onlyEmits
  · simp only [markMethods, List.mem_cons, List.not_mem_nil, or_false] at hmark
    rcases hmark with rfl | rfl
    · exact Method.satisfies_runs onlyEmits_markFail
    · exact Method.satisfies_runs onlyEmits_marksCount

end Host

end FluentCalc
