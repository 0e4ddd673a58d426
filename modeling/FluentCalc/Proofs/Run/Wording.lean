/-
# What runs say is on one line

An expression brings texts of its source into a run: the names of its calls and their
arguments. A name has no line break in it, and an argument is shown between quotes,
where line breaks are escaped. What the calculator adds are fixed words and numbers in
print. So each message of a diagnostic and each effect of a run on the calculator is on
one line, whatever the source is.
-/

import FluentCalc.Proofs.Expression.Canonical
import FluentCalc.Proofs.Expression.Fault
import FluentCalc.Proofs.Run.Calculator

namespace FluentCalc

open Text

/-- There is no line break in a number in print. -/
theorem isUnbroken_plainNumber (x : Double) : IsUnbroken (plainNumber x).toList := by
  cases x with
  | finite n m =>
      refine fun c hc => not_isLineBreak_of (p := fun d => !isBlank d) (by decide +kernel) ?_
      simp [(plainNumber_chars rfl c hc).1]
  | infinite n => cases n <;> decide +kernel
  | nan => decide +kernel

namespace Call.IsWritten

variable {c : Call}

theorem isUnbroken_name (h : c.IsWritten) : IsUnbroken c.name.toList := by
  obtain ⟨raw, offset, hspelled, rfl⟩ := h
  rw [Scan.RawCall.toCall, String.toList_ofList]
  exact Expression.isUnbroken_of_isName hspelled.name

/-- An argument is shown between quotes. -/
theorem isUnbroken_quoted (h : c.IsWritten) : IsUnbroken c.argument.quoted.toList := by
  obtain ⟨raw, offset, -, rfl⟩ := h
  rw [Scan.RawCall.toCall]
  split
  · have hnull : IsUnbroken Value.null.quoted.toList := by decide +kernel
    exact hnull
  · exact Text.isUnbroken_quoted _

end Call.IsWritten

namespace Run

/-- What is said of a call when it is looked up is on one line. -/
def Binding.IsUnbroken : Binding → Prop
  | skipped verdict => Text.IsUnbroken verdict.message.toList
  | bound note _ => Text.IsUnbroken note.toList

theorem isUnbroken_resolve (r : Registry) {c : Call} (h : c.IsWritten) :
    (resolve r c).IsUnbroken := by
  have hname := h.isUnbroken_name
  have hquoted := h.isUnbroken_quoted
  rw [resolve]
  split
  · exact isUnbroken_toList_append.2 ⟨by decide, hname⟩
  · split
    · exact isUnbroken_toList_append.2 ⟨isUnbroken_toList_append.2 ⟨by decide, hname⟩, by decide⟩
    · split
      · exact isUnbroken_toList_append.2
          ⟨isUnbroken_toList_append.2 ⟨by decide, hquoted⟩, by decide⟩
      · exact List.forall_mem_nil _
  · split
    · exact List.forall_mem_nil _
    · exact isUnbroken_toList_append.2 ⟨by decide, hquoted⟩

theorem isUnbroken_joinNotes {a b : String} (ha : IsUnbroken a.toList) (hb : IsUnbroken b.toList) :
    IsUnbroken (joinNotes a b).toList := by
  rw [joinNotes]
  split
  · exact hb
  · split
    · exact ha
    · exact isUnbroken_toList_append.2 ⟨isUnbroken_toList_append.2 ⟨ha, by decide⟩, hb⟩

end Run

/-- An answer that is an accumulator, alone or with a number. -/
def Answer.IsNumeric : Answer → Prop
  | accumulator _ => True
  | plain _ value => ∃ x, value = .num x
  | failure _ _ => False

/-- An action all of whose answers are numeric. -/
def Action.IsNumeric (action : Action) : Prop :=
  ∀ a j, (action a j).1.IsNumeric

/-- A numeric answer adds to a note at most a number in print. -/
theorem Run.isUnbroken_settle {t : Thread} {note : String} {answer : Answer × Journal}
    (hnote : IsUnbroken note.toList) (h : answer.1.IsNumeric) :
    IsUnbroken (settle t note answer).2.message.toList := by
  obtain ⟨answer, j⟩ := answer
  cases answer with
  | accumulator next => exact hnote
  | plain next value =>
      obtain ⟨x, rfl⟩ := h
      exact isUnbroken_joinNotes hnote
        (isUnbroken_toList_append.2 ⟨by decide, isUnbroken_plainNumber x⟩)
  | failure left cause => exact h.elim

namespace Calculator

theorem isNumeric_of_mem_methods : ∀ m ∈ methods, m.Satisfies Action.IsNumeric := by
  apply satisfies_of_mem_methods
  · intro operation x a j
    rw [operation.action_method x ⟨a, j⟩]
    trivial
  · intro operation a j
    rw [operation.action_method ⟨a, j⟩]
    cases operation with
    | square | squareRoot | clear | displayResult => trivial
    | getResult => exact ⟨a.value, rfl⟩

theorem isUnbroken_perform {r : Registry} (hr : host.registry = .ok r) {c : Call}
    (h : c.IsWritten) (t : Thread) :
    IsUnbroken (Run.perform host r c t).2.message.toList := by
  have hresolve := Run.isUnbroken_resolve r h
  cases hc : Run.resolve r c with
  | skipped verdict =>
      rw [Run.perform_of_skipped hc]
      rwa [hc] at hresolve
  | bound note action =>
      rw [hc] at hresolve
      have haction : Action.IsNumeric action :=
        Run.satisfies_of_bound isNumeric_of_mem_methods hr hc
      rw [Run.perform_of_copyable (h := host) rfl hc]
      exact Run.isUnbroken_settle hresolve (haction _ _)

end Calculator

/-- A message on one line for one of the two streams. -/
inductive Effect.IsLine : Effect → Prop
  | output {message : String} (h : IsUnbroken message.toList) : IsLine (.output message)
  | error {message : String} (h : IsUnbroken message.toList) : IsLine (.error message)

namespace Calculator

theorem isLine_of_mem_logged {deed : String} (hdeed : IsUnbroken deed.toList) {value : Double} :
    ∀ e ∈ (logged deed value).effect, e.IsLine := by
  rintro _ ⟨⟩
  exact .output (isUnbroken_toList_append.2
    ⟨isUnbroken_toList_append.2 ⟨hdeed, by decide⟩, isUnbroken_plainNumber value⟩)

theorem Request.isLine_of_mem_effect (request : Request) (value : Double) :
    ∀ e ∈ (request.react value).effect, e.IsLine := by
  cases request with
  | unknown | incomplete _ => rintro _ ⟨⟩
  | binary operation x =>
      have hdeed (front : String) (hfront : IsUnbroken front.toList) :
          IsUnbroken (front ++ plainNumber x).toList :=
        isUnbroken_toList_append.2 ⟨hfront, isUnbroken_plainNumber x⟩
      cases operation with
      | add | subtract | multiply => exact isLine_of_mem_logged (hdeed _ (by decide))
      | divide =>
          simp only [react, Binary.react]
          split
          · rintro _ ⟨⟩
            exact .error (by decide)
          · exact isLine_of_mem_logged (hdeed _ (by decide))
  | unary operation =>
      cases operation with
      | square => exact isLine_of_mem_logged (by decide)
      | squareRoot =>
          simp only [react, Unary.react]
          split
          · rintro _ ⟨⟩
            exact .error (by decide)
          · exact isLine_of_mem_logged (by decide)
      | clear =>
          rintro _ ⟨⟩
          exact .output (by decide)
      | getResult => rintro _ ⟨⟩
      | displayResult =>
          rintro _ ⟨⟩
          exact .output (isUnbroken_toList_append.2 ⟨by decide, isUnbroken_plainNumber value⟩)

/-- All effects in a journal are lines. -/
theorem Request.isLine_of_mem_next (request : Request) {t : Thread}
    (ht : ∀ e ∈ t.journal.effects, e.IsLine) :
    ∀ e ∈ (request.next t).journal.effects, e.IsLine := by
  intro e he
  simp only [next, Reaction.apply, Journal.record] at he
  split at he
  · rcases List.mem_append.1 he with hbefore | heffect
    · exact ht e hbefore
    · exact request.isLine_of_mem_effect _ e (Option.mem_toList.1 heffect)
  · exact ht e he

end Calculator

/-- An outcome whose effects are lines and whose diagnostics have names and messages on
one line. -/
structure Outcome.IsReadable (o : Outcome) : Prop where
  effects : ∀ e ∈ o.effects, e.IsLine
  diagnostics : ∀ d ∈ o.diagnostics, IsUnbroken d.name.toList ∧ IsUnbroken d.message.toList

/-- **A run on the calculator can be read line by line.** -/
theorem Calculator.isReadable_runCalls {r : Registry} (hr : host.registry = .ok r)
    {calls : List Call} (hcalls : ∀ c ∈ calls, c.IsWritten) (index : ℕ) {t : Thread}
    (ht : ∀ e ∈ t.journal.effects, e.IsLine) :
    (Run.outcomeOf (Run.runCalls host r index calls t)).IsReadable := by
  induction calls generalizing index t with
  | nil => exact ⟨ht, List.forall_mem_nil _⟩
  | cons c rest ih =>
      rw [List.forall_mem_cons] at hcalls
      obtain ⟨request, hasks⟩ := exists_asks c
      obtain ⟨message, hperform⟩ := perform_of_asks hr hasks
      have hnext : ∀ e ∈ (Run.perform host r c t).1.journal.effects, e.IsLine := by
        rw [hperform]
        exact request.isLine_of_mem_next ht
      have hrest := ih hcalls.2 (index + 1) hnext
      rw [Run.runCalls_cons]
      exact ⟨hrest.effects, List.forall_mem_cons.2
        ⟨⟨hcalls.1.isUnbroken_name, isUnbroken_perform hr hcalls.1 t⟩, hrest.diagnostics⟩⟩

end FluentCalc
