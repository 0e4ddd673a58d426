/-
# The log of the calculator

The calculator keeps a log, and a run on it leaves a diagnostic for each call. Log
and diagnostics tell the same story: the log is made of one block for each call, in
order, and a block says what the diagnostic of its call says. It is empty if the call
did not succeed or only asked for the value. Otherwise there is one effect in it,
which goes to the error stream if the calculator refused the request and left the
value alone, and ends in the value after the call if it did not.

The log passes from call to call in the journal and the value in the accumulator, so
that they agree is shown for one call and carried along the chain.
-/

import FluentCalc.Proofs.Host.Calculator

namespace FluentCalc.Calculator

/-- An argument that is a text of zero. -/
def IsZeroNumeral (argument : Value) : Prop :=
  ∃ text x, argument = .text text ∧ number? text.toList = .ok x ∧ x.isZero = true

/-- The calls that the calculator refuses without failing: a division by zero and
the square root of a number below zero. -/
def IsRefused (c : Call) (value : Double) : Prop :=
  c.name = "Divide" ∧ IsZeroNumeral c.argument ∨ c.name = "SquareRoot" ∧ value.isNegative = true

theorem Binary.expressionName_eq_divide_iff (operation : Binary) :
    expressionName operation.name = "Divide" ↔ operation = divide := by
  cases operation <;> decide +kernel

theorem Unary.expressionName_eq_squareRoot_iff (operation : Unary) :
    expressionName operation.name = "SquareRoot" ↔ operation = squareRoot := by
  cases operation <;> decide +kernel

theorem Unary.expressionName_eq_getResult_iff (operation : Unary) :
    expressionName operation.name = "GetResult" ↔ operation = getResult := by
  cases operation <;> decide +kernel

/-- An operation with an argument does not have the name of one without. -/
theorem Binary.expressionName_ne (operation : Binary) {name : String} (h : name ∈ unaryNames) :
    expressionName operation.name ≠ name := by
  rintro rfl
  exact not_mem_unaryNames (mem_binaryNames_iff.2 ⟨operation, rfl⟩) h

section Refused

variable {c : Call} {value : Double}

theorem isRefused_binary_iff {operation : Binary} {x : Double}
    (hname : c.name = expressionName operation.name)
    (hargument : Run.argument? c.argument = some x) :
    IsRefused c value ↔ operation = .divide ∧ x.isZero = true := by
  have hzero : IsZeroNumeral c.argument ↔ x.isZero = true := by
    obtain ⟨text, htext, hnumber⟩ := argument?_eq_some_iff.1 hargument
    simp [IsZeroNumeral, htext, hnumber]
  have hother : expressionName operation.name ≠ "SquareRoot" :=
    operation.expressionName_ne (by decide)
  simp [IsRefused, hname, operation.expressionName_eq_divide_iff, hother, hzero]

theorem isRefused_unary_iff {operation : Unary} (hname : c.name = expressionName operation.name) :
    IsRefused c value ↔ operation = .squareRoot ∧ value.isNegative = true := by
  have hother : expressionName operation.name ≠ "Divide" := by
    intro heq
    have hmem : "Divide" ∉ unaryNames := by decide
    exact hmem (mem_unaryNames_iff.2 ⟨operation, heq⟩)
  simp [IsRefused, hname, operation.expressionName_eq_squareRoot_iff, hother]

end Refused

/-- What a block of the log tells of a call, of the value before it and of its
diagnostic. -/
inductive Tells (c : Call) (before : Double) (d : Diagnostic) : List Effect → Prop
  /-- There is nothing to tell of a call that did not succeed, nor of one that asked
  for the value. -/
  | nothing (h : d.status ≠ .ok ∨ c.name = "GetResult") : Tells c before d []
  /-- A refusal goes to the error stream, and the value is left alone. -/
  | refusal (e : Effect) (hok : d.status = .ok) (hrefused : IsRefused c before)
      (htopics : e.topics = ["stderr"]) (hvalue : d.value = before) : Tells c before d [e]
  /-- Everything else goes to the output stream and ends in the value. -/
  | deed (e : Effect) (front : String) (hok : d.status = .ok) (hname : c.name ≠ "GetResult")
      (hrefused : ¬ IsRefused c before) (htopics : e.topics = ["stdout"])
      (hmessage : e.message = some (front ++ ": " ++ plainNumber d.value)) : Tells c before d [e]

/-- A deed that is logged ends in the value that was taken on. -/
theorem tells_logged {c : Call} {before : Double} {d : Diagnostic} {deed : String} {value : Double}
    (hok : d.status = .ok) (hvalue : d.value = value) (hname : c.name ≠ "GetResult")
    (hrefused : ¬ IsRefused c before) : Tells c before d (logged deed value).effect.toList := by
  have hmark : ", current value: " = ", current value" ++ ": " := rfl
  refine .deed _ (deed ++ ", current value") hok hname hrefused rfl ?_
  rw [hvalue, Effect.output, hmark, ← String.append_assoc]

/-- The effect of the reaction to a request tells of the call. -/
theorem tells_of_asks {c : Call} {request : Request} (h : Asks c request) {before : Double}
    {d : Diagnostic} (hstatus : d.status = request.status)
    (hvalue : d.value = (request.react before).value) :
    Tells c before d (request.react before).effect.toList := by
  cases h with
  | unknown _ | incomplete _ _ _ => exact .nothing (.inl (by simp [hstatus, Request.status]))
  | binary operation x hname hargument =>
      have hget : c.name ≠ "GetResult" := by
        rw [hname]
        exact operation.expressionName_ne (by decide)
      have hrefused : IsRefused c before ↔ _ := isRefused_binary_iff hname hargument
      cases operation with
      | add | subtract | multiply =>
          exact tells_logged hstatus hvalue hget (by simp [hrefused])
      | divide =>
          by_cases hzero : x.isZero = true
          · simp only [Request.react, Binary.react, hzero, ↓reduceIte] at hvalue ⊢
            exact .refusal _ hstatus (hrefused.2 ⟨rfl, hzero⟩) rfl hvalue
          · simp only [Request.react, Binary.react, hzero, Bool.false_eq_true, ↓reduceIte]
              at hvalue ⊢
            exact tells_logged hstatus hvalue hget (by simp [hrefused, hzero])
  | unary operation hname =>
      have hget : c.name = "GetResult" ↔ operation = .getResult := by
        rw [hname]
        exact operation.expressionName_eq_getResult_iff
      have hrefused : IsRefused c before ↔ _ := isRefused_unary_iff hname
      cases operation with
      | square => exact tells_logged hstatus hvalue (by simp [hget]) (by simp [hrefused])
      | squareRoot =>
          by_cases hnegative : before.isNegative = true
          · simp only [Request.react, Unary.react, hnegative, ↓reduceIte] at hvalue ⊢
            exact .refusal _ hstatus (hrefused.2 ⟨rfl, hnegative⟩) rfl hvalue
          · simp only [Request.react, Unary.react, hnegative, Bool.false_eq_true, ↓reduceIte]
              at hvalue ⊢
            exact tells_logged hstatus hvalue (by simp [hget]) (by simp [hrefused, hnegative])
      | clear =>
          have hzero : plainNumber .zero = "0" := by decide +kernel
          refine .deed _ "Calculator cleared, current value" hstatus (by simp [hget])
            (by simp [hrefused]) rfl ?_
          rw [hvalue]
          simp only [Request.react, Unary.react, hzero]
          rfl
      | getResult => exact .nothing (.inr (hget.2 rfl))
      | displayResult =>
          refine .deed _ "Final result" hstatus (by simp [hget]) (by simp [hrefused]) rfl ?_
          rw [hvalue]
          rfl

/-- Blocks of a log that tell of calls made one after the other, the first of them
at a value. -/
inductive TellsAll : Double → List Call → List Diagnostic → List (List Effect) → Prop
  | nil (value : Double) : TellsAll value [] [] []
  | cons {before : Double} {c : Call} {d : Diagnostic} {block : List Effect} {calls : List Call}
      {diagnostics : List Diagnostic} {blocks : List (List Effect)}
      (hfirst : Tells c before d block) (hrest : TellsAll d.value calls diagnostics blocks) :
      TellsAll before (c :: calls) (d :: diagnostics) (block :: blocks)

/-- A run adds to the log what tells of its calls. -/
theorem exists_tellsAll_runCalls {r : Registry} (hr : host.registry = .ok r) (calls : List Call)
    (index : ℕ) {t : Thread} (hrecorded : t.accumulator.recorded = true) :
    ∃ blocks, TellsAll t.accumulator.value calls (Run.runCalls host r index calls t).2 blocks ∧
      (Run.runCalls host r index calls t).1.journal.effects =
        t.journal.effects ++ blocks.flatten := by
  induction calls generalizing index t with
  | nil => exact ⟨[], .nil _, (List.append_nil _).symm⟩
  | cons c rest ih =>
      obtain ⟨request, hasks⟩ := exists_asks c
      obtain ⟨message, hperform⟩ := perform_of_asks hr hasks
      obtain ⟨blocks, hblocks, heffects⟩ := ih (index + 1) (t := request.next t) hrecorded
      rw [Run.runCalls_cons, Run.diagnosticOf, hperform]
      refine ⟨_, .cons (tells_of_asks hasks rfl rfl) hblocks, ?_⟩
      rw [heffects, Request.effects_next request hrecorded, List.append_assoc, List.flatten_cons]

/-- **The log and the diagnostics tell the same story.** Once a calculator is made,
every chain of calls has an outcome, and its effects are made of one block for each
call, in order, that tells of the call and its diagnostic. -/
theorem exists_evaluate_log {r : Registry} (hr : host.registry = .ok r) {seed : Value}
    {start : Accumulator} (hcreate : host.create seed = .ok start) (calls : List Call) :
    ∃ o blocks, evaluate host r seed calls = .ok o ∧
      TellsAll start.value calls o.diagnostics blocks ∧ o.effects = blocks.flatten := by
  have hrecorded : start.recorded = true := by
    rw [eq_of_create hcreate]
  obtain ⟨blocks, hblocks, heffects⟩ :=
    exists_tellsAll_runCalls hr calls 0 (t := ⟨start, .empty⟩) hrecorded
  exact ⟨_, blocks, evaluate_eq_ok_iff.2 ⟨start, hcreate, rfl⟩, hblocks, heffects⟩

/-- Two refusals at minus infinity, by a divisor that is too small and by the sign,
then a question for the value, a call without a meaning and a deed. -/
theorem exists_evaluate_log_of_refusals :
    ∃ r o blocks, host.registry = .ok r ∧
      host.create (.num (.infinite true)) = .ok ⟨.infinite true, false, true⟩ ∧
      evaluate host r (.num (.infinite true)) [⟨"Divide", .text "1e-999", none⟩,
        ⟨"SquareRoot", .null, none⟩, ⟨"GetResult", .null, none⟩, ⟨"Sqrt", .null, none⟩,
        ⟨"Clear", .null, none⟩] = .ok o ∧
      TellsAll (.infinite true) [⟨"Divide", .text "1e-999", none⟩, ⟨"SquareRoot", .null, none⟩,
        ⟨"GetResult", .null, none⟩, ⟨"Sqrt", .null, none⟩, ⟨"Clear", .null, none⟩]
        o.diagnostics blocks ∧
      o.effects = blocks.flatten ∧
      o.effects = [.error "Error: Cannot divide by zero!",
        .error "Error: Cannot take square root of negative number!",
        .output "Calculator cleared, current value: 0"] := by
  obtain ⟨r, hr⟩ := exists_registry
  have hdivide : r.get? "Divide" = some Binary.divide.operation :=
    get?_binary hr .divide (by decide +kernel)
  have hroot : r.get? "SquareRoot" = some Unary.squareRoot.operation :=
    get?_unary hr .squareRoot (by decide +kernel)
  have hresult : r.get? "GetResult" = some Unary.getResult.operation :=
    get?_unary hr .getResult (by decide +kernel)
  have hclear : r.get? "Clear" = some Unary.clear.operation :=
    get?_unary hr .clear (by decide +kernel)
  have hunknown : r.get? "Sqrt" = none := get?_eq_none hr (by decide)
  obtain ⟨o, ho, heffects⟩ : ∃ o, evaluate host r (.num (.infinite true))
      [⟨"Divide", .text "1e-999", none⟩, ⟨"SquareRoot", .null, none⟩, ⟨"GetResult", .null, none⟩,
        ⟨"Sqrt", .null, none⟩, ⟨"Clear", .null, none⟩] = .ok o ∧
      o.effects = [.error "Error: Cannot divide by zero!",
        .error "Error: Cannot take square root of negative number!",
        .output "Calculator cleared, current value: 0"] := by
    refine ⟨_, evaluate_eq_ok_iff.2 ⟨_, create_num _, rfl⟩, ?_⟩
    simp only [Run.runCalls, Run.perform, Run.resolve, hdivide, hroot, hresult, hclear, hunknown,
      Binary.operation, Unary.operation]
    decide +kernel
  obtain ⟨o', blocks, ho', hblocks, hflatten⟩ :=
    exists_evaluate_log hr (create_num (.infinite true))
    [⟨"Divide", .text "1e-999", none⟩, ⟨"SquareRoot", .null, none⟩, ⟨"GetResult", .null, none⟩,
      ⟨"Sqrt", .null, none⟩, ⟨"Clear", .null, none⟩]
  cases ho.symm.trans ho'
  exact ⟨r, o, blocks, hr, create_num _, ho, hblocks, hflatten, heffects⟩

end FluentCalc.Calculator
