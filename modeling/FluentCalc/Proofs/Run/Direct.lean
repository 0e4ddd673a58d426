/-
# Dispatched calls and direct calls

A direct call is all or nothing. It takes on a value and has an effect, or it fails and
leaves the calculator as it was, although nothing in a method would bring back what a
step before the failing one has changed.

A call of an expression that the calculator can carry out stands for a direct call: a
method, and the number that the argument is read as. A chain of such calls, dispatched
one after the other, and the same methods, called one after the other on a single
calculator, go through the same values and have the same effects, although the first
works on copies that share a journal and the second changes one object.
-/

import FluentCalc.Host.Direct
import FluentCalc.Proofs.Host.Calculator

namespace FluentCalc.Calculator

/-- The state of a calculator after calls, one after the other. -/
def stateAfter (t : Thread) (calls : List (String × List Value)) : Thread :=
  ((directSteps t calls).getLast?.map Step.after).getD t

theorem stateAfter_cons (t : Thread) (call : String × List Value)
    (rest : List (String × List Value)) :
    stateAfter t (call :: rest) = stateAfter (directStep t call).after rest := by
  rw [stateAfter, stateAfter, directSteps, List.getLast?_cons, Option.map_some, Option.getD_some,
    Option.getD_map]

/-- Calls behind others go on from the state that the others leave. -/
theorem directSteps_append (t : Thread) (before later : List (String × List Value)) :
    directSteps t (before ++ later) =
      directSteps t before ++ directSteps (stateAfter t before) later := by
  induction before generalizing t with
  | nil => rfl
  | cons call rest ih =>
      rw [List.cons_append, directSteps, ih, directSteps, List.cons_append, stateAfter_cons]

theorem length_directSteps (t : Thread) (calls : List (String × List Value)) :
    (directSteps t calls).length = calls.length := by
  induction calls generalizing t with
  | nil => rfl
  | cons call rest ih => rw [directSteps, List.length_cons, ih, List.length_cons]

/-- The step of a call behind others. -/
theorem getElem?_directSteps_append (t : Thread) (before later : List (String × List Value))
    (call : String × List Value) : (directSteps t (before ++ call :: later))[before.length]? =
      some (directStep (stateAfter t before) call) := by
  rw [directSteps_append, ← length_directSteps t before,
    List.getElem?_append_right (Nat.le_refl _), Nat.sub_self]
  rfl

/-- What a call makes of a calculator on which others were called before. -/
theorem stateAfter_append (t : Thread) (before : List (String × List Value))
    (call : String × List Value) :
    stateAfter t (before ++ [call]) = (directStep (stateAfter t before) call).after := by
  have hsteps : directSteps t (before ++ [call]) =
      directSteps t before ++ [directStep (stateAfter t before) call] :=
    directSteps_append t before [call]
  rw [stateAfter, hsteps, List.getLast?_concat]
  rfl

theorem direct_binary (operation : Binary) (arguments : List Value) :
    direct operation.name arguments = operation.direct arguments := by
  cases operation <;> rfl

theorem direct_unary (operation : Unary) (arguments : List Value) :
    direct operation.name arguments = operation.direct arguments := by
  cases operation <;> rfl

/-- Work that fails and changes nothing, or takes on a value and has effects. -/
def AllOrNothing (work : Work Returned) : Prop :=
  ∀ t, (∃ cause, work t = .error cause t) ∨ ∃ returned value effects, work t =
    .ok returned ⟨{ t.accumulator with value := value }, t.journal.record t.accumulator effects⟩

theorem allOrNothing_throw (cause : Failure) : AllOrNothing (throw cause) :=
  fun _ => .inl ⟨cause, rfl⟩

theorem Binary.allOrNothing_direct (operation : Binary) (arguments : List Value) :
    AllOrNothing (operation.direct arguments) := by
  cases arguments with
  | nil => exact allOrNothing_throw _
  | cons argument rest =>
      cases rest with
      | nil =>
          intro t
          rcases operation.operand_cases argument with ⟨x, hx⟩ | ⟨cause, hcause, hzero⟩
          · exact .inr ⟨_, _, _, operation.method_of_standsFor hx t⟩
          · exact .inl ⟨cause, operation.method_of_refused hcause hzero t⟩
      | cons _ _ => exact allOrNothing_throw _

theorem Unary.allOrNothing_direct (operation : Unary) (arguments : List Value) :
    AllOrNothing (operation.direct arguments) := by
  cases arguments with
  | nil => exact fun t => .inr ⟨_, _, _, operation.method_eq t⟩
  | cons _ _ => exact allOrNothing_throw _

theorem allOrNothing_announce (arguments : List Value) : AllOrNothing (announce arguments) := by
  match arguments with
  | [topic, message] => exact fun t => .inr ⟨.value .null, t.accumulator.value, _, rfl⟩
  | [] | [_] | _ :: _ :: _ :: _ => exact allOrNothing_throw _

/-- **A direct call is all or nothing**, whatever is called with whatever arguments. -/
theorem allOrNothing_direct (method : String) (arguments : List Value) :
    AllOrNothing (direct method arguments) := by
  rw [direct]
  split
  · exact Binary.allOrNothing_direct _ _
  · split
    · exact Unary.allOrNothing_direct _ _
    · split
      · exact allOrNothing_announce _
      · exact allOrNothing_throw _

/-- The effects of a calculator stay on record. -/
theorem recorded_stateAfter (t : Thread) (calls : List (String × List Value)) :
    (stateAfter t calls).accumulator.recorded = t.accumulator.recorded := by
  induction calls generalizing t with
  | nil => rfl
  | cons call rest ih =>
      rw [stateAfter_cons, ih, directStep]
      rcases allOrNothing_direct call.1 call.2 t with ⟨_, hcall⟩ | ⟨_, _, _, hcall⟩
      · rw [hcall]
      · rw [hcall]

/-- The direct call that a call stands for: the method and its arguments. There is
none if no method has the name, or if it takes a number and none can be read. -/
def directCall? (c : Call) : Option (String × List Value) :=
  match Binary.all.find? fun operation => expressionName operation.name == c.name with
  | some operation => (Run.argument? c.argument).map fun x => (operation.name, [.num x])
  | none =>
    (Unary.all.find? fun operation => expressionName operation.name == c.name).map
      fun operation => (operation.name, [])

/-- The direct call of a request. -/
def Request.directCall? : Request → Option (String × List Value)
  | unknown => none
  | incomplete _ => none
  | binary operation x => some (operation.name, [.num x])
  | unary operation => some (operation.name, [])

theorem Binary.find?_expressionName (operation : Binary) :
    (all.find? fun other => expressionName other.name == expressionName operation.name) =
      some operation := by
  cases operation <;> decide +kernel

theorem Unary.find?_expressionName (operation : Unary) :
    (all.find? fun other => expressionName other.name == expressionName operation.name) =
      some operation := by
  cases operation <;> decide +kernel

theorem Binary.find?_eq_none {name : String} (h : name ∉ binaryNames) :
    (all.find? fun operation => expressionName operation.name == name) = none := by
  rw [List.find?_eq_none]
  intro operation _ hname
  exact h (mem_binaryNames_iff.2 ⟨operation, beq_iff_eq.1 hname⟩)

theorem Unary.find?_eq_none {name : String} (h : name ∉ unaryNames) :
    (all.find? fun operation => expressionName operation.name == name) = none := by
  rw [List.find?_eq_none]
  intro operation _ hname
  exact h (mem_unaryNames_iff.2 ⟨operation, beq_iff_eq.1 hname⟩)

/-- A call stands for the direct call of its request. -/
theorem directCall?_of_asks {c : Call} {request : Request} (h : Asks c request) :
    directCall? c = request.directCall? := by
  rw [directCall?]
  cases h with
  | unknown hname =>
      rw [List.mem_append, not_or] at hname
      rw [Binary.find?_eq_none hname.1, Unary.find?_eq_none hname.2]
      rfl
  | incomplete operation hname hargument =>
      rw [hname, operation.find?_expressionName, hargument]
      rfl
  | binary operation x hname hargument =>
      rw [hname, operation.find?_expressionName, hargument]
      rfl
  | unary operation hname =>
      have hbinary : c.name ∉ binaryNames := fun hmem =>
        not_mem_unaryNames hmem (mem_unaryNames_iff.2 ⟨operation, hname.symm⟩)
      rw [Binary.find?_eq_none hbinary, hname, operation.find?_expressionName]
      rfl

/-- The calls that stand for direct calls are those that succeed. -/
theorem exists_directCall?_iff {c : Call} : (∃ step, directCall? c = some step) ↔
    c.name ∈ unaryNames ∨ c.name ∈ binaryNames ∧ IsNumeral c.argument := by
  obtain ⟨request, hasks⟩ := exists_asks c
  rw [directCall?_of_asks hasks, ← hasks.status_eq_ok_iff]
  cases request <;> simp [Request.directCall?, Request.status]

/-- Calls that all succeed stand for a sequence of direct calls. -/
theorem exists_map_directCall? {calls : List Call}
    (h : ∀ c ∈ calls, c.name ∈ unaryNames ∨ c.name ∈ binaryNames ∧ IsNumeral c.argument) :
    ∃ steps : List (String × List Value), calls.map directCall? = steps.map some := by
  induction calls with
  | nil => exact ⟨[], rfl⟩
  | cons c rest ih =>
      rw [List.forall_mem_cons] at h
      obtain ⟨step, hstep⟩ := exists_directCall?_iff.2 h.1
      obtain ⟨steps, hsteps⟩ := ih h.2
      exact ⟨step :: steps, by rw [List.map_cons, List.map_cons, hstep, hsteps]⟩

/-- A direct call is answered by the reaction to its request. -/
theorem exists_directStep_of_directCall? {request : Request} {call : String × List Value}
    (h : request.directCall? = some call) (t : Thread) :
    ∃ returned, directStep t call = ⟨.ok returned, request.next t⟩ := by
  cases request with
  | unknown | incomplete _ => cases h
  | binary operation x =>
      cases h
      rw [directStep, direct_binary, Binary.direct, operation.method_of_standsFor (standsFor_num x)]
      exact ⟨.itself, rfl⟩
  | unary operation =>
      cases h
      rw [directStep, direct_unary, Unary.direct, operation.method_eq]
      exact ⟨_, rfl⟩

/-- A diagnostic and a step that tell of the same success. -/
structure Matches (d : Diagnostic) (s : Step) : Prop where
  status : d.status = .ok
  value : d.value = s.after.accumulator.value
  outcome : ∃ returned, s.outcome = .ok returned

/-- A run and the steps of the direct calls for which its calls stand go side by
side. -/
theorem matches_runCalls {r : Registry} (hr : host.registry = .ok r) {calls : List Call}
    {steps : List (String × List Value)} (hsteps : calls.map directCall? = steps.map some)
    (index : ℕ) (t : Thread) :
    List.Forall₂ Matches (Run.runCalls host r index calls t).2 (directSteps t steps) ∧
      (Run.runCalls host r index calls t).1 = stateAfter t steps := by
  induction calls generalizing steps index t with
  | nil =>
      cases steps with
      | nil => exact ⟨.nil, rfl⟩
      | cons step later => cases hsteps
  | cons c rest ih =>
      cases steps with
      | nil => cases hsteps
      | cons step later =>
          rw [List.map_cons, List.map_cons, List.cons.injEq] at hsteps
          obtain ⟨request, hasks⟩ := exists_asks c
          have hrequest := (directCall?_of_asks hasks).symm.trans hsteps.1
          have hok : request.status = .ok := by
            cases request with
            | unknown | incomplete _ => cases hrequest
            | binary _ _ | unary _ => rfl
          obtain ⟨returned, hstep⟩ := exists_directStep_of_directCall? hrequest t
          obtain ⟨message, hperform⟩ := perform_of_asks hr hasks
          obtain ⟨hmatches, hlast⟩ := ih hsteps.2 (index + 1) (request.next t)
          rw [Run.runCalls_cons, Run.diagnosticOf, hperform, directSteps, stateAfter_cons, hstep]
          exact ⟨.cons ⟨hok, rfl, returned, rfl⟩ hmatches, hlast⟩

/-- **Dispatching refines direct calls.** If every call has the name of an operation
and, where the operation takes a number, an argument that can be read, then every call
stands for a direct call, and the evaluation and the direct calls on one calculator with
the same seed go side by side: all succeed, each leaves the same value, and the effects
are the same. -/
theorem exists_evaluate_directSteps {r : Registry} (hr : host.registry = .ok r) (seed : Double)
    {calls : List Call} (hcalls : ∀ c ∈ calls,
      c.name ∈ unaryNames ∨ c.name ∈ binaryNames ∧ IsNumeral c.argument) :
    ∃ o steps, evaluate host r (.num seed) calls = .ok o ∧
      calls.map directCall? = steps.map some ∧
      List.Forall₂ Matches o.diagnostics (directSteps (start seed) steps) ∧
      o.effects = (stateAfter (start seed) steps).journal.effects := by
  obtain ⟨steps, hsteps⟩ := exists_map_directCall? hcalls
  obtain ⟨hmatches, hlast⟩ := matches_runCalls hr hsteps 0 (start seed)
  exact ⟨_, steps, evaluate_eq_ok_iff.2 ⟨_, create_num seed, rfl⟩, hsteps, hmatches,
    congrArg (fun last => last.journal.effects) hlast⟩

/-- Two refusals, an ignored argument and the way from an infinity to not-a-number. -/
theorem exists_evaluate_directSteps_of_infinite :
    ∃ r o steps, host.registry = .ok r ∧
      (∀ c ∈ [⟨"Divide", .text "-0", none⟩, ⟨"GetResult", .text "x", none⟩,
        ⟨"SquareRoot", .null, none⟩, ⟨"Multiply", .text " 0e9 ", none⟩],
        Call.name c ∈ unaryNames ∨ c.name ∈ binaryNames ∧ IsNumeral c.argument) ∧
      evaluate host r (.num (.infinite true)) [⟨"Divide", .text "-0", none⟩,
        ⟨"GetResult", .text "x", none⟩, ⟨"SquareRoot", .null, none⟩,
        ⟨"Multiply", .text " 0e9 ", none⟩] = .ok o ∧
      [⟨"Divide", .text "-0", none⟩, ⟨"GetResult", .text "x", none⟩,
        ⟨"SquareRoot", .null, none⟩, ⟨"Multiply", .text " 0e9 ", none⟩].map directCall? =
          steps.map some ∧
      List.Forall₂ Matches o.diagnostics (directSteps (start (.infinite true)) steps) ∧
      o.effects = (stateAfter (start (.infinite true)) steps).journal.effects ∧
      o.final = .nan := by
  obtain ⟨r, hr⟩ := exists_registry
  have hcalls : ∀ c ∈ [⟨"Divide", .text "-0", none⟩, ⟨"GetResult", .text "x", none⟩,
      ⟨"SquareRoot", .null, none⟩, ⟨"Multiply", .text " 0e9 ", none⟩],
      Call.name c ∈ unaryNames ∨ c.name ∈ binaryNames ∧ IsNumeral c.argument := by
    simp only [List.forall_mem_cons]
    exact ⟨.inr ⟨by decide, "-0", .finite true .zero, rfl, by decide +kernel⟩, .inl (by decide),
      .inl (by decide), .inr ⟨by decide, " 0e9 ", .zero, rfl, by decide +kernel⟩,
      List.forall_mem_nil _⟩
  obtain ⟨o, steps, ho, hsteps, hmatches, heffects⟩ :=
    exists_evaluate_directSteps hr (.infinite true) hcalls
  refine ⟨r, o, steps, hr, hcalls, ho, hsteps, hmatches, heffects, ?_⟩
  have hdivide : r.get? "Divide" = some Binary.divide.operation :=
    get?_binary hr .divide (by decide +kernel)
  have hresult : r.get? "GetResult" = some Unary.getResult.operation :=
    get?_unary hr .getResult (by decide +kernel)
  have hroot : r.get? "SquareRoot" = some Unary.squareRoot.operation :=
    get?_unary hr .squareRoot (by decide +kernel)
  have hmultiply : r.get? "Multiply" = some Binary.multiply.operation :=
    get?_binary hr .multiply (by decide +kernel)
  cases ho.symm.trans (evaluate_eq_ok_iff.2 ⟨_, create_num _, rfl⟩)
  simp only [Run.runCalls, Run.perform, Run.resolve, hdivide, hmultiply, hresult, hroot,
    Binary.operation, Unary.operation]
  decide +kernel

end FluentCalc.Calculator
