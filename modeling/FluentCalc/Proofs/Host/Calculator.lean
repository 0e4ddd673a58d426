/-
# What calls ask of the calculator

The calculator has nine operations, and what a call asks of it is told by its name
and its argument alone: an operation that is not there, or one with an argument
for which the call brings no number, or one of the nine. Whatever is asked for, the
call goes by the reactions of the calculator, and none of these is a failure. So
one equation, `perform_of_asks`, says all that a call can do to a run on the
calculator, whichever accumulator the run has come to.
-/

import FluentCalc.Proofs.Run.Dispatch

namespace FluentCalc.Calculator

/-- The names by which expressions call the operations with an argument. -/
def binaryNames : List String :=
  ["Add", "Subtract", "Multiply", "Divide"]

/-- The names by which expressions call the operations without an argument. -/
def unaryNames : List String :=
  ["Square", "SquareRoot", "Clear", "GetResult", "DisplayResult"]

theorem map_expressionName_methods :
    (methods.map fun m => expressionName m.name) = binaryNames ++ unaryNames := by
  decide +kernel

theorem Binary.mem_all (operation : Binary) : operation ∈ all := by
  cases operation <;> decide

theorem Unary.mem_all (operation : Unary) : operation ∈ all := by
  cases operation <;> decide

theorem mem_binaryNames_iff {name : String} :
    name ∈ binaryNames ↔ ∃ operation : Binary, expressionName operation.name = name := by
  have hnames : binaryNames = Binary.all.map fun operation => expressionName operation.name := by
    decide +kernel
  simp only [hnames, List.mem_map, Binary.mem_all, true_and]

theorem mem_unaryNames_iff {name : String} :
    name ∈ unaryNames ↔ ∃ operation : Unary, expressionName operation.name = name := by
  have hnames : unaryNames = Unary.all.map fun operation => expressionName operation.name := by
    decide +kernel
  simp only [hnames, List.mem_map, Unary.mem_all, true_and]

/-- No name is that of an operation with an argument and of one without. -/
theorem not_mem_unaryNames {name : String} (h : name ∈ binaryNames) : name ∉ unaryNames := by
  simp only [binaryNames, List.mem_cons, List.not_mem_nil, or_false] at h
  rcases h with rfl | rfl | rfl | rfl <;> decide

theorem create_num (x : Double) : create (.num x) = .ok ⟨x, false, true⟩ :=
  rfl

theorem eq_of_create {seed : Value} {a : Accumulator} (h : create seed = .ok a) :
    a = ⟨a.value, false, true⟩ := by
  rw [create] at h
  cases hseed : seedNumber seed with
  | error cause => simp [hseed, bind, Except.bind] at h
  | ok x =>
      simp only [hseed, bind, Except.bind, pure, Except.pure, Except.ok.injEq] at h
      subst h
      rfl

section Registry

variable {r : Registry} (hr : host.registry = .ok r)

include hr

theorem get?_of_mem_methods {m : Method} {operation : Operation} (hm : m ∈ methods)
    (hexposed : m.exposed = true) (hbody : m.body = .runs operation) :
    r.get? (expressionName m.name) = some operation := by
  apply Host.get?_of_count hr hm hexposed hbody rfl
  have hcount : ∀ name ∈ binaryNames ++ unaryNames,
      (binaryNames ++ unaryNames).count name = 1 := by
    decide
  rw [show host.methods = methods from rfl, map_expressionName_methods]
  apply hcount
  rw [← map_expressionName_methods]
  exact List.mem_map.2 ⟨m, hm, rfl⟩

theorem get?_binary (operation : Binary) {name : String}
    (hname : name = expressionName operation.name) : r.get? name = some operation.operation := by
  subst hname
  exact get?_of_mem_methods (m := ⟨operation.name, true, .runs operation.operation⟩) hr
    (List.mem_append_left _ (List.mem_map.2 ⟨operation, operation.mem_all, rfl⟩)) rfl rfl

theorem get?_unary (operation : Unary) {name : String}
    (hname : name = expressionName operation.name) : r.get? name = some operation.operation := by
  subst hname
  exact get?_of_mem_methods (m := ⟨operation.name, true, .runs operation.operation⟩) hr
    (List.mem_append_right _ (List.mem_map.2 ⟨operation, operation.mem_all, rfl⟩)) rfl rfl

theorem get?_eq_none {name : String} (hname : name ∉ binaryNames ++ unaryNames) :
    r.get? name = none := by
  apply Host.get?_eq_none hr
  rintro m hm rfl
  apply hname
  rw [← map_expressionName_methods]
  exact List.mem_map.2 ⟨m, hm, rfl⟩

end Registry

/-- What a call asks of the calculator. -/
inductive Request
  /-- An operation that it does not have. -/
  | unknown
  /-- An operation with an argument, but without a number for it. -/
  | incomplete (operation : Binary)
  | binary (operation : Binary) (argument : Double)
  | unary (operation : Unary)

namespace Request

/-- How a call with a request ends. -/
def status : Request → Status
  | unknown => .unknownOperation
  | incomplete _ => .badArgument
  | binary _ _ => .ok
  | unary _ => .ok

/-- The reaction of a value to a request. -/
def react : Request → Double → Reaction
  | unknown, value => ⟨value, none⟩
  | incomplete _, value => ⟨value, none⟩
  | binary operation x, value => operation.react (plainNumber x) x value
  | unary operation, value => operation.react value

/-- Let the accumulator of a run take on the reaction to a request. -/
def next (request : Request) (t : Thread) : Thread :=
  (request.react t.accumulator.value).apply t

/-- A recorded accumulator adds the effect of its reaction to the log. -/
theorem effects_next (request : Request) {t : Thread} (h : t.accumulator.recorded = true) :
    (request.next t).journal.effects =
      t.journal.effects ++ (request.react t.accumulator.value).effect.toList := by
  simp only [next, Reaction.apply, Journal.record, if_pos h]

end Request

/-- The request of a call, told from its name and its argument. -/
inductive Asks (c : Call) : Request → Prop
  | unknown (hname : c.name ∉ binaryNames ++ unaryNames) : Asks c .unknown
  | incomplete (operation : Binary) (hname : c.name = expressionName operation.name)
      (hargument : Run.argument? c.argument = none) : Asks c (.incomplete operation)
  | binary (operation : Binary) (x : Double) (hname : c.name = expressionName operation.name)
      (hargument : Run.argument? c.argument = some x) : Asks c (.binary operation x)
  | unary (operation : Unary) (hname : c.name = expressionName operation.name) :
      Asks c (.unary operation)

/-- Every call asks for something. -/
theorem exists_asks (c : Call) : ∃ request, Asks c request := by
  by_cases hbinary : c.name ∈ binaryNames
  · obtain ⟨operation, hname⟩ := mem_binaryNames_iff.1 hbinary
    cases hargument : Run.argument? c.argument with
    | none => exact ⟨_, .incomplete operation hname.symm hargument⟩
    | some x => exact ⟨_, .binary operation x hname.symm hargument⟩
  · by_cases hunary : c.name ∈ unaryNames
    · obtain ⟨operation, hname⟩ := mem_unaryNames_iff.1 hunary
      exact ⟨_, .unary operation hname.symm⟩
    · refine ⟨_, .unknown fun hmem => ?_⟩
      rcases List.mem_append.1 hmem with hmem | hmem
      · exact hbinary hmem
      · exact hunary hmem

/-- A reaction that changes nothing and has no effect leaves a run as it is. -/
theorem Request.next_eq_self {request : Request} {t : Thread}
    (h : request.react t.accumulator.value = ⟨t.accumulator.value, none⟩) : request.next t = t := by
  rw [next, h, Reaction.apply_eq_self]

/-- **A call on the calculator goes by its request.** The run takes on the reaction,
the status is that of the request, whatever the accumulator, and the message shows
nothing of the accumulator but its value in print. -/
theorem perform_of_asks {r : Registry} (hr : host.registry = .ok r) {c : Call} {request : Request}
    (h : Asks c request) : ∃ message : String → String, ∀ t, Run.perform host r c t =
      (request.next t, ⟨request.status, message (plainNumber t.accumulator.value)⟩) := by
  cases h with
  | unknown hname =>
      obtain ⟨message, hc⟩ := Run.resolve_of_none (get?_eq_none hr hname)
      refine ⟨fun _ => message, fun t => ?_⟩
      rw [Run.perform_of_skipped hc, Request.next_eq_self rfl]
      rfl
  | incomplete operation hname hargument =>
      have hget := get?_binary hr operation hname
      rcases Run.resolve_unary hget with ⟨-, message, hc⟩ | ⟨x, hsome, -⟩
      · refine ⟨fun _ => message, fun t => ?_⟩
        rw [Run.perform_of_skipped hc, Request.next_eq_self rfl]
        rfl
      · cases hargument.symm.trans hsome
  | binary operation x hname hargument =>
      have hget := get?_binary hr operation hname
      rcases Run.resolve_unary hget with ⟨hnone, -⟩ | ⟨y, hsome, hc⟩
      · cases hargument.symm.trans hnone
      · cases hargument.symm.trans hsome
        refine ⟨fun _ => "", fun t => ?_⟩
        rw [Run.perform_of_copyable (h := host) rfl hc, operation.action_method]
        rfl
  | unary operation hname =>
      have hget := get?_unary hr operation hname
      obtain ⟨note, hc⟩ := Run.resolve_nullary hget
      have hperform := fun t => (Run.perform_of_copyable (h := host) (t := t) rfl hc).trans
        (congrArg (Run.settle t note) (operation.action_method t))
      cases operation with
      | square | squareRoot | clear | displayResult => exact ⟨fun _ => note, hperform⟩
      | getResult =>
          exact ⟨fun value => Run.joinNotes note ("returned " ++ value), hperform⟩

/-- An argument that is a text of a number. -/
def IsNumeral (argument : Value) : Prop :=
  ∃ text x, argument = .text text ∧ number? text.toList = .ok x

theorem argument?_eq_some_iff {argument : Value} {x : Double} :
    Run.argument? argument = some x ↔
      ∃ text, argument = .text text ∧ number? text.toList = .ok x := by
  cases argument with
  | text s =>
      simp only [Run.argument?, Value.text.injEq, exists_eq_left']
      cases number? s.toList with
      | error fault => simp [Except.toOption]
      | ok y => simp [Except.toOption]
  | _ => simp [Run.argument?]

theorem argument?_eq_none_iff {argument : Value} :
    Run.argument? argument = none ↔ ¬ IsNumeral argument := by
  rw [Option.eq_none_iff_forall_ne_some]
  simp only [ne_eq, argument?_eq_some_iff]
  exact ⟨fun h ⟨text, x, hread⟩ => h x ⟨text, hread⟩, fun h x ⟨text, hread⟩ => h ⟨text, x, hread⟩⟩

namespace Asks

variable {c : Call} {request : Request}

theorem status_eq_unknownOperation_iff (h : Asks c request) :
    request.status = .unknownOperation ↔ c.name ∉ binaryNames ++ unaryNames := by
  cases h with
  | unknown hname => exact iff_of_true rfl hname
  | incomplete operation hname _ | binary operation _ hname _ =>
      apply iff_of_false (by simp [Request.status])
      rw [not_not, List.mem_append]
      exact .inl (mem_binaryNames_iff.2 ⟨operation, hname.symm⟩)
  | unary operation hname =>
      apply iff_of_false (by simp [Request.status])
      rw [not_not, List.mem_append]
      exact .inr (mem_unaryNames_iff.2 ⟨operation, hname.symm⟩)

theorem status_eq_ok_iff (h : Asks c request) :
    request.status = .ok ↔
      c.name ∈ unaryNames ∨ c.name ∈ binaryNames ∧ IsNumeral c.argument := by
  rw [← not_not (a := IsNumeral c.argument), ← argument?_eq_none_iff]
  cases h with
  | unknown hname =>
      rw [List.mem_append, not_or] at hname
      simp [Request.status, hname]
  | incomplete operation hname hargument =>
      have hbinary := mem_binaryNames_iff.2 ⟨operation, hname.symm⟩
      simp [Request.status, not_mem_unaryNames hbinary, hargument]
  | binary operation x hname hargument =>
      have hbinary := mem_binaryNames_iff.2 ⟨operation, hname.symm⟩
      simp [Request.status, hbinary, hargument]
  | unary operation hname =>
      exact iff_of_true rfl (.inl (mem_unaryNames_iff.2 ⟨operation, hname.symm⟩))

theorem status_eq_badArgument_iff (h : Asks c request) :
    request.status = .badArgument ↔ c.name ∈ binaryNames ∧ ¬ IsNumeral c.argument := by
  rw [← argument?_eq_none_iff]
  cases h with
  | unknown hname =>
      apply iff_of_false (by simp [Request.status])
      exact fun hbinary => hname (List.mem_append_left _ hbinary.1)
  | incomplete operation hname hargument =>
      exact iff_of_true rfl ⟨mem_binaryNames_iff.2 ⟨operation, hname.symm⟩, hargument⟩
  | binary operation x hname hargument =>
      apply iff_of_false (by simp [Request.status])
      simp [hargument]
  | unary operation hname =>
      apply iff_of_false (by simp [Request.status])
      intro hbinary
      exact not_mem_unaryNames hbinary.1 (mem_unaryNames_iff.2 ⟨operation, hname.symm⟩)

end Asks

theorem Request.status_ne_invocationFailed (request : Request) :
    request.status ≠ .invocationFailed := by
  cases request <;> simp [status]

end FluentCalc.Calculator
