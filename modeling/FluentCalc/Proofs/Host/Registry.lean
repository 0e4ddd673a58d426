/-
# Where operations come from

An operation that is found in the registry of a host is the body of one of its
exposed methods, and it is found under the name of that method. So whatever all
methods of a host have in common holds of everything that an expression can
call on it. The other way round, the operation of an exposed method is found if
no other method of the host has that name in expressions.
-/

import FluentCalc.Proofs.Host.Listing

namespace FluentCalc

/-- **Operations are bodies of methods.** What an expression can call on a host
is the body of one of its exposed methods, under the name of that method. -/
theorem Host.exists_method_of_get? {h : Host} {r : Registry} {name : String}
    {operation : Operation} (hr : h.registry = .ok r) (hget : r.get? name = some operation) :
    ∃ m ∈ h.methods, m.exposed = true ∧ m.body = .runs operation ∧
      expressionName m.name = name := by
  obtain ⟨entry, hentry, rfl, rfl⟩ := Registry.exists_entry_of_get? hget
  obtain ⟨m, hm, hexposed, hbody, -, hgreatest⟩ :=
    (Registry.lists_ofMethods hr).holds entry hentry
  exact ⟨m, hm.mem, hexposed, hbody, Method.expressionName_of_mem_sources hgreatest.1⟩

/-- A host has a registry if all methods that it exposes are operations. -/
theorem Host.exists_registry {h : Host}
    (hmethods : ∀ m ∈ h.methods, m.exposed = true → ∃ operation, m.body = .runs operation) :
    ∃ r, h.registry = .ok r :=
  Registry.exists_addMethods (fun m hm => hmethods m (Method.mem_visible_iff.1 hm).mem) []

/-- An exposed operation is found under its name in expressions if no other
method has that name. -/
theorem Host.get?_of_methods {h : Host} {r : Registry} {before after : List Method} {m : Method}
    {operation : Operation} (hr : h.registry = .ok r) (hmethods : h.methods = before ++ m :: after)
    (hexposed : m.exposed = true) (hbody : m.body = .runs operation)
    (hname : ∀ other ∈ before ++ after, expressionName other.name ≠ expressionName m.name) :
    r.get? (expressionName m.name) = some operation := by
  have hm : m.IsLast h.methods := ⟨before, after, hmethods, fun other hother hsame =>
    hname other (List.mem_append_right before hother) (congrArg expressionName hsame)⟩
  obtain ⟨found, operation', hfound, -, hgreatest, hbody', hget⟩ :=
    (Registry.lists_ofMethods hr).exists_get? ⟨m.name, m, hm, hexposed, rfl, rfl⟩
  have hfoundName := Method.expressionName_of_mem_sources hgreatest.1
  have hfoundMem := hfound.mem
  rw [hmethods, List.mem_append, List.mem_cons, or_left_comm, ← List.mem_append] at hfoundMem
  rcases hfoundMem with rfl | hother
  · rw [hbody] at hbody'
    cases hbody'
    exact hget
  · exact absurd hfoundName (hname found hother)

/-- An exposed operation is found under its name in expressions if the name is
counted once. -/
theorem Host.get?_of_count {h : Host} {r : Registry} {m : Method} {operation : Operation}
    {name : String} (hr : h.registry = .ok r) (hm : m ∈ h.methods) (hexposed : m.exposed = true)
    (hbody : m.body = .runs operation) (hname : expressionName m.name = name)
    (hcount : (h.methods.map fun m => expressionName m.name).count name = 1) :
    r.get? name = some operation := by
  subst hname
  obtain ⟨before, after, hmethods⟩ := List.append_of_mem hm
  apply Host.get?_of_methods hr hmethods hexposed hbody
  have hothers : ((before ++ after).map fun m => expressionName m.name).count
      (expressionName m.name) = 0 := by
    rw [hmethods, List.map_append, List.map_cons, List.count_append, List.count_cons_self] at hcount
    rw [List.map_append, List.count_append]
    omega
  intro other hother heq
  exact List.count_eq_zero.1 hothers (List.mem_map.2 ⟨other, hother, heq⟩)

/-- Nothing is found under a name that no method has in expressions. -/
theorem Host.get?_eq_none {h : Host} {r : Registry} {name : String} (hr : h.registry = .ok r)
    (hname : ∀ m ∈ h.methods, expressionName m.name ≠ name) : r.get? name = none :=
  (Registry.lists_ofMethods hr).get?_eq_none fun m hm _ => hname m hm.mem

/-- All actions of an operation have a property. -/
def Operation.Satisfies (P : Action → Prop) : Operation → Prop
  | nullary run => P run
  | unary run => ∀ x, P (run x)

theorem Operation.Satisfies.imp {P Q : Action → Prop} (hPQ : ∀ action, P action → Q action)
    {operation : Operation} (h : operation.Satisfies P) : operation.Satisfies Q := by
  cases operation with
  | nullary run => exact hPQ run h
  | unary run => exact fun x => hPQ (run x) (h x)

/-- All actions of a method have a property. -/
def Method.Satisfies (P : Action → Prop) (m : Method) : Prop :=
  ∀ operation, m.body = .runs operation → operation.Satisfies P

theorem Method.satisfies_runs {P : Action → Prop} {name : String} {exposed : Bool}
    {operation : Operation} (h : operation.Satisfies P) :
    Method.Satisfies P ⟨name, exposed, .runs operation⟩ := by
  rintro _ ⟨⟩
  exact h

/-- What holds of all methods of a host holds of all that expressions call. -/
theorem Host.satisfies_of_get? {P : Action → Prop} {h : Host} {r : Registry} {name : String}
    {operation : Operation} (hmethods : ∀ m ∈ h.methods, m.Satisfies P)
    (hr : h.registry = .ok r) (hget : r.get? name = some operation) : operation.Satisfies P := by
  obtain ⟨m, hmem, -, hbody, -⟩ := h.exists_method_of_get? hr hget
  exact hmethods m hmem operation hbody

end FluentCalc
