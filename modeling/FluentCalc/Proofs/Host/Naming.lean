/-
# Methods that share a name in expressions

Names in expressions drop the underscores and do not tell small first letters from
capitals, so different methods can have one name. A registry then has one entry for all of
them, and only the last one can be called: `log2` is lost to `log_2`. A registry has an
entry for each exposed method exactly if no two of them share a name.
-/

import Mathlib.Data.List.Dedup
import FluentCalc.Proofs.Host.Catalogue

namespace FluentCalc

namespace Method

/-- The visible methods that expressions may call. -/
def exposedOf (methods : List Method) : List Method :=
  (visible methods).filter Method.exposed

variable {m : Method} {methods : List Method}

theorem mem_exposedOf_iff : m ∈ exposedOf methods ↔ m.IsLast methods ∧ m.exposed = true := by
  rw [exposedOf, List.mem_filter, mem_visible_iff]

theorem nodup_exposedOf (methods : List Method) : (exposedOf methods).Nodup := by
  refine List.Nodup.filter _ ((pairwise_visible methods).imp ?_)
  rintro m _ hlt rfl
  exact lt_irrefl _ hlt

/-- The names of the exposed methods in expressions. -/
def expressionNames (methods : List Method) : List String :=
  (exposedOf methods).map fun m => expressionName m.name

theorem nodup_expressionNames_iff : (expressionNames methods).Nodup ↔
    ∀ m ∈ exposedOf methods, ∀ m' ∈ exposedOf methods,
      expressionName m.name = expressionName m'.name → m = m' :=
  List.nodup_map_iff_inj_on (nodup_exposedOf methods)

end Method

namespace Registry

open Method

variable {r : Registry} {methods : List Method} {host : String}

/-- A registry has as many entries as there are names in expressions. -/
theorem Lists.length_eq (hr : r.Lists (IsLast · methods)) :
    r.length = (expressionNames methods).dedup.length := by
  have hperm : List.Perm (r.map Entry.name) (expressionNames methods).dedup := by
    refine (List.perm_ext_iff_of_nodup hr.nodup (List.nodup_dedup _)).2 fun name => ?_
    rw [hr.mem_iff, List.mem_dedup, expressionNames, List.mem_map]
    constructor
    · rintro ⟨_, m, hm, hexposed, hname, -⟩
      exact ⟨m, mem_exposedOf_iff.2 ⟨hm, hexposed⟩, hname⟩
    · rintro ⟨m, hm, hname⟩
      obtain ⟨hlast, hexposed⟩ := mem_exposedOf_iff.1 hm
      exact ⟨m.name, m, hlast, hexposed, hname, rfl⟩
  rw [← hperm.length_eq, List.length_map]

/-- There are as many as exposed methods exactly if no two of these share a name. -/
theorem Lists.length_eq_iff (hr : r.Lists (IsLast · methods)) :
    r.length = (exposedOf methods).length ↔ (expressionNames methods).Nodup := by
  have hmap : (expressionNames methods).length = (exposedOf methods).length := List.length_map _
  rw [hr.length_eq, ← hmap, ← List.dedup_eq_self]
  exact ⟨(List.dedup_sublist _).eq_of_length, congrArg List.length⟩

/-- No exposed method is lost: different ones have different names in expressions, each has
an entry, and each is found under its name. -/
structure IsComplete (r : Registry) (methods : List Method) : Prop where
  distinct : ∀ m ∈ exposedOf methods, ∀ m' ∈ exposedOf methods,
    expressionName m.name = expressionName m'.name → m = m'
  length : r.length = (exposedOf methods).length
  found : ∀ m ∈ exposedOf methods, ∃ operation, m.body = .runs operation ∧
    r.get? (expressionName m.name) = some operation

theorem Lists.exists_last (hr : r.Lists (IsLast · methods)) {m : Method}
    (hm : m ∈ exposedOf methods) : ∃ last ∈ exposedOf methods, ∃ operation,
      IsGreatest (sources (IsLast · methods) (expressionName m.name)) last.name ∧
      expressionName last.name = expressionName m.name ∧ last.body = .runs operation ∧
      r.get? (expressionName m.name) = some operation := by
  obtain ⟨hlast, hexposed⟩ := mem_exposedOf_iff.1 hm
  obtain ⟨last, operation, hlast', hexposed', hgreatest, hbody, hget⟩ :=
    hr.exists_get? ⟨m.name, m, hlast, hexposed, rfl, rfl⟩
  exact ⟨last, mem_exposedOf_iff.2 ⟨hlast', hexposed'⟩, operation, hgreatest,
    expressionName_of_mem_sources hgreatest.1, hbody, hget⟩

theorem Lists.isComplete (hr : r.Lists (IsLast · methods))
    (h : (expressionNames methods).Nodup) : r.IsComplete methods where
  distinct := nodup_expressionNames_iff.1 h
  length := hr.length_eq_iff.2 h
  found := by
    intro m hm
    obtain ⟨last, hlast, operation, -, hname, hbody, hget⟩ := hr.exists_last hm
    obtain rfl := nodup_expressionNames_iff.1 h last hlast m hm hname
    exact ⟨operation, hbody, hget⟩

/-- **What a registry keeps of its methods.** A registry has one entry for each name that
an exposed method has in expressions. Under the name of a method the last one of the name is
found. So no method is lost exactly if there are as many entries as exposed methods, and this is
so exactly if no two of them share a name. -/
theorem isComplete_iff (h : ofMethods host methods = .ok r) :
    r.length = (expressionNames methods).dedup.length ∧
    (∀ m ∈ exposedOf methods, ∃ last ∈ exposedOf methods, ∃ operation,
      IsGreatest (sources (IsLast · methods) (expressionName m.name)) last.name ∧
      expressionName last.name = expressionName m.name ∧ last.body = .runs operation ∧
      r.get? (expressionName m.name) = some operation) ∧
    (r.IsComplete methods ↔ r.length = (exposedOf methods).length) ∧
    (r.IsComplete methods ↔ ∀ m ∈ exposedOf methods, ∀ m' ∈ exposedOf methods,
      expressionName m.name = expressionName m'.name → m = m') := by
  have hr := lists_ofMethods h
  refine ⟨hr.length_eq, fun m => hr.exists_last, ?_, ?_⟩
  · exact ⟨IsComplete.length, fun hlength => hr.isComplete (hr.length_eq_iff.1 hlength)⟩
  · exact ⟨IsComplete.distinct, fun hnames => hr.isComplete (nodup_expressionNames_iff.2 hnames)⟩

/-- The calculator loses no operation. -/
theorem isComplete_iff_of_calculator : ∃ r, ofMethods "Calculator" Calculator.methods = .ok r ∧
    r.IsComplete Calculator.methods ∧ r.length = (exposedOf Calculator.methods).length := by
  obtain ⟨r, hr⟩ : ∃ r, ofMethods "Calculator" Calculator.methods = .ok r :=
    Calculator.exists_registry
  obtain ⟨-, -, hlength, hdistinct⟩ := isComplete_iff hr
  have hnames : (Calculator.methods.map fun m => expressionName m.name).Nodup := by
    decide +kernel
  have hcomplete := hdistinct.2 fun m hm m' hm' => List.inj_on_of_nodup_map hnames
    (mem_exposedOf_iff.1 hm).1.mem (mem_exposedOf_iff.1 hm').1.mem
  exact ⟨r, hr, hcomplete, hlength.1 hcomplete⟩

/-- Of `log2` and `log_2` one is lost. -/
theorem not_isComplete_of_clash : ∃ r,
    ofMethods "Host" [.stub "log2" 0 true, .stub "log_2" 1 true] = .ok r ∧
      ¬ r.IsComplete [.stub "log2" 0 true, .stub "log_2" 1 true] := by
  have hmethods : ∀ m ∈ [stub "log2" 0 true, stub "log_2" 1 true],
      m.IsProper ∧ m.parameters ≤ 1 := by
    simp only [List.forall_mem_cons]
    exact ⟨⟨isProper_stub _ _ _, by decide⟩, ⟨isProper_stub _ _ _, by decide⟩,
      List.forall_mem_nil _⟩
  obtain ⟨r, hr, -⟩ := exists_ofMethods "Host" (fun m hm => (hmethods m hm).1)
    fun m hm _ => (hmethods m hm.mem).2
  refine ⟨r, hr, fun hcomplete => ?_⟩
  have hlog2 : stub "log2" 0 true ∈ exposedOf [stub "log2" 0 true, stub "log_2" 1 true] :=
    mem_exposedOf_iff.2 ⟨⟨[], _, rfl, by decide⟩, rfl⟩
  have hlog_2 : stub "log_2" 1 true ∈ exposedOf [stub "log2" 0 true, stub "log_2" 1 true] :=
    mem_exposedOf_iff.2 ⟨⟨[_], [], rfl, List.forall_mem_nil _⟩, rfl⟩
  have hsame := hcomplete.distinct _ hlog2 _ hlog_2 (by decide +kernel)
  exact absurd (congrArg Method.name hsame) (by decide)

end Registry

end FluentCalc
