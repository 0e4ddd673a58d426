/-
# What a registry lists

A registry lists the visible exposed methods of a host under their names in expressions.
Several methods can have one such name. The name then stands where the first of them in
the order of names has put it, and the operation under it is that of the last one. With
these two rules the registry is told by the visible methods alone, and there is one
exactly if none that is exposed has more than one parameter.
-/

import Mathlib.Data.List.Forall2
import Mathlib.Order.Bounds.Basic
import FluentCalc.Proofs.Host.Visible

namespace FluentCalc

/-! ## Parameters -/

/-- The number of parameters of a method. -/
def Method.parameters (m : Method) : ℕ :=
  match m.body with
  | .runs operation => operation.parameterCount
  | .takes parameters => parameters

/-- A method that is no operation has too many parameters for one. -/
def Method.IsProper (m : Method) : Prop :=
  ∀ parameters, m.body = .takes parameters → 1 < parameters

theorem Operation.parameterCount_le_one (operation : Operation) : operation.parameterCount ≤ 1 := by
  cases operation with
  | nullary _ => exact Nat.zero_le 1
  | unary _ => exact Nat.le_refl 1

namespace Method

variable {m : Method}

theorem parameters_of_runs {operation : Operation} (h : m.body = .runs operation) :
    m.parameters = operation.parameterCount := by
  rw [parameters, h]

/-- A method with too many parameters is no operation. -/
theorem body_of_one_lt_parameters (h : 1 < m.parameters) : m.body = .takes m.parameters := by
  cases hbody : m.body with
  | runs operation =>
      rw [parameters_of_runs hbody] at h
      exact absurd operation.parameterCount_le_one h.not_ge
  | takes parameters => rw [Method.parameters, hbody]

theorem IsProper.exists_operation (hm : m.IsProper) (h : m.parameters ≤ 1) :
    ∃ operation, m.body = .runs operation := by
  cases hbody : m.body with
  | runs operation => exact ⟨operation, rfl⟩
  | takes parameters =>
      rw [Method.parameters, hbody] at h
      exact absurd (hm parameters hbody) h.not_gt

theorem isProper_of_runs {operation : Operation} (h : m.body = .runs operation) : m.IsProper := by
  intro parameters htakes
  rw [h] at htakes
  cases htakes

theorem isProper_stub (name : String) (parameters : ℕ) (exposed : Bool) :
    (stub name parameters exposed).IsProper := by
  match parameters with
  | 0 | 1 => exact isProper_of_runs rfl
  | more + 2 =>
      rintro _ ⟨⟩
      exact Nat.lt_add_left more Nat.one_lt_two

end Method

/-! ## Names in expressions -/

namespace Method

/-- The names of the exposed methods of a kind that share a name in expressions. -/
def sources (visible : Method → Prop) (name : String) : Set String :=
  {source | ∃ m, visible m ∧ m.exposed = true ∧ expressionName m.name = name ∧ m.name = source}

variable {visible visible' : Method → Prop} {done : List Method} {m : Method} {name : String}

theorem expressionName_of_mem_sources {source : String} (h : source ∈ sources visible name) :
    expressionName source = name := by
  obtain ⟨m, -, -, hname, rfl⟩ := h
  exact hname

theorem sources_congr (h : ∀ m, m.exposed = true → (visible m ↔ visible' m)) :
    sources visible = sources visible' := by
  funext name
  ext source
  constructor
  · rintro ⟨m, hm, hexposed, hm'⟩
    exact ⟨m, (h m hexposed).1 hm, hexposed, hm'⟩
  · rintro ⟨m, hm, hexposed, hm'⟩
    exact ⟨m, (h m hexposed).2 hm, hexposed, hm'⟩

/-- One more method has its own name in expressions. -/
theorem sources_concat_self (hexposed : m.exposed = true) :
    sources (· ∈ done ++ [m]) (expressionName m.name) =
      insert m.name (sources (· ∈ done) (expressionName m.name)) := by
  ext source
  constructor
  · rintro ⟨m', hm', hexposed', hname, rfl⟩
    rcases List.mem_append.1 hm' with hdone | hlast
    · exact .inr ⟨m', hdone, hexposed', hname, rfl⟩
    · rw [List.mem_singleton.1 hlast]
      exact .inl rfl
  · rintro (rfl | ⟨m', hm', hexposed', hname, rfl⟩)
    · exact ⟨m, List.mem_append_right done (List.mem_singleton_self m), hexposed, rfl, rfl⟩
    · exact ⟨m', List.mem_append_left [m] hm', hexposed', hname, rfl⟩

/-- It has none of the other names. -/
theorem sources_concat_of_ne (h : name ≠ expressionName m.name) :
    sources (· ∈ done ++ [m]) name = sources (· ∈ done) name := by
  ext source
  constructor
  · rintro ⟨m', hm', hexposed', hname, rfl⟩
    rcases List.mem_append.1 hm' with hdone | hlast
    · exact ⟨m', hdone, hexposed', hname, rfl⟩
    · rw [List.mem_singleton.1 hlast] at hname
      exact absurd hname.symm h
  · rintro ⟨m', hm', hexposed', hname, rfl⟩
    exact ⟨m', List.mem_append_left [m] hm', hexposed', hname, rfl⟩

/-- The first methods stay the first ones when a later one comes in. -/
theorem isLeast_sources_concat (hexposed : m.exposed = true)
    (hlater : ∀ source ∈ sources (· ∈ done) name, source < m.name) {first : String}
    (h : IsLeast (sources (· ∈ done) name) first) :
    IsLeast (sources (· ∈ done ++ [m]) name) first := by
  by_cases hname : name = expressionName m.name
  · subst hname
    rw [sources_concat_self hexposed]
    refine ⟨.inr h.1, ?_⟩
    rintro source (rfl | hsource)
    · exact (hlater first h.1).le
    · exact h.2 hsource
  · rwa [sources_concat_of_ne hname]

/-- A later method is the last one of its name. -/
theorem isGreatest_sources_concat (hexposed : m.exposed = true)
    (hlater : ∀ source ∈ sources (· ∈ done) (expressionName m.name), source < m.name) :
    IsGreatest (sources (· ∈ done ++ [m]) (expressionName m.name)) m.name := by
  rw [sources_concat_self hexposed]
  refine ⟨.inl rfl, ?_⟩
  rintro source (rfl | hsource)
  · exact le_rfl
  · exact (hlater source hsource).le

end Method

/-! ## Lists of methods -/

namespace Registry

open Method

/-- A registry lists methods: it has the names in expressions of the exposed ones, each
once, in the order of their first methods, and under each the operation of the last one. -/
structure Lists (r : Registry) (visible : Method → Prop) : Prop where
  nodup : (r.map Entry.name).Nodup
  mem_iff (name : String) : name ∈ r.map Entry.name ↔ (sources visible name).Nonempty
  ordered : ∃ firsts : List String, firsts.Pairwise (· < ·) ∧
    List.Forall₂ (fun name first => IsLeast (sources visible name) first) (r.map Entry.name) firsts
  holds : ∀ entry ∈ r, ∃ m, visible m ∧ m.exposed = true ∧ m.body = .runs entry.operation ∧
    m.parameters = entry.operation.parameterCount ∧
    IsGreatest (sources visible entry.name) m.name

variable {visible visible' : Method → Prop} {done : List Method} {m : Method} {r r' : Registry}
  {name : String} {host : String}

/-- Only the exposed methods matter. -/
theorem Lists.congr (hr : r.Lists visible)
    (h : ∀ m, m.exposed = true → (visible m ↔ visible' m)) : r.Lists visible' where
  nodup := hr.nodup
  mem_iff := sources_congr h ▸ hr.mem_iff
  ordered := sources_congr h ▸ hr.ordered
  holds := by
    intro entry hentry
    obtain ⟨m, hm, hexposed, hm'⟩ := hr.holds entry hentry
    exact ⟨m, (h m hexposed).1 hm, hexposed, sources_congr h ▸ hm'⟩

theorem lists_nil : Lists [] (· ∈ []) where
  nodup := List.nodup_nil
  mem_iff _ := ⟨fun h => absurd h List.not_mem_nil, fun ⟨_, _, h, _⟩ => absurd h List.not_mem_nil⟩
  ordered := ⟨[], .nil, .nil⟩
  holds := List.forall_mem_nil _

theorem insert_eq_putBy (name : String) (operation : Operation) (r : Registry) :
    r.insert name operation = putBy Entry.name ⟨name, operation⟩ r := by
  induction r with
  | nil => rfl
  | cons entry rest ih => simp only [insert, putBy, ih, beq_iff_eq]

/-- A later method has its name put behind the others, unless it is there already. -/
theorem Lists.ordered_putBy (hr : r.Lists (· ∈ done)) (hexposed : m.exposed = true)
    (hlater : ∀ name, ∀ source ∈ sources (· ∈ done) name, source < m.name)
    (operation : Operation) : ∃ firsts : List String, firsts.Pairwise (· < ·) ∧
      List.Forall₂ (fun name first => IsLeast (sources (· ∈ done ++ [m]) name) first)
        ((putBy Entry.name ⟨expressionName m.name, operation⟩ r).map Entry.name) firsts := by
  obtain ⟨firsts, hfirsts, hleast⟩ := hr.ordered
  have hkept := hleast.imp fun name first => isLeast_sources_concat hexposed (hlater name)
  by_cases hold : expressionName m.name ∈ r.map Entry.name
  · rw [map_putBy_of_mem hold]
    exact ⟨firsts, hfirsts, hkept⟩
  · have hnone : sources (· ∈ done) (expressionName m.name) = ∅ :=
      Set.not_nonempty_iff_eq_empty.1 ((hr.mem_iff _).not.1 hold)
    rw [putBy_of_not_mem hold, List.map_append, List.map_singleton]
    refine ⟨firsts ++ [m.name], ?_, List.rel_append hkept (.cons ?_ .nil)⟩
    · refine List.pairwise_append.2 ⟨hfirsts, List.pairwise_singleton _ _, ?_⟩
      intro first hfirst source hsource
      obtain ⟨i, hi, rfl⟩ := List.getElem_of_mem hfirst
      rw [List.mem_singleton.1 hsource]
      exact hlater _ _ (hleast.get (hleast.length_eq ▸ hi) hi).1
    · rw [sources_concat_self hexposed, hnone, insert_empty_eq]
      exact isLeast_singleton

/-- A later method is listed too after its operation was put in. -/
theorem Lists.insert (hr : r.Lists (· ∈ done)) (hlater : ∀ m' ∈ done, m'.name < m.name)
    (hexposed : m.exposed = true) {operation : Operation} (hbody : m.body = .runs operation) :
    (r.insert (expressionName m.name) operation).Lists (· ∈ done ++ [m]) := by
  have hsources : ∀ name, ∀ source ∈ sources (· ∈ done) name, source < m.name := by
    rintro name _ ⟨m', hm', -, -, rfl⟩
    exact hlater m' hm'
  rw [insert_eq_putBy]
  refine ⟨nodup_map_putBy hr.nodup, ?_, hr.ordered_putBy hexposed hsources operation, ?_⟩
  · intro name
    rw [mem_map_putBy_iff, hr.mem_iff]
    by_cases hname : name = expressionName m.name
    · subst hname
      rw [sources_concat_self hexposed]
      exact iff_of_true (.inl rfl) (Set.insert_nonempty _ _)
    · rw [sources_concat_of_ne hname]
      exact or_iff_right hname
  · intro entry hentry
    rcases (mem_putBy_iff hr.nodup).1 hentry with rfl | ⟨hold, hname⟩
    · exact ⟨m, List.mem_append_right done (List.mem_singleton_self m), hexposed, hbody,
        parameters_of_runs hbody, isGreatest_sources_concat hexposed (hsources _)⟩
    · obtain ⟨m', hm', hm''⟩ := hr.holds entry hold
      rw [sources_concat_of_ne hname]
      exact ⟨m', List.mem_append_left [m] hm', hm''⟩

/-! ## All methods -/

/-- Methods that are operations can be added. -/
theorem exists_addMethods {host : String} {methods : List Method}
    (h : ∀ m ∈ methods, m.exposed = true → ∃ operation, m.body = .runs operation) (r : Registry) :
    ∃ r', addMethods host methods r = .ok r' := by
  induction methods generalizing r with
  | nil => exact ⟨r, rfl⟩
  | cons m rest ih =>
      rw [List.forall_mem_cons] at h
      rw [addMethods]
      split
      · rename_i hexposed
        obtain ⟨operation, hbody⟩ := h.1 hexposed
        rw [hbody]
        exact ih h.2 _
      · exact ih h.2 r

/-- Methods that were added in the order of their names are listed. -/
theorem lists_addMethods {rest : List Method} (h : addMethods host rest r = .ok r')
    (hsorted : (done ++ rest).Pairwise fun m m' => m.name < m'.name) (hr : r.Lists (· ∈ done)) :
    r'.Lists (· ∈ done ++ rest) := by
  induction rest generalizing done r with
  | nil =>
      cases h
      rwa [List.append_nil]
  | cons m rest ih =>
      rw [addMethods] at h
      rw [List.append_cons] at hsorted ⊢
      split at h
      · rename_i hexposed
        split at h
        · cases h
        · rename_i operation hbody
          have hlater : ∀ m' ∈ done, m'.name < m.name := fun m' hm' =>
            (List.pairwise_append.1 (List.pairwise_append.1 hsorted).1).2.2 m' hm' m
              (List.mem_singleton_self m)
          exact ih h hsorted (hr.insert hlater hexposed hbody)
      · rename_i hhidden
        refine ih h hsorted (hr.congr fun m' hexposed => ?_)
        rw [List.mem_append, List.mem_singleton]
        refine ⟨.inl, fun hm' => hm'.resolve_right ?_⟩
        rintro rfl
        exact hhidden hexposed

/-- **What a registry lists.** A registry lists the last methods of their names. -/
theorem lists_ofMethods {methods : List Method} (h : ofMethods host methods = .ok r) :
    r.Lists (IsLast · methods) := by
  have hsorted : ([] ++ visible methods).Pairwise fun m m' : Method => m.name < m'.name :=
    pairwise_visible methods
  exact (lists_addMethods h hsorted lists_nil).congr fun _ _ => mem_visible_iff

/-- Methods are added up to the first exposed one with too many parameters. -/
theorem addMethods_append_of_takes {before after : List Method} {parameters : ℕ}
    (hbefore : ∀ m' ∈ before, m'.exposed = true → ∃ operation, m'.body = .runs operation)
    (hexposed : m.exposed = true) (hbody : m.body = .takes parameters) (r : Registry) :
    addMethods host (before ++ m :: after) r = .error ⟨host, m.name, parameters⟩ := by
  induction before generalizing r with
  | nil => rw [List.nil_append, addMethods, if_pos hexposed, hbody]
  | cons first rest ih =>
      rw [List.forall_mem_cons] at hbefore
      rw [List.cons_append, addMethods]
      split
      · rename_i hfirst
        obtain ⟨operation, hoperation⟩ := hbefore.1 hfirst
        rw [hoperation]
        exact ih hbefore.2 _
      · exact ih hbefore.2 r

/-- If an exposed method has too many parameters, the first such one is named. -/
theorem exists_ofMethods_error {methods : List Method} (host : String)
    (hproper : ∀ m ∈ methods, m.IsProper)
    (h : ∃ m : Method, m.IsLast methods ∧ m.exposed = true ∧ 1 < m.parameters) :
    ∃ m : Method, m.IsLast methods ∧ m.exposed = true ∧ 1 < m.parameters ∧
      (∀ other : Method, other.IsLast methods → other.exposed = true → 1 < other.parameters →
        m.name ≤ other.name) ∧
      ofMethods host methods = .error ⟨host, m.name, m.parameters⟩ := by
  obtain ⟨m, hm, hexposed, hmany⟩ := h
  obtain ⟨before, first, after, heq, hfirst, hbefore, hleast⟩ :=
    exists_first_visible (p := fun m => m.exposed && decide (1 < m.parameters))
      ⟨m, hm, by rw [hexposed, decide_eq_true hmany, Bool.and_self]⟩
  simp only [Bool.and_eq_true, decide_eq_true_eq] at hfirst hleast
  have hmem : ∀ m' ∈ before ++ first :: after, m'.IsLast methods := fun m' hm' =>
    mem_visible_iff.1 (heq ▸ hm')
  have hruns : ∀ m' ∈ before, m'.exposed = true → ∃ operation, m'.body = .runs operation := by
    intro m' hm' hexposed'
    have hfew := hbefore m' hm'
    rw [hexposed', Bool.true_and, decide_eq_false_iff_not, not_lt] at hfew
    exact (hproper m' (hmem m' (List.mem_append_left _ hm')).mem).exists_operation hfew
  refine ⟨first, hmem first (List.mem_append_right before List.mem_cons_self), hfirst.1, hfirst.2,
    fun other hother hexposed' hmany' => hleast other hother ⟨hexposed', hmany'⟩, ?_⟩
  rw [ofMethods, heq]
  exact addMethods_append_of_takes hruns hfirst.1 (body_of_one_lt_parameters hfirst.2) []

/-- If no exposed method has too many parameters, there is a registry. -/
theorem exists_ofMethods {methods : List Method} (host : String)
    (hproper : ∀ m ∈ methods, m.IsProper)
    (h : ∀ m : Method, m.IsLast methods → m.exposed = true → m.parameters ≤ 1) :
    ∃ r, ofMethods host methods = .ok r ∧ r.Lists (IsLast · methods) := by
  obtain ⟨r, hr⟩ : ∃ r, ofMethods host methods = .ok r := by
    refine exists_addMethods (fun m hm hexposed => ?_) []
    have hlast := mem_visible_iff.1 hm
    exact (hproper m hlast.mem).exists_operation (h m hlast hexposed)
  exact ⟨r, hr, lists_ofMethods hr⟩

/-! ## Looking up -/

theorem exists_entry_of_get? {operation : Operation} (h : r.get? name = some operation) :
    ∃ entry ∈ r, entry.name = name ∧ entry.operation = operation := by
  rw [get?, Option.map_eq_some_iff] at h
  obtain ⟨entry, hentry, hoperation⟩ := h
  exact ⟨entry, List.mem_of_find?_eq_some hentry, by simpa using List.find?_some hentry, hoperation⟩

/-- Under a listed name the last method of the name is found. -/
theorem Lists.exists_get? (hr : r.Lists visible) (h : (sources visible name).Nonempty) :
    ∃ m operation, visible m ∧ m.exposed = true ∧ IsGreatest (sources visible name) m.name ∧
      m.body = .runs operation ∧ r.get? name = some operation := by
  have hget : ∃ operation, r.get? name = some operation := by
    obtain ⟨entry, hentry, hname⟩ := List.mem_map.1 ((hr.mem_iff name).2 h)
    have hfound : (r.find? fun entry => entry.name == name).isSome = true :=
      List.find?_isSome.2 ⟨entry, hentry, beq_iff_eq.2 hname⟩
    obtain ⟨found, hfound⟩ := Option.isSome_iff_exists.1 hfound
    exact ⟨found.operation, by rw [get?, hfound, Option.map_some]⟩
  obtain ⟨operation, hget⟩ := hget
  obtain ⟨entry, hentry, rfl, rfl⟩ := exists_entry_of_get? hget
  obtain ⟨m, hm, hexposed, hbody, -, hgreatest⟩ := hr.holds entry hentry
  exact ⟨m, entry.operation, hm, hexposed, hgreatest, hbody, hget⟩

/-- Nothing is found under a name that no exposed method has in expressions. -/
theorem Lists.get?_eq_none (hr : r.Lists visible)
    (h : ∀ m, visible m → m.exposed = true → expressionName m.name ≠ name) :
    r.get? name = none := by
  cases hget : r.get? name with
  | none => rfl
  | some operation =>
      obtain ⟨entry, hentry, rfl, -⟩ := exists_entry_of_get? hget
      obtain ⟨m, hm, hexposed, -, -, hgreatest⟩ := hr.holds entry hentry
      exact absurd (expressionName_of_mem_sources hgreatest.1) (h m hm hexposed)

end Registry

end FluentCalc
