/-
# The registry of an inheriting host

A host that inherits methods and defines its own has a registry that is told by its
visible methods: which of them are exposed, how many parameters they have and what their
names are. A definition of its own takes the place of an inherited one even if expressions
may not call it. All that is asked of the methods is that they are proper: one that is no
operation has more than one parameter. So are the methods of the catalogue and those of
which only the number of parameters is told.
-/

import FluentCalc.Proofs.Host.Catalogue

namespace FluentCalc

theorem Calculator.isProper_of_mem_methods {m : Method} (hm : m ∈ methods) : m.IsProper := by
  obtain ⟨operation, hbody⟩ := exists_operation hm
  exact Method.isProper_of_runs hbody

theorem Calculator.parameters_of_mem_methods {m : Method} (hm : m ∈ methods) :
    m.parameters ≤ 1 := by
  obtain ⟨operation, hbody⟩ := exists_operation hm
  exact (Method.parameters_of_runs hbody).trans_le operation.parameterCount_le_one

theorem Calculator.isProper_append {m : Method} (hm : m.IsProper) :
    ∀ m' ∈ methods ++ [m], m'.IsProper :=
  List.forall_mem_append.2 ⟨fun _ => isProper_of_mem_methods, List.forall_mem_singleton.2 hm⟩

/-- All methods of the catalogue are proper. -/
theorem Host.isProper_of_mem_catalogue {h : Host} (hh : h ∈ catalogue) :
    ∀ m ∈ h.methods, m.IsProper := by
  have hboth : Method.IsProper ⟨"add_both", true, .takes 2⟩ := by
    rintro _ ⟨⟩
    decide
  simp only [catalogue, List.mem_cons, List.not_mem_nil, or_false] at hh
  rcases hh with rfl | rfl | rfl | rfl | rfl | rfl | rfl | rfl
  · exact fun m hm => Calculator.isProper_of_mem_methods hm
  · exact Calculator.isProper_append (Method.isProper_of_runs rfl)
  · exact Calculator.isProper_append (Method.isProper_of_runs rfl)
  · exact fun m hm => Calculator.isProper_of_mem_methods hm
  · exact fun m hm => Calculator.isProper_of_mem_methods hm
  · exact Calculator.isProper_append hboth
  · simp only [counter, List.forall_mem_cons]
    exact ⟨Method.isProper_of_runs rfl, Method.isProper_of_runs rfl, List.forall_mem_nil _⟩
  · intro m hm
    obtain ⟨operation, hbody⟩ := exists_operation_lab hm
    exact Method.isProper_of_runs hbody

namespace Registry

open Method

/-- **The registry of a host is told by its visible methods.** If an exposed one has more than
one parameter, there is no registry, and the complaint names the first such method and the number
of its parameters. Otherwise there is one, and it lists the visible methods; an inherited
operation is gone with an own definition that is not exposed, unless another method has its name
in expressions. -/
theorem ofMethods_append {inherited own : List Method} (host : String)
    (hproper : ∀ m ∈ inherited ++ own, m.IsProper) :
    ((∃ m, IsVisible inherited own m ∧ m.exposed = true ∧ 1 < m.parameters) →
      ∃ m f, IsVisible inherited own m ∧ m.exposed = true ∧ 1 < m.parameters ∧
        (∀ other, IsVisible inherited own other → other.exposed = true → 1 < other.parameters →
          m.name ≤ other.name) ∧
        ofMethods host (inherited ++ own) = .error f ∧
        f.complaint = ⟨"TypeError", some (host ++ "." ++ m.name ++ " takes " ++
          integerText m.parameters ++ " parameters; expression operations take at most one")⟩) ∧
    ((∀ m, IsVisible inherited own m → m.exposed = true → m.parameters ≤ 1) →
      ∃ r, ofMethods host (inherited ++ own) = .ok r ∧ r.Lists (IsVisible inherited own) ∧
        ∀ m : Method, m.IsLast own → m.exposed = false →
          (∀ other, IsVisible inherited own other → other.exposed = true →
            other.name ≠ m.name → expressionName other.name ≠ expressionName m.name) →
          r.get? (expressionName m.name) = none) := by
  have hvisible : IsVisible inherited own = (IsLast · (inherited ++ own)) :=
    funext fun m => propext isLast_append_iff.symm
  constructor
  · intro hmany
    simp only [hvisible] at hmany ⊢
    obtain ⟨m, hm, hexposed, hparameters, hfirst, herror⟩ :=
      exists_ofMethods_error host hproper hmany
    exact ⟨m, _, hm, hexposed, hparameters, hfirst, herror, rfl⟩
  · intro hfew
    obtain ⟨r, hr, hlists⟩ := exists_ofMethods host hproper
      (by simpa only [hvisible] using hfew)
    rw [← hvisible] at hlists
    refine ⟨r, hr, hlists, fun m hm hhidden hothers => hlists.get?_eq_none ?_⟩
    intro other hother hexposed
    exact hothers other hother hexposed (hother.name_ne_of_hidden hexposed hm hhidden)

/-- A calculator that no longer exposes addition and has two names that clash, and one with two
methods of too many parameters. -/
theorem ofMethods_append_of_calculator :
    (∃ r, ofMethods "Tally" (Calculator.methods ++
        [.stub "add" 1 false, .stub "log_2" 1 true, .stub "log2" 0 true]) = .ok r ∧
      r.Lists (IsVisible Calculator.methods
        [.stub "add" 1 false, .stub "log_2" 1 true, .stub "log2" 0 true]) ∧
      r.get? "Add" = none) ∧
    ∃ f, ofMethods "Tally" (Calculator.methods ++ [.stub "zip" 3 true, .stub "tip" 2 true]) =
        .error f ∧
      f.complaint = ⟨"TypeError",
        some "Tally.tip takes 2 parameters; expression operations take at most one"⟩ := by
  have hproper : ∀ own : List Method, (∀ m ∈ own, m.IsProper) →
      ∀ m ∈ Calculator.methods ++ own, m.IsProper := fun own hown =>
    List.forall_mem_append.2
      ⟨Host.isProper_of_mem_catalogue (h := Calculator.host) List.mem_cons_self, hown⟩
  constructor
  · have hown : ∀ m ∈ [stub "add" 1 false, stub "log_2" 1 true, stub "log2" 0 true],
        m.IsProper ∧ m.parameters ≤ 1 := by
      simp only [List.forall_mem_cons]
      exact ⟨⟨isProper_stub _ _ _, by decide⟩, ⟨isProper_stub _ _ _, by decide⟩,
        ⟨isProper_stub _ _ _, by decide⟩, List.forall_mem_nil _⟩
    obtain ⟨r, hr, hlists, hgone⟩ := (ofMethods_append "Tally" (hproper _ fun m hm =>
      (hown m hm).1)).2 fun m hm _ => (List.mem_append.1 hm.mem).elim
        Calculator.parameters_of_mem_methods fun hm => (hown m hm).2
    have hnames : ∀ m ∈ Calculator.methods ++ [stub "add" 1 false, stub "log_2" 1 true,
        stub "log2" 0 true], m.name ≠ "add" → expressionName m.name ≠ expressionName "add" := by
      decide +kernel
    have hadd := hgone (stub "add" 1 false) ⟨[], _, rfl, by decide⟩ rfl
      fun other hother _ => hnames other hother.mem
    exact ⟨r, hr, hlists, hadd⟩
  · have hown : ∀ m ∈ [stub "zip" 3 true, stub "tip" 2 true], m.IsProper := by
      simp only [List.forall_mem_cons]
      exact ⟨isProper_stub _ _ _, isProper_stub _ _ _, List.forall_mem_nil _⟩
    have htip : IsVisible Calculator.methods [stub "zip" 3 true, stub "tip" 2 true]
        (stub "tip" 2 true) := .own ⟨[_], [], rfl, List.forall_mem_nil _⟩
    obtain ⟨m, f, hm, -, hmany, hfirst, herror, hcomplaint⟩ :=
      (ofMethods_append "Tally" (hproper _ hown)).1 ⟨_, htip, rfl, by decide⟩
    refine ⟨f, herror, hcomplaint.trans ?_⟩
    rcases List.mem_append.1 hm.mem with hm | hm
    · exact absurd hmany (Calculator.parameters_of_mem_methods hm).not_gt
    · simp only [List.mem_cons, List.not_mem_nil, or_false] at hm
      rcases hm with rfl | rfl
      · exact absurd (hfirst _ htip rfl (by decide)) (by decide)
      · decide +kernel

end Registry

end FluentCalc
