/-
# The two readings of a source

The strict reading is a restriction of the permissive one: whatever it accepts
is read alike by both, columns included, and what it refuses beyond the
permissive reading it refuses for stray text. Faults of the seed are the same
faults in both. So a source falls under exactly one of three cases, which are
named here after what the two readings make of it.
-/

import FluentCalc.Proofs.Expression.Chain

namespace FluentCalc

namespace Scan

theorem permissive_eq_ok_iff {text : List Char} {reading : Reading} :
    permissive text = .ok reading ↔ seed text = .ok reading.seed ∧
      reading.calls = findCalls reading.seed.restOffset reading.seed.rest := by
  rw [permissive]
  cases seed text with
  | error offset => simp
  | ok found =>
      cases reading
      simp only [Except.ok.injEq, Reading.mk.injEq, eq_comm (a := found)]
      apply and_congr_right
      rintro rfl
      exact eq_comm

/-- A chain that is strict to its end is found in the same places by the
permissive grammar. -/
theorem permissive_of_strict {text : List Char} {reading : Reading}
    (h : strict text = .ok reading) : permissive text = .ok reading := by
  rw [permissive_eq_ok_iff]
  rw [strict] at h
  cases hseed : seed text with
  | error offset => simp [hseed] at h
  | ok found =>
      have hchain := findCalls_eq_readCalls_append found.restOffset found.rest
      simp only [hseed] at h
      split at h
      · rename_i calls stop hread
        cases h
        refine ⟨rfl, ?_⟩
        rw [hchain, hread, findCalls_nil, List.append_nil]
      · cases h

end Scan

namespace Expression

variable {source : List Char} {e : Expression}

theorem parse_false (source : String) : parse false source = ofCharsPermissive source.toList :=
  rfl

theorem parse_true (source : String) : parse true source = ofCharsStrict source.toList :=
  rfl

theorem build_eq_ok_iff {reading : Scan.Reading} :
    build reading = .ok e ↔ number? reading.seed.invocation.argument = .ok e.seed ∧
      e.constructor = String.ofList reading.seed.invocation.name ∧ e.calls = reading.calls := by
  rw [build]
  cases number? reading.seed.invocation.argument with
  | error fault => simp
  | ok x =>
      cases e
      simp only [Except.ok.injEq, mk.injEq]
      apply Iff.intro
      · rintro ⟨rfl, rfl, rfl⟩
        exact ⟨rfl, rfl, rfl⟩
      · rintro ⟨rfl, rfl, rfl⟩
        exact ⟨rfl, rfl, rfl⟩

/-- What the permissive reading makes of a source. -/
theorem ofCharsPermissive_eq_ok_iff :
    ofCharsPermissive source = .ok e ↔ ∃ found, Scan.seed source = .ok found ∧
      number? found.invocation.argument = .ok e.seed ∧
      e.constructor = String.ofList found.invocation.name ∧
      e.calls = Scan.findCalls found.restOffset found.rest := by
  rw [ofCharsPermissive, Scan.permissive]
  cases Scan.seed source with
  | error offset => simp
  | ok found => simp [build_eq_ok_iff]

/-- With text behind it, an expression only gets more calls. -/
theorem exists_ofCharsPermissive_append (h : ofCharsPermissive source = .ok e)
    (more : List Char) :
    ∃ calls, ofCharsPermissive (source ++ more) = .ok { e with calls := e.calls ++ calls } := by
  obtain ⟨found, hseed, hnumber, hconstructor, hcalls⟩ := ofCharsPermissive_eq_ok_iff.1 h
  obtain ⟨calls, hmore⟩ := Scan.findCalls_prefix_append found.restOffset found.rest more
  refine ⟨calls, ofCharsPermissive_eq_ok_iff.2 ⟨_, Scan.seed_append hseed more, hnumber,
    hconstructor, ?_⟩⟩
  rw [hcalls, hmore]

/-- All faults of the permissive reading are faults of the seed. -/
theorem kind_of_ofCharsPermissive {fault : ParseFault}
    (h : ofCharsPermissive source = .error fault) :
    fault.kind = "missing-or-invalid-seed" := by
  simp only [ofCharsPermissive, build] at h
  split at h
  · cases h
    rfl
  · split at h
    · cases h
      rfl
    · cases h

/-- The strict reading accepts nothing that the permissive one refuses or reads
otherwise. -/
theorem ofCharsPermissive_of_ofCharsStrict (h : ofCharsStrict source = .ok e) :
    ofCharsPermissive source = .ok e := by
  simp only [ofCharsStrict] at h
  split at h
  · rename_i reading hstrict
    simpa only [ofCharsPermissive, Scan.permissive_of_strict hstrict] using h
  · split at h
    · cases h
    · cases h

/-- A fault of the permissive reading is a fault of the strict one. -/
theorem ofCharsStrict_of_ofCharsPermissive_error {fault : ParseFault}
    (h : ofCharsPermissive source = .error fault) : ofCharsStrict source = .error fault := by
  cases hstrict : Scan.strict source with
  | error stop => simp only [ofCharsStrict, hstrict, h]
  | ok reading =>
      simp only [ofCharsPermissive, Scan.permissive_of_strict hstrict] at h
      simp only [ofCharsStrict, hstrict, h]

/-- Beyond the faults of the permissive reading, the strict one has only stray
text to complain of. -/
theorem exists_strayText_of_ofCharsStrict {fault : ParseFault}
    (h : ofCharsPermissive source = .ok e) (hstrict : ofCharsStrict source = .error fault) :
    ∃ snippet column, fault = .strayText snippet column := by
  cases hread : Scan.strict source with
  | ok reading =>
      simp only [ofCharsPermissive, Scan.permissive_of_strict hread] at h
      simp [ofCharsStrict, hread, h] at hstrict
  | error stop =>
      simp only [ofCharsStrict, hread, h] at hstrict
      cases hstrict
      exact ⟨_, _, rfl⟩

theorem kind_of_ofCharsStrict {fault : ParseFault} (h : ofCharsPermissive source = .ok e)
    (hstrict : ofCharsStrict source = .error fault) : fault.kind = "unexpected-text" := by
  obtain ⟨snippet, column, rfl⟩ := exists_strayText_of_ofCharsStrict h hstrict
  rfl

/-- Both readings refuse a source, and for the same fault of its seed. -/
def BothRefuse (source : String) : Prop :=
  ∃ fault : ParseFault, parse false source = .error fault ∧ parse true source = .error fault ∧
    fault.kind = "missing-or-invalid-seed"

/-- Both readings make the same expression of a source, with the same columns. -/
def ReadAlike (source : String) : Prop :=
  ∃ e : Expression, parse false source = .ok e ∧ parse true source = .ok e

/-- Only the permissive reading accepts a source; the strict one finds stray
text. -/
def OnlyPermissive (source : String) : Prop :=
  ∃ (e : Expression) (fault : ParseFault), parse false source = .ok e ∧
    parse true source = .error fault ∧ fault.kind = "unexpected-text"

/-- **Strict and permissive reading agree.** Every source falls under exactly one
of three cases. -/
theorem exactly_one_of_modes (source : String) :
    (BothRefuse source ∧ ¬ ReadAlike source ∧ ¬ OnlyPermissive source) ∨
      (¬ BothRefuse source ∧ ReadAlike source ∧ ¬ OnlyPermissive source) ∨
      (¬ BothRefuse source ∧ ¬ ReadAlike source ∧ OnlyPermissive source) := by
  cases hpermissive : parse false source with
  | error fault =>
      have hstrict : parse true source = .error fault :=
        ofCharsStrict_of_ofCharsPermissive_error hpermissive
      refine .inl ⟨⟨fault, hpermissive, hstrict, kind_of_ofCharsPermissive hpermissive⟩, ?_, ?_⟩
      · rintro ⟨e, hread, -⟩
        cases hpermissive.symm.trans hread
      · rintro ⟨e, -, hread, -⟩
        cases hpermissive.symm.trans hread
  | ok e =>
      have hnotRefused : ¬ BothRefuse source := by
        rintro ⟨fault, hrefused, -⟩
        cases hpermissive.symm.trans hrefused
      cases hstrict : parse true source with
      | ok e' =>
          have hread : parse false source = .ok e' := ofCharsPermissive_of_ofCharsStrict hstrict
          refine .inr (.inl ⟨hnotRefused, ⟨e', hread, hstrict⟩, ?_⟩)
          rintro ⟨d, fault, -, hrefused, -⟩
          cases hstrict.symm.trans hrefused
      | error fault =>
          refine .inr (.inr ⟨hnotRefused, ?_, ⟨e, fault, hpermissive, hstrict,
            kind_of_ofCharsStrict hpermissive hstrict⟩⟩)
          rintro ⟨d, -, hread⟩
          cases hstrict.symm.trans hread

end Expression

end FluentCalc
