/-
# Values that are not finite

The numbers that sources bring into a run on the calculator are finite: no text reads
as an infinity or as a not-a-number. So once a run has overflowed, nothing brings it
back to the finite numbers but the operation `Clear`, whether the calls in between
succeed or not. A division by zero is refused, and so is the root of a number below
zero; what is left as a source of a not-a-number is an infinity that is multiplied by
zero.
-/

import FluentCalc.Proofs.Double.Special
import FluentCalc.Proofs.Expression.Canonical
import FluentCalc.Proofs.Run.Calculator
import FluentCalc.Proofs.Run.Log

namespace FluentCalc

namespace Calculator

/-- The argument of a request is finite, if there is one. -/
def Request.IsFinite : Request → Prop
  | binary _ x => x.isFinite = true
  | _ => True

/-- Arguments are read from texts, and what can be read is finite. -/
theorem Asks.isFinite {c : Call} {request : Request} (h : Asks c request) : request.IsFinite := by
  cases h with
  | binary operation x hname hargument =>
      obtain ⟨text, -, hnumber⟩ := argument?_eq_some_iff.1 hargument
      exact isFinite_of_number? hnumber
  | unknown _ | incomplete _ _ _ | unary _ _ => trivial

namespace Request

variable {request : Request} {value : Double}

/-- Only `clear` leads back to the finite numbers. -/
theorem isFinite_react (hrequest : request.IsFinite) (hclear : request ≠ .unary .clear)
    (hvalue : value.isFinite = false) : (request.react value).value.isFinite = false := by
  cases request with
  | unknown | incomplete _ => exact hvalue
  | binary operation x =>
      have hx : x.isFinite = true := hrequest
      cases operation with
      | add => exact (congrArg _ (value.add_of_not_isFinite hvalue hx)).trans hvalue
      | subtract => exact (congrArg _ (value.subtract_of_not_isFinite hvalue hx)).trans hvalue
      | multiply => exact Double.isFinite_multiply hvalue x
      | divide =>
          simp only [react, Binary.react]
          split
          · exact hvalue
          · exact Double.isFinite_quotient hvalue hx
  | unary operation =>
      cases operation with
      | square => exact Double.isFinite_multiply hvalue value
      | squareRoot =>
          simp only [react, Unary.react]
          split
          · exact hvalue
          · exact Double.isFinite_root hvalue
      | clear => exact absurd rfl hclear
      | getResult | displayResult => exact hvalue

/-- A not-a-number stays one, or it is made of an infinity and a zero. -/
theorem react_eq_nan (hrequest : request.IsFinite) (hvalue : value ≠ .nan)
    (hreact : (request.react value).value = .nan) :
    (∃ n, value = .infinite n) ∧ ∃ x, request = .binary .multiply x ∧ x.isZero = true := by
  cases request with
  | unknown | incomplete _ => exact absurd hreact hvalue
  | binary operation x =>
      have hx : x.isFinite = true := hrequest
      cases operation with
      | add => exact absurd ((Double.add_eq_nan_iff hx).1 hreact) hvalue
      | subtract => exact absurd ((Double.subtract_eq_nan_iff hx).1 hreact) hvalue
      | multiply =>
          rcases (Double.multiply_eq_nan_iff hx).1 hreact with hnan | ⟨hinfinite, hzero⟩
          · exact absurd hnan hvalue
          · exact ⟨hinfinite, x, rfl, hzero⟩
      | divide =>
          simp only [react, Binary.react] at hreact
          split at hreact
          · exact absurd hreact hvalue
          · next hzero =>
              exact absurd
                ((Double.quotient_eq_nan_iff hx (Bool.eq_false_of_not_eq_true hzero)).1 hreact) hvalue
  | unary operation =>
      cases operation with
      | square => exact absurd (Double.square_eq_nan_iff.1 hreact) hvalue
      | squareRoot =>
          simp only [react, Unary.react] at hreact
          split at hreact
          · exact absurd hreact hvalue
          · next hsign =>
              exact absurd
                ((Double.root_eq_nan_iff (Bool.eq_false_of_not_eq_true hsign)).1 hreact)
                hvalue
      | clear => cases hreact
      | getResult | displayResult => exact absurd hreact hvalue

end Request

section Runs

variable {r : Registry} (hr : host.registry = .ok r) {c : Call} {t : Thread}

include hr

/-- What is not finite stays so under a call that does not clear. -/
theorem isFinite_perform (hname : c.name ≠ "Clear") (ht : t.accumulator.value.isFinite = false) :
    (Run.perform host r c t).1.accumulator.value.isFinite = false := by
  obtain ⟨request, hasks⟩ := exists_asks c
  obtain ⟨message, hperform⟩ := perform_of_asks hr hasks
  rw [hperform]
  refine Request.isFinite_react hasks.isFinite ?_ ht
  rintro rfl
  cases hasks with
  | unary _ hclear => exact hname (hclear.trans (by decide +kernel))

/-- A call after which there is a not-a-number, and before which there was none, has
multiplied an infinity by zero. -/
theorem perform_eq_nan (ht : t.accumulator.value ≠ .nan)
    (hnan : (Run.perform host r c t).1.accumulator.value = .nan) :
    (∃ n, t.accumulator.value = .infinite n) ∧ c.name = "Multiply" ∧
      IsZeroNumeral c.argument ∧ (Run.perform host r c t).2.status = .ok := by
  obtain ⟨request, hasks⟩ := exists_asks c
  obtain ⟨message, hperform⟩ := perform_of_asks hr hasks
  rw [hperform] at hnan ⊢
  obtain ⟨hinfinite, x, rfl, hzero⟩ := Request.react_eq_nan hasks.isFinite ht hnan
  cases hasks with
  | binary _ _ hname hargument =>
      obtain ⟨text, htext, hnumber⟩ := argument?_eq_some_iff.1 hargument
      exact ⟨hinfinite, hname.trans (by decide +kernel), ⟨text, x, htext, hnumber, hzero⟩, rfl⟩

/-- What is not finite stays so until it is cleared. -/
theorem isFinite_runCalls {calls : List Call} (hcalls : ∀ c ∈ calls, c.name ≠ "Clear")
    (index : ℕ) (ht : t.accumulator.value.isFinite = false) :
    (Run.runCalls host r index calls t).1.accumulator.value.isFinite = false := by
  induction calls generalizing index t with
  | nil => exact ht
  | cons c rest ih =>
      rw [List.forall_mem_cons] at hcalls
      rw [Run.runCalls_cons]
      exact ih hcalls.2 (index + 1) (isFinite_perform hr hcalls.1 ht)

end Runs

end Calculator

namespace Runner

/-- **What is not finite is absorbing.** On the calculator every source that is read
comes to an outcome in which the value at each place goes over to the next one as
follows. If it is infinite or a not-a-number and the call is not `Clear`, the next
one is infinite or a not-a-number as well, and without a `Clear` from there on the
final value is one, too. A not-a-number comes of something else only where an
infinity is multiplied, by a call that succeeds and whose argument reads as zero. -/
theorem exists_handle_absorbing {strict : Bool} {source : String} {e : Expression}
    (h : Expression.parse strict source = .ok e) :
    ∃ r o, ofHost Calculator.host strict = .ok r ∧ r.handle source = .ok (.success source o) ∧
      o.diagnostics.length = e.calls.length ∧
      ∀ (k : ℕ) (c : Call) (d : Diagnostic) (value : Double), e.calls[k]? = some c →
        o.diagnostics[k]? = some d → (Run.valuesFrom e.seed o.diagnostics)[k]? = some value →
          (value.isFinite = false → c.name ≠ "Clear" → d.value.isFinite = false) ∧
          (value.isFinite = false → (∀ c' ∈ e.calls.drop k, c'.name ≠ "Clear") →
            o.final.isFinite = false) ∧
          (d.value = .nan → value ≠ .nan → (∃ n, value = .infinite n) ∧ c.name = "Multiply" ∧
            d.status = .ok ∧ Calculator.IsZeroNumeral c.argument) := by
  obtain ⟨registry, hregistry⟩ := Calculator.exists_registry
  refine ⟨_, _, ofHost_eq_ok_iff.2 ⟨hregistry, rfl, rfl⟩, handle_of_parse h,
    Run.length_runCalls _ _ _, fun k c d value hc hd hvalue => ?_⟩
  have hk : k < e.calls.length := (List.getElem?_eq_some_iff.1 hc).1
  rw [Run.outcomeOf, Run.getElem?_runCalls, hc, Option.map_some, Option.some.injEq] at hd
  have hbefore := Run.getElem?_valuesFrom_runCalls (h := Calculator.host) (r := registry) 0
    ⟨⟨e.seed, false, true⟩, .empty⟩ (Nat.le_of_lt hk)
  cases hbefore.symm.trans hvalue
  subst hd
  refine ⟨fun hnot hname => Calculator.isFinite_perform hregistry hname hnot,
    fun hnot hcalls => ?_, fun hnan hother => ?_⟩
  · rw [Run.outcomeOf]
    conv in Run.runCalls _ _ _ e.calls _ => rw [← List.take_append_drop k e.calls]
    rw [Run.runCalls_append]
    exact Calculator.isFinite_runCalls hregistry hcalls _ hnot
  · obtain ⟨hinfinite, hname, hzero, hok⟩ := Calculator.perform_eq_nan hregistry hother hnan
    exact ⟨hinfinite, hname, hok, hzero⟩

/-- A chain whose second value is too large and whose last argument is too small to be read
as anything but zero. -/
theorem parse_overflowing :
    Expression.parse false "Calculator(-1e200).Square().Multiply(1e-400)" =
      .ok ⟨"Calculator", .finite true ⟨7598952565167317594, by decide⟩,
        [⟨"Square", .null, some 19⟩, ⟨"Multiply", .text "1e-400", some 28⟩]⟩ := by
  let found : Scan.RawSeed :=
    ⟨⟨"Calculator".toList, "-1e200".toList⟩, 11, 18, ".Square().Multiply(1e-400)".toList⟩
  have hseed : Scan.seed "Calculator(-1e200).Square().Multiply(1e-400)".toList = .ok found :=
    Scan.seed_eq_ok_iff.2
      ⟨[], List.forall_mem_nil _, ⟨by decide +kernel, by decide⟩, rfl, rfl, rfl⟩
  have hsquare : Scan.call? found.rest =
      some (⟨"Square".toList, []⟩, ".Multiply(1e-400)".toList) := by decide +kernel
  have hmultiply : Scan.call? ".Multiply(1e-400)".toList =
      some (⟨"Multiply".toList, "1e-400".toList⟩, []) := by decide +kernel
  have hcalls : Scan.findCalls 18 found.rest =
      [⟨"Square", .null, some 19⟩, ⟨"Multiply", .text "1e-400", some 28⟩] := by
    rw [Scan.findCalls_of_call? 18 hsquare, Scan.findCalls_of_call? _ hmultiply,
      Scan.findCalls_nil]
    rfl
  rw [Expression.parse_false]
  exact Expression.ofCharsPermissive_eq_ok_iff.2
    ⟨found, hseed, by decide +kernel, rfl, hcalls.symm⟩

/-- The infinity stays, and multiplied by what reads as zero it is a not-a-number. -/
theorem exists_handle_absorbing_of_overflow :
    ∃ e r o d, Expression.parse false "Calculator(-1e200).Square().Multiply(1e-400)" = .ok e ∧
      ofHost Calculator.host false = .ok r ∧
      r.handle "Calculator(-1e200).Square().Multiply(1e-400)" =
        .ok (.success "Calculator(-1e200).Square().Multiply(1e-400)" o) ∧
      (Run.valuesFrom e.seed o.diagnostics)[1]? = some (.infinite false) ∧
      o.diagnostics[1]? = some d ∧ d.value = .nan ∧ d.status = .ok ∧
      Calculator.IsZeroNumeral (.text "1e-400") ∧ o.final.isFinite = false := by
  have hparse := parse_overflowing
  obtain ⟨registry, hregistry⟩ := Calculator.exists_registry
  have hmultiplied : registry.get? "Multiply" = some Calculator.Binary.multiply.operation :=
    Calculator.get?_binary hregistry .multiply (by decide +kernel)
  have hsquared : registry.get? "Square" = some Calculator.Unary.square.operation :=
    Calculator.get?_unary hregistry .square (by decide +kernel)
  obtain ⟨r, o, hr, hhandle, -, hsteps⟩ := exists_handle_absorbing hparse
  have hmade : ofHost Calculator.host false = .ok ⟨Calculator.host, registry, false⟩ :=
    ofHost_eq_ok_iff.2 ⟨hregistry, rfl, rfl⟩
  cases hr.symm.trans hmade
  have hvalues : o.diagnostics.map Diagnostic.value = [.infinite false, .nan] := by
    cases hhandle.symm.trans (handle_of_parse hparse)
    simp only [Run.outcomeOf, Run.runCalls, Run.perform, Run.resolve, hsquared, hmultiplied,
      Calculator.Binary.operation, Calculator.Unary.operation]
    decide +kernel
  obtain ⟨first, last, hdiagnostics, hfirst, hlast⟩ : ∃ first last,
      o.diagnostics = [first, last] ∧ first.value = .infinite false ∧ last.value = .nan := by
    simpa [List.map_eq_cons_iff] using hvalues
  have hplace : (Run.valuesFrom (.finite true ⟨7598952565167317594, by decide⟩) o.diagnostics)[1]? =
      some (.infinite false) := by
    rw [hdiagnostics, ← hfirst]
    rfl
  have hlast? : o.diagnostics[1]? = some last := by
    rw [hdiagnostics]
    rfl
  obtain ⟨-, hfinal, horigin⟩ := hsteps 1 _ last _ rfl hlast? hplace
  obtain ⟨-, -, hok, hzero⟩ := horigin hlast (by simp)
  exact ⟨_, _, o, last, hparse, hr, hhandle, hplace, hlast?, hlast, hok, hzero,
    hfinal rfl (by simp)⟩

end Runner

end FluentCalc
