/-
# Reports of outcomes

An outcome is plain data, so it is written in every format, and on the calculator every
source comes to a result with a report.

A report in JSON need not be JSON. Seeds and arguments are finite, but what is made of
them can overflow, and the infinities and not-a-number are written as words that are no
numbers there. An outcome is written as a JSON text exactly if no value in it has left
the finite numbers.
-/

import FluentCalc.Proofs.Json.Conformance
import FluentCalc.Proofs.Run.Calculator
import FluentCalc.Proofs.Yaml.Writer
import FluentCalc.Session.Report

namespace FluentCalc

/-- No value in an outcome has left the finite numbers. -/
structure Outcome.IsFinite (o : Outcome) : Prop where
  final : o.final.isFinite = true
  diagnostics : ∀ d ∈ o.diagnostics, d.value.isFinite = true

/-- An outcome is written as a JSON text exactly if it is finite. -/
theorem Outcome.exists_write_json (o : Outcome) (pretty : Bool) :
    ∃ text, Format.json.write pretty o.toValue = .ok text ∧
      (Json.IsText text.toList ↔ o.IsFinite) := by
  obtain ⟨text, htext, hiff⟩ := Json.exists_text o.isPlain pretty
  refine ⟨text, Format.write_json o.hasLongInteger_toValue htext, hiff.trans ?_⟩
  rw [o.doubles_plain, List.forall_mem_cons, List.forall_mem_map]
  exact ⟨fun h => ⟨h.1, h.2⟩, fun h => ⟨h.final, h.diagnostics⟩⟩

/-- An outcome is written in every format. -/
theorem Outcome.exists_write (o : Outcome) (format : Format) (pretty : Bool) :
    ∃ text, format.write pretty o.toValue = .ok text := by
  cases format with
  | json =>
      obtain ⟨text, hwrite, -⟩ := o.exists_write_json pretty
      exact ⟨text, hwrite⟩
  | yaml =>
      obtain ⟨text, htext⟩ := Yaml.exists_text o.isPlain
      exact ⟨text, Format.write_yaml o.hasLongInteger_toValue htext⟩

/-- The report of an outcome in a format is a line that ends what is written. -/
theorem Result.report_of_write {o : Outcome} {format : Format} {text : String}
    (h : format.write true o.toValue = .ok text) (source : String) :
    (success source o).report (some format.name) = .ok (.line text) := by
  have hserialize : serialize o.toValue (some format.name) true = .ok text := by
    cases format <;> exact h
  cases format <;> exact congrArg (Except.map Console.line) hserialize

/-- **Every result has a report**, in every format. -/
theorem Result.exists_report (result : Result) (format : Option Format) :
    ∃ console, result.report (format.map Format.name) = .ok console := by
  cases result with
  | fault source cause => exact ⟨_, rfl⟩
  | success source o =>
      cases format with
      | none => exact ⟨o.report, rfl⟩
      | some format =>
          obtain ⟨text, hwrite⟩ := o.exists_write format true
          exact ⟨.line text, report_of_write hwrite source⟩

namespace Runner

variable {r : Runner} {strict : Bool} {source : String}

/-- There is a runner for the calculator. -/
theorem exists_ofHost_calculator (strict : Bool) :
    ∃ r, ofHost Calculator.host strict = .ok r := by
  obtain ⟨registry, hregistry⟩ := Calculator.exists_registry
  exact ⟨⟨Calculator.host, registry, strict⟩, ofHost_eq_ok_iff.2 ⟨hregistry, rfl, rfl⟩⟩

/-- A source that is not read comes to its fault. -/
theorem handle_of_fault (hr : ofHost Calculator.host strict = .ok r) {fault : ParseFault}
    (h : Expression.parse strict source = .error fault) :
    r.handle source = .ok (.fault source fault) := by
  obtain ⟨-, -, rfl⟩ := ofHost_eq_ok_iff.1 hr
  rw [handle, h]

/-- A source that is read comes to an outcome. -/
theorem exists_handle_of_parse (hr : ofHost Calculator.host strict = .ok r) {e : Expression}
    (h : Expression.parse strict source = .ok e) :
    ∃ o, r.handle source = .ok (.success source o) := by
  obtain ⟨-, hhost, rfl⟩ := ofHost_eq_ok_iff.1 hr
  have hcreate : r.host.create (.num e.seed) = .ok ⟨e.seed, false, true⟩ := by
    rw [hhost]
    exact Calculator.create_num e.seed
  exact ⟨_, handle_eq_success_iff.2 ⟨e, h, evaluate_eq_ok_iff.2 ⟨_, hcreate, rfl⟩⟩⟩

/-- A number that is squared is read as the seed of one call. -/
theorem exists_parse_square (source : String) {digits : List Char} (hdigits : ')' ∉ digits)
    {x : Double} (hx : number? digits = .ok x)
    (hsource : source.toList = "Calculator(".toList ++ (digits ++ ").Square()".toList)) :
    ∃ column, Expression.parse false source =
      .ok ⟨"Calculator", x, [⟨"Square", .null, column⟩]⟩ := by
  have hname : Scan.IsName "Calculator".toList := by decide +kernel
  have hwidth : digits.length + 12 = 0 + Scan.RawCall.width ⟨"Calculator".toList, digits⟩ := by
    simp [Scan.RawCall.width]
    omega
  have hseed : Scan.seed source.toList = .ok ⟨⟨"Calculator".toList, digits⟩, 11,
      digits.length + 12, ".Square()".toList⟩ := by
    rw [hsource]
    exact Scan.seed_eq_ok_iff.2
      ⟨[], List.forall_mem_nil _, ⟨hname, hdigits⟩, rfl, rfl, hwidth⟩
  have hcall : Scan.call? ".Square()".toList = some (⟨"Square".toList, []⟩, []) := by
    decide +kernel
  refine ⟨some (digits.length + 13 : ℕ), ?_⟩
  rw [Expression.parse_false]
  apply Expression.ofCharsPermissive_eq_ok_iff.2
  refine ⟨_, hseed, hx, rfl, ?_⟩
  rw [Scan.findCalls_of_call? _ hcall, Scan.findCalls_nil]
  rfl

/-- What comes of a number that is squared is finite exactly if the square is. -/
theorem exists_handle_square (hr : ofHost Calculator.host strict = .ok r) {constructor : String}
    {x : Double} {column : Option ℤ}
    (h : Expression.parse strict source = .ok ⟨constructor, x, [⟨"Square", .null, column⟩]⟩) :
    ∃ o, r.handle source = .ok (.success source o) ∧
      (o.IsFinite ↔ (x.multiply x).isFinite = true) := by
  obtain ⟨hregistry, hhost, rfl⟩ := ofHost_eq_ok_iff.1 hr
  have hcreate : r.host.create (.num x) = .ok ⟨x, false, true⟩ := by
    rw [hhost]
    exact Calculator.create_num x
  have hname : "Square" = expressionName Calculator.Unary.square.name := by decide +kernel
  obtain ⟨message, hperform⟩ := Calculator.perform_of_asks hregistry
    (.unary .square hname : Calculator.Asks ⟨"Square", .null, column⟩ _)
  refine ⟨_, handle_eq_success_iff.2 ⟨_, h, evaluate_eq_ok_iff.2 ⟨_, hcreate, rfl⟩⟩, ?_⟩
  rw [Run.runCalls_cons, Run.diagnosticOf, hhost, hperform]
  apply Iff.intro
  · intro hfinite
    exact hfinite.final
  · intro hfinite
    exact ⟨hfinite, List.forall_mem_singleton.2 hfinite⟩

/-- **JSON is written for finite outcomes alone.** Every source that is read permissively is
run, and its outcome is written in either layout and reported spread over lines. What is
written is a JSON text exactly if no value in the outcome has left the finite numbers. -/
theorem serialize_isText_iff {e : Expression} (h : Expression.parse false source = .ok e)
    (pretty : Bool) :
    ∃ r o text, ofHost Calculator.host false = .ok r ∧
      r.handle source = .ok (.success source o) ∧
      serialize o.toValue (some "json") pretty = .ok text ∧
      (pretty = true → Result.report (.success source o) (some "json") = .ok (.line text)) ∧
      (Json.IsText text.toList ↔ o.IsFinite) := by
  obtain ⟨r, hr⟩ := exists_ofHost_calculator false
  obtain ⟨o, hhandle⟩ := exists_handle_of_parse hr h
  obtain ⟨text, hwrite, hiff⟩ := o.exists_write_json pretty
  refine ⟨r, o, text, hr, hhandle, hwrite, ?_, hiff⟩
  intro hpretty
  subst hpretty
  exact Result.report_of_write hwrite source

/-- The square of minus three is finite, and what is written of it is a JSON text. -/
theorem serialize_isText_iff_of_square :
    ∃ e r o text, Expression.parse false "Calculator(-3).Square()" = .ok e ∧
      ofHost Calculator.host false = .ok r ∧
      r.handle "Calculator(-3).Square()" = .ok (.success "Calculator(-3).Square()" o) ∧
      serialize o.toValue (some "json") true = .ok text ∧
      Result.report (.success "Calculator(-3).Square()" o) (some "json") = .ok (.line text) ∧
      Json.IsText text.toList := by
  have hnumber : number? "-3".toList = .ok (Numeral.mk true 3 1 0).toDouble := by decide +kernel
  obtain ⟨column, hparse⟩ := exists_parse_square "Calculator(-3).Square()" (by decide) hnumber rfl
  obtain ⟨r, o, text, hr, hhandle, hserialize, hreport, hiff⟩ := serialize_isText_iff hparse true
  obtain ⟨o', hhandle', hfinite⟩ := exists_handle_square hr hparse
  cases hhandle.symm.trans hhandle'
  exact ⟨_, r, o, text, hparse, hr, hhandle, hserialize, hreport rfl,
    hiff.2 (hfinite.2 (by decide +kernel))⟩

/-- The square of a number can be larger than all finite ones, and then what is written is
no JSON text. -/
theorem not_isText_of_overflow :
    ∃ r o text, ofHost Calculator.host false = .ok r ∧
      r.handle "Calculator(1e200).Square()" = .ok (.success "Calculator(1e200).Square()" o) ∧
      serialize o.toValue (some "json") false = .ok text ∧ ¬ Json.IsText text.toList := by
  have hnumber : number? "1e200".toList = .ok (Numeral.mk false 1 1 200).toDouble := by
    decide +kernel
  obtain ⟨column, hparse⟩ :=
    exists_parse_square "Calculator(1e200).Square()" (by decide) hnumber rfl
  obtain ⟨r, hr⟩ := exists_ofHost_calculator false
  obtain ⟨o, hhandle, hfinite⟩ := exists_handle_square hr hparse
  obtain ⟨text, hwrite, hiff⟩ := o.exists_write_json false
  refine ⟨r, o, text, hr, hhandle, hwrite, ?_⟩
  rw [hiff, hfinite]
  decide +kernel

end Runner

end FluentCalc
