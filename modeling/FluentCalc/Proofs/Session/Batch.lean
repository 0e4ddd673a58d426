/-
# Sessions on a file

A session on a file reports on its expressions one after the other, and what it prints
for each of them is what is printed for it alone. Neither a text that does not parse nor
a call that fails ends it. Its exit code only says whether every text was read.
-/

import Mathlib.Data.List.Forall2
import FluentCalc.Proofs.Session.Loading
import FluentCalc.Proofs.Session.Report
import FluentCalc.Session.Run

namespace FluentCalc

/-- Consoles one after another, on each stream. -/
def Console.concat (consoles : List Console) : Console :=
  ⟨consoles.flatMap output, consoles.flatMap errors⟩

@[simp] theorem Console.concat_nil : concat [] = empty := rfl

@[simp]
theorem Console.concat_cons (c : Console) (rest : List Console) :
    concat (c :: rest) = c ++ concat rest := rfl

/-- What is printed for an expression alone: a fresh runner handles it, and the result is
reported. -/
def Prints (strict : Bool) (format : Option Format) (source : String) (console : Console) : Prop :=
  ∃ r result, Runner.ofHost Calculator.host strict = .ok r ∧ r.handle source = .ok result ∧
    result.report (format.map Format.name) = .ok console

variable {strict : Bool} {format : Option Format}

/-- Something is printed for every expression. -/
theorem exists_prints (strict : Bool) (format : Option Format) (source : String) :
    ∃ console, Prints strict format source console := by
  obtain ⟨r, hr⟩ := Runner.exists_ofHost_calculator strict
  obtain ⟨result, hhandle⟩ : ∃ result, r.handle source = .ok result := by
    cases hparse : Expression.parse strict source with
    | error fault => exact ⟨_, Runner.handle_of_fault hr hparse⟩
    | ok e =>
        obtain ⟨o, hhandle⟩ := Runner.exists_handle_of_parse hr hparse
        exact ⟨_, hhandle⟩
  obtain ⟨console, hreport⟩ := result.exists_report format
  exact ⟨console, r, result, hr, hhandle, hreport⟩

/-- Something is printed for each of some expressions. -/
theorem exists_forall_prints (strict : Bool) (format : Option Format) (sources : List String) :
    ∃ consoles, List.Forall₂ (Prints strict format) sources consoles := by
  induction sources with
  | nil => exact ⟨[], .nil⟩
  | cons source rest ih =>
      obtain ⟨console, hfirst⟩ := exists_prints strict format source
      obtain ⟨consoles, hrest⟩ := ih
      exact ⟨console :: consoles, .cons hfirst hrest⟩

/-- Whether an expression was run tells whether it was read. -/
theorem Runner.isSuccess_of_handle {r : Runner} (hr : ofHost Calculator.host strict = .ok r)
    {source : String} {result : Result} (h : r.handle source = .ok result) :
    result.isSuccess = (Expression.parse strict source).isOk := by
  cases hparse : Expression.parse strict source with
  | error fault =>
      cases h.symm.trans (handle_of_fault hr hparse)
      rfl
  | ok e =>
      obtain ⟨o, hhandle⟩ := exists_handle_of_parse hr hparse
      cases h.symm.trans hhandle
      rfl

/-- In a session an expression is printed as it is alone. -/
theorem Prints.exists_turn {r : Runner} (hr : Runner.ofHost Calculator.host strict = .ok r)
    {source : String} {console : Console} (h : Prints strict format source console) :
    ∃ result, r.turn format source = .ok ⟨result, console⟩ ∧
      result.isSuccess = (Expression.parse strict source).isOk := by
  obtain ⟨_, result, hfresh, hhandle, hreport⟩ := h
  cases hr.symm.trans hfresh
  refine ⟨result, ?_, Runner.isSuccess_of_handle hr hhandle⟩
  rw [Runner.turn, hhandle]
  simp only [hreport]

/-- A batch prints what its expressions print alone, and fails if one in front of it did or one
of its own is not read. -/
theorem batch_of_prints {r : Runner} (hr : Runner.ofHost Calculator.host strict = .ok r)
    {sources : List String} {consoles : List Console}
    (h : List.Forall₂ (Prints strict format) sources consoles) (failed : Bool) :
    batch r format failed sources = ⟨Console.concat consoles, .ok
      (if failed || sources.any fun source => !(Expression.parse strict source).isOk then 1
        else 0)⟩ := by
  induction h generalizing failed with
  | nil => simp [batch]
  | cons hfirst _ ih =>
      obtain ⟨result, hturn, hsuccess⟩ := hfirst.exists_turn hr
      rw [batch, hturn, List.any_cons, ← Bool.or_assoc, ← hsuccess]
      simp only [ih]
      rfl

/-- **A session on a file is complete.** Whatever the expressions that are loaded, the session
prints for each of them, in order, what is printed for it alone. It comes to its end, and its
exit code is one exactly if an expression is not read. -/
theorem fileSession_of_load {files : List File} {path : String} {sources : List String}
    (h : load files path = .ok sources) (strict : Bool) (format : Option Format) :
    ∃ r consoles, Runner.ofHost Calculator.host strict = .ok r ∧
      List.Forall₂ (Prints strict format) sources consoles ∧
      fileSession r format files path =
        ⟨⟨consoles.flatMap Console.output, consoles.flatMap Console.errors⟩, .ok
          (if sources.any fun source => !(Expression.parse strict source).isOk then 1 else 0)⟩ := by
  obtain ⟨r, hr⟩ := Runner.exists_ofHost_calculator strict
  obtain ⟨consoles, hconsoles⟩ := exists_forall_prints strict format sources
  refine ⟨r, consoles, hr, hconsoles, ?_⟩
  rw [fileSession, h]
  exact batch_of_prints hr hconsoles false

/-- A call that is not known, a text that is not an expression and one behind both, between
lines that are left out. -/
theorem fileSession_of_unread_expression :
    ∃ files r consoles,
      files = [⟨"a.txt", "Calculator(1).Sqrt()\n#\n(2)\n\n Calculator(3)".toUTF8.data.toList⟩] ∧
      load files "a.txt" = .ok ["Calculator(1).Sqrt()", "(2)", "Calculator(3)"] ∧
      Runner.ofHost Calculator.host true = .ok r ∧
      List.Forall₂ (Prints true (some .yaml)) ["Calculator(1).Sqrt()", "(2)", "Calculator(3)"]
        consoles ∧
      fileSession r (some .yaml) files "a.txt" =
        ⟨⟨consoles.flatMap Console.output, consoles.flatMap Console.errors⟩, .ok 1⟩ := by
  have hload : load [⟨"a.txt",
      "Calculator(1).Sqrt()\n#\n(2)\n\n Calculator(3)".toUTF8.data.toList⟩] "a.txt" =
      .ok ["Calculator(1).Sqrt()", "(2)", "Calculator(3)"] :=
    (load_of_toUTF8 rfl).trans rfl
  obtain ⟨r, consoles, hr, hconsoles, hsession⟩ := fileSession_of_load hload true (some .yaml)
  have hunread : (["Calculator(1).Sqrt()", "(2)", "Calculator(3)"].any fun source =>
      !(Expression.parse true source).isOk) = true := by decide +kernel
  rw [hunread] at hsession
  exact ⟨_, r, consoles, rfl, hload, hr, hconsoles, hsession⟩

end FluentCalc
