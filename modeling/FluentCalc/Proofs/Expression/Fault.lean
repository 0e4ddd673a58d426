/-
# What faults say

Every source that does not parse has a fault that points into it or right behind its end, in
either reading. The wording of the fault is on one line: whatever it shows of the source is
quoted or a name.
-/

import FluentCalc.Proofs.Expression.Leftmost
import FluentCalc.Proofs.Expression.Stray
import FluentCalc.Proofs.Text.Quoted

namespace FluentCalc.Expression

open Text Scan

variable {strict : Bool} {source : String} {fault : ParseFault}

/-- A fault is that of the permissive reading, or else stray text that only the strict reading
complains of. -/
theorem fault_cases (h : parse strict source = .error fault) :
    ofCharsPermissive source.toList = .error fault ∨
      ofCharsStrict source.toList = .error fault ∧
        ∃ snippet column, fault = .strayText snippet column := by
  cases hpermissive : ofCharsPermissive source.toList with
  | error other =>
      cases strict with
      | false => exact .inl (hpermissive.symm.trans h)
      | true =>
          have hother := ofCharsStrict_of_ofCharsPermissive_error hpermissive
          exact .inl (hother.symm.trans h)
  | ok e =>
      cases strict with
      | false => cases hpermissive.symm.trans h
      | true => exact .inr ⟨h, exists_strayText_of_ofCharsStrict hpermissive h⟩

/-- A fault points at a character or right behind the last. -/
theorem column_of_parse (h : parse strict source = .error fault) :
    1 ≤ fault.column ∧ fault.column ≤ source.length + 1 := by
  rw [← String.length_toList]
  rcases fault_cases h with hpermissive | ⟨hstrict, snippet, column, rfl⟩
  · exact column_of_ofCharsPermissive hpermissive
  · obtain ⟨front, rest, -, hsplit, -, hcolumn, -, -⟩ := exists_front_of_strayText hstrict rfl
    have hlength := congrArg List.length hsplit
    rw [List.length_append] at hlength
    omega

/-- A seed that is no number is the fault, in either reading. -/
theorem parse_of_seed {found : RawSeed} (hseed : Scan.seed source.toList = .ok found)
    {reason : NumberFault} (hnumber : number? found.invocation.argument = .error reason) :
    parse strict source = .error (.badSeed (String.ofList found.invocation.argument)
      (String.ofList found.invocation.name) (found.argumentOffset + 1)) := by
  have hpermissive : ofCharsPermissive source.toList = .error (.badSeed
      (String.ofList found.invocation.argument) (String.ofList found.invocation.name)
      (found.argumentOffset + 1)) := by
    rw [ofCharsPermissive, permissive, hseed]
    simp only [build, hnumber]
  cases strict with
  | false => exact hpermissive
  | true => exact ofCharsStrict_of_ofCharsPermissive_error hpermissive

theorem isUnbroken_of_isName {name : List Char} (h : IsName name) : IsUnbroken name := by
  cases name with
  | nil => exact h.elim
  | cons c rest =>
      have hstart : isLineBreak c = false := not_isLineBreak_of (by decide) h.1
      exact isUnbroken_cons.2 ⟨hstart, fun d hd => not_isLineBreak_of_isWord (h.2 d hd)⟩

/-- A fault of the permissive reading quotes the argument of a constructor call with a name. -/
theorem isUnbroken_message_of_ofCharsPermissive {source : List Char}
    (h : ofCharsPermissive source = .error fault) : IsUnbroken fault.message.toList := by
  rw [ofCharsPermissive, Scan.permissive] at h
  cases hseed : Scan.seed source with
  | error stop =>
      rw [hseed] at h
      cases h
      have hwords : IsUnbroken
          "expected a constructor call with a numeric argument, e.g. Calculator(10)".toList := by
        decide
      exact hwords
  | ok found =>
      obtain ⟨-, -, hspelled, -⟩ := seed_eq_ok_iff.1 hseed
      simp only [hseed, build] at h
      split at h
      · cases h
        change IsUnbroken ("invalid seed " ++ quoted _ ++ " in " ++
          String.ofList found.invocation.name ++ "(...)").toList
        simp only [String.toList_append, String.toList_ofList, isUnbroken_append]
        exact ⟨⟨⟨⟨by decide, isUnbroken_quoted _⟩, by decide⟩,
          isUnbroken_of_isName hspelled.name⟩, by decide⟩
      · cases h

/-- **The wording of a fault is on one line.** -/
theorem isUnbroken_message (h : parse strict source = .error fault) :
    IsUnbroken fault.message.toList := by
  rcases fault_cases h with hpermissive | ⟨-, snippet, column, rfl⟩
  · exact isUnbroken_message_of_ofCharsPermissive hpermissive
  · change IsUnbroken ("unexpected text " ++ quoted snippet).toList
    rw [String.toList_append]
    exact isUnbroken_append.2 ⟨by decide, isUnbroken_quoted _⟩

end FluentCalc.Expression
