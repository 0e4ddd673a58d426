/-
# Counting the lines of a report

A report for reading is made of lines that are each about one thing: an effect, a call
that did not end well, or the final value. On the calculator no text of a source can add
a line to it, since whatever a report shows of the source is on one line. So the lines on
each stream can be counted from the outcome, and so can those of the outcome in print. The
report of a source that does not parse has three lines.
-/

import FluentCalc.Proofs.Run.Wording
import FluentCalc.Proofs.Session.Excerpt

namespace FluentCalc

open Text

/-- A console with a number of lines on each stream, each of which is ended and has no
other line break in it. -/
def Console.HasLines (c : Console) (output errors : ℕ) : Prop :=
  ∃ shown told : List (List Char),
    (∀ line ∈ shown, IsUnbroken line) ∧ (∀ line ∈ told, IsUnbroken line) ∧
      c = ⟨shown.flatMap (· ++ ['\n']), told.flatMap (· ++ ['\n'])⟩ ∧
      shown.length = output ∧ told.length = errors

namespace Console.HasLines

variable {c d : Console} {m n m' n' : ℕ}

theorem empty : Console.empty.HasLines 0 0 :=
  ⟨[], [], List.forall_mem_nil _, List.forall_mem_nil _, rfl, rfl, rfl⟩

theorem line {text : String} (h : IsUnbroken text.toList) : (Console.line text).HasLines 1 0 :=
  ⟨[text.toList], [], List.forall_mem_singleton.2 h, List.forall_mem_nil _,
    by simp [Console.line], rfl, rfl⟩

theorem errorLine {text : String} (h : IsUnbroken text.toList) :
    (Console.errorLine text).HasLines 0 1 :=
  ⟨[], [text.toList], List.forall_mem_nil _, List.forall_mem_singleton.2 h,
    by simp [Console.errorLine], rfl, rfl⟩

theorem append (hc : c.HasLines m n) (hd : d.HasLines m' n') :
    (c ++ d).HasLines (m + m') (n + n') := by
  obtain ⟨shown, told, hshown, htold, rfl, rfl, rfl⟩ := hc
  obtain ⟨shown', told', hshown', htold', rfl, rfl, rfl⟩ := hd
  refine ⟨shown ++ shown', told ++ told', List.forall_mem_append.2 ⟨hshown, hshown'⟩,
    List.forall_mem_append.2 ⟨htold, htold'⟩, ?_, List.length_append, List.length_append⟩
  rw [append_def, List.flatMap_append, List.flatMap_append]

/-- Reports of at most one line on each stream, one after the other. -/
theorem foldr {α : Type} {report : α → Console} {p q : α → Bool} {xs : List α}
    (h : ∀ x ∈ xs, (report x).HasLines (if p x then 1 else 0) (if q x then 1 else 0)) :
    (xs.foldr (fun x c => report x ++ c) .empty).HasLines (xs.countP p) (xs.countP q) := by
  induction xs with
  | nil => exact .empty
  | cons x rest ih =>
      rw [List.forall_mem_cons] at h
      rw [List.countP_cons, List.countP_cons, Nat.add_comm _ (if p x then 1 else 0),
        Nat.add_comm _ (if q x then 1 else 0)]
      exact h.1.append (ih h.2)

/-- The lines can be counted by cutting what is on the streams. -/
theorem length_lines (h : c.HasLines m n) :
    (lines c.output).length = m ∧ (lines c.errors).length = n := by
  obtain ⟨shown, told, hshown, htold, rfl, rfl, rfl⟩ := h
  rw [lines_flatMap hshown, lines_flatMap htold]
  exact ⟨rfl, rfl⟩

end Console.HasLines

theorem Effect.IsLine.hasLines_report {e : Effect} (h : e.IsLine) :
    e.report.HasLines (if e.topics == ["stdout"] then 1 else 0)
      (if e.topics == ["stderr"] then 1 else 0) := by
  cases h with
  | output h => exact .line h
  | error h => exact .errorLine h

/-- The readable form of a diagnostic adds only fixed words and numbers. -/
theorem isUnbroken_diagnosticLine (index : ℤ) {name message : String} (status : Status)
    (hname : IsUnbroken name.toList) (hmessage : IsUnbroken message.toList) :
    IsUnbroken (diagnosticLine index name status.word message).toList := by
  have hword : IsUnbroken status.word.toList := by
    cases status <;> decide
  have hnote : IsUnbroken (if message.isEmpty then "" else " - " ++ message).toList := by
    split
    · exact List.forall_mem_nil _
    · exact isUnbroken_toList_append.2 ⟨by decide, hmessage⟩
  simp only [diagnosticLine, isUnbroken_toList_append]
  exact ⟨⟨⟨⟨⟨⟨by decide, Result.isUnbroken_integerText index⟩, by decide⟩, hname⟩, by decide⟩,
    hword⟩, hnote⟩

/-- What is printed of an outcome, line by line and without the indentation. -/
def Outcome.printed (o : Outcome) : List String :=
  (o.diagnostics.map fun d => diagnosticLine d.index d.name d.status.word d.message) ++
    ["result: " ++ plainNumber o.final]

theorem renderItems_map_toValue (width level : ℕ) (diagnostics : List Diagnostic) :
    Value.renderItems width level (diagnostics.map Diagnostic.toValue) = diagnostics.map fun d =>
      Value.indentation width level ++ diagnosticLine d.index d.name d.status.word d.message := by
  induction diagnostics with
  | nil => rfl
  | cons d rest ih =>
      rw [List.map_cons, Value.renderItems, ih]
      rfl

theorem Outcome.render_toValue (o : Outcome) (width level : ℕ) :
    o.toValue.render width level =
      "\n".intercalate (o.printed.map (Value.indentation width level ++ ·)) := by
  rw [toValue, Value.render, renderItems_map_toValue]
  simp [printed, Value.numberText, String.append_assoc, Function.comp_def]

namespace Outcome.IsReadable

variable {o : Outcome}

theorem hasLines_report (h : o.IsReadable) :
    o.report.HasLines (o.effects.countP (·.topics == ["stdout"]) + 1)
      (o.effects.countP (·.topics == ["stderr"]) + o.diagnostics.countP (!·.isOk)) := by
  have heffects := Console.HasLines.foldr fun e he => (h.effects e he).hasLines_report
  have hdiagnostics :
      (o.diagnostics.foldr (fun d (c : Console) => d.report ++ c) Console.empty).HasLines
        (o.diagnostics.countP fun _ => false) (o.diagnostics.countP (!·.isOk)) := by
    refine Console.HasLines.foldr fun d hd => ?_
    obtain ⟨hname, hmessage⟩ := h.diagnostics d hd
    rw [Diagnostic.report]
    by_cases hok : d.isOk = true
    · simpa [hok] using Console.HasLines.empty
    · simpa [hok] using
        Console.HasLines.errorLine (isUnbroken_diagnosticLine d.index d.status hname hmessage)
  rw [List.countP_false] at hdiagnostics
  exact (heffects.append hdiagnostics).append (.line (isUnbroken_plainNumber o.final))

/-- What is printed of an outcome is on one line for each diagnostic and for the value. -/
theorem isUnbroken_of_mem_printed (h : o.IsReadable) :
    ∀ text ∈ o.printed, IsUnbroken text.toList ∧ text.toList ≠ [] := by
  simp only [printed, List.forall_mem_append, List.forall_mem_map, List.forall_mem_singleton]
  refine ⟨fun d hd => ?_, isUnbroken_toList_append.2
    ⟨by decide, isUnbroken_plainNumber o.final⟩, by simp⟩
  obtain ⟨hname, hmessage⟩ := h.diagnostics d hd
  exact ⟨isUnbroken_diagnosticLine d.index d.status hname hmessage, by simp [diagnosticLine]⟩

/-- An outcome in print has a line for each diagnostic and one for the final value. -/
theorem length_lines_render (h : o.IsReadable) (width level : ℕ) :
    (lines (o.toValue.render width level).toList).length = o.diagnostics.length + 1 := by
  have hindent : IsUnbroken (Value.indentation width level).toList := by
    intro c hc
    rw [Value.indentation, String.toList_ofList] at hc
    rw [List.eq_of_mem_replicate hc]
    decide
  have hfeed : "\n".toList = ['\n'] := rfl
  rw [render_toValue, String.toList_intercalate, ← join_eq_intercalate, hfeed, lines_join]
  · simp [printed]
  · simp only [List.forall_mem_map]
    exact fun text htext =>
      isUnbroken_toList_append.2 ⟨hindent, (h.isUnbroken_of_mem_printed text htext).1⟩
  · simp only [List.forall_mem_map]
    intro text htext
    simp [(h.isUnbroken_of_mem_printed text htext).2]

end Outcome.IsReadable

/-- The report of a fault has three lines. -/
theorem Result.hasLines_report_fault (source : String) {cause : ParseFault}
    (h : IsUnbroken cause.message.toList) :
    (Console.errorLine (Result.fault source cause).errorReport).HasLines 0 3 := by
  refine ⟨[], excerptLines (faultMessage cause) cause.column source, List.forall_mem_nil _,
    isUnbroken_of_mem_excerptLines (isUnbroken_faultMessage h), ?_, rfl, rfl⟩
  rw [Console.errorLine, errorReport_fault, toList_excerpt]
  simp [join, excerptLines]

/-- **No text of a source adds a line to a report.** On the calculator every source has a
report for reading, in either reading. If the source is read, there is one line on the
output stream for each effect that goes there and one for the final value; on the error
stream there is one for each effect that goes there and one for each call that did not
end well; every effect goes to one of the two; and the outcome in print has one line for
each diagnostic and one for the value, at any indentation. If the source is not read, there
is nothing on the output stream, and there are three lines on the error stream. -/
theorem Runner.length_lines_report (strict : Bool) (source : String) :
    ∃ r result console, ofHost Calculator.host strict = .ok r ∧ r.handle source = .ok result ∧
      result.report none = .ok console ∧
      (∀ e, Expression.parse strict source = .ok e → ∃ o, result = .success source o ∧
        (lines console.output).length = o.effects.countP (·.topics == ["stdout"]) + 1 ∧
        (lines console.errors).length =
          o.effects.countP (·.topics == ["stderr"]) + o.diagnostics.countP (!·.isOk) ∧
        (∀ e ∈ o.effects, e.topics = ["stdout"] ∨ e.topics = ["stderr"]) ∧
        ∀ width level,
          (lines (o.toValue.render width level).toList).length = o.diagnostics.length + 1) ∧
      ∀ cause, Expression.parse strict source = .error cause →
        result = .fault source cause ∧ console.output = [] ∧ (lines console.errors).length = 3 := by
  obtain ⟨registry, hregistry⟩ := Calculator.exists_registry
  have hr : ofHost Calculator.host strict = .ok ⟨Calculator.host, registry, strict⟩ :=
    ofHost_eq_ok_iff.2 ⟨hregistry, rfl, rfl⟩
  cases hparse : Expression.parse strict source with
  | ok e =>
      refine ⟨_, _, _, hr, handle_of_parse hparse, rfl, ?_, by simp⟩
      rintro _ ⟨⟩
      have hreadable := Calculator.isReadable_runCalls hregistry
        (Expression.isWritten_of_parse hparse).calls 0 (t := ⟨⟨e.seed, false, true⟩, .empty⟩)
        (List.forall_mem_nil _)
      obtain ⟨houtput, herrors⟩ := hreadable.hasLines_report.length_lines
      refine ⟨_, rfl, houtput, herrors, fun e he => ?_, hreadable.length_lines_render⟩
      cases hreadable.effects e he with
      | output _ => exact .inl rfl
      | error _ => exact .inr rfl
  | error cause =>
      refine ⟨_, _, _, hr, handle_of_fault hr hparse, rfl, by simp, ?_⟩
      rintro _ ⟨⟩
      have hlines := Result.hasLines_report_fault source (Expression.isUnbroken_message hparse)
      exact ⟨rfl, rfl, hlines.length_lines.2⟩

end FluentCalc
