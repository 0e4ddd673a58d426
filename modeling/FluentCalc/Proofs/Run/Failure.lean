/-
# Failing calls

A call that fails leaves the accumulator of the run as it was, and on the hosts
of the catalogue all statuses and values depend on the accumulator alone. So a
run without its failing calls ends with the same value, and the calls that are
left have the same statuses and values.

Their messages are the same, too, unless the marks are counted behind a failure
that left one: the marks are shared by all accumulators of a run, so that a mark
stays when the accumulator that left it is given up. Without the failing calls
there are no marks at all.
-/

import FluentCalc.Proofs.Decimal.Numeral
import FluentCalc.Proofs.Host.Catalogue
import FluentCalc.Proofs.Run.Dispatch

namespace FluentCalc

namespace Diagnostic

/-- Whether the operation of a call was not invoked or did not fail. -/
def didNotFail (d : Diagnostic) : Bool :=
  d.status != .invocationFailed

/-- A diagnostic without its message. -/
def unworded (d : Diagnostic) : Diagnostic :=
  { d with message := "" }

/-- The diagnostic of a failure that may leave a mark. -/
def LeavesMark (d : Diagnostic) : Prop :=
  d.name = "MarkFail" ∧ d.status = .invocationFailed

/-- The diagnostic of a call that counts the marks. -/
def CountsMarks (d : Diagnostic) : Prop :=
  d.name = "MarksCount" ∧ d.status = .ok

end Diagnostic

namespace Run

/-- No marks are counted behind a failure that may leave one. -/
def MarksUnseen (diagnostics : List Diagnostic) : Prop :=
  diagnostics.Pairwise fun d d' => ¬ (d.LeavesMark ∧ d'.CountsMarks)

/-! ## Kinds of calls -/

/-- What a call can be on a host of the catalogue. -/
inductive CallKind (h : Host) (r : Registry) (c : Call) : Prop
  | skipped {verdict : Verdict} (hc : resolve r c = .skipped verdict)
  | steady {note : String} {action : Action} (hc : resolve r c = .bound note action)
      (hsteady : action.IsSteady) (hname : c.name ∉ Host.markNames)
  | leavesMark {note : String} {action : Action} (hc : resolve r c = .bound note action)
      (hlab : h = Host.lab) (hname : c.name = "MarkFail") (haction : Host.markFail = .nullary action)
  | countsMarks {note : String} {action : Action} (hc : resolve r c = .bound note action)
      (hlab : h = Host.lab) (hname : c.name = "MarksCount")
      (haction : Host.marksCount = .nullary action)

theorem callKind {h : Host} {r : Registry} (hh : h ∈ Host.catalogue) (hr : h.registry = .ok r)
    (c : Call) : CallKind h r c := by
  cases hc : resolve r c with
  | skipped verdict => exact .skipped hc
  | bound note action =>
      obtain ⟨operation, hget, hoperation⟩ := exists_get?_of_bound hc
      rcases Host.operation_cases hh hr hget with ⟨hsteady, hname⟩ | ⟨hlab, hname, rfl⟩ |
        ⟨hlab, hname, rfl⟩
      · refine .steady hc ?_ hname
        rcases hoperation with rfl | ⟨run, x, rfl, rfl⟩
        · exact hsteady
        · exact hsteady x
      · rcases hoperation with haction | ⟨run, x, hrun, -⟩
        · exact .leavesMark hc hlab hname haction
        · cases hrun
      · rcases hoperation with haction | ⟨run, x, hrun, -⟩
        · exact .countsMarks hc hlab hname haction
        · cases hrun

section Steps

variable {h : Host} {r : Registry} {c : Call} {t t' : Thread} {note : String} {action : Action}

/-- A failure that leaves a mark. -/
theorem perform_of_leavesMark (hc : resolve r c = .bound note action) (hlab : h = Host.lab)
    (haction : Host.markFail = .nullary action) :
    (perform h r c t).2.status = .invocationFailed ∧ (perform h r c t).1.journal.marks =
      if t.accumulator.marked then t.journal.marks + 1 else t.journal.marks := by
  subst hlab
  rw [Host.markFail_eq] at haction
  cases haction
  rw [perform_of_copyable (show Host.lab.copyFailure = none from rfl) hc]
  by_cases hmarked : t.accumulator.marked = true
  · rw [if_pos hmarked, if_pos hmarked]
    exact ⟨rfl, Journal.marks_record _ _ _⟩
  · rw [if_neg hmarked, if_neg hmarked]
    exact ⟨rfl, rfl⟩

/-- The marks are counted where the accumulator shares them. -/
theorem perform_of_countsMarks (hc : resolve r c = .bound note action) (hlab : h = Host.lab)
    (haction : Host.marksCount = .nullary action) :
    perform h r c t = if t.accumulator.marked then
        (t, ⟨.ok, joinNotes note ("returned " ++ integerText t.journal.marks)⟩)
      else (settle t note (.failure t.accumulator Host.noMarks, t.journal)) := by
  subst hlab
  cases haction
  rw [perform_of_copyable (show Host.lab.copyFailure = none from rfl) hc]
  by_cases hmarked : t.accumulator.marked = true
  · simp only [hmarked, ↓reduceIte, settle]
    rfl
  · simp only [hmarked, Bool.false_eq_true, ↓reduceIte]

theorem settle_congr (hacc : t'.accumulator = t.accumulator) (note : String) (answer : Answer)
    (j j' : Journal) :
    (settle t' note (answer, j')).2 = (settle t note (answer, j)).2 ∧
      (settle t' note (answer, j')).1.accumulator = (settle t note (answer, j)).1.accumulator := by
  cases answer with
  | accumulator next => exact ⟨rfl, rfl⟩
  | plain next value => exact ⟨rfl, rfl⟩
  | failure left cause => exact ⟨rfl, hacc⟩

/-- Statuses and accumulators depend on the accumulator alone. -/
theorem perform_congr (kind : CallKind h r c) (hacc : t'.accumulator = t.accumulator) :
    (perform h r c t').2.status = (perform h r c t).2.status ∧
      (perform h r c t').1.accumulator = (perform h r c t).1.accumulator := by
  cases kind with
  | skipped hc =>
      rw [perform_of_skipped hc, perform_of_skipped hc]
      exact ⟨rfl, hacc⟩
  | steady hc hsteady _ =>
      obtain ⟨answer, effects, hperform, -⟩ := exists_perform_of_steady hc hsteady
      rw [hperform t, hperform t', hacc]
      exact (settle_congr hacc _ _ _ _).imp_left (congrArg Verdict.status)
  | leavesMark hc hlab _ haction =>
      have hfailed := (perform_of_leavesMark (t := t) hc hlab haction).1
      have hfailed' := (perform_of_leavesMark (t := t') hc hlab haction).1
      rw [accumulator_of_failed hfailed, accumulator_of_failed hfailed', hfailed, hfailed']
      exact ⟨rfl, hacc⟩
  | countsMarks hc hlab _ haction =>
      rw [perform_of_countsMarks hc hlab haction, perform_of_countsMarks hc hlab haction, hacc]
      split
      · exact ⟨rfl, hacc⟩
      · exact ⟨rfl, hacc⟩

/-- Marks are left by failures of one name only, and only where the accumulator
shares them. -/
theorem marks_perform (kind : CallKind h r c) :
    (perform h r c t).1.journal.marks =
      if c.name = "MarkFail" ∧ (perform h r c t).2.status = .invocationFailed ∧
        t.accumulator.marked = true then t.journal.marks + 1 else t.journal.marks := by
  cases kind with
  | skipped hc =>
      rw [perform_of_skipped hc, if_neg]
      rintro ⟨-, hfailed, -⟩
      exact (status_ne_of_skipped hc).2 hfailed
  | steady hc hsteady hname =>
      obtain ⟨answer, effects, hperform, -⟩ := exists_perform_of_steady hc hsteady
      rw [hperform, journal_settle, if_neg]
      · exact Journal.marks_record _ _ _
      · rintro ⟨hmark, -⟩
        exact hname (by simp [hmark, Host.markNames])
  | leavesMark hc hlab hname haction =>
      obtain ⟨hstatus, hmarks⟩ := perform_of_leavesMark (t := t) hc hlab haction
      simp [hmarks, hstatus, hname]
  | countsMarks hc hlab hname haction =>
      rw [if_neg (by simp [hname]), perform_of_countsMarks hc hlab haction]
      split
      · rfl
      · rfl

/-- An accumulator that does not share the marks is followed by such ones. -/
theorem marked_of_perform (kind : CallKind h r c)
    (hmarked : (perform h r c t).1.accumulator.marked = true) : t.accumulator.marked = true := by
  cases kind with
  | skipped hc =>
      rw [perform_of_skipped hc] at hmarked
      exact hmarked
  | steady hc hsteady _ =>
      obtain ⟨answer, effects, hperform, hkeeps⟩ := exists_perform_of_steady hc hsteady
      have hnext := hkeeps t.accumulator
      rw [hperform] at hmarked
      cases hanswer : answer t.accumulator with
      | accumulator next =>
          rw [hanswer] at hnext hmarked
          exact hnext next rfl hmarked
      | plain next value =>
          rw [hanswer] at hnext hmarked
          exact hnext next rfl hmarked
      | failure cause =>
          rw [hanswer] at hmarked
          exact hmarked
  | leavesMark hc hlab _ haction =>
      rwa [accumulator_of_failed (perform_of_leavesMark hc hlab haction).1] at hmarked
  | countsMarks hc hlab _ haction =>
      rw [perform_of_countsMarks hc hlab haction] at hmarked
      split at hmarked
      · exact hmarked
      · exact hmarked

/-- The marks are not counted where the accumulator does not share them. -/
theorem marked_of_countsMarks (kind : CallKind h r c) (hname : c.name = "MarksCount")
    (hok : (perform h r c t).2.status = .ok) : t.accumulator.marked = true := by
  cases kind with
  | skipped hc =>
      rw [perform_of_skipped hc] at hok
      exact absurd hok (status_ne_of_skipped hc).1
  | steady hc hsteady hother => exact absurd (by simp [hname, Host.markNames]) hother
  | leavesMark hc hlab hmark _ => exact absurd (hname.symm.trans hmark) (by decide)
  | countsMarks hc hlab _ haction =>
      rw [perform_of_countsMarks hc hlab haction] at hok
      split at hok
      · assumption
      · cases hok

/-- Behind one note different notes make different messages. -/
theorem joinNotes_inj {note a b : String} (ha : a.isEmpty = false) (hb : b.isEmpty = false) :
    joinNotes note a = joinNotes note b ↔ a = b := by
  rw [joinNotes, joinNotes, ha, hb]
  by_cases hnote : note.isEmpty = true
  · simp [hnote]
  · simp [hnote]

/-- Without marks a call that does not fail has the same message, unless it
counts marks. -/
theorem message_eq_iff (kind : CallKind h r c) (hacc : t'.accumulator = t.accumulator)
    (hmarks : t'.journal.marks = 0) (hkept : (perform h r c t).2.status ≠ .invocationFailed) :
    (perform h r c t').2.message = (perform h r c t).2.message ↔
      (c.name = "MarksCount" ∧ (perform h r c t).2.status = .ok → t.journal.marks = 0) := by
  cases kind with
  | skipped hc =>
      rw [perform_of_skipped hc, perform_of_skipped hc]
      exact iff_of_true rfl fun hcounts => absurd hcounts.2 (status_ne_of_skipped hc).1
  | steady hc hsteady hname =>
      obtain ⟨answer, effects, hperform, -⟩ := exists_perform_of_steady hc hsteady
      rw [hperform t, hperform t', hacc]
      refine iff_of_true (congrArg Verdict.message (settle_congr hacc _ _ _ _).1) ?_
      rintro ⟨hcounts, -⟩
      exact absurd (by simp [hcounts, Host.markNames]) hname
  | leavesMark hc hlab _ haction =>
      exact absurd (perform_of_leavesMark hc hlab haction).1 hkept
  | countsMarks hc hlab hname haction =>
      rw [perform_of_countsMarks hc hlab haction] at hkept ⊢
      rw [perform_of_countsMarks hc hlab haction, hacc]
      split at hkept
      · rename_i hmarked
        simp only [if_pos hmarked, hmarks, hname, true_and, forall_const]
        rw [joinNotes_inj (by simp) (by simp), String.append_right_inj, integerText_natCast_inj,
          eq_comm]
      · exact absurd rfl hkept

end Steps

/-! ## Runs without their failing calls -/

section Runs

variable {h : Host} {r : Registry} {t t' : Thread}

/-- The diagnostic of a call is the same in both runs but for its index and its
message. -/
theorem unworded_diagnosticOf {c : Call} (kind : CallKind h r c)
    (hacc : t'.accumulator = t.accumulator) (index index' : ℕ) :
    (diagnosticOf h r index' c t').unworded =
      { diagnosticOf h r index c t with index := index' }.unworded := by
  obtain ⟨hstatus, hnext⟩ := perform_congr kind hacc
  simp only [diagnosticOf, Diagnostic.unworded, hstatus, hnext]

/-- Without its failing calls a run ends with the same accumulator and has the
same diagnostics for the others, up to their messages. -/
theorem runCalls_keptCalls (kinds : ∀ c, CallKind h r c) (calls : List Call) (index index' : ℕ)
    (t t' : Thread) (hacc : t'.accumulator = t.accumulator) :
    (runCalls h r index' (keptCalls Diagnostic.didNotFail calls (runCalls h r index calls t).2)
        t').1.accumulator = (runCalls h r index calls t).1.accumulator ∧
      (runCalls h r index' (keptCalls Diagnostic.didNotFail calls (runCalls h r index calls t).2)
        t').2.map Diagnostic.unworded =
        (numbered index' ((runCalls h r index calls t).2.filter Diagnostic.didNotFail)).map
          Diagnostic.unworded := by
  induction calls generalizing index index' t t' with
  | nil => exact ⟨hacc, rfl⟩
  | cons c rest ih =>
      simp only [runCalls_cons, keptCalls_cons]
      by_cases hkept : (diagnosticOf h r index c t).didNotFail = true
      · obtain ⟨hfinal, hdiagnostics⟩ :=
          ih (index + 1) (index' + 1) _ _ (perform_congr (kinds c) hacc).2
        simp only [hkept, ↓reduceIte, List.filter_cons, runCalls_cons, numbered, List.map_cons]
        exact ⟨hfinal, by rw [unworded_diagnosticOf (kinds c) hacc index index', hdiagnostics]⟩
      · have hfailed : (perform h r c t).2.status = .invocationFailed := by
          simpa [diagnosticOf, Diagnostic.didNotFail] using hkept
        simp only [hkept, Bool.false_eq_true, ↓reduceIte, List.filter_cons]
        exact ih (index + 1) index' _ t' (hacc.trans (accumulator_of_failed hfailed).symm)

/-- Where the accumulator does not share the marks, they are not counted for the
rest of the run. -/
theorem not_countsMarks_of_unmarked (kinds : ∀ c, CallKind h r c) (calls : List Call) (index : ℕ)
    (hmarked : t.accumulator.marked = false) :
    ∀ d ∈ (runCalls h r index calls t).2, ¬ d.CountsMarks := by
  induction calls generalizing index t with
  | nil => exact List.forall_mem_nil _
  | cons c rest ih =>
      rw [runCalls_cons, List.forall_mem_cons]
      apply And.intro
      · rintro ⟨hname, hok⟩
        rw [marked_of_countsMarks (kinds c) hname hok] at hmarked
        cases hmarked
      · apply ih (index + 1)
        rw [Bool.eq_false_iff]
        intro hnext
        rw [marked_of_perform (kinds c) hnext] at hmarked
        cases hmarked

/-- The diagnostic of a call that does not fail is the same in a run without
marks, unless the call counts marks. -/
theorem diagnosticOf_eq_iff {c : Call} (kind : CallKind h r c)
    (hacc : t'.accumulator = t.accumulator) (hmarks : t'.journal.marks = 0)
    (hkept : (perform h r c t).2.status ≠ .invocationFailed) (index index' : ℕ) :
    diagnosticOf h r index' c t' = { diagnosticOf h r index c t with index := index' } ↔
      ((diagnosticOf h r index c t).CountsMarks → t.journal.marks = 0) := by
  obtain ⟨hstatus, hnext⟩ := perform_congr kind hacc
  simp only [diagnosticOf, Diagnostic.CountsMarks, Diagnostic.mk.injEq, hstatus, hnext,
    message_eq_iff kind hacc hmarks hkept, true_and, and_true]

/-- Only failures add marks. -/
theorem marks_of_not_failed {c : Call} (kind : CallKind h r c)
    (hkept : (perform h r c t).2.status ≠ .invocationFailed) :
    (perform h r c t).1.journal.marks = t.journal.marks := by
  rw [marks_perform kind, if_neg]
  rintro ⟨-, hfailed, -⟩
  exact hkept hfailed

/-- Behind a failing call no marks are seen exactly if none were to be seen
before, and none are counted where the failure may have left one. -/
theorem unseen_iff_of_failed (kinds : ∀ c, CallKind h r c) {c : Call}
    (hfailed : (perform h r c t).2.status = .invocationFailed) (rest : List Call) (index : ℕ) :
    ((perform h r c t).1.journal.marks = 0 ∨
        ∀ d ∈ (runCalls h r index rest (perform h r c t).1).2, ¬ d.CountsMarks) ↔
      (t.journal.marks = 0 ∨
        ∀ d ∈ (runCalls h r index rest (perform h r c t).1).2, ¬ d.CountsMarks) ∧
      (c.name = "MarkFail" →
        ∀ d ∈ (runCalls h r index rest (perform h r c t).1).2, ¬ d.CountsMarks) := by
  by_cases hmarked : t.accumulator.marked = true
  · by_cases hname : c.name = "MarkFail"
    · rw [marks_perform (kinds c), if_pos ⟨hname, hfailed, hmarked⟩]
      simp only [Nat.succ_ne_zero, false_or, hname, true_implies]
      exact ⟨fun hunseen => ⟨.inr hunseen, hunseen⟩, And.right⟩
    · rw [marks_perform (kinds c), if_neg fun h => hname h.1]
      exact ⟨fun hunseen => ⟨hunseen, fun h => absurd h hname⟩, And.left⟩
  · have hnext : (perform h r c t).1.accumulator.marked = false := by
      rw [accumulator_of_failed hfailed]
      exact Bool.eq_false_iff.2 hmarked
    have hunseen := not_countsMarks_of_unmarked kinds rest index hnext
    exact iff_of_true (.inr hunseen) ⟨.inr hunseen, fun _ => hunseen⟩

theorem marksUnseen_cons (d : Diagnostic) (rest : List Diagnostic) :
    MarksUnseen (d :: rest) ↔
      (d.LeavesMark → ∀ d' ∈ rest, ¬ d'.CountsMarks) ∧ MarksUnseen rest := by
  rw [MarksUnseen, List.pairwise_cons]
  refine and_congr_left fun _ => ⟨fun h hleaves d' hd' hcounts => h d' hd' ⟨hleaves, hcounts⟩, ?_⟩
  exact fun h d' hd' hboth => h hboth.1 d' hd' hboth.2

/-- Without its failing calls a run has the same messages for the others exactly
if no marks are counted that were there before or were left by a failure. -/
theorem runCalls_keptCalls_eq_iff (kinds : ∀ c, CallKind h r c) (calls : List Call)
    (index index' : ℕ) (t t' : Thread) (hacc : t'.accumulator = t.accumulator)
    (hmarks : t'.journal.marks = 0) :
    (runCalls h r index' (keptCalls Diagnostic.didNotFail calls (runCalls h r index calls t).2)
        t').2 = numbered index' ((runCalls h r index calls t).2.filter Diagnostic.didNotFail) ↔
      (t.journal.marks = 0 ∨ ∀ d ∈ (runCalls h r index calls t).2, ¬ d.CountsMarks) ∧
        MarksUnseen (runCalls h r index calls t).2 := by
  induction calls generalizing index index' t t' with
  | nil => exact iff_of_true rfl ⟨.inr (List.forall_mem_nil _), List.Pairwise.nil⟩
  | cons c rest ih =>
      simp only [runCalls_cons, keptCalls_cons, marksUnseen_cons, List.forall_mem_cons]
      by_cases hkept : (perform h r c t).2.status = .invocationFailed
      · -- The failing call is left out, and a mark that it leaves is seen from now on.
        have hdrop : (diagnosticOf h r index c t).didNotFail = false := by
          simp [diagnosticOf, Diagnostic.didNotFail, hkept]
        have hcounts : ¬ (diagnosticOf h r index c t).CountsMarks := fun hcounts =>
          absurd (hcounts.2.symm.trans hkept) (by decide)
        have hleaves : (diagnosticOf h r index c t).LeavesMark ↔ c.name = "MarkFail" :=
          and_iff_left hkept
        have htail :=
          ih (index + 1) index' _ t' (hacc.trans (accumulator_of_failed hkept).symm) hmarks
        simp only [hdrop, Bool.false_eq_true, ↓reduceIte, List.filter_cons, htail,
          unseen_iff_of_failed kinds hkept, hcounts, hleaves, not_false_eq_true, true_and,
          and_assoc]
      · -- The call is made in both runs.
        have hkeep : (diagnosticOf h r index c t).didNotFail = true := by
          simp [diagnosticOf, Diagnostic.didNotFail, hkept]
        have hleaves : ¬ (diagnosticOf h r index c t).LeavesMark := fun h => hkept h.2
        obtain ⟨hstatus, hnext⟩ := perform_congr (kinds c) hacc
        have hmarks' : (perform h r c t').1.journal.marks = 0 := by
          rw [marks_of_not_failed (kinds c) (by rwa [hstatus]), hmarks]
        have htail := ih (index + 1) (index' + 1) _ _ hnext hmarks'
        have hhead := diagnosticOf_eq_iff (kinds c) hacc hmarks hkept index index'
        simp only [hkeep, ↓reduceIte, List.filter_cons, runCalls_cons, numbered, List.cons.injEq,
          hhead, htail, marks_of_not_failed (kinds c) hkept, hleaves, false_implies, true_and]
        by_cases hnone : t.journal.marks = 0
        · simp only [hnone, implies_true, true_or, true_and]
        · simp only [hnone, imp_false, false_or, and_assoc]

end Runs

end Run

/-- **Failing calls leave nothing behind but effects and marks.** On every host of
the catalogue a chain of calls without those that fail is evaluated to the same
final value, and the calls that are left have diagnostics with the same names,
statuses and values. Their messages are the same, too, exactly if no marks are
counted behind a failure that may leave one. -/
theorem evaluate_keptCalls {h : Host} {r : Registry} {seed : Value} {calls : List Call}
    {o : Outcome} (hh : h ∈ Host.catalogue) (hr : h.registry = .ok r)
    (ho : evaluate h r seed calls = .ok o) :
    ∃ o', evaluate h r seed (Run.keptCalls Diagnostic.didNotFail calls o.diagnostics) = .ok o' ∧
      o'.final = o.final ∧
      o'.diagnostics.map Diagnostic.unworded =
        (Run.numbered 0 (o.diagnostics.filter Diagnostic.didNotFail)).map Diagnostic.unworded ∧
      (o'.diagnostics = Run.numbered 0 (o.diagnostics.filter Diagnostic.didNotFail) ↔
        Run.MarksUnseen o.diagnostics) := by
  obtain ⟨start, hcreate, rfl⟩ := evaluate_eq_ok_iff.1 ho
  have kinds := Run.callKind hh hr
  have hsame := Run.runCalls_keptCalls kinds calls 0 0 ⟨start, .empty⟩ ⟨start, .empty⟩ rfl
  have hmessages :=
    Run.runCalls_keptCalls_eq_iff kinds calls 0 0 ⟨start, .empty⟩ ⟨start, .empty⟩ rfl rfl
  refine ⟨_, evaluate_eq_ok_iff.2 ⟨start, hcreate, rfl⟩, congrArg Accumulator.value hsame.1,
    hsame.2, hmessages.trans ?_⟩
  exact and_iff_right (.inl rfl)

/-- Marks that are counted before one is left are the same without the failure. -/
theorem evaluate_keptCalls_of_marks_counted_first :
    ∃ r o o', Host.lab.registry = .ok r ∧
      evaluate Host.lab r (.num .zero) [⟨"MarksCount", .null, none⟩, ⟨"MarkFail", .null, none⟩] =
        .ok o ∧
      evaluate Host.lab r (.num .zero) [⟨"MarksCount", .null, none⟩] = .ok o' ∧
      o'.diagnostics = Run.numbered 0 (o.diagnostics.filter Diagnostic.didNotFail) := by
  obtain ⟨r, hr⟩ := Host.exists_registry_lab
  have hrun : Run.runCalls Host.lab r 0 [⟨"MarksCount", .null, none⟩, ⟨"MarkFail", .null, none⟩]
      ⟨⟨.zero, true, true⟩, .empty⟩ = (⟨⟨.zero, true, true⟩, ⟨[.output "marked"], 1⟩⟩,
        [⟨0, "MarksCount", .ok, "returned 0", .zero⟩,
          ⟨1, "MarkFail", .invocationFailed, "InvocationFailed: ValueError: logged", .zero⟩]) := by
    simp only [Run.runCalls, Run.perform, Run.resolve, Host.get?_markFail hr,
      Host.get?_marksCount hr, Host.markFail, Host.marksCount]
    decide +kernel
  have hcreate : Host.lab.create (.num .zero) = .ok ⟨.zero, true, true⟩ := rfl
  have ho := evaluate_eq_ok_iff.2 ⟨_, hcreate, congrArg Run.outcomeOf hrun⟩
  have hlab : Host.lab ∈ Host.catalogue := by simp [Host.catalogue]
  obtain ⟨o', ho', -, -, hmessages⟩ := evaluate_keptCalls hlab hr ho
  refine ⟨r, _, o', hr, ho, ho', hmessages.2 ?_⟩
  simp [Run.outcomeOf, Run.MarksUnseen, Diagnostic.LeavesMark]

/-- A mark that a failure leaves is counted, and it is not there without the
failure. -/
theorem evaluate_keptCalls_ne_of_marks_counted_last :
    ∃ r o o', Host.lab.registry = .ok r ∧
      evaluate Host.lab r (.num .zero) [⟨"MarkFail", .null, none⟩, ⟨"MarksCount", .null, none⟩] =
        .ok o ∧
      Run.keptCalls Diagnostic.didNotFail
        [⟨"MarkFail", .null, none⟩, ⟨"MarksCount", .null, none⟩] o.diagnostics =
          [⟨"MarksCount", .null, none⟩] ∧
      evaluate Host.lab r (.num .zero) [⟨"MarksCount", .null, none⟩] = .ok o' ∧
      o'.diagnostics ≠ Run.numbered 0 (o.diagnostics.filter Diagnostic.didNotFail) := by
  obtain ⟨r, hr⟩ := Host.exists_registry_lab
  have hrun : Run.runCalls Host.lab r 0 [⟨"MarkFail", .null, none⟩, ⟨"MarksCount", .null, none⟩]
      ⟨⟨.zero, true, true⟩, .empty⟩ = (⟨⟨.zero, true, true⟩, ⟨[.output "marked"], 1⟩⟩,
        [⟨0, "MarkFail", .invocationFailed, "InvocationFailed: ValueError: logged", .zero⟩,
          ⟨1, "MarksCount", .ok, "returned 1", .zero⟩]) := by
    simp only [Run.runCalls, Run.perform, Run.resolve, Host.get?_markFail hr,
      Host.get?_marksCount hr, Host.markFail, Host.marksCount]
    decide +kernel
  have hrun' : Run.runCalls Host.lab r 0 [⟨"MarksCount", .null, none⟩]
      ⟨⟨.zero, true, true⟩, .empty⟩ = (⟨⟨.zero, true, true⟩, .empty⟩,
        [⟨0, "MarksCount", .ok, "returned 0", .zero⟩]) := by
    simp only [Run.runCalls, Run.perform, Run.resolve, Host.get?_marksCount hr, Host.marksCount]
    decide +kernel
  exact ⟨r, _, _, hr,
    evaluate_eq_ok_iff.2 ⟨⟨.zero, true, true⟩, rfl, congrArg Run.outcomeOf hrun⟩, rfl,
    evaluate_eq_ok_iff.2 ⟨⟨.zero, true, true⟩, rfl, congrArg Run.outcomeOf hrun'⟩, by decide⟩

end FluentCalc
