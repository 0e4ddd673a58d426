/-
# Integers as direct arguments

A direct call may hand the calculator an integer or a truth value. The message shows it
as it is, the arithmetic takes the number nearest to it. If there is none the call fails
before anything is changed or logged. Otherwise it is the same call as with that number,
but for the digits in the message.
-/

import FluentCalc.Proofs.Double.Integer
import FluentCalc.Proofs.Run.Direct

namespace FluentCalc

/-- Two effects are the same, or differ in one place of their messages: one shows a text
there and the other another. -/
inductive Effect.ShownApart (shown shown' : String) : Effect → Effect → Prop
  | same (e : Effect) : ShownApart shown shown' e e
  | apart (topics : List String) (front back : String) :
      ShownApart shown shown' ⟨topics, some (front ++ shown ++ back)⟩
        ⟨topics, some (front ++ shown' ++ back)⟩

theorem Effect.ShownApart.eq {shown : String} {e e' : Effect} (h : e.ShownApart shown shown e') :
    e = e' := by
  cases h <;> rfl

namespace Calculator

theorem exists_logged (deed shown shown' : String) (value : Double) : ∃ e e',
    logged (deed ++ shown) value = ⟨value, some e⟩ ∧
      logged (deed ++ shown') value = ⟨value, some e'⟩ ∧ e.ShownApart shown shown' e' := by
  have hassoc : ∀ text : String, deed ++ text ++ ", current value: " ++ plainNumber value =
      deed ++ text ++ (", current value: " ++ plainNumber value) := fun _ => String.append_assoc
  refine ⟨_, _, rfl, rfl, ?_⟩
  rw [hassoc, hassoc]
  exact .apart _ deed _

/-- How the argument is shown matters to the message alone. -/
theorem Binary.exists_react (operation : Binary) (shown shown' : String) (x value : Double) :
    ∃ next e e', operation.react shown x value = ⟨next, some e⟩ ∧
      operation.react shown' x value = ⟨next, some e'⟩ ∧ e.ShownApart shown shown' e' := by
  cases operation with
  | add => exact ⟨_, exists_logged "Added " shown shown' _⟩
  | subtract => exact ⟨_, exists_logged "Subtracted " shown shown' _⟩
  | multiply => exact ⟨_, exists_logged "Multiplied by " shown shown' _⟩
  | divide =>
      rw [Binary.react, Binary.react]
      by_cases hzero : x.isZero = true
      · rw [if_pos hzero, if_pos hzero]
        exact ⟨_, _, _, rfl, rfl, .same _⟩
      · rw [if_neg hzero, if_neg hzero]
        exact ⟨_, exists_logged "Divided by " shown shown' _⟩

variable {argument : Value} {x : Double} {n : ℤ}

/-- The step of a call with an argument that stands for a number. -/
theorem directStep_of_standsFor (operation : Binary) (h : StandsFor argument x) (t : Thread) :
    directStep t (operation.name, [argument]) =
      ⟨.ok .itself, (operation.react argument.numberText x t.accumulator.value).apply t⟩ := by
  rw [directStep, direct_binary, Binary.direct, operation.method_of_standsFor h]

/-- The step of a call with an integer that is too large. -/
theorem directStep_of_tooLarge (operation : Binary) (h : argument.IsInteger n)
    (hnone : Double.ofInt? n = none) (t : Thread) :
    directStep t (operation.name, [argument]) = ⟨.error .tooLarge, t⟩ := by
  obtain ⟨hoperand, hzero⟩ := operation.operand_of_tooLarge h hnone
  rw [directStep, direct_binary, Binary.direct, operation.method_of_refused hoperand hzero]

/-- A calculator whose effects are on record puts the effect of a reaction behind them. -/
theorem effects_apply {t : Thread} (ht : t.accumulator.recorded = true) (next : Double)
    (e : Effect) : (Reaction.apply ⟨next, some e⟩ t).journal.effects = t.journal.effects ++ [e] := by
  rw [Reaction.apply, Journal.record, if_pos ht]
  rfl

/-- **Integer arguments are all or nothing, and agree with their numbers.** Wherever in a
sequence of direct calls an operation is called with an integer, or a truth value that counts as
one, there are two cases. From `2 ^ 1024 - 2 ^ 970` on the call fails as an overflow and leaves
the calculator and its effects as the calls before have left them. Below, it leaves the same value
as the call with the number nearest to the integer, and has one effect more: that of the other
call, but for how the argument is shown, and the very same for an integer up to `2 ^ 53`. -/
theorem getElem?_directSteps_integer (operation : Binary) (h : argument.IsInteger n)
    (value : Double) (before later : List (String × List Value)) :
    ∃ step, (directSteps (start value)
        (before ++ (operation.name, [argument]) :: later))[before.length]? = some step ∧
      (2 ^ 1024 - 2 ^ 970 ≤ |n| →
        (∃ cause, step.outcome = .error cause ∧ cause.kind = "OverflowError") ∧
          step.after = stateAfter (start value) before) ∧
      (|n| < 2 ^ 1024 - 2 ^ 970 → ∃ m after e e', Double.IsNearest (n < 0) m n ∧
        after = stateAfter (start value) (before ++ [(operation.name, [.num (.finite (n < 0) m)])]) ∧
        step.outcome = .ok .itself ∧
        step.after.accumulator.value = after.accumulator.value ∧
        step.after.journal.effects =
          (stateAfter (start value) before).journal.effects ++ [e] ∧
        after.journal.effects = (stateAfter (start value) before).journal.effects ++ [e'] ∧
        e.ShownApart argument.numberText (plainNumber (.finite (n < 0) m)) e' ∧
        (argument = .int n → |n| ≤ 2 ^ 53 → e = e')) := by
  refine ⟨_, getElem?_directSteps_append (start value) before later _, ?_⟩
  obtain ⟨t, ht⟩ : ∃ t, t = stateAfter (start value) before := ⟨_, rfl⟩
  have hrecorded : t.accumulator.recorded = true := by
    rw [ht, recorded_stateAfter]
    rfl
  rw [← ht]
  rcases Double.ofInt?_cases n with ⟨hlt, m, hm, hnearest⟩ | ⟨hge, hnone⟩
  · refine ⟨fun hge => absurd hlt hge.not_gt, fun _ => ?_⟩
    obtain ⟨next, e, e', hreact, hreact', hshown⟩ := operation.exists_react argument.numberText
      (plainNumber (.finite (n < 0) m)) (.finite (n < 0) m) t.accumulator.value
    have hafter := stateAfter_append (start value) before
      (operation.name, [.num (.finite (n < 0) m)])
    rw [← ht, directStep_of_standsFor operation (standsFor_num _), Value.numberText, hreact']
      at hafter
    rw [directStep_of_standsFor operation (standsFor_of_isInteger h hm), hreact]
    refine ⟨m, _, e, e', hnearest, hafter.symm, rfl, rfl, effects_apply hrecorded next e,
      effects_apply hrecorded next e', hshown, ?_⟩
    rintro rfl hsmall
    rw [Double.plainNumber_of_ofInt? hsmall hm] at hshown
    exact hshown.eq
  · refine ⟨fun _ => ?_, fun hlt => absurd hlt hge.not_gt⟩
    rw [directStep_of_tooLarge operation h hnone]
    exact ⟨⟨_, rfl, rfl⟩, rfl⟩

/-- Halfway between two numbers, behind a call with an integer that is too large. -/
theorem getElem?_directSteps_integer_of_halfway :
    ∃ first second m after e', (directSteps (start .zero)
        [("subtract", [.int (2 ^ 1024)]), ("add", [.int (2 ^ 53 + 1)])])[0]? = some first ∧
      (∃ cause, first.outcome = .error cause ∧ cause.kind = "OverflowError") ∧
      first.after = start .zero ∧
      (directSteps (start .zero)
        [("subtract", [.int (2 ^ 1024)]), ("add", [.int (2 ^ 53 + 1)])])[1]? = some second ∧
      Double.IsNearest false m (2 ^ 53 + 1) ∧
      after = stateAfter (start .zero)
        [("subtract", [.int (2 ^ 1024)]), ("add", [.num (.finite false m)])] ∧
      second.after.accumulator.value = after.accumulator.value ∧
      second.after.journal.effects =
        [.output "Added 9007199254740993, current value: 9007199254740992"] ∧
      after.journal.effects = [e'] ∧
      (Effect.output "Added 9007199254740993, current value: 9007199254740992").ShownApart
        "9007199254740993" (plainNumber (.finite false m)) e' := by
  obtain ⟨first, hfirst, hlarge, -⟩ := getElem?_directSteps_integer .subtract (.int (2 ^ 1024))
    .zero [] [("add", [.int (2 ^ 53 + 1)])]
  obtain ⟨second, hsecond, -, hsmall⟩ := getElem?_directSteps_integer .add (.int (2 ^ 53 + 1))
    .zero [("subtract", [.int (2 ^ 1024)])] []
  obtain ⟨hoverflow, hstate⟩ := hlarge (by decide +kernel)
  obtain ⟨m, after, e, e', hnearest, hafter, -, hvalue, heffects, heffects', hshown, -⟩ :=
    hsmall (by decide +kernel)
  have hnone : (stateAfter (start .zero) [("subtract", [.int (2 ^ 1024)])]).journal.effects =
      [] := by
    decide +kernel
  have hlogged : ((directSteps (start .zero) [("subtract", [.int (2 ^ 1024)]),
      ("add", [.int (2 ^ 53 + 1)])])[1]?.map fun step => step.after.journal.effects) =
        some [.output "Added 9007199254740993, current value: 9007199254740992"] := by
    decide +kernel
  have hsign : decide ((2 : ℤ) ^ 53 + 1 < 0) = false := by decide
  rw [hnone, List.nil_append] at heffects heffects'
  rw [hsign] at hnearest hshown hafter
  have heffect : [e] = [.output "Added 9007199254740993, current value: 9007199254740992"] := by
    rw [← heffects]
    exact Option.some.inj ((congrArg _ hsecond).symm.trans hlogged)
  obtain rfl := (List.cons.inj heffect).1
  exact ⟨first, second, m, after, e', hfirst, hoverflow, hstate, hsecond,
    by exact_mod_cast hnearest, hafter, hvalue, heffects, heffects', hshown⟩

end Calculator

end FluentCalc
