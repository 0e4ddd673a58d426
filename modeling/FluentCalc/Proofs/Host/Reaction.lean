/-
# Reactions of the calculator

The methods of the calculator go step by step, and several of their steps can
fail: an argument may be no number, a divisor may be zero, a number below zero
has no root, and an integer may be too long to be shown. A `Reaction` tells in
one go what a method comes to: the value that it leaves, and its effect, if any.

That this is all a method comes to is shown here once. With a number for its
argument it goes through to the end, because the tests in front of the division
and of the root keep away what these refuse, and because no number has a whole
part that is too long. Without one it fails, and it does so before it has changed
anything.
-/

import FluentCalc.Host.Direct
import FluentCalc.Proofs.Double.Integer

namespace FluentCalc

@[simp]
theorem Journal.record_nil (j : Journal) (a : Accumulator) : j.record a [] = j := by
  simp [record]

namespace Work

/-- A step that cannot fail. -/
theorem lift_ok {α : Type} (a : α) :
    (liftM (Except.ok a : Except Failure α) : Work α) = pure a := rfl

theorem value_bind {α : Type} (next : Double → Work α) (t : Thread) :
    (value >>= next) t = next t.accumulator.value t := rfl

end Work

namespace Double

/-- A whole number has its whole part, and it is not too long to be written. -/
theorem truncate_of_whole? {x : Double} {n : ℤ} (h : x.whole? = some n) :
    (x.isFinite && x.isWhole) = true ∧ x.truncate = .ok n := by
  cases x with
  | finite negative m =>
      rw [whole?] at h
      by_cases hwhole : m.isWhole = true
      · rw [if_pos hwhole] at h
        rw [truncate, Option.some.inj h]
        exact ⟨hwhole, rfl⟩
      · rw [if_neg hwhole] at h
        cases h
  | infinite _ | nan => cases h

theorem isWhole_of_whole? {x : Double} (h : x.whole? = none) :
    (x.isFinite && x.isWhole) = false := by
  cases x with
  | finite negative m =>
      rw [whole?] at h
      by_cases hwhole : m.isWhole = true
      · rw [if_pos hwhole] at h
        cases h
      · exact Bool.eq_false_of_not_eq_true hwhole
  | infinite _ | nan => rfl

/-- Division by what is not zero is not refused. -/
theorem divide_eq_ok {y : Double} (h : y.isZero = false) (x : Double) :
    x.divide y = .ok (x.quotient y) := by
  rw [divide, h]
  rfl

/-- What is not below zero has a root. -/
theorem squareRoot_eq_ok {x : Double} (h : x.isNegative = false) : x.squareRoot = .ok x.root := by
  rw [squareRoot, h]
  rfl

end Double

namespace Value

/-- An integer that is not too long is shown. -/
theorem display?_int {n : ℤ} (h : isLongInteger n = false) :
    (int n).display? = .ok (integerText n) := by
  rw [display?, hasLongInteger, h]
  rfl

/-- Whole numbers are shown by the digits of their whole part, which are few. -/
theorem shown_num (x : Double) : (num x).shown = .ok (plainNumber x) := by
  cases hwhole : x.whole? with
  | none =>
      rw [shown, plainNumber, hwhole, Double.isWhole_of_whole? hwhole]
      rfl
  | some n =>
      obtain ⟨hguard, htruncate⟩ := Double.truncate_of_whole? hwhole
      rw [shown, plainNumber, hwhole, hguard, htruncate]
      change (int n).display?.mapError Failure.unwritten = .ok (integerText n)
      rw [display?_int (Double.isLongInteger_of_truncate htruncate)]
      rfl

/-- What holds no long integer is shown. -/
theorem shown_of_short {v : Value} (h : v.hasLongInteger = false) :
    v.shown = .ok v.numberText := by
  have hdisplay : v.display? = .ok v.display := by simp [display?, h]
  cases v with
  | num x => exact shown_num x
  | _ => simp [shown, numberText, hdisplay, Except.mapError]

end Value

/-- A value is an integer, or a truth value that counts as one. -/
inductive Value.IsInteger : Value → ℤ → Prop
  | int (n : ℤ) : IsInteger (.int n) n
  | bool (b : Bool) : IsInteger (.bool b) (if b then 1 else 0)

namespace Calculator

/-- What an operation does: the value it leaves and its effect, if any. -/
structure Reaction where
  value : Double
  effect : Option Effect

/-- Take on a value and log what was done. -/
def logged (deed : String) (value : Double) : Reaction :=
  ⟨value, some (.output (deed ++ ", current value: " ++ plainNumber value))⟩

/-- The reaction of a value to an operation with an argument, which is logged
as `shown`. -/
def Binary.react (operation : Binary) (shown : String) (argument value : Double) : Reaction :=
  match operation with
  | add => logged ("Added " ++ shown) (value.add argument)
  | subtract => logged ("Subtracted " ++ shown) (value.subtract argument)
  | multiply => logged ("Multiplied by " ++ shown) (value.multiply argument)
  | divide =>
    if argument.isZero then ⟨value, some (.error "Error: Cannot divide by zero!")⟩
    else logged ("Divided by " ++ shown) (value.quotient argument)

/-- The reaction of a value to an operation without an argument. -/
def Unary.react (operation : Unary) (value : Double) : Reaction :=
  match operation with
  | square => logged "Squared" (value.multiply value)
  | squareRoot =>
    if value.isNegative then
      ⟨value, some (.error "Error: Cannot take square root of negative number!")⟩
    else logged "Square root taken" value.root
  | clear => ⟨.zero, some (.output "Calculator cleared, current value: 0")⟩
  | getResult => ⟨value, none⟩
  | displayResult => ⟨value, some (.output ("Final result: " ++ plainNumber value))⟩

/-- Let an accumulator take on a reaction. -/
def Reaction.apply (reaction : Reaction) (t : Thread) : Thread :=
  ⟨{ t.accumulator with value := reaction.value },
    t.journal.record t.accumulator reaction.effect.toList⟩

/-- A reaction that changes nothing and has no effect leaves all as it is. -/
theorem Reaction.apply_eq_self (t : Thread) : apply ⟨t.accumulator.value, none⟩ t = t := by
  rw [apply, Option.toList_none, Journal.record_nil]

/-- An argument stands for a number: it is taken for it, is short enough to be shown, and is
zero exactly if the number is. -/
structure StandsFor (argument : Value) (x : Double) : Prop where
  operand (operation : Binary) : operation.operand argument = .ok x
  short : argument.hasLongInteger = false
  isZero : argument.isZero = x.isZero

theorem standsFor_num (x : Double) : StandsFor (.num x) x :=
  ⟨fun _ => rfl, rfl, rfl⟩

variable {argument : Value} {n : ℤ}

/-- An integer stands for the number that it is taken as. -/
theorem seedNumber_of_isInteger (h : argument.IsInteger n) :
    (∀ x, Double.ofInt? n = some x → seedNumber argument = .ok x) ∧
      (Double.ofInt? n = none → seedNumber argument = .error .tooLarge) := by
  -- The conversion is made a variable, or it would be evaluated on the integer.
  have hopen : seedNumber = seedNumber := rfl
  conv_rhs at hopen => delta seedNumber
  obtain ⟨convert, hconvert⟩ : ∃ convert, convert = Double.ofInt? := ⟨_, rfl⟩
  rw [hopen, ← hconvert]
  constructor
  · intro x hx
    cases h <;> simp only [hx]
  · intro hx
    cases h <;> simp only [hx]

theorem Binary.operand_of_isInteger (operation : Binary) (h : argument.IsInteger n) :
    operation.operand argument = seedNumber argument := by
  have hopen : operation.operand = operation.operand := rfl
  conv_rhs at hopen => delta Binary.operand
  obtain ⟨number, hnumber⟩ : ∃ number, number = seedNumber := ⟨_, rfl⟩
  rw [hopen, ← hnumber]
  cases h <;> rfl

/-- An integer that is not too large stands for the number that it is taken as. -/
theorem standsFor_of_isInteger {x : Double} (h : argument.IsInteger n)
    (hx : Double.ofInt? n = some x) : StandsFor argument x where
  operand operation := (operation.operand_of_isInteger h).trans ((seedNumber_of_isInteger h).1 x hx)
  short := by
    cases h with
    | int n => exact Double.isLongInteger_of_ofInt? hx
    | bool b => rfl
  isZero := by
    rw [Double.isZero_of_ofInt? hx]
    cases h with
    | int n => rfl
    | bool b => cases b <;> rfl

/-- An integer that is too large stands for no number, and is not zero. -/
theorem Binary.operand_of_tooLarge (operation : Binary) (h : argument.IsInteger n)
    (hnone : Double.ofInt? n = none) :
    operation.operand argument = .error .tooLarge ∧ argument.isZero = false := by
  refine ⟨(operation.operand_of_isInteger h).trans ((seedNumber_of_isInteger h).2 hnone), ?_⟩
  have hne : n ≠ 0 := by
    rintro rfl
    obtain ⟨m, hm, -⟩ := Double.exists_ofInt?_of_le (n := 0) (by decide)
    cases hm.symm.trans hnone
  cases h with
  | int n => exact beq_eq_false_iff_ne.2 hne
  | bool b =>
      cases b with
      | false => exact absurd rfl hne
      | true => rfl

/-- An argument stands for a number, or the operation refuses it. No argument that is refused
is zero. -/
theorem Binary.operand_cases (operation : Binary) (argument : Value) :
    (∃ x, StandsFor argument x) ∨
      ∃ cause, operation.operand argument = .error cause ∧ argument.isZero = false := by
  have hinteger {n : ℤ} (h : argument.IsInteger n) : (∃ x, StandsFor argument x) ∨
      ∃ cause, operation.operand argument = .error cause ∧ argument.isZero = false := by
    cases hx : Double.ofInt? n with
    | some x => exact .inl ⟨x, standsFor_of_isInteger h hx⟩
    | none => exact .inr ⟨_, operation.operand_of_tooLarge h hx⟩
  cases argument with
  | num x => exact .inl ⟨x, standsFor_num x⟩
  | bool b => exact hinteger (.bool b)
  | int n => exact hinteger (.int n)
  | _ => exact .inr ⟨_, rfl, rfl⟩

/-- **A method with a number goes through.** What it comes to is the reaction to the
number. -/
theorem Binary.method_of_standsFor (operation : Binary) {x : Double}
    (h : StandsFor argument x) (t : Thread) : operation.method argument t = .ok .itself
      ((operation.react argument.numberText x t.accumulator.value).apply t) := by
  have hshown := Value.shown_of_short h.short
  cases operation with
  | add | subtract | multiply =>
      simp only [method, h.operand, hshown, log, Value.shown_num]
      rfl
  | divide =>
      simp only [method, h.operand, hshown, log, Value.shown_num, h.isZero, react]
      cases hzero : x.isZero with
      | true => rfl
      | false =>
          simp only [Work.lift_ok, pure_bind, Double.divide_eq_ok hzero]
          rfl

/-- **Without a number a method fails before anything has changed.** -/
theorem Binary.method_of_refused (operation : Binary) {cause : Failure}
    (h : operation.operand argument = .error cause) (hzero : argument.isZero = false)
    (t : Thread) : operation.method argument t = .error cause t := by
  cases operation with
  | add | subtract | multiply =>
      simp only [method, h]
      rfl
  | divide =>
      simp only [method, h, hzero]
      rfl

/-- What a method without an argument comes back with. -/
def Unary.returned (operation : Unary) (value : Double) : Returned :=
  match operation with
  | getResult => .value (.num value)
  | _ => .itself

/-- **A method without an argument goes through.** -/
theorem Unary.method_eq (operation : Unary) (t : Thread) : operation.method t =
    .ok (operation.returned t.accumulator.value)
      ((operation.react t.accumulator.value).apply t) := by
  cases operation with
  | square | displayResult =>
      simp only [method, log, Value.shown_num]
      rfl
  | clear => rfl
  | getResult =>
      rw [react, Reaction.apply_eq_self]
      rfl
  | squareRoot =>
      simp only [method, log, Value.shown_num, Work.value_bind, react]
      cases hnegative : t.accumulator.value.isNegative with
      | true => rfl
      | false =>
          rw [if_neg Bool.false_ne_true, Work.value_bind, Double.squareRoot_eq_ok hnegative]
          rfl

/-- Once it has its argument an operation lets the accumulator take on the reaction. -/
theorem Binary.action_method (operation : Binary) (x : Double) (t : Thread) :
    (operation.method (.num x)).action t.accumulator t.journal =
      let next := (operation.react (plainNumber x) x t.accumulator.value).apply t
      (.accumulator next.accumulator, next.journal) := by
  rw [Work.action, operation.method_of_standsFor (standsFor_num x)]
  rfl

/-- So does one without an argument, and `getResult` comes back with the value. -/
theorem Unary.action_method (operation : Unary) (t : Thread) :
    operation.method.action t.accumulator t.journal =
      let next := (operation.react t.accumulator.value).apply t
      (match operation with
        | getResult => .plain next.accumulator (.num t.accumulator.value)
        | _ => .accumulator next.accumulator, next.journal) := by
  rw [Work.action, operation.method_eq]
  cases operation <;> rfl

end Calculator

end FluentCalc
