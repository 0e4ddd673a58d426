/-
# Methods at work

The code of a method changes an accumulator and the journal of its run step by
step, and any step may fail. What the steps before it have changed stays changed
then: a failure does not bring back a state, and neither is anything undone by
what a method comes back with.
-/

import FluentCalc.Host.Basic

namespace FluentCalc

/-- The work of a method on an accumulator and its journal. -/
abbrev Work := EStateM Failure Thread

/-- What a method comes back with: its accumulator, or a plain value. -/
inductive Returned
  | itself
  | value (v : Value)
deriving Inhabited

namespace Work

/-- A failure ends the work where it has got to. -/
instance : MonadLift (Except Failure) Work where
  monadLift x := fun t => match x with
    | .ok a => .ok a t
    | .error cause => .error cause t

/-- The value of the accumulator. -/
def value : Work Double :=
  return (← get).accumulator.value

/-- Let the accumulator take on a value. -/
def assign (x : Double) : Work Unit :=
  modify fun t => { t with accumulator := { t.accumulator with value := x } }

/-- Have an effect. -/
def emit (effect : Effect) : Work Unit :=
  modify fun t => { t with journal := t.journal.record t.accumulator [effect] }

/-- The action of a method that is invoked on an accumulator. -/
def action (work : Work Returned) : Action := fun a j =>
  match work ⟨a, j⟩ with
  | .ok .itself t => (.accumulator t.accumulator, t.journal)
  | .ok (.value v) t => (.plain t.accumulator v, t.journal)
  | .error cause t => (.failure t.accumulator cause, t.journal)

end Work

/-- A value as messages show it: a whole number by the digits of its whole part,
everything else in its display form. -/
def Value.shown : Value → Except Failure String
  | num x =>
    if x.isFinite && x.isWhole then do
      let n ← x.truncate.mapError Failure.arithmetic
      (int n).display?.mapError Failure.unwritten
    else .ok (Layout.standard.text x)
  | value => value.display?.mapError Failure.unwritten

end FluentCalc
