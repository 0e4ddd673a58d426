/-
# Outcomes

What a run of an expression leaves behind: the final value, one diagnostic for
every call, and the effects in the order in which they happened.
-/

import FluentCalc.Host.Basic

namespace FluentCalc

/-- How a call ended. -/
inductive Status
  | ok
  | unknownOperation
  | badArgument
  | invocationFailed
deriving DecidableEq

/-- The word for a status in reports. -/
def Status.word : Status → String
  | ok => "ok"
  | unknownOperation => "unknown-operation"
  | badArgument => "bad-argument"
  | invocationFailed => "invocation-failed"

/-- The record of one call: its place in the chain, its name, how it ended, a
message, and the value after it. -/
structure Diagnostic where
  index : Nat
  name : String
  status : Status
  message : String
  value : Double
deriving DecidableEq

/-- The record of a run. -/
structure Outcome where
  final : Double
  diagnostics : List Diagnostic
  effects : List Effect
deriving DecidableEq

namespace Diagnostic

/-- Whether a call ended well. -/
def isOk (d : Diagnostic) : Bool :=
  d.status == .ok

/-- A diagnostic as a value. -/
def toValue (d : Diagnostic) : Value :=
  .diagnostic d.index d.name d.status.word d.message (.num d.value)

/-- Agreement of diagnostics, values being compared as numbers. -/
def same (a b : Diagnostic) : Bool :=
  a.index == b.index && a.name == b.name && a.status == b.status && a.message == b.message &&
    a.value.same b.value

end Diagnostic

namespace Outcome

/-- Whether every call ended well. -/
def isOk (o : Outcome) : Bool :=
  o.diagnostics.all Diagnostic.isOk

/-- An outcome as a value. -/
def toValue (o : Outcome) : Value :=
  .outcome (.num o.final) (o.diagnostics.map Diagnostic.toValue) (o.effects.map Effect.toValue)

/-- Agreement of lists of diagnostics. -/
def sameDiagnostics : List Diagnostic → List Diagnostic → Bool
  | [], [] => true
  | a :: as, b :: bs => a.same b && sameDiagnostics as bs
  | _, _ => false

/-- Agreement of outcomes, values being compared as numbers, so that an outcome
with a not-a-number in it does not even agree with itself. -/
def same (a b : Outcome) : Bool :=
  a.final.same b.final && sameDiagnostics a.diagnostics b.diagnostics && a.effects == b.effects

end Outcome

end FluentCalc
