/-
# Hosts

A host is the kind of accumulator that an expression works on: how one is made
from a seed and which operations it has. An accumulator is a plain value here.
What accumulators share while a run goes on is kept apart from them in a
`Journal`: the effects in the order in which they happened, and the number of
marks. An operation that fails says in which state it left the accumulator that
it was handed, and whoever invoked it is free to drop that one. The journal it
leaves behind is there for all.
-/

import FluentCalc.Complaint
import FluentCalc.Decimal.Numeral
import FluentCalc.Double.Arithmetic
import FluentCalc.Value.Text

namespace FluentCalc

/-- Something a run has to tell: a message, if any, and the topics it goes to. -/
structure Effect where
  topics : List String
  message : Option String
deriving DecidableEq

/-- An effect as a value. -/
def Effect.toValue (e : Effect) : Value :=
  let topics := (Value.text "topics", Value.list (e.topics.map Value.text))
  .mapping (topics :: match e.message with
    | none => []
    | some message => [(.text "message", .text message)])

/-- What can go wrong when an accumulator is made or an operation is invoked. -/
inductive Failure
  /-- The operation gave up, with a message of its own. -/
  | runtime (message : String)
  /-- The operation refused a value, with a message of its own. -/
  | badValue (message : String)
  /-- A key was not there. -/
  | missingKey (key : String)
  /-- The kind of accumulator has no such part. -/
  | missingPart (kind part : String)
  /-- The operation has no meaning on its own. -/
  | notImplemented
  /-- A text handed over as a seed is no number. -/
  | seedText (text : String)
  /-- A value of this kind is no seed. -/
  | seedKind (kind : String)
  /-- An integer is too large for a double. -/
  | tooLarge
  /-- An operation was handed arguments that it cannot take. -/
  | badArguments (message : String)
  /-- The arithmetic refused a number. -/
  | arithmetic (fault : Double.Fault)
  /-- A value was to be shown that has no text. -/
  | unwritten (fault : TextFault)
deriving DecidableEq

namespace Failure

/-- The name of the class of a failure. -/
def kind : Failure → String
  | runtime _ => "RuntimeError"
  | badValue _ => "ValueError"
  | missingKey _ => "KeyError"
  | missingPart _ _ => "AttributeError"
  | notImplemented => "NotImplementedError"
  | seedText _ => "ValueError"
  | seedKind _ => "TypeError"
  | tooLarge => "OverflowError"
  | badArguments _ => "TypeError"
  | arithmetic fault => fault.complaint.kind
  | unwritten fault => fault.complaint.kind

/-- The wording of a failure. -/
def message : Failure → String
  | runtime message => message
  | badValue message => message
  | missingKey key => Text.quoted key
  | missingPart kind part => Text.quoted kind ++ " object has no attribute " ++ Text.quoted part
  | notImplemented => ""
  | seedText text => "could not convert string to float: " ++ Text.quoted text
  | seedKind kind => "float() argument must be a string or a real number, not " ++
      Text.quoted kind
  | tooLarge => "int too large to convert to float"
  | badArguments message => message
  | arithmetic fault => fault.complaint.message.getD ""
  | unwritten fault => fault.complaint.message.getD ""

/-- The complaint about a failure. -/
def complaint (f : Failure) : Complaint := ⟨f.kind, some f.message⟩

end Failure

/-- An accumulator: its value, whether it can be marked, and whether its effects
reach the journal of the run. -/
structure Accumulator where
  value : Double
  marked : Bool
  recorded : Bool
deriving DecidableEq

/-- What the accumulators of a run share. -/
structure Journal where
  effects : List Effect
  marks : Nat
deriving DecidableEq

namespace Journal

/-- The journal at the start of a run. -/
def empty : Journal := ⟨[], 0⟩

/-- Add the effects of an accumulator. They are lost if it is not recorded. -/
def record (j : Journal) (a : Accumulator) (effects : List Effect) : Journal :=
  if a.recorded then { j with effects := j.effects ++ effects } else j

/-- Add a mark. -/
def mark (j : Journal) : Journal :=
  { j with marks := j.marks + 1 }

end Journal

/-- An accumulator and what it shares with the others of its run. -/
structure Thread where
  accumulator : Accumulator
  journal : Journal
deriving DecidableEq

/-- What an invoked operation comes back with. -/
inductive Answer
  /-- The accumulator that the chain goes on with. -/
  | accumulator (next : Accumulator)
  /-- A plain value; the chain goes on with the accumulator it was asked of. -/
  | plain (next : Accumulator) (value : Value)
  /-- A failure, and what it left of the accumulator it was asked of. -/
  | failure (left : Accumulator) (cause : Failure)

/-- What an operation does once its argument is known. -/
abbrev Action := Accumulator → Journal → Answer × Journal

/-- An operation of a host takes no argument or one number. -/
inductive Operation
  | nullary (run : Action)
  | unary (run : Double → Action)

/-- The number of arguments an operation takes. -/
def Operation.parameterCount : Operation → Nat
  | nullary _ => 0
  | unary _ => 1

/-- What stands behind a method: an operation, or something with more parameters
than an operation can have. -/
inductive Body
  | runs (operation : Operation)
  | takes (parameters : Nat)

/-- A method of a host: its name, whether expressions may call it, and its
body. -/
structure Method where
  name : String
  exposed : Bool
  body : Body

/-- The number that a seed stands for. -/
def seedNumber : Value → Except Failure Double
  | .num x => .ok x
  | .bool b => match Double.ofInt? (if b then 1 else 0) with
    | some x => .ok x
    | none => .error .tooLarge
  | .int n => match Double.ofInt? n with
    | some x => .ok x
    | none => .error .tooLarge
  | .text s => match looseNumber? s.toList with
    | some x => .ok x
    | none => .error (.seedText s)
  | value => .error (.seedKind value.kindName)

/-- A host. Methods are listed in the order of their definition; of several
with one name the last counts. -/
structure Host where
  name : String
  methods : List Method
  /-- The accumulator for a seed. -/
  create : Value → Except Failure Accumulator
  /-- The failure of making a working copy, on hosts that cannot be copied. -/
  copyFailure : Option Failure

end FluentCalc
