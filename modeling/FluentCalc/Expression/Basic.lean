/-
# Expressions

A fluent expression is a constructor call that holds the seed, followed by
calls: `Calculator(10).Add(5).Square()`. This module has the parsed form and
the faults of texts that have none. Columns count characters from one.

Where a call was found is no part of what it says, so two expressions are the
same when their seeds are numerically equal and everything else but the columns
agrees.
-/

import FluentCalc.Text.Blank
import FluentCalc.Value.Mapping
import FluentCalc.Value.Text

namespace FluentCalc

/-- One call: a name, the raw argument between its brackets (null when there is
none) and the column of its leading point. Calls found in a text have a text or
null as their argument. -/
structure Call where
  name : String
  argument : Value
  column : Option Int

/-- A parsed expression. -/
structure Expression where
  constructor : String
  seed : Double
  calls : List Call

/-- Why a text is not an expression. -/
inductive ParseFault
  /-- No constructor call at the front; the column is that of the failure. -/
  | noSeed (column : Nat)
  /-- A constructor call whose argument is no number. -/
  | badSeed (argument constructor : String) (column : Nat)
  /-- Text between or behind the calls, where only gaps are allowed. -/
  | strayText (snippet : String) (column : Nat)
deriving DecidableEq

namespace Call

/-- Agreement of calls apart from their columns. -/
def same (a b : Call) : Bool :=
  a.name == b.name && a.argument.sameKey b.argument

/-- A call as a value. -/
def toValue (c : Call) : Value :=
  .call c.name c.argument c.column

end Call

namespace Expression

/-- Agreement of lists of calls apart from their columns. -/
def sameCalls : List Call → List Call → Bool
  | [], [] => true
  | a :: as, b :: bs => a.same b && sameCalls as bs
  | _, _ => false

/-- Agreement of expressions apart from columns. -/
def same (a b : Expression) : Bool :=
  a.seed.same b.seed && sameCalls a.calls b.calls && a.constructor == b.constructor

/-- An expression as a value. -/
def toValue (e : Expression) : Value :=
  .expression (.num e.seed) (e.calls.map Call.toValue) e.constructor

end Expression

namespace ParseFault

/-- The kind of a fault. -/
def kind : ParseFault → String
  | noSeed _ => "missing-or-invalid-seed"
  | badSeed _ _ _ => "missing-or-invalid-seed"
  | strayText _ _ => "unexpected-text"

/-- The column of a fault. -/
def column : ParseFault → Nat
  | noSeed column => column
  | badSeed _ _ column => column
  | strayText _ column => column

/-- The wording of a fault. -/
def message : ParseFault → String
  | noSeed _ => "expected a constructor call with a numeric argument, e.g. Calculator(10)"
  | badSeed argument constructor _ =>
    "invalid seed " ++ Text.quoted (Text.stripped argument) ++ " in " ++ constructor ++ "(...)"
  | strayText snippet _ => "unexpected text " ++ Text.quoted snippet

/-- A fault as a value. -/
def toValue (f : ParseFault) : Value :=
  .fault f.kind f.message (some f.column)

end ParseFault

end FluentCalc
