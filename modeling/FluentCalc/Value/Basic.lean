/-
# Values

The data that reports are made of and that files are read into: plain values,
their containers, and the four records of a run (a call, an expression, a
diagnostic and an outcome) together with the fault of a text that is no
expression. Mappings keep the order in which their keys were put in.

Numbers come in two kinds that are never confused: exact integers and doubles.
Dates, moments, byte strings and sets arise only when YAML is read.
-/

import FluentCalc.Decimal.Layout

namespace FluentCalc

/-- A day of the calendar. -/
structure Date where
  year : Nat
  month : Nat
  day : Nat
deriving DecidableEq, Inhabited

/-- A time of a day, with the distance of its zone from universal time in
minutes where a zone was given. -/
structure Moment where
  date : Date
  hour : Nat
  minute : Nat
  second : Nat
  microsecond : Nat
  zone : Option Int
deriving DecidableEq, Inhabited

/-- A value, a container of values or a record of a run. -/
inductive Value
  | null
  | bool (b : Bool)
  | int (n : Int)
  | num (x : Double)
  | text (s : String)
  | list (items : List Value)
  | tuple (items : List Value)
  | mapping (entries : List (Value × Value))
  | set (items : List Value)
  | bytes (octets : List UInt8)
  | date (d : Date)
  | moment (m : Moment)
  /-- A call: its name, its raw argument (null when absent) and its column. -/
  | call (name : String) (argument : Value) (column : Option Int)
  | expression (seed : Value) (calls : List Value) (constructor : String)
  | diagnostic (index : Int) (name status message : String) (value : Value)
  | outcome (final : Value) (diagnostics effects : List Value)
  /-- The fault of a text that is no expression. -/
  | fault (kind message : String) (column : Option Int)
deriving Inhabited

namespace Value

/-- An integer, or null in place of none. -/
def ofColumn : Option Int → Value
  | none => null
  | some n => int n

/-- A text, or null in place of none. -/
def ofText? : Option String → Value
  | none => null
  | some s => text s

/-- The name by which messages call the kind of a value. -/
def kindName : Value → String
  | null => "NoneType"
  | bool _ => "bool"
  | int _ => "int"
  | num _ => "float"
  | text _ => "str"
  | list _ => "list"
  | tuple _ => "tuple"
  | mapping _ => "dict"
  | set _ => "set"
  | bytes _ => "bytes"
  | date _ => "date"
  | moment _ => "datetime"
  | call _ _ _ => "CallDescriptor"
  | expression _ _ _ => "ParsedExpression"
  | diagnostic _ _ _ _ _ => "CallDiagnostic"
  | outcome _ _ _ => "EvaluationOutcome"
  | fault _ _ _ => "ParseError"

/-- Whether a value counts as present where an absent one would be left out:
null, false, zeros and empty texts and containers do not. -/
def isPresent : Value → Bool
  | null => false
  | bool b => b
  | int n => n != 0
  | num x => !x.isZero
  | text s => !s.isEmpty
  | list items | tuple items | set items => !items.isEmpty
  | mapping entries => !entries.isEmpty
  | bytes octets => !octets.isEmpty
  | _ => true

/-- The value under a text key of a mapping. -/
def get? (key : String) : Value → Option Value
  | mapping entries =>
    (entries.find? fun entry => match entry.1 with
      | text s => s == key
      | _ => false).map (·.2)
  | _ => none

end Value

end FluentCalc
