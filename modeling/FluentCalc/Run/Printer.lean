/-
# Readable reports

The readable form of a value: calls and expressions as they are written in
source, outcomes with one line for each diagnostic and one for the result, and
numbers as the calculator writes them. Sequences and outcomes have their lines
indented by a number of levels; everything else stands on its own.
-/

import FluentCalc.Expression.Basic
import FluentCalc.Run.Outcome

namespace FluentCalc

/-- The readable form of one diagnostic. -/
def diagnosticLine (index : Int) (name status message : String) : String :=
  "[" ++ integerText index ++ "] " ++ name ++ ": " ++ status ++
    (if message.isEmpty then "" else " - " ++ message)

namespace Value

/-- A call as it is written: arguments that count as absent are left out. -/
def callText (name : String) (argument : Value) : String :=
  name ++ "(" ++ (if argument.isPresent then argument.display else "") ++ ")"

/-- Spaces for a number of levels of a given width. -/
def indentation (width level : Nat) : String :=
  String.ofList (List.replicate (width * level) ' ')

mutual

/-- The readable form of a value at a level. -/
def render (width level : Nat) : Value → String
  | null => "none"
  | list items => "\n".intercalate (renderItems width level items)
  | tuple items => "\n".intercalate (renderItems width level items)
  | call name argument _ => callText name argument
  | expression seed calls constructor =>
    constructor ++ "(" ++ seed.numberText ++ ")" ++ "".intercalate (renderCalls width level calls)
  | diagnostic index name status message _ => diagnosticLine index name status message
  | outcome final diagnostics _ =>
    "\n".intercalate (renderItems width level diagnostics ++
      [indentation width level ++ "result: " ++ final.numberText])
  | fault kind message column =>
    "ParseError[" ++ kind ++ "]: " ++ message ++ (match column with
      | none => ""
      | some n => " (col " ++ integerText n ++ ")")
  | num x => plainNumber x
  | text s => s
  | value => value.quoted

/-- The items of a sequence, each indented. -/
def renderItems (width level : Nat) : List Value → List String
  | [] => []
  | item :: rest =>
    (indentation width level ++ render width level item) :: renderItems width level rest

/-- The calls of an expression, each with its point. -/
def renderCalls (width level : Nat) : List Value → List String
  | [] => []
  | item :: rest => ("." ++ render width level item) :: renderCalls width level rest

end

end Value

/-- The width of a level of indentation unless another is asked for. -/
def standardIndent : Nat := 2

/-- The canonical text of an expression. -/
def Expression.text (e : Expression) : String :=
  e.toValue.render standardIndent 0

end FluentCalc
