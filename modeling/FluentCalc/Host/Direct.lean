/-
# The calculator called directly

Apart from expressions, the methods of a calculator can be called one after the
other, with any values as arguments. They all work on the same object, and what
a failing call has changed by then stays as it is.
-/

import FluentCalc.Host.Calculator

namespace FluentCalc.Calculator

open Work

/-- The complaint about the number of arguments of a call. -/
def miscounted (method : String) (parameters : List String) (given : Nat) : Failure :=
  let owner := "Calculator." ++ method ++ "()"
  let plural (n : Nat) (word : String) := if n = 1 then word else word ++ "s"
  if given < parameters.length then
    let missing := parameters.drop given
    .badArguments (owner ++ " missing " ++ integerText missing.length ++
      " required positional " ++ plural missing.length "argument" ++ ": " ++
      " and ".intercalate (missing.map Text.quoted))
  else
    .badArguments (owner ++ " takes " ++ integerText (parameters.length + 1) ++ " positional " ++
      plural (parameters.length + 1) "argument" ++ " but " ++ integerText (given + 1) ++
      " were given")

/-- Call an operation with an argument. -/
def Binary.direct (operation : Binary) : List Value → Work Returned
  | [argument] => operation.method argument
  | arguments => throw (miscounted operation.name ["number"] arguments.length)

/-- Call an operation without an argument. -/
def Unary.direct (operation : Unary) : List Value → Work Returned
  | [] => operation.method
  | arguments => throw (miscounted operation.name [] arguments.length)

/-- Have an effect directly: a topic and a message. -/
def announce : List Value → Work Returned
  | [topic, message] => do
    emit ⟨[topic.display], some message.display⟩
    return .value .null
  | arguments => throw (miscounted "emit" ["topic", "message"] arguments.length)

/-- Call a method of the calculator by its name. -/
def direct (method : String) (arguments : List Value) : Work Returned :=
  match Binary.all.find? fun operation => operation.name == method with
  | some operation => operation.direct arguments
  | none =>
    match Unary.all.find? fun operation => operation.name == method with
    | some operation => operation.direct arguments
    | none =>
      if method == "emit" then announce arguments
      else throw (.missingPart "Calculator" method)

/-- A fresh calculator with a value. -/
def start (value : Double) : Thread := ⟨⟨value, false, true⟩, .empty⟩

/-- A direct call in a sequence: what it came to, and the state that it left. -/
structure Step where
  outcome : Except Failure Returned
  after : Thread

/-- Call a method on a calculator in a state. -/
def directStep (t : Thread) (call : String × List Value) : Step :=
  match direct call.1 call.2 t with
  | .ok returned after => ⟨.ok returned, after⟩
  | .error cause after => ⟨.error cause, after⟩

/-- Call methods one after the other on one calculator. Each goes on from the
state that the one before it left, be it by failing. -/
def directSteps (t : Thread) : List (String × List Value) → List Step
  | [] => []
  | call :: rest =>
    let step := directStep t call
    step :: directSteps step.after rest

end FluentCalc.Calculator
