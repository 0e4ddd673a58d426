/-
# The calculator

Nine operations on a single number. Two requests are refused without failing,
with a message to the error stream and the value left alone: division by zero
and the square root of a number below zero. A not-a-number is neither zero nor
below zero and passes both.

The methods take any value for an argument. Integers and truth values are shown
in messages as they are and rounded to doubles for the arithmetic, and what is
no number fails there, as does what is too large. A divisor is compared with
zero as it stands, before it is rounded. A method changes its value first and
logs that afterwards.
-/

import FluentCalc.Host.Work

namespace FluentCalc

namespace Effect

/-- A message to the output stream. -/
def output (message : String) : Effect := ⟨["stdout"], some message⟩

/-- A message to the error stream. -/
def error (message : String) : Effect := ⟨["stderr"], some message⟩

end Effect

/-- Whether a value is numerically zero. -/
def Value.isZero : Value → Bool
  | num x => x.isZero
  | bool b => !b
  | int n => n == 0
  | _ => false

namespace Calculator

open Work

/-- The operations with an argument. -/
inductive Binary
  | add
  | subtract
  | multiply
  | divide
deriving DecidableEq

/-- The operations without an argument. -/
inductive Unary
  | square
  | squareRoot
  | clear
  | getResult
  | displayResult
deriving DecidableEq

/-- The complaint about an argument that is no number. -/
def Binary.complaint (operation : Binary) (kind : String) : String :=
  let unsupported (sign : String) :=
    "unsupported operand type(s) for " ++ sign ++ ": 'float' and " ++ Text.quoted kind
  match operation with
  | add => unsupported "+="
  | subtract => unsupported "-="
  | multiply =>
    if ["str", "list", "tuple", "bytes"].contains kind then
      "can't multiply sequence by non-int of type 'float'"
    else unsupported "*="
  | divide => unsupported "/="

/-- The number that an argument stands for. -/
def Binary.operand (operation : Binary) : Value → Except Failure Double
  | .num x => .ok x
  | .bool b => seedNumber (.bool b)
  | .int n => seedNumber (.int n)
  | value => .error (.badArguments (operation.complaint value.kindName))

/-- Log what was done and the value that it led to. -/
def log (deed : String) : Work Unit := do
  emit (.output (deed ++ ", current value: " ++ (← (Value.num (← value)).shown)))

/-- The method of an operation with an argument. -/
def Binary.method (operation : Binary) (argument : Value) : Work Returned := do
  match operation with
  | add =>
    assign ((← value).add (← operation.operand argument))
    log ("Added " ++ (← argument.shown))
  | subtract =>
    assign ((← value).subtract (← operation.operand argument))
    log ("Subtracted " ++ (← argument.shown))
  | multiply =>
    assign ((← value).multiply (← operation.operand argument))
    log ("Multiplied by " ++ (← argument.shown))
  | divide =>
    if argument.isZero then emit (.error "Error: Cannot divide by zero!")
    else
      assign (← ((← value).divide (← operation.operand argument)).mapError Failure.arithmetic)
      log ("Divided by " ++ (← argument.shown))
  return .itself

/-- The method of an operation without an argument. All but `getResult` come back
with the accumulator. -/
def Unary.method (operation : Unary) : Work Returned := do
  match operation with
  | square =>
    assign ((← value).multiply (← value))
    log "Squared"
  | squareRoot =>
    if (← value).isNegative then
      emit (.error "Error: Cannot take square root of negative number!")
    else
      assign (← (← value).squareRoot.mapError Failure.arithmetic)
      log "Square root taken"
  | clear =>
    assign .zero
    emit (.output "Calculator cleared, current value: 0")
  | getResult => return .value (.num (← value))
  | displayResult =>
    emit (.output ("Final result: " ++ (← (Value.num (← value)).shown)))
  return .itself

/-- An operation of the calculator with an argument. -/
def Binary.operation (operation : Binary) : Operation :=
  .unary fun x => action (operation.method (.num x))

/-- An operation of the calculator without an argument. -/
def Unary.operation (operation : Unary) : Operation :=
  .nullary (action operation.method)

/-- The names of the operations with an argument. -/
def Binary.name : Binary → String
  | add => "add"
  | subtract => "subtract"
  | multiply => "multiply"
  | divide => "divide"

/-- The names of the operations without an argument. -/
def Unary.name : Unary → String
  | square => "square"
  | squareRoot => "square_root"
  | clear => "clear"
  | getResult => "get_result"
  | displayResult => "display_result"

/-- The operations with an argument, in the order of their definition. -/
def Binary.all : List Binary := [add, subtract, multiply, divide]

/-- The operations without an argument, in the order of their definition. -/
def Unary.all : List Unary := [square, squareRoot, clear, getResult, displayResult]

/-- The methods of the calculator that expressions may call. -/
def methods : List Method :=
  (Binary.all.map fun operation => ⟨operation.name, true, .runs operation.operation⟩) ++
    Unary.all.map fun operation => ⟨operation.name, true, .runs operation.operation⟩

/-- A fresh calculator whose effects are recorded. -/
def create (seed : Value) : Except Failure Accumulator := do
  return ⟨← seedNumber seed, false, true⟩

/-- The calculator. -/
def host : Host := ⟨"Calculator", methods, create, none⟩

end Calculator

end FluentCalc
