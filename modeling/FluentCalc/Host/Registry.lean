/-
# Registries of operations

A registry is the table in which expressions look operations up. It is made
from the exposed methods of a host. A method `square_root` is called
`SquareRoot` in expressions: its name is cut at the underscores, the pieces are
capitalised and joined. Methods are visited in the order of their names by code
point. Where two of them have one expression name, the later one takes the
place of the earlier in the table.

An exposed method with more than one parameter cannot be called from an
expression, and there is no registry for its host.
-/

import FluentCalc.Host.Basic
import FluentCalc.Text.Case
import FluentCalc.Text.Lines

namespace FluentCalc

/-- A piece of a name with its first character in upper case. -/
def capitalised : List Char → List Char
  | [] => []
  | c :: rest => Text.upper c ++ rest

/-- The name by which expressions call a method. -/
def expressionName (name : String) : String :=
  String.ofList ((Text.splitAt '_' name.toList).flatMap capitalised)

/-- An operation under the name by which expressions call it. -/
structure Entry where
  name : String
  operation : Operation

/-- A table of operations, each name once, in order. -/
abbrev Registry := List Entry

/-- The fault of a host that exposes a method with too many parameters. -/
structure ArityFault where
  host : String
  method : String
  parameters : Nat
deriving DecidableEq

/-- The wording of the fault. -/
def ArityFault.message (f : ArityFault) : String :=
  f.host ++ "." ++ f.method ++ " takes " ++ integerText f.parameters ++
    " parameters; expression operations take at most one"

/-- The complaint about the fault. -/
def ArityFault.complaint (f : ArityFault) : Complaint := ⟨"TypeError", some f.message⟩

namespace Method

/-- A method of which only the number of parameters is of interest; it does
nothing. -/
def stub (name : String) (parameters : Nat) (exposed : Bool) : Method :=
  let body : Body := match parameters with
    | 0 => .runs (.nullary fun a j => (.accumulator a, j))
    | 1 => .runs (.unary fun _ a j => (.accumulator a, j))
    | more => .takes more
  ⟨name, exposed, body⟩

/-- The order in which methods are visited. -/
def precedes (a b : Method) : Bool :=
  a.name ≤ b.name

/-- Methods with one more: a method of the same name is hidden by it. -/
def define (m : Method) : List Method → List Method
  | [] => [m]
  | other :: rest => if other.name == m.name then m :: rest else other :: define m rest

/-- The methods that are not hidden by later ones, in the order in which they
are visited. -/
def visible (methods : List Method) : List Method :=
  (methods.foldl (fun seen m => define m seen) []).mergeSort precedes

end Method

namespace Registry

/-- The operation under a name. -/
def get? (r : Registry) (name : String) : Option Operation :=
  (r.find? fun entry => entry.name == name).map Entry.operation

/-- Put an operation under a name, in place of one that is there already. -/
def insert (name : String) (operation : Operation) : Registry → Registry
  | [] => [⟨name, operation⟩]
  | entry :: rest =>
    if entry.name == name then ⟨name, operation⟩ :: rest
    else entry :: insert name operation rest

/-- Add visible methods to a registry, one after the other. -/
def addMethods (host : String) : List Method → Registry → Except ArityFault Registry
  | [], r => .ok r
  | m :: rest, r =>
    if m.exposed then
      match m.body with
      | .takes parameters => .error ⟨host, m.name, parameters⟩
      | .runs operation => addMethods host rest (r.insert (expressionName m.name) operation)
    else addMethods host rest r

/-- The registry of methods defined one after the other. -/
def ofMethods (host : String) (methods : List Method) : Except ArityFault Registry :=
  addMethods host (Method.visible methods) []

end Registry

/-- The registry of a host. -/
def Host.registry (h : Host) : Except ArityFault Registry :=
  Registry.ofMethods h.name h.methods

end FluentCalc
