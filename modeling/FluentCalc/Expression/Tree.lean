/-
# Expressions from syntax trees

A grammar takes a text apart into a syntax tree or reports where it failed. A
tree is made of nodes: objects with a tag, the text they stand for, and the line
and the column where it begins. The name and the argument of the constructor are
the two outermost nodes with their tags, wherever they are in the tree, and the
calls are the outermost nodes with theirs; each call has the nodes of its own
name and argument among its children.

From an output that lacks something of this nothing is made.
-/

import FluentCalc.Expression.Location
import FluentCalc.Expression.Nodes
import FluentCalc.Expression.Parse

namespace FluentCalc

namespace Value

/-- The text that a node stands for. -/
def nodeText? (node : Value) : Option String :=
  match node.get? "text" with
  | some (text s) => some s
  | _ => none

/-- The column over the whole source where a node begins. -/
def nodeColumn? (source : List Char) (node : Value) : Option Int :=
  match node.get? "line", node.get? "col" with
  | some (int line), some (int column) => some (Location.absoluteColumn source line column)
  | _, _ => none

end Value

namespace Expression

/-- What a grammar makes of a text: a syntax tree, or a report of failure. -/
inductive Output
  | tree (root : Value)
  | refused (report : Location.Failure)

/-- The call of a node. An argument with nothing in it is no argument. -/
def callOfNode? (source : List Char) (node : Value) : Option Call := do
  match (← node.get? "children").tagged ["call_name", "call_arg"] with
  | [name, argument] =>
    let name ← name.nodeText?
    let argument ← argument.nodeText?
    let column ← node.nodeColumn? source
    return ⟨name, match Text.strip argument.toList with
      | [] => .null
      | trimmed => .text (String.ofList trimmed), some column⟩
  | _ => none

/-- The expression of a tree, unless its seed is no number. -/
def ofTree? (source : List Char) (root : Value) : Option (Except ParseFault Expression) := do
  match root.tagged ["ctor", "seed_arg"] with
  | [constructor, argument] =>
    let constructor ← constructor.nodeText?
    let text ← argument.nodeText?
    match number? text.toList with
    | .error _ =>
      let column ← argument.nodeColumn? source
      return .error (.badSeed text constructor (← column.toNat?))
    | .ok seed =>
      let calls ← (root.tagged ["call"]).mapM (callOfNode? source)
      return .ok ⟨constructor, seed, calls⟩
  | _ => none

/-- The column over the whole source that a report points at. -/
def reportColumn? (source : List Char) (report : Location.Failure) : Option Nat :=
  match Location.faultColumn report source with
  | .ok (some column) => column.toNat?
  | _ => none

/-- The fault of a source without a constructor call at its front. -/
def noSeed? (source : List Char) (report : Location.Failure) :
    Option (Except ParseFault Expression) := do
  return .error (.noSeed (← reportColumn? source report))

/-- The expression that a grammar's output stands for, where the permissive
grammar is asked as well if the strict one has failed. -/
def ofOutputs? (strict : Bool) (source : List Char) (own permissive : Output) :
    Option (Except ParseFault Expression) :=
  match own with
  | .tree root => ofTree? source root
  | .refused report =>
    if !strict then noSeed? source report
    else
      match permissive with
      | .refused report => noSeed? source report
      | .tree root => do
        match ← ofTree? source root with
        | .error fault => return .error fault
        | .ok _ =>
          let column ← reportColumn? source report
          return .error (.strayText (String.ofList (snippet source (some column))) column)

end Expression

end FluentCalc
