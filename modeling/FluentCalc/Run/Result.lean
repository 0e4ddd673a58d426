/-
# Handling an expression

A runner takes source texts one at a time: it parses the text and, if that
succeeds, runs the expression on its host. The fault of a text that does not
parse is reported with an excerpt of the source and a caret under the column.
-/

import FluentCalc.Expression.Parse
import FluentCalc.Run.Dispatch
import FluentCalc.Run.Printer

namespace FluentCalc

/-- What handling a source text came to. -/
inductive Result
  | success (source : String) (outcome : Outcome)
  | fault (source : String) (cause : ParseFault)

namespace Result

/-- The first line of a text; an empty text has an empty one. -/
def firstLine (source : List Char) : List Char :=
  ((Text.lines source).head?).getD []

/-- An error message with an excerpt of the source. The caret stands under the
column; a column in front of the first puts it there. -/
def excerpt (message : String) (column : Int) (source : String) : String :=
  message ++ " (col " ++ integerText column ++ ")\n  " ++
    String.ofList (firstLine source.toList) ++ "\n  " ++
    String.ofList (List.replicate (column - 1).toNat ' ') ++ "^"

/-- An error message, with an excerpt where the column and the source are known.
An empty message says nothing of the error. -/
def errorText (message : String) (column : Option Int) (source : Option String) : String :=
  let message := if message.isEmpty then "Unknown error" else message
  match column, source with
  | some column, some source => excerpt message column source
  | _, _ => message

/-- The error message of a fault. -/
def faultMessage (cause : ParseFault) : String :=
  "ParseError: " ++ cause.message

/-- Whether an expression was run. -/
def isSuccess : Result → Bool
  | success _ _ => true
  | fault _ _ => false

/-- The outcome of the run, if there was one. -/
def outcome? : Result → Option Outcome
  | success _ outcome => some outcome
  | fault _ _ => none

/-- The effects: those of the run, or the error message on the error stream. -/
def effects : Result → List Effect
  | success _ outcome => outcome.effects
  | fault _ cause => [⟨["stderr"], some (faultMessage cause)⟩]

/-- The error report, which is empty after a success. -/
def errorReport : Result → String
  | success _ _ => ""
  | fault source cause => errorText (faultMessage cause) (some cause.column) (some source)

end Result

/-- A host with its registry and a reading of expressions. -/
structure Runner where
  host : Host
  registry : Registry
  strict : Bool

namespace Runner

/-- The runner for a host, unless the host cannot be registered. -/
def ofHost (host : Host) (strict : Bool) : Except ArityFault Runner := do
  return ⟨host, ← host.registry, strict⟩

/-- Handle a source text. It fails only if no accumulator can be made. -/
def handle (r : Runner) (source : String) : Except Failure Result :=
  match Expression.parse r.strict source with
  | .error cause => .ok (.fault source cause)
  | .ok e => do return .success source (← e.evaluate r.host r.registry)

end Runner

end FluentCalc
