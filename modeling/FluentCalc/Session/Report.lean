/-
# Reporting a result

The result of one expression is reported to the console: the error of a text
that does not parse; otherwise the outcome as data if a format is asked for, or
for reading: the effects that go to one stream alone, the calls that did not
end well, and the final value.
-/

import FluentCalc.Format
import FluentCalc.Run.Result
import FluentCalc.Session.Console

namespace FluentCalc

/-- The report of an effect. One that does not go to exactly one of the two
streams is not shown; one without a message is an empty line. -/
def Effect.report (e : Effect) : Console :=
  if e.topics == ["stdout"] then .line (e.message.getD "")
  else if e.topics == ["stderr"] then .errorLine (e.message.getD "")
  else .empty

/-- The report of a diagnostic, which is only of interest if the call did not
end well. -/
def Diagnostic.report (d : Diagnostic) : Console :=
  if d.isOk then .empty
  else .errorLine (diagnosticLine d.index d.name d.status.word d.message)

/-- The report of an outcome for reading. -/
def Outcome.report (o : Outcome) : Console :=
  let effects := o.effects.foldr (fun e c => e.report ++ c) .empty
  let diagnostics := o.diagnostics.foldr (fun d c => d.report ++ c) .empty
  effects ++ diagnostics ++ .line (plainNumber o.final)

/-- The report of a result. No format, or an empty name for one, is a report for
reading. -/
def Result.report (r : Result) (format : Option String) : Except WriteFault Console :=
  match r with
  | .fault _ _ => .ok (.errorLine r.errorReport)
  | .success _ outcome =>
    match format.getD "" with
    | "" => .ok outcome.report
    | name => do return .line (← serialize outcome.toValue (some name) true)

end FluentCalc
