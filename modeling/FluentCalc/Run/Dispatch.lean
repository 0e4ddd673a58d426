/-
# Dispatching calls

A chain of calls is run by threading an accumulator through it. Each call is
looked up in the registry of the host, its argument is read, and the operation
is invoked on the accumulator. Whatever goes wrong with a call becomes its
diagnostic and leaves the accumulator as it was; the run goes on.

An operation without a parameter ignores an argument, and its diagnostic notes
that. A plain value that an operation comes back with is noted, too.
-/

import FluentCalc.Expression.Basic
import FluentCalc.Host.Registry
import FluentCalc.Run.Outcome

namespace FluentCalc

namespace Run

/-- A plain value that an operation came back with, as a note. Numbers are
written as the calculator writes them. -/
def returnedText : Value → String
  | .num x => plainNumber x
  | value => value.quoted

/-- Two notes in one; either may be empty. -/
def joinNotes (a b : String) : String :=
  if a.isEmpty then b else if b.isEmpty then a else a ++ "; " ++ b

/-- How a call ended and what is noted about it. -/
structure Verdict where
  status : Status
  message : String
deriving DecidableEq

/-- Go on from the answer of an operation that was invoked with a note. After a
failure that is with the accumulator from before. -/
def settle (t : Thread) (note : String) : Answer × Journal → Thread × Verdict
  | (.accumulator next, j) => (⟨next, j⟩, ⟨.ok, note⟩)
  | (.plain next value, j) =>
    (⟨next, j⟩, ⟨.ok, joinNotes note ("returned " ++ returnedText value)⟩)
  | (.failure _ cause, j) =>
    (⟨t.accumulator, j⟩,
      ⟨.invocationFailed, "InvocationFailed: " ++ cause.kind ++ ": " ++ cause.message⟩)

/-- Invoke an operation, unless no working copy can be made for it. -/
def invoke (h : Host) (t : Thread) (note : String)
    (operation : Action) : Thread × Verdict :=
  match h.copyFailure with
  | some cause => settle t note (.failure t.accumulator cause, t.journal)
  | none => settle t note (operation t.accumulator t.journal)

/-- The number that an argument is read as. Only texts are read. -/
def argument? : Value → Option Double
  | .text s => (number? s.toList).toOption
  | _ => none

/-- What looking up the operation of a call and reading its argument come to. -/
inductive Binding
  /-- The call is passed over. -/
  | skipped (verdict : Verdict)
  /-- An operation is to be invoked, with a note. -/
  | bound (note : String) (operation : Action)

/-- Look up the operation of a call and read its argument. -/
def resolve (r : Registry) (c : Call) : Binding :=
  match r.get? c.name with
  | none => .skipped ⟨.unknownOperation, "UnknownOperation: " ++ c.name⟩
  | some (.unary run) =>
    match c.argument with
    | .null => .skipped ⟨.badArgument, "BadArgument: " ++ c.name ++ " expects a numeric argument"⟩
    | argument =>
      match argument? argument with
      | none => .skipped ⟨.badArgument, "BadArgument: " ++ argument.quoted ++ " is not a number"⟩
      | some x => .bound "" (run x)
  | some (.nullary run) =>
    match c.argument with
    | .null => .bound "" run
    | argument => .bound ("ignored argument " ++ argument.quoted) run

/-- What one call does to a run. -/
def perform (h : Host) (r : Registry) (c : Call) (t : Thread) : Thread × Verdict :=
  match resolve r c with
  | .skipped verdict => (t, verdict)
  | .bound note operation => invoke h t note operation

/-- Run a chain of calls, the first of which has a given index. -/
def runCalls (h : Host) (r : Registry) (index : Nat) :
    List Call → Thread → Thread × List Diagnostic
  | [], t => (t, [])
  | c :: rest, t =>
    let (next, verdict) := perform h r c t
    let diagnostic : Diagnostic :=
      ⟨index, c.name, verdict.status, verdict.message, next.accumulator.value⟩
    let (last, diagnostics) := runCalls h r (index + 1) rest next
    (last, diagnostic :: diagnostics)

end Run

/-- Run a chain of calls from a fresh accumulator. The failure to make one
belongs to no call and is the failure of the run. -/
def evaluate (h : Host) (r : Registry) (seed : Value) (calls : List Call) :
    Except Failure Outcome := do
  let start ← h.create seed
  let (last, diagnostics) := Run.runCalls h r 0 calls ⟨start, .empty⟩
  return ⟨last.accumulator.value, diagnostics, last.journal.effects⟩

/-- Run a parsed expression. -/
def Expression.evaluate (e : Expression) (h : Host) (r : Registry) : Except Failure Outcome :=
  FluentCalc.evaluate h r (.num e.seed) e.calls

end FluentCalc
