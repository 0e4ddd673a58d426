/-
# Sessions

A session evaluates expressions of a file or, without a file, those on the lines
of its input. Both ways report one result after the other to the console. A
session on a file goes through all of its expressions and fails at the end if
one of them did not parse. A session on lines ends at the word `exit` or with
the input; each reading of a line is announced by a prompt.
-/

import FluentCalc.Host.Calculator
import FluentCalc.Session.Load
import FluentCalc.Session.Options
import FluentCalc.Session.Report

namespace FluentCalc

/-- What stops a session before its end. -/
inductive Crash
  | load (path : String) (fault : LoadFault)
  | host (fault : ArityFault)
  | create (cause : Failure)
  | write (fault : WriteFault)

/-- The complaint about what stopped a session. -/
def Crash.complaint : Crash → Complaint
  | load path fault => fault.complaint path
  | host fault => fault.complaint
  | create cause => cause.complaint
  | write fault => fault.complaint

/-- How a session ended: what it printed and its exit code, or what stopped it. -/
structure Ending where
  console : Console
  code : Except Crash Nat

/-- The result of one expression and its report. -/
structure Turn where
  result : Result
  console : Console

/-- Handle one expression and report the result. -/
def Runner.turn (r : Runner) (format : Option Format) (source : String) : Except Crash Turn :=
  match r.handle source with
  | .error cause => .error (.create cause)
  | .ok result =>
    match result.report (format.map Format.name) with
    | .error fault => .error (.write fault)
    | .ok console => .ok ⟨result, console⟩

/-- Put something in front of what a session prints. -/
def Ending.after (e : Ending) (c : Console) : Ending :=
  { e with console := c ++ e.console }

/-- Handle the expressions of a file, given whether one in front of them did not
parse. -/
def batch (r : Runner) (format : Option Format) : (failed : Bool) → List String → Ending
  | failed, [] => ⟨.empty, .ok (if failed then 1 else 0)⟩
  | failed, source :: rest =>
    match r.turn format source with
    | .error crash => ⟨.empty, .error crash⟩
    | .ok turn => (batch r format (failed || !turn.result.isSuccess) rest).after turn.console

/-- A session on a file. -/
def fileSession (r : Runner) (format : Option Format) (files : List File) (path : String) :
    Ending :=
  match load files path with
  | .error .missing => ⟨.errorLine ("Error: file not found: " ++ path), .ok 1⟩
  | .error fault => ⟨.empty, .error (.load path fault)⟩
  | .ok sources => batch r format false sources

/-- The lines of an input: the pieces in front of line feeds, and what is behind
the last one unless it is empty. -/
def inputLines (input : List Char) : List (List Char) :=
  match (Text.splitAt '\n' input).reverse with
  | [] :: rest => rest.reverse
  | pieces => pieces.reverse

/-- What is printed in front of every reading of a line. -/
def prompt : Console := .text ">> "

/-- What a session on lines does with a line. -/
inductive Reply
  | proceed (console : Console)
  | leave
  | crash (cause : Crash)

/-- The reply to a line. Blank lines are passed over. -/
def Runner.reply (r : Runner) (format : Option Format) (line : List Char) : Reply :=
  let source := Text.strip line
  if source.isEmpty then .proceed .empty
  else if source == "exit".toList then .leave
  else
    match r.turn format (String.ofList source) with
    | .error cause => .crash cause
    | .ok turn => .proceed turn.console

/-- What is printed when the input is at its end. -/
def farewell : Console := .line "\nExiting."

/-- Handle the lines of an input. -/
def converse (r : Runner) (format : Option Format) : List (List Char) → Ending
  | [] => ⟨prompt ++ farewell, .ok 0⟩
  | line :: rest =>
    match r.reply format line with
    | .proceed console => (converse r format rest).after (prompt ++ console)
    | .leave => ⟨prompt, .ok 0⟩
    | .crash cause => ⟨prompt, .error cause⟩

/-- The lines that a session on lines begins with. -/
def banner : Console :=
  .line "calcchain REPL v0.1" ++ .line "Type 'exit' or press Ctrl+D to quit."

/-- A session on lines. -/
def lineSession (r : Runner) (format : Option Format) (input : List Char) : Ending :=
  (converse r format (inputLines input)).after banner

/-- A session with the words it is started with, the files it can read and its
input. -/
def session (words : List String) (files : List File) (input : String) : Ending :=
  let options := Options.ofWords words
  match Runner.ofHost Calculator.host options.strict with
  | .error fault => ⟨.empty, .error (.host fault)⟩
  | .ok r =>
    match options.path with
    | some path => fileSession r options.format files path
    | none => lineSession r options.format input.toList

end FluentCalc
