/-
# The program

The command line: with a path, the expressions of the file are evaluated, and
without one those that are typed in. All of it is the pure `session` of the
library, except that typed lines are answered as they come.
-/

import FluentCalc.Session.Run

namespace FluentCalc

/-- Write to the two streams what was printed. -/
def Console.write (c : Console) : IO Unit := do
  let output ← IO.getStdout
  output.putStr (String.ofList c.output)
  output.flush
  (← IO.getStderr).putStr (String.ofList c.errors)

/-- Report what stopped the program. -/
def report (crash : Crash) : IO UInt32 := do
  let complaint := crash.complaint
  IO.eprintln (complaint.kind ++ ": " ++ complaint.message.getD "")
  return 1

/-- Answer typed lines until the word `exit` or the end of the input. -/
partial def answerLines (r : Runner) (format : Option Format) : IO UInt32 := do
  prompt.write
  let line ← (← IO.getStdin).getLine
  if line.isEmpty then
    farewell.write
    return 0
  match r.reply format line.toList with
  | .proceed console =>
    console.write
    answerLines r format
  | .leave => return 0
  | .crash cause => report cause

/-- The file at a path, if it can be read. -/
def readFile (path : String) : IO (List File) := do
  try
    return [⟨path, (← IO.FS.readBinFile path).toList⟩]
  catch _ => return []

end FluentCalc

open FluentCalc

/-- Run a session with the words of the command line. -/
def main (words : List String) : IO UInt32 := do
  let options := Options.ofWords words
  match options.path with
  | some path =>
    let ending := session words (← readFile path) ""
    ending.console.write
    match ending.code with
    | .ok code => return UInt32.ofNat code
    | .error crash => report crash
  | none =>
    match Runner.ofHost Calculator.host options.strict with
    | .error fault => report (.host fault)
    | .ok r =>
      banner.write
      answerLines r options.format
