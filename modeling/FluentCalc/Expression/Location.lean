/-
# Lines and columns

A location in a text is either an offset or a line and a column, both counted
from one, where only the line feed ends a line. `absoluteColumn` turns a line
and a column into one column over the whole text, which is the offset plus one.
`faultColumn` reads the location out of a report of failure: from the line and
column it carries, or else from the first mark `L<line>:C<column>` in its
wording. The numbers of a mark may be written in any script, and with no more
digits than are converted.
-/

import FluentCalc.Complaint
import FluentCalc.Json.Reader
import FluentCalc.Text.Digit
import FluentCalc.Text.Lines

namespace FluentCalc.Location

open Text

/-- The column over the whole text of a line and a column. A line in front of
the first counts as the first; of lines that do not exist, none is counted. -/
def absoluteColumn (source : List Char) (line column : Int) : Int :=
  if line ≤ 1 then column
  else
    let preceding := (splitAt '\n' source).take (line - 1).toNat
    (preceding.foldr (fun text total => text.length + 1 + total) 0 : Nat) + column

/-- A mark `L<line>:C<column>`: the digits of its line and of its column. -/
structure Mark where
  line : List Char
  column : List Char
deriving DecidableEq

/-- The mark at the very front of a text. -/
def markAtFront? : List Char → Option Mark
  | 'L' :: rest =>
    let line := rest.takeWhile isDigit
    match rest.dropWhile isDigit with
    | ':' :: 'C' :: rest =>
      let column := rest.takeWhile isDigit
      if line.isEmpty || column.isEmpty then none else some ⟨line, column⟩
    | _ => none
  | _ => none

/-- The first mark in a text. -/
def mark? : List Char → Option Mark
  | [] => none
  | c :: rest => (markAtFront? (c :: rest)).or (mark? rest)

/-- A number in a mark has more digits than are converted: so many. -/
structure DigitFault where
  count : Nat
deriving DecidableEq

/-- The complaint about a number with too many digits. -/
def DigitFault.complaint (fault : DigitFault) : Complaint :=
  ⟨"ValueError", some (Json.digitComplaint fault.count)⟩

/-- The number that some digits stand for. -/
def numberOf (digits : List Char) : Except DigitFault Nat :=
  if digitLimit < digits.length then .error ⟨digits.length⟩ else .ok (digitsValue digits)

/-- A report of failure: the line and the column of the place, where known, and
the wording. -/
structure Failure where
  line : Option Int
  column : Option Int
  wording : String

/-- The column over the whole text that a report of failure points at. -/
def faultColumn (failure : Failure) (source : List Char) : Except DigitFault (Option Int) :=
  match failure.line, failure.column with
  | some line, some column => .ok (some (absoluteColumn source line column))
  | _, _ =>
    match mark? failure.wording.toList with
    | none => .ok none
    | some mark => do
      let line ← numberOf mark.line
      let column ← numberOf mark.column
      return some (absoluteColumn source line column)

end FluentCalc.Location
