/-
# Decimal numerals

A numeral is an optional sign, digits with an optional point among, behind or
in front of them, and an optional exponent: `e` or `E`, an optional sign and
digits. Digits of every script count. A numeral names an exact decimal, and
`Numeral.toDouble` rounds that once.

Two readings are built on it. `number?` is the reading of arguments in
expressions, which trims blank characters and refuses numerals that are too
large. `looseNumber?` is the wider reading of seeds handed over as text, which
also takes the words for infinity and not-a-number and single underscores
between digits.
-/

import FluentCalc.Double.Rounding
import FluentCalc.Text.Blank
import FluentCalc.Text.Digit

namespace FluentCalc

open Text

/-- The exact decimal `digits * 10 ^ exponent` with a sign, as written with
`count` digits. -/
structure Numeral where
  negative : Bool
  digits : Nat
  count : Nat
  exponent : Int
deriving DecidableEq

namespace Numeral

/-- Take a sign off the front of a text; without one the sign is positive. -/
def takeSign : List Char → Bool × List Char
  | '-' :: rest => (true, rest)
  | '+' :: rest => (false, rest)
  | rest => (false, rest)

/-- Take an exponent that reaches to the end of a text. No text at all is the
exponent zero. -/
def exponent? : List Char → Option Int
  | [] => some 0
  | mark :: rest =>
    if mark == 'e' || mark == 'E' then
      let (negative, digits) := takeSign rest
      if digits.isEmpty || !digits.all isDigit then none
      else some (if negative then -(digitsValue digits : Int) else digitsValue digits)
    else none

/-- Take the point and the digits behind it. -/
def takeFraction : List Char → List Char × List Char
  | '.' :: rest => (rest.takeWhile isDigit, rest.dropWhile isDigit)
  | rest => ([], rest)

/-- Read a text that is a numeral from end to end. -/
def ofChars? (text : List Char) : Option Numeral :=
  let (negative, body) := takeSign text
  let whole := body.takeWhile isDigit
  let (fraction, rest) := takeFraction (body.dropWhile isDigit)
  let digits := whole ++ fraction
  if digits.isEmpty then none
  else (exponent? rest).map fun e =>
    ⟨negative, digitsValue digits, digits.length, e - fraction.length⟩

/-- The double nearest to a numeral; infinite if the numeral is too large. -/
def toDouble (n : Numeral) : Double :=
  Double.ofDecimal n.negative n.digits n.count n.exponent

end Numeral

/-- Why a text is refused as a number. -/
inductive NumberFault
  | notANumber
  | outOfRange
deriving DecidableEq

/-- The words for a fault. -/
def NumberFault.message : NumberFault → String
  | notANumber => "not a number: "
  | outOfRange => "number out of range: "

/-- Read an argument: a numeral with blank characters around it that does not
overflow. -/
def number? (text : List Char) : Except NumberFault Double :=
  match Numeral.ofChars? (strip text) with
  | none => .error .notANumber
  | some n =>
    let x := n.toDouble
    if x.isFinite then .ok x else .error .outOfRange

/-- The characters that may surround a seed given as text: the blank ones except
the information separators. -/
def isSeedBlank (c : Char) : Bool :=
  isBlank c && !(0x1c ≤ c.toNat && c.toNat ≤ 0x1f)

/-- Remove underscores, each of which must have a digit on both sides. -/
def removeUnderscores? : (afterDigit : Bool) → List Char → Option (List Char)
  | _, [] => some []
  | afterDigit, '_' :: rest =>
    match rest with
    | [] => none
    | c :: _ => if afterDigit && isDigit c then removeUnderscores? false rest else none
  | _, c :: rest => (removeUnderscores? (isDigit c) rest).map (c :: ·)

/-- Remove the blank characters around a seed. -/
def stripSeed (text : List Char) : List Char :=
  ((text.dropWhile isSeedBlank).reverse.dropWhile isSeedBlank).reverse

/-- Read a seed given as text. -/
def looseNumber? (text : List Char) : Option Double :=
  let body := stripSeed text
  let (negative, word) := Numeral.takeSign body
  match String.ofList (word.map Char.toLower) with
  | "inf" | "infinity" => some (.infinite negative)
  | "nan" => some .nan
  | _ => do
    let plain ← removeUnderscores? false body
    let n ← Numeral.ofChars? plain
    return n.toDouble

end FluentCalc
