/-
# Layouts of numbers

A shortest decimal is written positionally while its leading digit stands for
`10 ^ (-4)` to `10 ^ 15`, always with a point and a digit behind it, and in
scientific form otherwise, with a signed exponent of at least two digits. What
differs between formats is collected in a `Layout`: the words for the numbers
that are not finite, and whether a scientific mantissa must have a point.

Values in messages have a second form, `plainNumber`: whole numbers are written
out as integers, without a point and without an exponent.
-/

import FluentCalc.Decimal.Shortest

namespace FluentCalc

/-- The spellings in which formats of numbers differ. -/
structure Layout where
  infinity : String
  notANumber : String
  /-- Whether a mantissa of one digit is followed by `.0`. -/
  pointInMantissa : Bool

namespace Layout

/-- The layout of numbers in messages and reports. -/
def standard : Layout := ⟨"inf", "nan", false⟩

/-- The layout of numbers in JSON output. -/
def json : Layout := ⟨"Infinity", "NaN", false⟩

/-- The layout of numbers in YAML output, where a number without a point would
be read as text. -/
def yaml : Layout := ⟨".inf", ".nan", true⟩

/-- The digits of a natural number in base ten. -/
def naturalDigits (n : Nat) : List Char :=
  Nat.toDigits 10 n

/-- The exponent of a scientific form: a sign and at least two digits. -/
def exponentText (e : Int) : List Char :=
  let digits := naturalDigits e.natAbs
  (if e < 0 then '-' else '+') :: (if digits.length < 2 then '0' :: digits else digits)

/-- Digits with the decimal point at a place: `place` is the number of digits in
front of it, and negative if zeros must be put behind the point first. -/
def positional (digits : List Char) (place : Int) : List Char :=
  let width := digits.length
  if place ≤ 0 then '0' :: '.' :: List.replicate place.natAbs '0' ++ digits
  else if width ≤ place.toNat then
    digits ++ List.replicate (place.toNat - width) '0' ++ ['.', '0']
  else digits.take place.toNat ++ '.' :: digits.drop place.toNat

/-- Digits in scientific form, the first digit standing for `10 ^ e`. -/
def scientific (layout : Layout) (digits : List Char) (e : Int) : List Char :=
  match digits with
  | [] => []
  | [d] => d :: (if layout.pointInMantissa then ['.', '0'] else []) ++ 'e' :: exponentText e
  | d :: rest => d :: '.' :: rest ++ 'e' :: exponentText e

/-- The text of a decimal that is not negative. Zeros at the end of its digits
are not significant and are dropped. -/
def decimalText (layout : Layout) (d : Decimal) : List Char :=
  let all := naturalDigits d.digits
  let digits := (all.reverse.dropWhile (· == '0')).reverse
  let place := all.length + d.exponent
  if -4 < place && place ≤ 16 then positional digits place
  else scientific layout digits (place - 1)

/-- The text of a magnitude. -/
def magnitudeText (layout : Layout) (x : Magnitude) : List Char :=
  if x.code = 0 then ['0', '.', '0'] else layout.decimalText (Decimal.shortest x)

/-- The text of a number. -/
def text (layout : Layout) : Double → String
  | .finite negative x =>
    String.ofList ((if negative then ['-'] else []) ++ layout.magnitudeText x)
  | .infinite negative => (if negative then "-" else "") ++ layout.infinity
  | .nan => layout.notANumber

end Layout

/-- The text of an integer. -/
def integerText (n : Int) : String :=
  String.ofList ((if n < 0 then ['-'] else []) ++ Layout.naturalDigits n.natAbs)

/-- The most digits of an integer that are converted, from text and to text. -/
def digitLimit : Nat := 4300

/-- Whether an integer has more digits than are converted. -/
def isLongInteger (n : Int) : Bool :=
  digitLimit < (Layout.naturalDigits n.natAbs).length

/-- Whether a number is whole. -/
def Double.isWhole : Double → Bool
  | .finite _ x => x.isWhole
  | _ => false

/-- The integer that a finite whole number is. -/
def Double.whole? : Double → Option Int
  | .finite negative x =>
    if x.isWhole then some (if negative then -(x.floor : Int) else x.floor) else none
  | _ => none

/-- The text of a number in messages: whole numbers as integers, so that both
zeros are `0`, and all others in the standard layout. -/
def plainNumber (x : Double) : String :=
  match x.whole? with
  | some n => integerText n
  | none => Layout.standard.text x

end FluentCalc
