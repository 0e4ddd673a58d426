/-
# The shortest decimal that reads back

A finite number is written with as few significant digits as still name it: of
all decimals that round to the number, one with the fewest digits, and of those
the nearest. Since `2 ^ (-1074)` is `5 ^ 1074` units of `10 ^ (-1074)`, the
number, the two ends of the interval that rounds to it and every decimal grid
in question are natural numbers in the latter unit, and no rounding occurs in
the search.
-/

import FluentCalc.Double.Basic

namespace FluentCalc

/-- The decimal `digits * 10 ^ exponent`. -/
structure Decimal where
  digits : Nat
  exponent : Int
deriving DecidableEq

namespace Decimal

/-- The number of decimal digits of a natural; zero has none. -/
def digitCount (n : Nat) : Nat :=
  if n = 0 then 0 else digitCount (n / 10) + 1
termination_by n
decreasing_by omega

/-- A magnitude in units of `10 ^ (-1074)`. -/
def exact (x : Magnitude) : Nat :=
  x.units * 5 ^ 1074

/-- The distance to the next magnitude in units of `10 ^ (-1074)`. -/
def gap (x : Magnitude) : Nat :=
  2 ^ x.scale * 5 ^ 1074

/-- Whether a decimal, in units of `10 ^ (-1074)`, rounds to a magnitude. The
interval reaches half a gap upward and half a gap downward, or a quarter below
a power of two, where the numbers lie twice as dense; its ends belong to it
exactly when the significand is even. -/
def roundsTo (x : Magnitude) (decimal : Nat) : Bool :=
  let below := if x.significand == 2 ^ 52 && x.scale != 0 then gap x else 2 * gap x
  let least := 4 * exact x - below
  let greatest := 4 * exact x + 2 * gap x
  if x.significand % 2 == 0 then least ≤ 4 * decimal && 4 * decimal ≤ greatest
  else least < 4 * decimal && 4 * decimal < greatest

/-- On the grid of multiples of `10 ^ place` (in units of `10 ^ (-1074)`), the
neighbour of a magnitude that rounds to it: the nearer one if both do, the even
one if they are equally near. -/
def onGrid? (x : Magnitude) (place : Nat) : Option Decimal :=
  let step := 10 ^ place
  let lower := exact x / step
  let choose (digits : Nat) : Option Decimal := some ⟨digits, (place : Int) - 1074⟩
  match roundsTo x (lower * step), roundsTo x ((lower + 1) * step) with
  | true, true =>
    let middle := (2 * lower + 1) * step
    if 2 * exact x < middle then choose lower
    else if middle < 2 * exact x then choose (lower + 1)
    else choose (lower + lower % 2)
  | true, false => choose lower
  | false, true => choose (lower + 1)
  | false, false => none

/-- The shortest decimal that rounds to a magnitude. Grids of one to seventeen
significant digits are tried in turn; the last always has a hit. -/
def shortest (x : Magnitude) : Decimal :=
  let size := digitCount (exact x)
  ((List.range 17).findSome? fun k => onGrid? x (size - (k + 1))).getD ⟨exact x, -1074⟩

end Decimal

end FluentCalc
