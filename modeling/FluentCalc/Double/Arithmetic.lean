/-
# Arithmetic on doubles

Every operation computes its exact result on units and rounds once. The cases
without an exact result follow the rules of IEEE 754: opposite infinities add
up to not-a-number, so does an infinity times zero, and a sum that is exactly
zero is negative only when both of its terms are.

Sums, differences and products exist for all numbers. The other operations
refuse some: nothing is divided by a zero, nothing below zero has a root, and
what is not finite has no whole part.
-/

import FluentCalc.Complaint
import FluentCalc.Double.Rounding

namespace FluentCalc

/-- The whole part of a square root, one base-four digit at a time. -/
def floorSqrt (n : Nat) : Nat :=
  if n = 0 then 0
  else
    let root := 2 * floorSqrt (n / 4)
    if (root + 1) * (root + 1) ≤ n then root + 1 else root
termination_by n
decreasing_by omega

namespace Double

/-- A number with its sign turned over. -/
def negate : Double → Double
  | finite n m => finite (!n) m
  | infinite n => infinite (!n)
  | nan => nan

/-- The sum of two numbers. -/
def add : Double → Double → Double
  | nan, _ => nan
  | _, nan => nan
  | infinite n, infinite m => if n == m then infinite n else nan
  | infinite n, finite _ _ => infinite n
  | finite _ _, infinite m => infinite m
  | finite n x, finite m y =>
    let total := signedUnits n x + signedUnits m y
    if total = 0 then finite (n && m) .zero else ofUnits (total < 0) total.natAbs 1

/-- The difference of two numbers. -/
def subtract (x y : Double) : Double :=
  add x (negate y)

/-- The product of two numbers. -/
def multiply : Double → Double → Double
  | nan, _ => nan
  | _, nan => nan
  | infinite n, infinite m => infinite (n != m)
  | infinite n, finite m y => if y.code = 0 then nan else infinite (n != m)
  | finite n x, infinite m => if x.code = 0 then nan else infinite (n != m)
  | finite n x, finite m y => ofUnits (n != m) (x.units * y.units) (2 ^ 1074)

/-- The quotient of two numbers, whatever the divisor. -/
def quotient : Double → Double → Double
  | nan, _ => nan
  | _, nan => nan
  | infinite _, infinite _ => nan
  | infinite n, finite m _ => infinite (n != m)
  | finite n _, infinite m => finite (n != m) .zero
  | finite n x, finite m y =>
    if y.code = 0 then (if x.code = 0 then nan else infinite (n != m))
    else ofUnits (n != m) (x.units * 2 ^ 1074) y.units

/-- The square root of a number, not-a-number below zero. A remainder under the
whole root only has to break ties, so it enters as half a unit. -/
def root : Double → Double
  | nan => nan
  | infinite n => if n then nan else infinite false
  | finite n x =>
    if x.code = 0 then finite n x
    else if n then nan
    else
      let square := x.units * 2 ^ 1074
      let root := floorSqrt square
      ofUnits false (if root * root = square then 2 * root else 2 * root + 1) 2

/-- Why an operation refuses a number. -/
inductive Fault
  /-- The divisor is zero. -/
  | zeroDivisor
  /-- The number has no root. -/
  | noRoot
  /-- An infinity has no whole part. -/
  | infiniteWhole
  /-- A not-a-number has no whole part. -/
  | nanWhole
deriving DecidableEq

/-- The complaint about a refused number. -/
def Fault.complaint : Fault → Complaint
  | zeroDivisor => ⟨"ZeroDivisionError", some "float division by zero"⟩
  | noRoot => ⟨"ValueError", some "math domain error"⟩
  | infiniteWhole => ⟨"OverflowError", some "cannot convert float infinity to integer"⟩
  | nanWhole => ⟨"ValueError", some "cannot convert float NaN to integer"⟩

/-- Divide a number. A zero is refused as a divisor, whatever is divided. -/
def divide (x y : Double) : Except Fault Double :=
  if y.isZero then .error .zeroDivisor else .ok (x.quotient y)

/-- Take the square root of a number. All that lies below zero is refused. -/
def squareRoot (x : Double) : Except Fault Double :=
  if x.isNegative then .error .noRoot else .ok x.root

/-- The whole part of a number. -/
def truncate : Double → Except Fault Int
  | finite n x => .ok (if n then -(x.floor : Int) else x.floor)
  | infinite _ => .error .infiniteWhole
  | nan => .error .nanWhole

end Double

end FluentCalc
