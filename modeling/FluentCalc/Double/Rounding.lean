/-
# Rounding to double precision

An exact quotient of natural numbers, taken as a number of units of
`2 ^ (-1074)`, is rounded to the nearest magnitude, and to the even neighbour
when it lies halfway. The code of the result is found by arithmetic alone: the
scale is the least one under which the quotient has at most 53 bits, and a
carry out of the rounded significand runs over into the next scale by itself.
A code past the last magnitude means that the quotient overflows; the first
quotient to do so is `2 ^ 1024 - 2 ^ 970`, halfway from the largest magnitude
to the next power of two.
-/

import FluentCalc.Double.Basic

namespace FluentCalc

/-- The quotient of two naturals rounded to the nearest natural, and to the
even one when it lies halfway between two. -/
def roundQuotient (n d : Nat) : Nat :=
  let q := n / d
  let r := n % d
  if 2 * r < d then q
  else if d < 2 * r then q + 1
  else q + q % 2

/-- The rounded quotient is within half of the exact one. -/
theorem roundQuotient_near {n d : Nat} (hd : 0 < d) :
    2 * n ≤ (2 * roundQuotient n d + 1) * d ∧ 2 * roundQuotient n d * d ≤ 2 * n + d := by
  have whole := Nat.div_add_mod n d
  have small := Nat.mod_lt n hd
  unfold roundQuotient
  generalize n / d = q at *
  generalize n % d = r at *
  have product : (2 * q + 1) * d = 2 * (d * q) + d := by
    rw [Nat.add_mul, Nat.mul_assoc, Nat.mul_comm q d, Nat.one_mul]
  have product' : 2 * q * d = 2 * (d * q) := by rw [Nat.mul_assoc, Nat.mul_comm q d]
  have next : (2 * (q + 1) + 1) * d = 2 * (d * q) + 3 * d := by
    rw [Nat.mul_add, Nat.add_assoc, Nat.add_mul, Nat.mul_assoc, Nat.mul_comm q d]
  have next' : 2 * (q + 1) * d = 2 * (d * q) + 2 * d := by
    rw [Nat.mul_add, Nat.add_mul, Nat.mul_assoc, Nat.mul_comm q d]
  simp only
  split
  · rw [product, product']
    omega
  · split
    · rw [next, next']
      omega
    · have halfway : 2 * r = d := by omega
      rcases Nat.mod_two_eq_zero_or_one q with even | odd
      · simp only [even, Nat.add_zero]
        rw [product, product']
        omega
      · rw [odd, next, next']
        omega

/-- The least scale under which a quotient has at most 53 bits. -/
def scaleFor (n d : Nat) : Nat :=
  (n / d).log2 - 52

/-- The code of the magnitude nearest to a quotient of units. -/
def nearestCode (n d : Nat) : Nat :=
  let scale := scaleFor n d
  scale * 2 ^ 52 + roundQuotient n (d * 2 ^ scale)

namespace Double

/-- The number nearest to a quotient of units, with the sign given; infinite
when the quotient is too large. -/
def ofUnits (negative : Bool) (n d : Nat) : Double :=
  if h : nearestCode n d < 2047 * 2 ^ 52 then .finite negative ⟨nearestCode n d, h⟩
  else .infinite negative

/-- The number nearest to an integer, or nothing when the integer is too large. -/
def ofInt? (n : Int) : Option Double :=
  match ofUnits (n < 0) (n.natAbs * 2 ^ 1074) 1 with
  | infinite _ => none
  | x => some x

/-- The number nearest to `digits * 10 ^ exponent`, with the sign given. The
digit count is a bound, `digits < 10 ^ count`, by which exponents that are out
of reach are settled without the power of ten. -/
def ofDecimal (negative : Bool) (digits count : Nat) (exponent : Int) : Double :=
  if digits = 0 then .finite negative .zero
  else if exponent > 400 then .infinite negative
  else if exponent + count < -400 then .finite negative .zero
  else if exponent < 0 then ofUnits negative (digits * 2 ^ 1074) (10 ^ exponent.natAbs)
  else ofUnits negative (digits * 10 ^ exponent.natAbs * 2 ^ 1074) 1

end Double

end FluentCalc
