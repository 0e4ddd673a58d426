/-
# Double-precision numbers

The numbers of the calculator are the binary floating-point numbers with 53
significant bits. A finite magnitude is named by its *code*: counting from
zero, the magnitudes in increasing order have the codes 0, 1, 2, and so on, up
to `2047 * 2 ^ 52` exclusive. Every magnitude is a whole number of *units* of
`2 ^ (-1074)`, so exact arithmetic on magnitudes is arithmetic on `Nat`.

There is one not-a-number: nothing in this library can tell two of them apart.
Two zeros are kept, since the sign of a zero shows when a value is printed.
-/

-- A power of a natural number is the core one, also beside an algebraic library.
attribute [instance (high), default_instance (high + 1)] instPowNat

namespace FluentCalc

/-- A finite magnitude, by its place in the increasing order of magnitudes. -/
structure Magnitude where
  code : Nat
  code_lt : code < 2047 * 2 ^ 52
deriving DecidableEq

namespace Magnitude

/-- The 53-bit significand. Below `2 ^ 52` the magnitude is subnormal. -/
def significand (x : Magnitude) : Nat :=
  if x.code < 2 ^ 53 then x.code else 2 ^ 52 + x.code % 2 ^ 52

/-- The power of two that the significand is multiplied by, in units. -/
def scale (x : Magnitude) : Nat :=
  x.code / 2 ^ 52 - 1

/-- The magnitude as a number of units of `2 ^ (-1074)`. -/
def units (x : Magnitude) : Nat :=
  x.significand * 2 ^ x.scale

/-- The magnitude zero. -/
def zero : Magnitude := ⟨0, by decide⟩

/-- Whether a magnitude is a whole number. -/
def isWhole (x : Magnitude) : Bool :=
  x.units % 2 ^ 1074 == 0

/-- The whole part of a magnitude. -/
def floor (x : Magnitude) : Nat :=
  x.units / 2 ^ 1074

@[simp] theorem units_zero : zero.units = 0 := by
  simp [units, significand, zero]

end Magnitude

/-- A double-precision number. -/
inductive Double
  | finite (negative : Bool) (magnitude : Magnitude)
  | infinite (negative : Bool)
  | nan
deriving DecidableEq

namespace Double

/-- Positive zero. -/
def zero : Double := .finite false .zero

/-- Whether a number is finite. -/
def isFinite : Double → Bool
  | finite _ _ => true
  | _ => false

/-- Whether a number is zero, of either sign. -/
def isZero : Double → Bool
  | finite _ m => m.code == 0
  | _ => false

/-- The exact value of a finite number in units of `2 ^ (-1074)`. -/
def signedUnits (negative : Bool) (m : Magnitude) : Int :=
  if negative then -(m.units : Int) else m.units

/-- The order of numbers. A not-a-number is below nothing and above nothing. -/
def less : Double → Double → Bool
  | nan, _ => false
  | _, nan => false
  | infinite n, infinite m => n && !m
  | infinite n, finite _ _ => n
  | finite _ _, infinite m => !m
  | finite n x, finite m y => signedUnits n x < signedUnits m y

/-- Numerical equality: the zeros are equal and a not-a-number equals nothing. -/
def same : Double → Double → Bool
  | infinite n, infinite m => n == m
  | finite n x, finite m y => signedUnits n x == signedUnits m y
  | _, _ => false

/-- Whether a number lies below zero. -/
def isNegative (x : Double) : Bool :=
  less x zero

end Double

end FluentCalc
