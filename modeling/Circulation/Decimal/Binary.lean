/-!
# Binary floating-point numbers

A finite double is `± significand · 2 ^ exponent`.  This module takes a double apart and finds the
double nearest to a quotient of naturals, both in exact arithmetic.

The key constructions are

* `Parts.ofFloat` : the sign, significand and exponent of a double;
* `nearest` : the double nearest to a quotient, a tie going to the even significand;
* `ofDecimal` : the double nearest to `coefficient · 10 ^ exponent`.
-/

namespace Circulation.Decimal

/-! ## Taking a double apart -/

/-- A double by its parts. -/
inductive Parts where
  /-- The number `± significand · 2 ^ exponent`. -/
  | finite (negative : Bool) (significand : Nat) (exponent : Int)
  | infinite (negative : Bool)
  | notANumber
deriving DecidableEq

/-- The parts of a double, read off its sign bit, eleven exponent bits and 52 fraction bits. -/
def Parts.ofFloat (x : Float) : Parts :=
  let bits := x.toBits.toNat
  let negative := decide (Nat.pow 2 63 ≤ bits)
  let field : Nat := bits / Nat.pow 2 52 % Nat.pow 2 11
  let fraction : Nat := bits % Nat.pow 2 52
  if field = Nat.pow 2 11 - 1 then
    if fraction = 0 then .infinite negative else .notANumber
  else if field = 0 then .finite negative fraction (-1074)
  else .finite negative (Nat.pow 2 52 + fraction) ((field : Int) - 1075)

/-! ## Rounding a quotient -/

/-- The quotient rounded to the nearest natural number, a half going to the even neighbour. -/
def roundDiv (num den : Nat) : Nat :=
  let q := num / den
  let r := num % den
  if 2 * r < den then q else if den < 2 * r then q + 1 else q + q % 2

/-- The quotient `num / den` divided by `2 ^ e`, as a quotient again. -/
def scaleDown (num den : Nat) (e : Int) : Nat × Nat :=
  if 0 ≤ e then (num, den * Nat.pow 2 e.toNat) else (num * Nat.pow 2 (-e).toNat, den)

/-- The exponent at which `num / den` has a significand of 53 bits, and never less than the
exponent of the least positive double, which is the exponent of zero too. -/
def significandExponent (num den : Nat) : Int :=
  if num = 0 then -1074 else
  let guess := max (-1074) ((num.log2 : Int) - den.log2 - 52)
  let (n, d) := scaleDown num den guess
  if n / d < Nat.pow 2 52 ∧ -1074 < guess then guess - 1 else guess

/-- The bit pattern of positive infinity; all finite magnitudes lie below it. -/
def infinityBits : Nat := (Nat.pow 2 11 - 1) * Nat.pow 2 52

/-- A double from its sign and the bits of its magnitude. -/
def ofMagnitude (negative : Bool) (bits : Nat) : Float :=
  Float.ofBits (UInt64.ofNat (if negative then Nat.pow 2 63 + bits else bits))

/-- The double nearest to `± num / den`; beyond the largest double it is infinite.  The bits of a
magnitude are `(exponent + 1074) · 2 ^ 52 + significand`, for subnormal numbers too, and a carry out
of the significand moves on to the next exponent. -/
def nearest (negative : Bool) (num den : Nat) : Float :=
  let e := significandExponent num den
  let (n, d) := scaleDown num den e
  let bits := (e + 1074).toNat * Nat.pow 2 52 + roundDiv n d
  ofMagnitude negative (min bits infinityBits)

/-! ## Integers and decimals -/

/-- The double nearest to an integer; an integer beyond all doubles gives an infinite one. -/
def ofInt (n : Int) : Float := nearest (decide (n < 0)) n.natAbs 1

/-- The double nearest to an integer, unless the integer lies beyond all doubles. -/
def ofInt? (n : Int) : Option Float :=
  match Parts.ofFloat (ofInt n) with
  | .finite .. => some (ofInt n)
  | _ => none

/-- The double nearest to `± coefficient · 10 ^ exponent`.  Magnitudes that are zero or infinite by
their number of digits alone are settled before any power of ten is taken. -/
def ofDecimal (negative : Bool) (coefficient : Nat) (exponent : Int) : Float :=
  let size : Int := (Nat.toDigits 10 coefficient).length + exponent
  if coefficient = 0 ∨ size < -330 then ofMagnitude negative 0
  else if 310 < size then ofMagnitude negative infinityBits
  else if 0 ≤ exponent then nearest negative (coefficient * Nat.pow 10 exponent.toNat) 1
  else nearest negative coefficient (Nat.pow 10 (-exponent).toNat)

end Circulation.Decimal
