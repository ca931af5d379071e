import Circulation.Decimal.Shortest
/-!
# Layout of floating-point numbers

A double is written with its shortest digits, positionally when its leading digit has an exponent in
a fixed range and in scientific form otherwise.  The decisions of the format stand in one record.

The key construction is `write`.
-/

namespace Circulation.Decimal

/-- The decisions of a written form for doubles. -/
structure Layout where
  /-- The least exponent of a leading digit that is written positionally. -/
  positionalFrom : Int
  /-- The first exponent of a leading digit that no longer is. -/
  positionalBelow : Int
  /-- The least number of digits of a written exponent. -/
  exponentWidth : Nat

/-- Positional from one ten-thousandth up to below ten to the sixteenth, exponents of two digits or
more. -/
def Layout.standard : Layout := ⟨-4, 16, 2⟩

/-- `n` zeros. -/
def zeros (n : Nat) : String := String.ofList (List.replicate n '0')

/-- Digits with the point after the first `point` of them; a whole number keeps one zero after the
point. -/
def positional (digits : List Char) (point : Int) : String :=
  if point ≤ 0 then "0." ++ zeros (-point).toNat ++ String.ofList digits
  else if digits.length ≤ point then
    String.ofList digits ++ zeros (point.toNat - digits.length) ++ ".0"
  else String.ofList (digits.take point.toNat) ++ "." ++ String.ofList (digits.drop point.toNat)

/-- Digits with the point after the first one, and the exponent of that one. -/
def scientific (width : Nat) (digits : List Char) (exponent : Int) : String :=
  let fraction := digits.drop 1
  let mantissa :=
    String.ofList (digits.take 1) ++ (if fraction = [] then "" else "." ++ String.ofList fraction)
  let magnitude := Nat.toDigits 10 exponent.natAbs
  mantissa ++ (if exponent < 0 then "e-" else "e+") ++
    zeros (width - magnitude.length) ++ String.ofList magnitude

/-- The written form of a positive decimal. -/
def Layout.digits (layout : Layout) (d : Digits) : String :=
  let digits := Nat.toDigits 10 d.coefficient
  let point : Int := digits.length + d.exponent
  if layout.positionalFrom ≤ point - 1 ∧ point - 1 < layout.positionalBelow then
    positional digits point
  else scientific layout.exponentWidth digits (point - 1)

/-- The written form of a double. -/
def write (layout : Layout) (x : Float) : String :=
  match Parts.ofFloat x with
  | .notANumber => "nan"
  | .infinite negative => if negative then "-inf" else "inf"
  | .finite negative significand exponent =>
    (if negative then "-" else "") ++
      (if significand = 0 then "0.0" else layout.digits (shortest significand exponent))

end Circulation.Decimal
