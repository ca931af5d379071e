import Circulation.Decimal.Binary
/-!
# Shortest decimals

Among the decimals that read back as a given double, the shortest are those with the fewest digits,
and of these the one nearest to the double is taken.  Grids of one, two, … digits are tried in turn:
if any decimal of a grid reads back, one of the double's two neighbours on that grid does.

The key construction is `shortest`.
-/

namespace Circulation.Decimal

/-- The decimal `coefficient · 10 ^ exponent`. -/
structure Digits where
  coefficient : Nat
  exponent : Int
deriving DecidableEq

/-- The reals that read back as a double: those from `low / den` to `high / den` around
`mid / den`, with the two ends when `closed`. -/
structure Interval where
  low : Nat
  mid : Nat
  high : Nat
  den : Nat
  closed : Bool

/-- The interval of `significand · 2 ^ exponent`.  It reaches half way to the neighbours, and the
neighbour below a power of two is only half as far away. -/
def Interval.around (significand : Nat) (exponent : Int) : Interval :=
  let narrow := significand = Nat.pow 2 52 ∧ -1074 < exponent
  let unit := Nat.pow 2 (exponent - 2).toNat
  { low := (4 * significand - if narrow then 1 else 2) * unit
    mid := 4 * significand * unit
    high := (4 * significand + 2) * unit
    den := Nat.pow 2 (2 - exponent).toNat
    closed := significand % 2 = 0 }

/-- The exponent of the leading decimal digit of `num / den`. -/
def leadingExponent (num den : Nat) : Int :=
  let t : Int := (Nat.toDigits 10 num).length - (Nat.toDigits 10 den).length
  if den * Nat.pow 10 t.toNat ≤ num * Nat.pow 10 (-t).toNat then t else t - 1

/-- The better neighbour of the double on the grid of multiples of `10 ^ p`, if one reads back. -/
def Interval.onGrid (i : Interval) (p : Int) : Option Digits :=
  let d := i.den * Nat.pow 10 p.toNat
  let s := Nat.pow 10 (-p).toNat
  let inside (c : Nat) : Bool :=
    if i.closed then i.low * s ≤ c * d && c * d ≤ i.high * s
    else i.low * s < c * d && c * d < i.high * s
  let below := i.mid * s / d
  match inside below, inside (below + 1) with
  | true, true => some ⟨roundDiv (i.mid * s) d, p⟩
  | true, false => some ⟨below, p⟩
  | false, true => some ⟨below + 1, p⟩
  | false, false => none

/-- Drops the trailing zeros of a positive coefficient. -/
def Digits.trim (d : Digits) : Digits :=
  if h : 0 < d.coefficient ∧ d.coefficient % 10 = 0 then
    Digits.trim ⟨d.coefficient / 10, d.exponent + 1⟩
  else d
termination_by d.coefficient
decreasing_by omega

/-- The shortest decimal that reads back as the positive double `significand · 2 ^ exponent`.
Seventeen digits always suffice, so the last resort is never reached. -/
def shortest (significand : Nat) (exponent : Int) : Digits :=
  let i := Interval.around significand exponent
  let k := leadingExponent i.mid i.den
  let found := (List.range 17).findSome? fun (n : Nat) => i.onGrid (k - n)
  (found.getD ⟨i.mid / i.den, 0⟩).trim

end Circulation.Decimal
