import Circulation.Decimal.Layout
/-!
# Numbers

A number is an integer of any size or a double.  Comparisons are exact, also between an integer and
a double; arithmetic on two integers is exact, and otherwise both operands are rounded to doubles
first, which fails for an integer beyond all doubles.

Integers and their decimal texts correspond without a bound here.  This is an idealisation: a runtime
may guard the conversion, in either direction, by a largest number of digits, often 4300, and refuse
what is beyond it.  The guard can be configured and is no part of the rules, so nothing that writes
or reads an integer fails on account of its size.

The key constructions are `lt`, `le`, `same` for order and `add`, `sub`, `mul`, `offset` for
arithmetic.  On integers they are the operations of `Int` by definition.
-/

namespace Circulation

/-- An integer or a double. -/
inductive Number where
  | int (n : Int)
  | float (x : Float)
deriving DecidableEq

namespace Number

/-! ## Order -/

/-- A place on the line of numbers with its two infinite ends; a point is
`coefficient · 2 ^ exponent`. -/
inductive Place where
  | below
  | point (coefficient exponent : Int)
  | above

/-- The place of a number; what is not a number has none. -/
def place? : Number → Option Place
  | .int n => some (.point n 0)
  | .float x =>
    match Decimal.Parts.ofFloat x with
    | .notANumber => none
    | .infinite negative => some (if negative then .below else .above)
    | .finite negative significand exponent =>
      some (.point (if negative then -(significand : Int) else significand) exponent)

/-- The order of two places; two points are compared at their lesser exponent. -/
def Place.compare : Place → Place → Ordering
  | .below, .below => .eq
  | .below, _ => .lt
  | _, .below => .gt
  | .above, .above => .eq
  | .above, _ => .gt
  | _, .above => .lt
  | .point a e, .point b f =>
    let g := min e f
    Ord.compare (a * Nat.pow 2 (e - g).toNat) (b * Nat.pow 2 (f - g).toNat)

/-- The order of two numbers, if both have a place. -/
def compare? (a b : Number) : Option Ordering :=
  match a.place?, b.place? with
  | some p, some q => some (p.compare q)
  | _, _ => none

/-- Whether `a` is less than `b`. -/
def lt : Number → Number → Bool
  | .int a, .int b => decide (a < b)
  | a, b => compare? a b == some .lt

/-- Whether `a` is at most `b`. -/
def le : Number → Number → Bool
  | .int a, .int b => decide (a ≤ b)
  | a, b => compare? a b == some .lt || compare? a b == some .eq

/-- Whether two numbers have the same value, whatever their kinds. -/
def same : Number → Number → Bool
  | .int a, .int b => decide (a = b)
  | a, b => compare? a b == some .eq

/-- The integer that a number equals, if it is whole. -/
def integer? : Number → Option Int
  | .int n => some n
  | .float x =>
    match Decimal.Parts.ofFloat x with
    | .finite negative significand exponent =>
      let (n, d) := Decimal.scaleDown significand 1 (-exponent)
      if n % d = 0 then some (if negative then -((n / d : Nat) : Int) else ((n / d : Nat) : Int))
      else none
    | _ => none

/-! ## Arithmetic -/

/-- The double nearest to a number, unless it is an integer beyond all doubles. -/
def toFloat? : Number → Option Float
  | .int n => Decimal.ofInt? n
  | .float x => some x

/-- Applies `onInts` to two integers and `onFloats` to the doubles of any other two numbers. -/
def combine (onInts : Int → Int → Int) (onFloats : Float → Float → Float) :
    Number → Number → Option Number
  | .int a, .int b => some (.int (onInts a b))
  | a, b =>
    match a.toFloat?, b.toFloat? with
    | some x, some y => some (.float (onFloats x y))
    | _, _ => none

/-- The sum, unless an integer beyond all doubles meets a double. -/
def add : Number → Number → Option Number := combine (· + ·) (· + ·)

/-- The difference, unless an integer beyond all doubles meets a double. -/
def sub : Number → Number → Option Number := combine (· - ·) (· - ·)

/-- The product, unless an integer beyond all doubles meets a double. -/
def mul : Number → Number → Option Number := combine (· * ·) (· * ·)

/-- Moves a number by an integer offset that is a double too. -/
def offset (amount : Int) : Number → Number
  | .int n => .int (n + amount)
  | .float x => .float (x + Decimal.ofInt amount)

/-! ## Text -/

/-- The written form of a number.  Integers of any size are written out in full. -/
def display : Number → String
  | .int n => toString n
  | .float x => Decimal.write .standard x

end Number

end Circulation
