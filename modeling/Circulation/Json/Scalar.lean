import Circulation.Json.Failure
import Circulation.Value
/-!
# Strings and numbers in JSON

A string is read up to its closing quote.  A number is the longest beginning of the text that has
the form of one: an optional minus sign, digits without a leading zero, and optionally a fraction
and an exponent; without these two it is an integer.  Integers are read whatever their length: a
runtime's bound on the digits of an integer in a text is idealised away.

The key constructions are `string` and `number`.
-/

namespace Circulation.Json

/-! ## Strings -/

/-- The value of a hexadecimal digit. -/
def hexValue? (c : Char) : Option Nat :=
  let n := c.toNat
  if 0x30 ≤ n ∧ n ≤ 0x39 then some (n - 0x30)
  else if 0x61 ≤ n ∧ n ≤ 0x66 then some (n - 0x61 + 10)
  else if 0x41 ≤ n ∧ n ≤ 0x46 then some (n - 0x41 + 10)
  else none

/-- The number written with four hexadecimal digits, after which the text goes on. -/
def hexUnit? : List Char → Option Nat
  | a :: b :: c :: d :: _ :: _ => do
    return (((← hexValue? a) * 16 + (← hexValue? b)) * 16 + (← hexValue? c)) * 16 + (← hexValue? d)
  | _ => none

/-- The character of a short escape. -/
def shortEscape? : Char → Option Char
  | '"' => some '"'
  | '\\' => some '\\'
  | '/' => some '/'
  | 'b' => some '\x08'
  | 'f' => some '\x0c'
  | 'n' => some '\n'
  | 'r' => some '\r'
  | 't' => some '\t'
  | _ => none

/-- The lower half of a surrogate pair, if the text goes on with one. -/
def lowSurrogate? : List Char → Option Nat
  | '\\' :: 'u' :: rest => (hexUnit? rest).filter fun n => 0xDC00 ≤ n && n ≤ 0xDFFF
  | _ => none

/-- The character of an escaped unit and how many characters of the text after its digits belong to
it: a surrogate pair takes the second escape, and half a pair becomes `U+FFFD`.  In this the reader
departs from those whose texts are made of code points of any kind: they keep the half, which is no
character here. -/
def unicodeChar (unit : Nat) (after : List Char) : Char × Nat :=
  if 0xD800 ≤ unit ∧ unit ≤ 0xDBFF then
    match lowSurrogate? after with
    | some low => (Char.ofNat (0x10000 + (unit - 0xD800) * 0x400 + (low - 0xDC00)), 6)
    | none => ('\ufffd', 0)
  else if 0xDC00 ≤ unit ∧ unit ≤ 0xDFFF then ('\ufffd', 0)
  else (Char.ofNat unit, 0)

/-- Reads a string after its opening quote.  `opening` is how much text was left at that quote and
`done` holds the characters so far in reverse. -/
def string (opening : Nat) (done : List Char) (cs : List Char) : Scan String cs :=
  match cs with
  | [] => .error ⟨.unterminatedString, opening⟩
  | '"' :: rest => .ok (String.ofList done.reverse, ⟨rest, by simp⟩)
  | ['\\'] => .error ⟨.unterminatedString, opening⟩
  | '\\' :: 'u' :: rest =>
    match hexUnit? rest with
    | none => complain .unicodeEscape ('u' :: rest)
    | some unit =>
      let found := unicodeChar unit (rest.drop 4)
      (string opening (found.1 :: done) (rest.drop (4 + found.2))).widen (by simp; omega)
  | '\\' :: c :: rest =>
    match shortEscape? c with
    | none => complain .escape ('\\' :: c :: rest)
    | some e => (string opening (e :: done) rest).widen (by simp; omega)
  | c :: rest =>
    if c.toNat < 0x20 then complain .controlCharacter (c :: rest)
    else (string opening (c :: done) rest).widen (by simp)
termination_by cs.length

/-! ## Numbers -/

/-- Whether a character is an ASCII digit. -/
def isDigit (c : Char) : Bool := '0' ≤ c && c ≤ '9'

/-- The number that a list of ASCII digits denotes. -/
def digitsValue (digits : List Char) : Nat :=
  digits.foldl (fun n c => n * 10 + (c.toNat - 0x30)) 0

/-- The leading digits of a text. -/
def leadingDigits (cs : List Char) : List Char := cs.takeWhile isDigit

/-- The digits of the whole part: a zero alone, or digits that do not start with one. -/
def wholeDigits : List Char → List Char
  | '0' :: _ => ['0']
  | cs => leadingDigits cs

/-- The digits of the fraction, if the text goes on with one. -/
def fractionDigits : List Char → List Char
  | '.' :: rest => leadingDigits rest
  | _ => []

/-- Sign and digits of the exponent, if the text goes on with one, and how many characters it
takes. -/
def exponentPart (cs : List Char) : Option (Int × Nat) :=
  match cs with
  | e :: rest =>
    if e = 'e' ∨ e = 'E' then
      let (sign, signLength) : Int × Nat :=
        match rest with
        | '+' :: _ => (1, 1)
        | '-' :: _ => (-1, 1)
        | _ => (1, 0)
      let digits := leadingDigits (rest.drop signLength)
      if digits = [] then none
      else some (sign * digitsValue digits, 1 + signLength + digits.length)
    else none
  | [] => none

/-- The number of a sign, whole digits, fraction digits and an exponent; there is no limit to the
digits of an integer. -/
def numberValue (negative : Bool) (whole fraction : List Char) (exponent : Option Int) : Value :=
  if fraction = [] ∧ exponent = none then
    .int (if negative then -(digitsValue whole : Int) else digitsValue whole)
  else
    .float (Decimal.ofDecimal negative (digitsValue (whole ++ fraction))
      (exponent.getD 0 - fraction.length))

/-- Reads a number without its sign; `signed` is the text with it. -/
def unsigned (negative : Bool) (signed cs : List Char) (h : cs.length ≤ signed.length) :
    Scan Value signed :=
  let whole := wholeDigits cs
  if hw : whole = [] then complain .value signed
  else
    let afterWhole := cs.drop whole.length
    let fraction := fractionDigits afterWhole
    let afterFraction :=
      if fraction = [] then afterWhole else afterWhole.drop (1 + fraction.length)
    let exponent := exponentPart afterFraction
    let rest := afterFraction.drop ((exponent.map Prod.snd).getD 0)
    have hcs : 0 < cs.length := by
      cases cs with
      | nil => exact absurd rfl hw
      | cons c r => simp
    have hwhole : 0 < whole.length := List.length_pos_iff.2 hw
    have hafter : afterFraction.length ≤ afterWhole.length := by
      by_cases hf : fraction = []
      · simp [afterFraction, hf]
      · simp [afterFraction, hf]
    .ok (numberValue negative whole fraction (exponent.map Prod.fst), ⟨rest, by
      have h1 : rest.length ≤ afterFraction.length := by simp [rest]
      have h2 : afterWhole.length < cs.length := by simp [afterWhole]; omega
      omega⟩)

/-- Reads a number. -/
def number (cs : List Char) : Scan Value cs :=
  match cs with
  | '-' :: rest => unsigned true ('-' :: rest) rest (by simp)
  | cs => unsigned false cs cs (Nat.le_refl _)

end Circulation.Json
