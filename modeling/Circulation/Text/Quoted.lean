import Circulation.Text.Printable
/-!
# Quoted text

A text is quoted with single quotes, or with double quotes when it holds a single quote and no
double quote.  Inside, the quote in use and the backslash are escaped, the line break, carriage
return and tab have short escapes, and any other unprintable character is written by its code point
in hexadecimal, in the shortest of the forms `\xhh`, `\uhhhh` and `\Uhhhhhhhh`.

The key construction is `quote`.
-/

namespace Circulation.Text

/-- `n` in lower-case hexadecimal, padded with zeros to `width` digits. -/
def hex (width n : Nat) : String :=
  let digits := Nat.toDigits 16 n
  String.ofList (List.replicate (width - digits.length) '0' ++ digits)

/-- A character inside text quoted with `q`. -/
def escapeChar (q c : Char) : String :=
  if c = q ∨ c = '\\' then String.ofList ['\\', c]
  else if c = '\n' then "\\n"
  else if c = '\r' then "\\r"
  else if c = '\t' then "\\t"
  else if isPrintable c then String.ofList [c]
  else if c.toNat < 0x100 then "\\x" ++ hex 2 c.toNat
  else if c.toNat < 0x10000 then "\\u" ++ hex 4 c.toNat
  else "\\U" ++ hex 8 c.toNat

/-- The quote that a text is written with. -/
def quoteMark (cs : List Char) : Char :=
  if cs.contains '\'' && !cs.contains '"' then '"' else '\''

/-- A text in quotes, with everything escaped that cannot stand for itself. -/
def quote (s : String) : String :=
  let q := quoteMark s.toList
  let body := String.join (s.toList.map (escapeChar q))
  String.ofList [q] ++ body ++ String.ofList [q]

end Circulation.Text
