/-!
# Failures of reading JSON

A text that is no JSON document is refused with a complaint and the place of the offending
character.  Readers work on what is left of the text, so a failure counts the characters that are
left; `Failure.message` turns the count into a line, a column and a position.

The key constructions are `Rest`, what is left after something was read, and `Failure`.
-/

namespace Circulation.Json

/-- What is wrong with a text. -/
inductive Complaint where
  | byteOrderMark
  | value
  | propertyName
  | colon
  | comma
  | unterminatedString
  | controlCharacter
  | escape
  | unicodeEscape
  | extraData
deriving DecidableEq

/-- A complaint in words. -/
def Complaint.text : Complaint → String
  | .byteOrderMark => "Unexpected UTF-8 BOM (decode using utf-8-sig)"
  | .value => "Expecting value"
  | .propertyName => "Expecting property name enclosed in double quotes"
  | .colon => "Expecting ':' delimiter"
  | .comma => "Expecting ',' delimiter"
  | .unterminatedString => "Unterminated string starting at"
  | .controlCharacter => "Invalid control character at"
  | .escape => "Invalid \\escape"
  | .unicodeEscape => "Invalid \\uXXXX escape"
  | .extraData => "Extra data"

/-- A complaint about the place where `left` characters of the text are left. -/
structure Failure where
  complaint : Complaint
  left : Nat
deriving DecidableEq

/-- The message of a failure in a text: the complaint with the line, the column and the position of
the offending place.  Lines and columns count from one, positions from zero. -/
def Failure.message (text : List Char) (f : Failure) : String :=
  let position := text.length - f.left
  let before := text.take position
  let line := before.count '\n' + 1
  let column := (before.reverse.takeWhile (· ≠ '\n')).length + 1
  f.complaint.text ++ ": line " ++ toString line ++ " column " ++ toString column ++
    " (char " ++ toString position ++ ")"

/-! ## What is left -/

/-- What is left of a text after at least one character was read. -/
abbrev Rest (cs : List Char) := { rest : List Char // rest.length < cs.length }

/-- A part read from the start of a text, with what is left of it. -/
abbrev Scan (α : Type) (cs : List Char) := Except Failure (α × Rest cs)

/-- What was read from a shorter text was read from the longer one too, here as a part of something
else. -/
def Scan.wrap {α β : Type} {cs ds : List Char} (f : α → β) (h : cs.length ≤ ds.length)
    (s : Scan α cs) : Scan β ds :=
  s.map fun r => (f r.1, ⟨r.2.1, Nat.lt_of_lt_of_le r.2.2 h⟩)

/-- What was read from a shorter text was read from the longer one too. -/
def Scan.widen {α : Type} {cs ds : List Char} (h : cs.length ≤ ds.length) (s : Scan α cs) :
    Scan α ds :=
  s.wrap id h

/-- The complaint about the text that is left. -/
def complain {α : Type} (c : Complaint) (cs : List Char) : Except Failure α :=
  .error ⟨c, cs.length⟩

/-- The blanks between the parts of a document. -/
def isBlank (c : Char) : Bool := c == ' ' || c == '\t' || c == '\n' || c == '\r'

/-- Skips blanks. -/
def skipBlanks (cs : List Char) : List Char := cs.dropWhile isBlank

/-- Skipping blanks does not lengthen a text. -/
theorem length_skipBlanks_le (cs : List Char) : (skipBlanks cs).length ≤ cs.length :=
  (List.dropWhile_suffix isBlank).length_le

/-- What is left after a character and the blanks behind it is shorter. -/
theorem length_skipBlanks_lt_cons (c : Char) (cs : List Char) :
    (skipBlanks cs).length < (c :: cs).length :=
  Nat.lt_of_le_of_lt (length_skipBlanks_le cs) (Nat.lt_succ_self cs.length)

/-- What is left after blanks and one more character is shorter. -/
theorem length_lt_of_skipBlanks {c : Char} {cs after : List Char} (h : skipBlanks cs = c :: after) :
    after.length < cs.length := by
  have hle := length_skipBlanks_le cs
  rw [h] at hle
  exact hle

/-- What is left after blanks, one more character and blanks again is shorter. -/
theorem length_skipBlanks_lt {c : Char} {cs after : List Char} (h : skipBlanks cs = c :: after) :
    (skipBlanks after).length < cs.length :=
  Nat.lt_of_le_of_lt (length_skipBlanks_le after) (length_lt_of_skipBlanks h)

end Circulation.Json
