import Circulation.Text.Quoted
import Circulation.Value
/-!
# Written values

A value is written in two ways: `inspect` quotes texts wherever they stand, and `display` leaves a
text that stands alone as it is.

Every value has both forms.  Bounds that a runtime may set on the digits of an integer or on the depth
of nested lists and mappings are idealised away, here and wherever these forms go into a text.

The key constructions are `inspect` and `display`.
-/

namespace Circulation.Value

mutual

/-- The written form of a value, with texts in quotes. -/
def inspect : Value → String
  | .null => "None"
  | .bool b => if b then "True" else "False"
  | .int n => toString n
  | .float x => Decimal.write .standard x
  | .text s => Text.quote s
  | .list items => "[" ++ ", ".intercalate (inspectItems items) ++ "]"
  | .mapping entries => "\x7b" ++ ", ".intercalate (inspectEntries entries) ++ "\x7d"

/-- The written forms of the items of a list. -/
def inspectItems : List Value → List String
  | [] => []
  | v :: rest => inspect v :: inspectItems rest

/-- The written forms of the entries of a mapping. -/
def inspectEntries : List (Value × Value) → List String
  | [] => []
  | (k, v) :: rest => (inspect k ++ ": " ++ inspect v) :: inspectEntries rest

end

/-- The written form of a value, where a text stands for itself; like `inspect` it never fails. -/
def display : Value → String
  | .text s => s
  | v => v.inspect

@[simp] theorem inspect_int (n : Int) : (Value.int n).inspect = toString n := by
  simp [inspect]

@[simp] theorem display_int (n : Int) : (Value.int n).display = toString n := by
  simp [display]

end Circulation.Value
