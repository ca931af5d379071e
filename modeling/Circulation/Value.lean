import Circulation.Entries
import Circulation.Number
/-!
# Values

Ids, amounts and documents reach the library as values whose kind is not known in advance: nothing,
truth values, numbers, texts, lists and mappings.  A mapping keeps its entries in order of
insertion.

Two values are the same key when they are both nothing, equal texts, or numbers of equal value,
where a truth value counts as `1` or `0`; so `1`, `1.0` and *true* are one key.  Lists and mappings
cannot be keys.

The key constructions are

* `number?`, `integer?` : the number, and the whole number, that a value stands for;
* `hashable` : whether a value can be a key;
* `field?` : the value of a named entry of a mapping.
-/

namespace Circulation

/-- A value of any kind. -/
inductive Value where
  | null
  | bool (b : Bool)
  | int (n : Int)
  | float (x : Float)
  | text (s : String)
  | list (items : List Value)
  | mapping (entries : List (Value × Value))

namespace Value

/-! ## Numbers -/

/-- The number that a value stands for in arithmetic and comparisons. -/
def number? : Value → Option Number
  | .bool b => some (.int (if b then 1 else 0))
  | .int n => some (.int n)
  | .float x => some (.float x)
  | _ => none

/-- A number as a value. -/
def ofNumber : Number → Value
  | .int n => .int n
  | .float x => .float x

/-- The integer that a value equals as a key. -/
def integer? (v : Value) : Option Int := v.number?.bind Number.integer?

@[simp] theorem number?_int (n : Int) : (Value.int n).number? = some (.int n) := rfl

@[simp] theorem integer?_int (n : Int) : (Value.int n).integer? = some n := rfl

/-! ## Keys -/

/-- Whether a value can be a key. -/
def hashable : Value → Bool
  | .list _ => false
  | .mapping _ => false
  | _ => true

@[simp] theorem hashable_int (n : Int) : (Value.int n).hashable = true := rfl

/-- Whether two values are the same key. -/
def sameKey : Value → Value → Bool
  | .null, .null => true
  | .text a, .text b => a == b
  | a, b =>
    match a.number?, b.number? with
    | some x, some y => x.same y
    | _, _ => false

instance : BEq Value := ⟨sameKey⟩

/-- Two texts are the same key exactly when they are equal. -/
theorem text_beq_text (a b : String) : (Value.text a == Value.text b) = (a == b) := rfl

/-! ## Kinds and truth -/

/-- The name of a value's kind. -/
def kindName : Value → String
  | .null => "NoneType"
  | .bool _ => "bool"
  | .int _ => "int"
  | .float _ => "float"
  | .text _ => "str"
  | .list _ => "list"
  | .mapping _ => "dict"

/-- Whether a value counts as present: nothing, *false*, zero and whatever is empty do not. -/
def isPresent : Value → Bool
  | .null => false
  | .bool b => b
  | .int n => n != 0
  | .float x => !(Number.float x).same (.int 0)
  | .text s => s != ""
  | .list items => !items.isEmpty
  | .mapping entries => !entries.isEmpty

/-! ## Fields -/

/-- The value of the entry named `name`, in a mapping that has one. -/
def field? (name : String) : Value → Option Value
  | .mapping entries => entries.lookup (.text name)
  | _ => none

/-- A mapping with named fields. -/
def record (fields : List (String × Value)) : Value :=
  .mapping (fields.map fun f => (.text f.1, f.2))

end Value

end Circulation
