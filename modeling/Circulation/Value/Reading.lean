import Circulation.Fault
import Circulation.Text.Numeral
/-!
# Reading values

Values are read as numbers, named fields, items, entries, counts and ids; each reading fails with
the fault that names its cause.

The key constructions are

* `number`, `field`, `elements`, `entries` : the parts of a value;
* `count`, `entityId` : the two checks that every number of a rule or snapshot passes;
* `keyInteger` : the integer that a mapping key denotes.
-/

namespace Circulation.Value

/-! ## Parts -/

/-- The number that a value stands for. -/
def number (v : Value) : Except Fault Number :=
  match v.number? with
  | some n => .ok n
  | none => .error (.mismatch (.notANumber v.kindName))

@[simp] theorem number_int (n : Int) : (Value.int n).number = .ok (.int n) := rfl

/-- The value of the field named `name`, which must be there. -/
def field (name : String) : Value → Except Fault Value
  | .mapping entries =>
    match entries.lookup (.text name) with
    | some v => .ok v
    | none => .error (.missingField name)
  | v => .error (.mismatch (.notIndexable v.kindName))

/-- The items of a list, the characters of a text or the keys of a mapping. -/
def elements : Value → Except Fault (List Value)
  | .list items => .ok items
  | .text s => .ok (s.toList.map fun c => .text (String.ofList [c]))
  | .mapping entries => .ok (entries.map Prod.fst)
  | v => .error (.mismatch (.notIterable v.kindName))

/-- The value as a key. -/
def key (v : Value) : Except Fault Value :=
  if v.hashable then .ok v else .error (.mismatch (.notAKey v.kindName))

/-- An item that is an entry by itself: two elements, the key and the value. -/
def pairAt (index : Nat) (v : Value) : Except Fault (Value × Value) :=
  match v.elements with
  | .error _ => .error (.mismatch (.notASequence index))
  | .ok [k, w] => do return (← k.key, w)
  | .ok items => .error (.invalid (.notAPair index items.length))

/-- The entries of a mapping, or of anything whose elements are pairs.  A repeated key has its first
place and its last value. -/
def entries : Value → Except Fault (List (Value × Value))
  | .mapping es => .ok es
  | v => do
    let items ← v.elements
    let pairs ← items.zipIdx.mapM fun item => pairAt item.2 item.1
    return Entries.collect pairs

/-! ## Checks -/

/-- A count: an integer that is not negative.  Truth values are no integers here. -/
def count (subject : Subject) : Value → Except Fault Nat
  | .int n =>
    if 0 ≤ n then .ok n.toNat else .error (.invalid (.negative subject n))
  | v => .error (.invalid (.notInteger subject v))

/-- An id: an integer from 1 to 99. -/
def entityId (name : String) : Value → Except Fault { n : Int // 1 ≤ n ∧ n ≤ 99 }
  | .int n =>
    if h : 1 ≤ n ∧ n ≤ 99 then .ok ⟨n, h⟩ else .error (.invalid (.outOfRange name n))
  | v => .error (.invalid (.notInteger (.field name) v))

/-- The integer that a mapping key denotes: a text is read as a numeral. -/
def keyInteger : Value → Except Fault Int
  | .text s =>
    match Text.readInt? s with
    | some n => .ok n
    | none => .error (.invalid (.notNumeral s))
  | v =>
    match v.integer? with
    | some n => .ok n
    | none => .error (.mismatch (.notWhole v.kindName))

@[simp] theorem keyInteger_int (n : Int) : (Value.int n).keyInteger = .ok n := rfl

/-- A natural number passes as a count. -/
@[simp] theorem count_natCast (subject : Subject) (n : Nat) :
    count subject (.int n) = .ok n := by
  simp [count]

end Circulation.Value
