import Circulation.Value.Reading
/-!
# Tallies

A tally counts something under integer keys.  Each key occurs once, keys keep the order in which
they were first entered, and two tallies agree when they hold the same counts, whatever their order.

The key constructions are

* `ofEntries` : a tally from checked entries;
* `get?`, `set` : reading a count and replacing it;
* `agrees`, `sorted` : equality without regard to order, and the entries in ascending order.

The main facts are `keys_set`, which says that replacing a count keeps keys and order, and
`get?_set`, which says what is read after it.
-/

namespace Circulation

/-- Counts under distinct integer keys, in order of entry. -/
@[ext] structure Tally where
  entries : List (Int × Nat)
  nodup : (Entries.keys entries).Nodup
deriving DecidableEq

namespace Tally

/-- The keys in order of entry. -/
def keys (t : Tally) : List Int := Entries.keys t.entries

/-- The count under a key. -/
def get? (t : Tally) (k : Int) : Option Nat := t.entries.lookup k

/-! ## Building -/

/-- Collects entries; a repeated key has its first place and its last count. -/
def ofList (es : List (Int × Nat)) : Tally := ⟨Entries.collect es, Entries.nodup_keys_collect es⟩

/-- An entry of the field `name`: an integer key, then a count. -/
def checkEntry (name : String) : Value × Value → Except Fault (Int × Nat)
  | (.int k, v) => do return (k, ← Value.count (.entry name k) v)
  | (k, _) => .error (.invalid (.keyNotInteger name k))

/-- The tally of the field `name`; the first bad entry decides the fault. -/
def ofEntries (name : String) (es : List (Value × Value)) : Except Fault Tally := do
  return ofList (← es.mapM (checkEntry name))

/-! ## Replacing a count -/

/-- Replaces the count under `k` in a list of entries. -/
def replaceCount (k : Int) (n : Nat) (es : List (Int × Nat)) : List (Int × Nat) :=
  es.map fun e => if e.1 = k then (e.1, n) else e

/-- Replacing a count keeps the keys of a list of entries. -/
theorem keys_replaceCount (k : Int) (n : Nat) (es : List (Int × Nat)) :
    Entries.keys (replaceCount k n es) = Entries.keys es := by
  induction es with
  | nil => rfl
  | cons e rest ih =>
      have hrest : Entries.keys (rest.map fun e => if e.1 = k then (e.1, n) else e) =
          Entries.keys rest := ih
      by_cases hk : e.1 = k <;> simp [replaceCount, hk, hrest]

/-- Replaces the count under a key; without that key nothing changes. -/
def set (t : Tally) (k : Int) (n : Nat) : Tally :=
  ⟨replaceCount k n t.entries, by rw [keys_replaceCount]; exact t.nodup⟩

/-- Replacing a count keeps the keys and their order. -/
@[simp] theorem keys_set (t : Tally) (k : Int) (n : Nat) : (t.set k n).keys = t.keys :=
  keys_replaceCount k n t.entries

/-- Reading after replacing a count. -/
theorem get?_set (t : Tally) (k j : Int) (n : Nat) :
    (t.set k n).get? j = if j = k then (t.get? k).map fun _ => n else t.get? j := by
  have hgen : ∀ es : List (Int × Nat), (replaceCount k n es).lookup j =
      if j = k then (es.lookup k).map fun _ => n else es.lookup j := by
    intro es
    induction es with
    | nil => by_cases hj : j = k <;> simp [replaceCount, hj]
    | cons e rest ih =>
        obtain ⟨i, c⟩ := e
        have hcons : replaceCount k n ((i, c) :: rest) =
            (i, if i = k then n else c) :: replaceCount k n rest := by
          by_cases hk : i = k <;> simp [replaceCount, hk]
        rw [hcons, List.lookup_cons, List.lookup_cons, List.lookup_cons, ih]
        by_cases hk : i = k
        · by_cases hj : j = k
          · simp [hk, hj]
          · have hji : (j == i) = false := by simpa [hk] using hj
            simp [hj, hji]
        · have hki : (k == i) = false := by simpa using Ne.symm hk
          by_cases hj : j = k
          · simp [hj, hki]
          · by_cases hji : j = i
            · simp [hk, hji]
            · have hji' : (j == i) = false := by simpa using hji
              simp [hj, hji']
  exact hgen t.entries

/-! ## Comparing -/

/-- Whether two tallies hold the same counts. -/
def agrees (a b : Tally) : Bool :=
  a.entries.length == b.entries.length && a.entries.all fun e => b.get? e.1 == some e.2

/-- The entries in ascending order. -/
def sorted (t : Tally) : List (Int × Nat) :=
  t.entries.mergeSort fun a b => decide (a.1 < b.1) || (a.1 == b.1 && decide (a.2 ≤ b.2))

/-! ## Writing -/

/-- A tally as a mapping. -/
def toValue (t : Tally) : Value := .mapping (t.entries.map fun e => (.int e.1, .int e.2))

end Tally

end Circulation
