import Circulation.Rulebook
/-!
# Named rulebooks

A registry keeps rulebooks under names.  A new registry knows the reference rulebook under the name
*default*; adding a rulebook under a name that is taken replaces the one before.

The key constructions are `add`, `get` and `names`.
-/

namespace Circulation

/-- Rulebooks by name, in order of first addition. -/
structure Registry where
  entries : List (Value × Rulebook)

namespace Registry

/-- The name of the reference rulebook. -/
def referenceName : String := "default"

/-- A new registry. -/
def fresh : Registry := ⟨[(.text referenceName, Rulebook.reference)]⟩

/-- Adds a rulebook; its name must not be empty. -/
def add (r : Registry) (name : Value) (b : Rulebook) : Except Fault Registry :=
  if name.isPresent then do
    let key ← name.key
    return ⟨Entries.put key b r.entries⟩
  else .error (.invalid .emptyName)

/-- The rulebook of that name, if there is one. -/
def get (r : Registry) (name : Value) : Except Fault (Option Rulebook) := do
  let key ← name.key
  return r.entries.lookup key

/-- A name as a text; names of other kinds cannot be ordered. -/
def nameText : Value → Except Fault String
  | .text s => .ok s
  | v => .error (.mismatch (.notComparable v.kindName))

/-- The names in ascending order of their code points. -/
def names (r : Registry) : Except Fault (List String) := do
  let texts ← (Entries.keys r.entries).mapM nameText
  return texts.mergeSort fun a b => decide (a ≤ b)

end Registry

end Circulation
