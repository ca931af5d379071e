import Circulation.Outcome
import Circulation.Rulebook
/-!
# The shelf

Copies of titles go on and off the shelf, and days go by.

The key constructions are

* `opening` : the snapshot of the first day, with all copies on the shelf;
* `advance` : some days later;
* `availability` : whether a copy of a title is on the shelf;
* `take`, `putBack` : one copy less, one copy more.
-/

namespace Circulation.Shelf

/-! ## The first day -/

/-- The first day: all copies on the shelf, no loans, no fines. -/
def opening (b : Rulebook) : Snapshot where
  day := 1
  copies := ⟨b.titles.map fun t => (t.id, t.copies), by
    simpa [Entries.keys, Function.comp_def] using b.titles_nodup⟩
  loans := ⟨b.classes.map fun m => (m.id, 0), by
    simpa [Entries.keys, Function.comp_def] using b.classes_nodup⟩
  fines := ⟨b.classes.map fun m => (m.id, 0), by
    simpa [Entries.keys, Function.comp_def] using b.classes_nodup⟩
  sameClasses := fun _ => Iff.rfl

/-! ## Days -/

/-- Some days later; their number must be whole and not negative. -/
def advance (s : Snapshot) (days : Value) : Except Fault Snapshot := do
  let n ← days.number
  if n.lt (.int 0) then .error (.invalid (.negativeDays days))
  else
    match n with
    | .int n => return { s with day := s.day + n.toNat }
    | .float _ => .error (.mismatch (.notWhole days.kindName))

/-! ## Copies -/

/-- Whether a copy of the title is on the shelf; the refusal names the title. -/
def availability (s : Snapshot) (title : Value) : Except Fault Outcome := do
  let n ← s.copiesOf title
  if 0 < n then return .success s
  else Outcome.refuse s (.ofNumber (Code.titleUnavailable (← title.number)))

/-- Takes one copy off the shelf, where there must be one. -/
def take (s : Snapshot) (title : Value) : Except Fault Snapshot := do
  let (key, n) ← s.title title
  if n = 0 then .error (.emptyShelf title) else return s.setCopies key (n - 1)

/-- Puts one copy on the shelf. -/
def putBack (s : Snapshot) (title : Value) : Except Fault Snapshot := do
  let (key, n) ← s.title title
  return s.setCopies key (n + 1)

end Circulation.Shelf
