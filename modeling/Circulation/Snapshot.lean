import Circulation.Tally
/-!
# Snapshots

A snapshot is the whole state of a library at one instant: the day, the copies of each title on the
shelf, and for each member class its open loans and unpaid fines.  Loans and fines cover the same
classes.  Nothing in a snapshot changes its keys: an operation replaces counts under keys that are
there, or fails.

The key constructions are

* `make`, `ofValue`, `toValue` : building from values of any kind, reading and writing a document;
* `copiesOf`, `loansOf`, `finesOf` : reading a count by an id of any kind;
* `withCopies`, `withLoans`, `withFines`, `nextDay` : the only changes;
* `same`, `canonical` : equality without regard to order, and a form that shows it.
-/

namespace Circulation

/-- The state of a library at one instant. -/
@[ext] structure Snapshot where
  day : Nat
  copies : Tally
  loans : Tally
  fines : Tally
  sameClasses : ∀ m, m ∈ loans.keys ↔ m ∈ fines.keys

namespace Snapshot

/-! ## Building -/

/-- Whether two lists of keys have the same members. -/
def covers (a b : List Int) : Bool := a.all (b.contains ·) && b.all (a.contains ·)

/-- Lists that cover each other have the same members. -/
theorem mem_iff_of_covers {a b : List Int} (h : covers a b = true) (m : Int) : m ∈ a ↔ m ∈ b := by
  simp only [covers, Bool.and_eq_true, List.all_eq_true, List.contains_iff_mem] at h
  exact ⟨h.1 m, h.2 m⟩

/-- Builds a snapshot; the day is checked first, then the copies, the loans and the fines, then that
loans and fines cover the same classes. -/
def make (day copies loans fines : Value) : Except Fault Snapshot := do
  let day ← Value.count (.field "day") day
  let copies ← Tally.ofEntries "available_copies" (← copies.entries)
  let loans ← Tally.ofEntries "active_loans" (← loans.entries)
  let fines ← Tally.ofEntries "outstanding_fines" (← fines.entries)
  if h : covers loans.keys fines.keys then
    return ⟨day, copies, loans, fines, mem_iff_of_covers h⟩
  else .error (.invalid .classesDiffer)

/-- The entries of a field whose keys are read as integers; keys that denote one integer are one
key. -/
def integerEntries (v : Value) : Except Fault Value :=
  match v with
  | .mapping es => do
    let read ← es.mapM fun e => do return (← e.1.keyInteger, e.2)
    return .mapping ((Entries.collect read).map fun e => (.int e.1, e.2))
  | _ => .error (.lacks "items")

/-- Reads a snapshot.  All fields are fetched and their keys read before anything is checked. -/
def ofValue (v : Value) : Except Fault Snapshot := do
  let day ← v.field "day"
  let copies ← integerEntries (← v.field "available_copies")
  let loans ← integerEntries (← v.field "active_loans")
  let fines ← integerEntries (← v.field "outstanding_fines")
  make day copies loans fines

/-- The document of a snapshot. -/
def toValue (s : Snapshot) : Value :=
  .record
    [("day", .int s.day), ("available_copies", s.copies.toValue),
      ("active_loans", s.loans.toValue), ("outstanding_fines", s.fines.toValue)]

/-! ## Reading -/

/-- The key that `id` names in a tally, with its count; `unknown` is the fault when there is
none. -/
def entryOf (t : Tally) (unknown : Value → Fault) (id : Value) : Except Fault (Int × Nat) := do
  let id ← id.key
  match id.integer?.bind fun k => (t.get? k).map fun n => (k, n) with
  | some e => .ok e
  | none => .error (unknown id)

/-- The key that a title id names, with its copies. -/
def title (s : Snapshot) (id : Value) : Except Fault (Int × Nat) :=
  entryOf s.copies .unknownTitle id

/-- The key that a class id names, with its open loans. -/
def borrower (s : Snapshot) (id : Value) : Except Fault (Int × Nat) :=
  entryOf s.loans .unknownClass id

/-- The key that a class id names, with its unpaid fines. -/
def debtor (s : Snapshot) (id : Value) : Except Fault (Int × Nat) :=
  entryOf s.fines .unknownClass id

/-- The copies of a title on the shelf. -/
def copiesOf (s : Snapshot) (id : Value) : Except Fault Nat := Prod.snd <$> s.title id

/-- The open loans of a member class. -/
def loansOf (s : Snapshot) (id : Value) : Except Fault Nat := Prod.snd <$> s.borrower id

/-- The unpaid fines of a member class. -/
def finesOf (s : Snapshot) (id : Value) : Except Fault Nat := Prod.snd <$> s.debtor id

/-! ## Changes -/

/-- The next day. -/
def nextDay (s : Snapshot) : Snapshot := { s with day := s.day + 1 }

/-- Replaces the copies under a key. -/
def setCopies (s : Snapshot) (key : Int) (n : Nat) : Snapshot :=
  { s with copies := s.copies.set key n }

/-- Replaces the open loans under a key. -/
def setLoans (s : Snapshot) (key : Int) (n : Nat) : Snapshot :=
  { s with
    loans := s.loans.set key n
    sameClasses := by simpa using s.sameClasses }

/-- Replaces the unpaid fines under a key. -/
def setFines (s : Snapshot) (key : Int) (n : Nat) : Snapshot :=
  { s with
    fines := s.fines.set key n
    sameClasses := by simpa using s.sameClasses }

/-- Replaces the copies of a title by a value that must be a count. -/
def withCopies (s : Snapshot) (id amount : Value) : Except Fault Snapshot := do
  let (key, _) ← s.title id
  return s.setCopies key (← Value.count (.entry "available_copies" key) amount)

/-- Replaces the open loans of a class by a value that must be a count. -/
def withLoans (s : Snapshot) (id amount : Value) : Except Fault Snapshot := do
  let (key, _) ← s.borrower id
  return s.setLoans key (← Value.count (.entry "active_loans" key) amount)

/-- Replaces the unpaid fines of a class by a value that must be a count. -/
def withFines (s : Snapshot) (id amount : Value) : Except Fault Snapshot := do
  let (key, _) ← s.debtor id
  return s.setFines key (← Value.count (.entry "outstanding_fines" key) amount)

/-! ## Comparing -/

/-- Whether two snapshots hold the same day and the same counts. -/
def same (a b : Snapshot) : Bool :=
  a.day == b.day && a.copies.agrees b.copies && a.loans.agrees b.loans && a.fines.agrees b.fines

/-- The day and the three tallies in ascending order. -/
def canonical (s : Snapshot) :
    Nat × List (Int × Nat) × List (Int × Nat) × List (Int × Nat) :=
  (s.day, s.copies.sorted, s.loans.sorted, s.fines.sorted)

/-! ## Text -/

/-- The written form of a snapshot. -/
def inspect (s : Snapshot) : String :=
  "LibraryState(day=" ++ toString s.day ++ ", available_copies=" ++ s.copies.toValue.inspect ++
    ", active_loans=" ++ s.loans.toValue.inspect ++ ", outstanding_fines=" ++
    s.fines.toValue.inspect ++ ")"

end Snapshot

end Circulation
