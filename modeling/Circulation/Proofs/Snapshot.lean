import Circulation.Proofs.Tally
import Circulation.Snapshot
/-!
# Reading snapshots by integer ids

An integer id names the entry under itself.  So reading a snapshot by an integer is reading its
tallies, and the faults of the readers say exactly that the key is not there.

The main facts are

* `title_int`, `borrower_int`, `debtor_int` : what is read under a key that is there;
* `copiesOf_int_iff`, `loansOf_int_iff`, `finesOf_int_iff` : a count is read exactly when the tally
  holds it;
* `exists_fines_of_loans` : a class with loans, be it none of them open, has fines.
-/

namespace Circulation.Snapshot

/-! ## The fields after a change -/

section

variable (s : Snapshot) (k : Int) (n : Nat)

@[simp] theorem setCopies_day : (s.setCopies k n).day = s.day := rfl

@[simp] theorem setCopies_copies : (s.setCopies k n).copies = s.copies.set k n := rfl

@[simp] theorem setCopies_loans : (s.setCopies k n).loans = s.loans := rfl

@[simp] theorem setCopies_fines : (s.setCopies k n).fines = s.fines := rfl

@[simp] theorem setLoans_day : (s.setLoans k n).day = s.day := rfl

@[simp] theorem setLoans_copies : (s.setLoans k n).copies = s.copies := rfl

@[simp] theorem setLoans_loans : (s.setLoans k n).loans = s.loans.set k n := rfl

@[simp] theorem setLoans_fines : (s.setLoans k n).fines = s.fines := rfl

@[simp] theorem setFines_day : (s.setFines k n).day = s.day := rfl

@[simp] theorem setFines_copies : (s.setFines k n).copies = s.copies := rfl

@[simp] theorem setFines_loans : (s.setFines k n).loans = s.loans := rfl

@[simp] theorem setFines_fines : (s.setFines k n).fines = s.fines.set k n := rfl

end

section

variable {s : Snapshot} {k : Int} {n : Nat}

/-- Putting back the loans that are there changes nothing. -/
theorem setLoans_of_get? (h : s.loans.get? k = some n) : s.setLoans k n = s :=
  Snapshot.ext rfl rfl (Tally.set_of_get? h) rfl

/-- Putting back the fines that are there changes nothing. -/
theorem setFines_of_get? (h : s.fines.get? k = some n) : s.setFines k n = s :=
  Snapshot.ext rfl rfl rfl (Tally.set_of_get? h)

end

/-! ## Entries -/

/-- The entry that an integer names. -/
theorem entryOf_int {t : Tally} {k : Int} {n : Nat} (h : t.get? k = some n)
    (unknown : Value → Fault) : entryOf t unknown (.int k) = .ok (k, n) := by
  simp [entryOf, Value.key, h, bind, Except.bind]

/-- An integer that is no key names no entry. -/
theorem entryOf_int_of_none {t : Tally} {k : Int} (h : t.get? k = none)
    (unknown : Value → Fault) : entryOf t unknown (.int k) = .error (unknown (.int k)) := by
  simp [entryOf, Value.key, h, bind, Except.bind]

/-- An entry is read by an integer exactly when it is there. -/
theorem entryOf_int_iff {t : Tally} {k : Int} {n : Nat} {unknown : Value → Fault} :
    Prod.snd <$> entryOf t unknown (.int k) = .ok n ↔ t.get? k = some n := by
  cases h : t.get? k with
  | none =>
      rw [entryOf_int_of_none h]
      simp [Functor.map, Except.map]
  | some c =>
      rw [entryOf_int h]
      simp [Functor.map, Except.map]

/-- Whatever an id is, it equals the key that it names, and the count is the one under that key. -/
theorem named_of_entryOf {t : Tally} {unknown : Value → Fault} {id : Value} {k : Int} {n : Nat}
    (h : entryOf t unknown id = .ok (k, n)) : id.integer? = some k ∧ t.get? k = some n := by
  unfold entryOf Value.key at h
  -- An id that can be no key names nothing.
  split at h
  · cases hfound : id.integer?.bind fun k => (t.get? k).map fun n => (k, n) with
    | none => simp [hfound, bind, Except.bind] at h
    | some e =>
        have he : e = (k, n) := by simpa [hfound, bind, Except.bind] using h
        subst he
        obtain ⟨j, hj, hcount⟩ := Option.bind_eq_some_iff.1 hfound
        obtain ⟨c, hc, heq⟩ := Option.map_eq_some_iff.1 hcount
        obtain ⟨rfl, rfl⟩ := Prod.mk.inj heq
        exact ⟨hj, hc⟩
  · cases h

/-! ## Titles and classes -/

section

variable {s : Snapshot} {k : Int} {n : Nat}

theorem title_int (h : s.copies.get? k = some n) : s.title (.int k) = .ok (k, n) :=
  entryOf_int h _

theorem title_int_of_none (h : s.copies.get? k = none) :
    s.title (.int k) = .error (.unknownTitle (.int k)) :=
  entryOf_int_of_none h _

theorem borrower_int (h : s.loans.get? k = some n) : s.borrower (.int k) = .ok (k, n) :=
  entryOf_int h _

theorem borrower_int_of_none (h : s.loans.get? k = none) :
    s.borrower (.int k) = .error (.unknownClass (.int k)) :=
  entryOf_int_of_none h _

theorem debtor_int (h : s.fines.get? k = some n) : s.debtor (.int k) = .ok (k, n) :=
  entryOf_int h _

theorem debtor_int_of_none (h : s.fines.get? k = none) :
    s.debtor (.int k) = .error (.unknownClass (.int k)) :=
  entryOf_int_of_none h _

/-- The copies of a title, read by an integer. -/
theorem copiesOf_int_iff : s.copiesOf (.int k) = .ok n ↔ s.copies.get? k = some n :=
  entryOf_int_iff

/-- The loans of a class, read by an integer. -/
theorem loansOf_int_iff : s.loansOf (.int k) = .ok n ↔ s.loans.get? k = some n :=
  entryOf_int_iff

/-- The loans of a class that is not there, read by an integer. -/
theorem loansOf_int_of_none (h : s.loans.get? k = none) :
    s.loansOf (.int k) = .error (.unknownClass (.int k)) := by
  rw [loansOf, borrower_int_of_none h]
  rfl

/-- The fines of a class, read by an integer. -/
theorem finesOf_int_iff : s.finesOf (.int k) = .ok n ↔ s.fines.get? k = some n :=
  entryOf_int_iff

end

/-! ## Classes have both loans and fines -/

/-- A class has a count of loans exactly when it has an amount of fines. -/
theorem loans_get?_eq_none_iff (s : Snapshot) (m : Int) :
    s.loans.get? m = none ↔ s.fines.get? m = none := by
  have hsame := s.sameClasses m
  rw [Tally.mem_keys_iff, Tally.mem_keys_iff] at hsame
  cases hl : s.loans.get? m <;> cases hf : s.fines.get? m <;> simp [hl, hf] at hsame ⊢

/-- A class with a count of loans has an amount of fines. -/
theorem exists_fines_of_loans {s : Snapshot} {m : Int} {l : Nat} (h : s.loans.get? m = some l) :
    ∃ f, s.fines.get? m = some f := by
  refine Option.ne_none_iff_exists'.1 fun hf => ?_
  rw [← loans_get?_eq_none_iff, h] at hf
  exact Option.some_ne_none l hf

end Circulation.Snapshot
