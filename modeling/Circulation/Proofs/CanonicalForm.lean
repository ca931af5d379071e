import Circulation.Proofs.Ordering
/-!
# Equality shows in the canonical form

Two snapshots are the same when they hold the same day and the same counts, in whatever order these
were entered.  A hash has to be made of something that does not show the order either, and that is
the canonical form, with every tally in ascending order.  Sorting forgets the order of entry and
nothing else: there is one ascending list of the entries of a tally, and the entries can be read off
it.

The key construction is `Tally.Ascending`.  The main facts are

* `Tally.sorted_eq_iff` : the sorted entries are the ascending list of them;
* `Tally.agrees_iff_sorted_eq` : tallies agree when their sorted entries are equal;
* `Snapshot.same_iff_canonical_eq` : snapshots are the same when their canonical forms are equal.
-/

namespace Circulation

namespace Tally

/-- The keys ascend, so that none of them occurs twice. -/
def Ascending (es : List (Int × Nat)) : Prop := es.Pairwise fun a b => a.1 < b.1

/-- Sorting keeps the entries. -/
theorem sorted_perm (t : Tally) : t.sorted.Perm t.entries := List.mergeSort_perm _ _

/-- Sorted entries ascend: no two of them have one key. -/
theorem ascending_sorted (t : Tally) : Ascending t.sorted := by
  have hle : t.sorted.Pairwise fun a b =>
      (decide (a.1 < b.1) || (a.1 == b.1 && decide (a.2 ≤ b.2))) = true := by
    refine List.pairwise_mergeSort ?_ ?_ t.entries
    · intro a b c hab hbc
      simp only [Bool.or_eq_true, Bool.and_eq_true, decide_eq_true_eq, beq_iff_eq] at hab hbc ⊢
      omega
    · intro a b
      simp only [Bool.or_eq_true, Bool.and_eq_true, decide_eq_true_eq, beq_iff_eq]
      omega
  have hne : t.sorted.Pairwise fun a b => a.1 ≠ b.1 :=
    List.pairwise_map.1 ((t.sorted_perm.map Prod.fst).nodup_iff.2 t.nodup)
  refine (hle.and hne).imp ?_
  rintro a b ⟨hab, hkeys⟩
  simp only [Bool.or_eq_true, Bool.and_eq_true, decide_eq_true_eq, beq_iff_eq] at hab
  omega

/-- **Sorted entries.**  They are the one list of all the entries that ascends. -/
theorem sorted_eq_iff (t : Tally) (es : List (Int × Nat)) :
    t.sorted = es ↔ Ascending es ∧ es.Perm t.entries := by
  constructor
  · rintro rfl
    exact ⟨t.ascending_sorted, t.sorted_perm⟩
  · rintro ⟨hes, hperm⟩
    refine List.Perm.eq_of_pairwise ?_ t.ascending_sorted hes (t.sorted_perm.trans hperm.symm)
    intro a b _ _ hab hba
    omega

/-- Two tallies agree exactly when their sorted entries are equal. -/
theorem agrees_iff_sorted_eq (a b : Tally) : a.agrees b = true ↔ a.sorted = b.sorted := by
  rw [agrees_iff_perm, sorted_eq_iff]
  constructor
  · intro hperm
    exact ⟨b.ascending_sorted, b.sorted_perm.trans hperm.symm⟩
  · rintro ⟨-, hperm⟩
    exact hperm.symm.trans b.sorted_perm

end Tally

namespace Snapshot

/-- **Equality shows in the canonical form.**  Any two snapshots, whatever the order in which their
entries were made, are the same exactly when they have one day and hold the same under every key,
and exactly when their canonical forms are equal: the day, and the entries in ascending order.  So
whatever a hash makes of the canonical form, snapshots that are the same have one hash. -/
theorem same_iff_canonical_eq (s u : Snapshot) :
    (s.same u = true ↔ s.day = u.day ∧ (∀ k, s.copies.get? k = u.copies.get? k) ∧
      (∀ k, s.loans.get? k = u.loans.get? k) ∧ ∀ k, s.fines.get? k = u.fines.get? k) ∧
    (s.same u = true ↔ s.canonical = u.canonical) ∧
    ∀ hash : Nat × List (Int × Nat) × List (Int × Nat) × List (Int × Nat) → Int,
      s.same u = true → hash s.canonical = hash u.canonical := by
  have hcanonical : s.same u = true ↔ s.canonical = u.canonical := by
    rw [same, canonical, canonical, Prod.mk.injEq, Prod.mk.injEq, Prod.mk.injEq,
      ← Tally.agrees_iff_sorted_eq, ← Tally.agrees_iff_sorted_eq, ← Tally.agrees_iff_sorted_eq]
    simp only [Bool.and_eq_true, beq_iff_eq, and_assoc]
  refine ⟨same_iff, hcanonical, fun hash hsame => ?_⟩
  rw [hcanonical.1 hsame]

/-- Entries made backwards and forwards: one canonical form, and one hash. -/
theorem same_iff_canonical_eq_backwardOpening :
    let s := Shelf.opening Rulebook.reference
    let u := Scenario.backwardOpening
    s.same u = true ∧ s.copies ≠ u.copies ∧ s.canonical = u.canonical ∧
    ∀ hash : Nat × List (Int × Nat) × List (Int × Nat) × List (Int × Nat) → Int,
      hash s.canonical = hash u.canonical := by
  intro s u
  have hsame : s.same u = true := by decide
  obtain ⟨-, hcanonical, hhash⟩ := same_iff_canonical_eq s u
  exact ⟨hsame, by decide, hcanonical.1 hsame, fun hash => hhash hash hsame⟩

end Snapshot

end Circulation
