import Mathlib
import Circulation.Tally
/-!
# Reading and adding up tallies

What the other modules need to know about a tally without opening its list of entries.

The key constructions are `count`, the count under a key or nothing, and `total`, the sum of all
counts.  The main facts are

* `mem_keys_iff` : a key is there exactly when a count can be read under it;
* `set_of_get?` : putting back the count that is there changes nothing;
* `agrees_iff_perm`, `agrees_iff` : tallies agree when their entries are the same up to order, that
  is, when they hold the same under every key;
* `total_set` : replacing a count changes the total by the difference.
-/

/-- An entry with a key of its own is found under it. -/
theorem Circulation.Entries.lookup_of_mem {κ α : Type} [BEq κ] [LawfulBEq κ] {es : List (κ × α)}
    (hnd : (keys es).Nodup) {e : κ × α} (he : e ∈ es) : es.lookup e.1 = some e.2 := by
  induction es with
  | nil => cases he
  | cons x rest ih =>
      rw [keys_cons, List.nodup_cons] at hnd
      rcases List.mem_cons.1 he with rfl | hrest
      · rw [List.lookup_cons, beq_self_eq_true]
      · have hne : (e.1 == x.1) = false := by
          rw [beq_eq_false_iff_ne]
          intro heq
          exact hnd.1 (heq ▸ List.mem_map_of_mem hrest)
        rw [List.lookup_cons, hne]
        exact ih hnd.2 hrest

namespace Circulation.Tally

/-! ## Reading -/

/-- A key is there exactly when there is a count under it. -/
theorem mem_keys_iff (t : Tally) (k : Int) : k ∈ t.keys ↔ ∃ n, t.get? k = some n := by
  unfold keys get? Entries.keys
  rw [← Option.isSome_iff_exists, List.lookup_isSome_iff, List.mem_map]
  constructor
  · rintro ⟨e, he, rfl⟩
    exact ⟨e, he, by simp⟩
  · rintro ⟨e, he, hk⟩
    exact ⟨e, he, (by simpa using hk : k = e.1).symm⟩

/-- A key is not there exactly when there is no count under it. -/
theorem get?_eq_none_iff (t : Tally) (k : Int) : t.get? k = none ↔ k ∉ t.keys := by
  rw [mem_keys_iff, ← Option.ne_none_iff_exists', not_not]

/-- The count under a key, or nothing where the key is not there. -/
def count (t : Tally) (k : Int) : Nat := (t.get? k).getD 0

/-- A key that is there has its count. -/
theorem get?_of_mem_keys {t : Tally} {k : Int} (h : k ∈ t.keys) : t.get? k = some (t.count k) := by
  obtain ⟨n, hn⟩ := (mem_keys_iff t k).1 h
  rw [count, hn, Option.getD_some]

/-- Reading the count that was put under a key that is there. -/
theorem get?_set_self {t : Tally} {k : Int} {n : Nat} (h : t.get? k = some n) (n' : Nat) :
    (t.set k n').get? k = some n' := by
  rw [get?_set, if_pos rfl, h]
  rfl

/-- Reading under another key than the one whose count was replaced. -/
theorem get?_set_of_ne (t : Tally) {k j : Int} (h : j ≠ k) (n : Nat) :
    (t.set k n).get? j = t.get? j := by
  rw [get?_set, if_neg h]

/-- The same count put into two tallies does not tell them apart under a key where they agreed. -/
theorem get?_set_congr {t u : Tally} {j : Int} (h : t.get? j = u.get? j) (k : Int) (n : Nat) :
    (t.set k n).get? j = (u.set k n).get? j := by
  rw [get?_set, get?_set]
  by_cases hk : j = k
  · rw [if_pos hk, if_pos hk, ← hk, h]
  · rw [if_neg hk, if_neg hk, h]

/-! ## Replacing a count in a list of entries -/

/-- Without an entry under `k` there is nothing to replace. -/
theorem replaceCount_of_not_mem {k : Int} {es : List (Int × Nat)} (h : k ∉ Entries.keys es)
    (n : Nat) : replaceCount k n es = es := by
  have hid : ∀ e ∈ es, (if e.1 = k then (e.1, n) else e) = id e := by
    intro e he
    rw [if_neg, id_eq]
    rintro rfl
    exact h (List.mem_map_of_mem he)
  rw [replaceCount, List.map_congr_left hid, List.map_id]

/-- The entry under a key splits the list, and a new count takes its place between the parts. -/
theorem exists_replaceCount_eq {k : Int} {n : Nat} {es : List (Int × Nat)}
    (hnd : (Entries.keys es).Nodup) (h : es.lookup k = some n) :
    ∃ before after, k ∉ Entries.keys before ∧ es = before ++ (k, n) :: after ∧
      ∀ n', replaceCount k n' es = before ++ (k, n') :: after := by
  obtain ⟨before, after, rfl, -⟩ := List.lookup_eq_some_iff.1 h
  have hkeys : Entries.keys (before ++ (k, n) :: after) =
      Entries.keys before ++ k :: Entries.keys after := by
    simp [Entries.keys]
  rw [hkeys, List.nodup_middle, List.nodup_cons, List.mem_append, not_or] at hnd
  refine ⟨before, after, hnd.1.1, rfl, fun n' => ?_⟩
  have hsplit : replaceCount k n' (before ++ (k, n) :: after) =
      replaceCount k n' before ++ (k, n') :: replaceCount k n' after := by
    simp [replaceCount]
  rw [hsplit, replaceCount_of_not_mem hnd.1.1, replaceCount_of_not_mem hnd.1.2]

/-- Putting back the count that is there changes nothing. -/
theorem set_of_get? {t : Tally} {k : Int} {n : Nat} (h : t.get? k = some n) : t.set k n = t := by
  obtain ⟨before, after, -, heq, hset⟩ := exists_replaceCount_eq t.nodup h
  exact Tally.ext ((hset n).trans heq.symm)

/-! ## Comparing -/

/-- A count is read under a key exactly when the two are an entry. -/
theorem get?_eq_some_iff (t : Tally) (k : Int) (n : Nat) :
    t.get? k = some n ↔ (k, n) ∈ t.entries := by
  constructor
  · intro h
    obtain ⟨before, after, hentries, -⟩ := List.lookup_eq_some_iff.1 h
    rw [hentries]
    simp
  · intro h
    exact Entries.lookup_of_mem t.nodup h

/-- No entry occurs twice. -/
theorem nodup_entries (t : Tally) : t.entries.Nodup := List.Nodup.of_map _ t.nodup

/-- Two tallies agree exactly when their entries are the same up to order. -/
theorem agrees_iff_perm (a b : Tally) : a.agrees b = true ↔ a.entries.Perm b.entries := by
  simp only [agrees, Bool.and_eq_true, beq_iff_eq, List.all_eq_true, get?_eq_some_iff]
  constructor
  · rintro ⟨hlength, hall⟩
    have hsub : a.entries.Subperm b.entries := List.subperm_of_subset a.nodup_entries hall
    exact hsub.perm_of_length_le (Nat.le_of_eq hlength.symm)
  · intro hperm
    exact ⟨hperm.length_eq, fun e he => hperm.subset he⟩

/-- **Tallies as finite maps.**  Two tallies agree exactly when they hold the same count under every
key. -/
theorem agrees_iff (a b : Tally) : a.agrees b = true ↔ ∀ k, a.get? k = b.get? k := by
  rw [agrees_iff_perm, List.perm_ext_iff_of_nodup a.nodup_entries b.nodup_entries]
  constructor
  · intro h k
    apply Option.ext
    intro n
    rw [get?_eq_some_iff, get?_eq_some_iff, h]
  · rintro h ⟨k, n⟩
    rw [← get?_eq_some_iff, ← get?_eq_some_iff, h]

/-! ## Totals -/

/-- The sum of all counts. -/
def total (t : Tally) : Nat := (t.entries.map Prod.snd).sum

/-- **Totals.**  Replacing a count changes the total by the difference. -/
theorem total_set {t : Tally} {k : Int} {n : Nat} (h : t.get? k = some n) (n' : Nat) :
    (t.set k n').total + n = t.total + n' := by
  obtain ⟨before, after, -, heq, hset⟩ := exists_replaceCount_eq t.nodup h
  show ((replaceCount k n' t.entries).map Prod.snd).sum + n = (t.entries.map Prod.snd).sum + n'
  rw [hset n', heq]
  simp only [List.map_append, List.map_cons, List.sum_append, List.sum_cons]
  omega

end Circulation.Tally
