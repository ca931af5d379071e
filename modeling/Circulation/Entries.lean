/-!
# Entries in order of insertion

A finite map is kept as the list of its entries in the order in which their keys were first put.
Putting a value under a key that is already there replaces the value and leaves the key and its
place; a new key goes to the end.

The key constructions are `put` and `collect`.  The main facts, for lawful keys, are

* `lookup_put` : reading after a put;
* `keys_put_of_mem`, `keys_put_of_not_mem` : what a put does to the list of keys;
* `nodup_keys_put`, `nodup_keys_collect` : no key occurs twice.
-/

namespace Circulation.Entries

variable {κ : Type} {α : Type}

/-- The keys in their order. -/
def keys (es : List (κ × α)) : List κ := es.map Prod.fst

/-- Puts `v` under `k`. -/
def put [BEq κ] (k : κ) (v : α) : List (κ × α) → List (κ × α)
  | [] => [(k, v)]
  | e :: rest => if e.1 == k then (e.1, v) :: rest else e :: put k v rest

/-- Puts the given entries one after another: a repeated key has its first place and its last
value. -/
def collect [BEq κ] (es : List (κ × α)) : List (κ × α) :=
  es.foldl (fun done e => put e.1 e.2 done) []

/-! ## Keys after a put -/

@[simp] theorem keys_nil : keys ([] : List (κ × α)) = [] := rfl

@[simp] theorem keys_cons (e : κ × α) (es : List (κ × α)) : keys (e :: es) = e.1 :: keys es := rfl

section Lawful

variable [BEq κ] [LawfulBEq κ]

/-- A put under a key that is there leaves the keys alone. -/
theorem keys_put_of_mem {k : κ} {es : List (κ × α)} (h : k ∈ keys es) (v : α) :
    keys (put k v es) = keys es := by
  induction es with
  | nil => simp at h
  | cons e rest ih =>
      by_cases hk : e.1 = k
      · simp [put, hk]
      · have hrest : k ∈ keys rest := by
          simpa [Ne.symm hk] using h
        simp [put, hk, ih hrest]

/-- A put under a new key adds it at the end. -/
theorem keys_put_of_not_mem {k : κ} {es : List (κ × α)} (h : k ∉ keys es) (v : α) :
    keys (put k v es) = keys es ++ [k] := by
  induction es with
  | nil => rfl
  | cons e rest ih =>
      have hk : ¬ e.1 = k := by
        intro heq
        exact h (by simp [heq])
      have hrest : k ∉ keys rest := by
        intro hmem
        exact h (by simp [hmem])
      simp [put, hk, ih hrest]

/-- A put keeps the keys distinct. -/
theorem nodup_keys_put {es : List (κ × α)} (h : (keys es).Nodup) (k : κ) (v : α) :
    (keys (put k v es)).Nodup := by
  by_cases hk : k ∈ keys es
  · rw [keys_put_of_mem hk]
    exact h
  · rw [keys_put_of_not_mem hk]
    refine List.nodup_append.2 ⟨h, by simp, ?_⟩
    intro a ha b hb
    have hbk : b = k := by simpa using hb
    intro hab
    exact hk (hbk ▸ hab ▸ ha)

/-- Collected entries have distinct keys. -/
theorem nodup_keys_collect (es : List (κ × α)) : (keys (collect es)).Nodup := by
  have hgen : ∀ (rest done : List (κ × α)), (keys done).Nodup →
      (keys (rest.foldl (fun d e => put e.1 e.2 d) done)).Nodup := by
    intro rest
    induction rest with
    | nil => intro done h; exact h
    | cons e rest ih => intro done h; exact ih _ (nodup_keys_put h e.1 e.2)
  exact hgen es [] (by simp)

/-! ## Reading after a put -/

/-- Reading after a put gives the new value under its key and the old values elsewhere. -/
theorem lookup_put (es : List (κ × α)) (k j : κ) (v : α) :
    (put k v es).lookup j = if j == k then some v else es.lookup j := by
  induction es with
  | nil => by_cases hj : j == k <;> simp [put, List.lookup_cons, hj]
  | cons e rest ih =>
      obtain ⟨i, w⟩ := e
      by_cases hk : i = k
      · by_cases hj : j == k <;> simp [put, List.lookup_cons, hk, hj]
      · by_cases hj : j = i
        · simp [put, hj, hk]
        · have hji : (j == i) = false := by simpa using hj
          simp [put, List.lookup_cons, hk, hji, ih]

end Lawful

end Circulation.Entries
