import Circulation.Proofs.Numerals
import Circulation.Proofs.Rebuilding
import Circulation.Proofs.RulebookFormat
/-!
# The format of snapshot documents

A snapshot is read from a document whose mappings have texts as keys.  Each text has to be a numeral,
and many texts are numerals for one integer, so entries of a document can fall together.  Where they
do, the id keeps the place of the first of them and takes the value of the last, and only that last
value is checked: a bad value that is given first does no harm.

The format is stated without the readers, on the entries as they stand in the document.

The key constructions are

* `Value.GivenFor`, `Value.LastGiven` : an entry given for an id, and the last value given for it;
* `Value.GivesCounts`, `Snapshot.HasFormat` : the format;
* `Tally.ReadFrom`, `Snapshot.ReadFrom` : the values of a document.

The main facts are

* `Entries.keys_collect`, `Entries.lookup_collect` : entries that are collected have the places of
  the first ones and the values of the last ones;
* `Entries.lookup_reverse_eq_some_iff` : the last value given under a key;
* `Tally.readFrom_iff` : the values of a document are those of its collected entries;
* `Snapshot.ofValue_eq_ok_iff` : the reader gives exactly the values of the document;
* `Snapshot.ofValue_merges_keys` : acceptance and values.
-/

namespace Circulation

/-- Two relations that agree on the items of a list match them with the same lists. -/
theorem forall₂_congr_of_mem {α β : Type} {R S : α → β → Prop} {p : α → Prop} {items : List α}
    (hall : ∀ a ∈ items, p a) (h : ∀ a r, p a → (R a r ↔ S a r)) {rs : List β} :
    List.Forall₂ R items rs ↔ List.Forall₂ S items rs := by
  induction items generalizing rs with
  | nil => simp
  | cons a rest ih =>
      simp only [List.forall₂_cons_left_iff, h a _ (hall a List.mem_cons_self),
        ih fun x hx => hall x (List.mem_cons_of_mem _ hx)]

/-! ## Collected entries -/

namespace Entries

variable {κ α : Type} [BEq κ]

/-- One more entry is put after the ones collected before it. -/
theorem collect_concat (es : List (κ × α)) (e : κ × α) :
    collect (es ++ [e]) = put e.1 e.2 (collect es) := by
  rw [collect, List.foldl_append]
  rfl

variable [LawfulBEq κ]

/-- **Places.**  Collected keys stand in the order of their first occurrence. -/
theorem keys_collect (es : List (κ × α)) : keys (collect es) = (keys es).eraseDups := by
  induction es using List.reverseRecOn with
  | nil => rfl
  | append_singleton es e ih =>
      have hkeys : keys (es ++ [e]) = keys es ++ [e.1] := List.map_append
      rw [collect_concat, hkeys, List.eraseDups_append, ← ih]
      have hcollected : e.1 ∈ keys (collect es) ↔ e.1 ∈ keys es := by
        rw [ih]
        exact List.mem_eraseDups
      by_cases hmem : e.1 ∈ keys es
      · rw [keys_put_of_mem (hcollected.2 hmem)]
        simp [List.removeAll, hmem]
      · rw [keys_put_of_not_mem (hcollected.not.2 hmem)]
        simp [List.removeAll, hmem, List.eraseDups_cons]

/-- **Values.**  What is collected under a key is the last value given there. -/
theorem lookup_collect (es : List (κ × α)) (k : κ) :
    (collect es).lookup k = es.reverse.lookup k := by
  induction es using List.reverseRecOn with
  | nil => rfl
  | append_singleton es e ih =>
      rw [collect_concat, lookup_put, ih, List.reverse_append, List.reverse_singleton,
        List.singleton_append, List.lookup_cons]
      cases k == e.1 <;> rfl

/-- Nothing is found from behind exactly under the keys that are not given. -/
theorem lookup_reverse_eq_none_iff {es : List (κ × α)} {k : κ} :
    es.reverse.lookup k = none ↔ k ∉ keys es := by
  rw [List.lookup_eq_none_iff, keys, List.mem_map]
  constructor
  · rintro hall ⟨e, he, rfl⟩
    simpa using hall e (List.mem_reverse.2 he)
  · intro hnot e he
    rw [bne_iff_ne]
    rintro rfl
    exact hnot ⟨e, List.mem_reverse.1 he, rfl⟩

/-- What is found from behind under a key is the last value given there: no later entry has that
key. -/
theorem lookup_reverse_eq_some_iff {es : List (κ × α)} {k : κ} {v : α} :
    es.reverse.lookup k = some v ↔
      ∃ earlier later, es = earlier ++ (k, v) :: later ∧ k ∉ keys later := by
  constructor
  · intro h
    obtain ⟨front, back, heq, hfront⟩ := List.lookup_eq_some_iff.1 h
    refine ⟨back.reverse, front.reverse, ?_, ?_⟩
    · rw [← List.reverse_reverse es, heq]
      simp
    · rw [← lookup_reverse_eq_none_iff, List.reverse_reverse, List.lookup_eq_none_iff]
      exact hfront
  · rintro ⟨earlier, later, rfl, hlater⟩
    rw [← lookup_reverse_eq_none_iff] at hlater
    simp [List.lookup_append, hlater]

/-- Entries with distinct keys are known by their keys and by what is found under them. -/
theorem ext_of_lookup {a b : List (κ × α)} (hnd : (keys a).Nodup) (hkeys : keys a = keys b)
    (hlookup : ∀ k ∈ keys a, a.lookup k = b.lookup k) : a = b := by
  -- Such a list is the list of its keys, each with what is found under it.
  have hvalues : ∀ {es : List (κ × α)}, (keys es).Nodup →
      es.map some = (keys es).map fun k => (es.lookup k).map fun v => (k, v) := by
    intro es hes
    rw [keys, List.map_map]
    refine List.map_congr_left fun e he => ?_
    rw [Function.comp_apply, lookup_of_mem hes he]
    rfl
  have hsome : a.map some = b.map some := by
    rw [hvalues hnd, hvalues (hkeys ▸ hnd), ← hkeys]
    exact List.map_congr_left fun k hk => by rw [hlookup k hk]
  exact List.map_injective_iff.2 (Option.some_injective _) hsome

end Entries

/-! ## Entries under numerals -/

namespace Value

/-- The entry is given for `k`: its key is a text that is a numeral for it. -/
def GivenFor (k : Int) (e : Value × Value) : Prop := ∃ s, e.1 = .text s ∧ Text.IsNumeral s k

/-- The value `w` is the last one given for `k`. -/
def LastGiven (es : List (Value × Value)) (k : Int) (w : Value) : Prop :=
  ∃ before e after, es = before ++ e :: after ∧ GivenFor k e ∧ e.2 = w ∧
    ∀ e' ∈ after, ¬ GivenFor k e'

/-- The entries, with their keys read. -/
def KeysRead : List (Value × Value) → List (Int × Value) → Prop :=
  List.Forall₂ fun e r => GivenFor r.1 e ∧ e.2 = r.2

/-- The entries give counts: all their keys are numerals, and the last value given for each id is an
integer that is not negative. -/
structure GivesCounts (es : List (Value × Value)) : Prop where
  keys : ∀ e ∈ es, ∃ k, GivenFor k e
  counts : ∀ k w, LastGiven es k w → ∃ n : Int, w = .int n ∧ 0 ≤ n

section

variable {es : List (Value × Value)} {read : List (Int × Value)} {k : Int} {w : Value}

/-- An entry is given for one id at most. -/
theorem GivenFor.unique {e : Value × Value} {j : Int} (hk : GivenFor k e) (hj : GivenFor j e) :
    k = j := by
  obtain ⟨s, hs, hk⟩ := hk
  obtain ⟨s', hs', hj⟩ := hj
  obtain rfl := Value.text.inj (hs.symm.trans hs')
  exact hk.unique hj

/-- The last value given when one more entry stands in front. -/
theorem lastGiven_cons {e : Value × Value} : LastGiven (e :: es) k w ↔
    LastGiven es k w ∨ (∀ e' ∈ es, ¬ GivenFor k e') ∧ GivenFor k e ∧ e.2 = w := by
  constructor
  · rintro ⟨before, x, after, heq, hx, hw, hafter⟩
    cases before with
    | nil =>
        cases heq
        exact .inr ⟨hafter, hx, hw⟩
    | cons y before =>
        cases heq
        exact .inl ⟨before, x, after, rfl, hx, hw, hafter⟩
  · rintro (⟨before, x, after, rfl, hx, hw, hafter⟩ | ⟨hes, he, hw⟩)
    · exact ⟨e :: before, x, after, rfl, hx, hw, hafter⟩
    · exact ⟨[], e, es, rfl, he, hw, hes⟩

/-- The entries with keys read, as ids. -/
theorem KeysRead.forall₂_ids (h : KeysRead es read) :
    List.Forall₂ (fun e k => GivenFor k e) es (Entries.keys read) :=
  List.forall₂_map_right_iff.2 (h.imp fun _ _ => And.left)

/-- Some entry is given for an id exactly when the id is among those read. -/
theorem exists_givenFor_iff {ids : List Int} (h : List.Forall₂ (fun e k => GivenFor k e) es ids) :
    (∃ e ∈ es, GivenFor k e) ↔ k ∈ ids := by
  induction h with
  | nil => simp
  | cons he _ ih =>
      rw [List.exists_mem_cons_iff, List.mem_cons, ih]
      exact or_congr_left ⟨fun hk => hk.unique he, fun hk => hk ▸ he⟩

/-- Entries that are matched with ids are given for some. -/
theorem givenFor_of_forall₂ {ids : List Int} (h : List.Forall₂ (fun e k => GivenFor k e) es ids) :
    ∀ e ∈ es, ∃ k, GivenFor k e := by
  have hboth := h.imp fun _ k hk => And.intro (Exists.intro k hk) hk
  exact ((List.forall₂_and_left _ _).1 hboth).1

/-- The keys of entries that are all given for some id can be read. -/
theorem exists_keysRead (h : ∀ e ∈ es, ∃ k, GivenFor k e) : ∃ read, KeysRead es read := by
  refine exists_forall₂ fun e he => ?_
  obtain ⟨k, hk⟩ := h e he
  exact ⟨(k, e.2), hk, rfl⟩

/-- The last value given for an id is the one found from behind among those read. -/
theorem lastGiven_iff (h : KeysRead es read) :
    LastGiven es k w ↔ read.reverse.lookup k = some w := by
  induction h with
  | nil =>
      refine iff_of_false ?_ (by simp)
      rintro ⟨before, e, after, heq, -⟩
      simp at heq
  | @cons e r es read he hes ih =>
      have hnone : (∀ e' ∈ es, ¬ GivenFor k e') ↔ read.reverse.lookup k = none := by
        rw [Entries.lookup_reverse_eq_none_iff, ← exists_givenFor_iff (KeysRead.forall₂_ids hes)]
        simp only [not_exists, not_and]
      have hfirst : GivenFor k e ∧ e.2 = w ↔ [r].lookup k = some w := by
        rw [he.2, List.lookup_cons]
        by_cases hk : k = r.1
        · simp [hk, he.1]
        · have hbeq : (k == r.1) = false := beq_eq_false_iff_ne.2 hk
          rw [hbeq]
          exact iff_of_false (fun hg => hk (hg.1.unique he.1)) (by simp)
      rw [lastGiven_cons, ih, hnone, hfirst, List.reverse_cons, List.lookup_append,
        Option.or_eq_some_iff]

end

end Value

/-! ## Tallies -/

namespace Tally

/-- Counted entries with their counts as values. -/
def counted (es : List (Int × Nat)) : List (Int × Value) := es.map fun e => (e.1, .int e.2)

/-- The tally has the values of the entries: the ids in the order in which they are first given, each
with the last value given for it. -/
structure ReadFrom (es : List (Value × Value)) (t : Tally) : Prop where
  keys : ∃ ids, List.Forall₂ (fun e k => Value.GivenFor k e) es ids ∧ t.keys = ids.eraseDups
  counts : ∀ k n, t.get? k = some n ↔ Value.LastGiven es k (.int n)

section

variable {t : Tally}

@[simp] theorem keys_counted (es : List (Int × Nat)) :
    Entries.keys (counted es) = Entries.keys es := by
  rw [counted, Entries.keys, List.map_map]
  rfl

/-- What is found among counted entries. -/
theorem lookup_counted (es : List (Int × Nat)) (k : Int) :
    (counted es).lookup k = (es.lookup k).map fun n : Nat => Value.int n := by
  induction es with
  | nil => rfl
  | cons e rest ih =>
      show ((e.1, Value.int e.2) :: counted rest).lookup k = _
      rw [List.lookup_cons, List.lookup_cons, ih]
      cases k == e.1 <;> rfl

/-- A checked entry has an integer as its key and a count as its value. -/
theorem checkEntry_int_eq_ok_iff {name : String} {k : Int} {v : Value} {c : Int × Nat} :
    checkEntry name (.int k, v) = .ok c ↔ (k, v) = (c.1, .int c.2) := by
  simp only [checkEntry, bind_eq_ok_iff, Value.count_eq_ok_iff, pure_eq_ok, Except.ok.injEq,
    Prod.mk.injEq]
  constructor
  · rintro ⟨n, rfl, rfl⟩
    exact ⟨rfl, rfl⟩
  · rintro ⟨rfl, rfl⟩
    exact ⟨c.2, rfl, rfl⟩

/-- **Checking.**  Entries under distinct integers give the tally whose counts they are. -/
theorem ofEntries_int_eq_ok_iff {name : String} {es : List (Int × Value)}
    (hnd : (Entries.keys es).Nodup) :
    ofEntries name (es.map fun e => (.int e.1, e.2)) = .ok t ↔ es = counted t.entries := by
  have hchecked : ∀ cs : List (Int × Nat),
      (es.map fun e => (Value.int e.1, e.2)).mapM (checkEntry name) = .ok cs ↔
        es = counted cs := by
    intro cs
    simp only [mapM_eq_ok_iff, List.forall₂_map_left_iff, checkEntry_int_eq_ok_iff]
    rw [counted, ← List.forall₂_eq_eq_eq, List.forall₂_map_right_iff]
  simp only [ofEntries, bind_eq_ok_iff, hchecked, pure_eq_ok, Except.ok.injEq]
  constructor
  · rintro ⟨cs, rfl, rfl⟩
    rw [keys_counted] at hnd
    exact congrArg counted (Entries.collect_of_nodup hnd).symm
  · rintro rfl
    exact ⟨t.entries, rfl, Tally.ext (Entries.collect_of_nodup t.nodup)⟩

variable {es : List (Value × Value)} {read : List (Int × Value)}

/-- **Merging.**  A tally has the values of some entries exactly when its counts are what is
collected from them. -/
theorem readFrom_iff (h : Value.KeysRead es read) :
    ReadFrom es t ↔ Entries.collect read = counted t.entries := by
  constructor
  · rintro ⟨⟨ids, hids, hkeys⟩, hcounts⟩
    have hright : Relator.RightUnique fun (e : Value × Value) k => Value.GivenFor k e :=
      fun _ _ _ hk hj => hk.unique hj
    obtain rfl : ids = Entries.keys read := hright.forall₂ hids h.forall₂_ids
    have hcollected : Entries.keys (Entries.collect read) = t.keys :=
      (Entries.keys_collect read).trans hkeys.symm
    refine Entries.ext_of_lookup (Entries.nodup_keys_collect read) ?_ fun k hk => ?_
    · rw [keys_counted]
      exact hcollected
    · rw [hcollected] at hk
      obtain ⟨n, hn⟩ := (mem_keys_iff t k).1 hk
      have hlast := (Value.lastGiven_iff h).1 ((hcounts k n).1 hn)
      rw [Entries.lookup_collect, hlast, lookup_counted, show t.entries.lookup k = some n from hn,
        Option.map_some]
  · intro heq
    refine ⟨⟨Entries.keys read, h.forall₂_ids, ?_⟩, fun k n => ?_⟩
    · rw [← Entries.keys_collect, heq, keys_counted]
      rfl
    · rw [Value.lastGiven_iff h, ← Entries.lookup_collect, heq, lookup_counted,
        Option.map_eq_some_iff]
      constructor
      · intro hn
        exact ⟨n, hn, rfl⟩
      · rintro ⟨n', hn', hint⟩
        rw [Value.int.injEq, Int.natCast_inj] at hint
        exact hint ▸ hn'

/-- The keys of entries with values for a tally can be read. -/
theorem ReadFrom.exists_keysRead (h : ReadFrom es t) : ∃ read, Value.KeysRead es read := by
  obtain ⟨ids, hids, -⟩ := h.keys
  exact Value.exists_keysRead (Value.givenFor_of_forall₂ hids)

/-- A tally has a key exactly when some entry is given for it. -/
theorem ReadFrom.mem_keys_iff (h : ReadFrom es t) (k : Int) :
    k ∈ t.keys ↔ ∃ e ∈ es, Value.GivenFor k e := by
  obtain ⟨ids, hids, hkeys⟩ := h.keys
  rw [Value.exists_givenFor_iff hids, hkeys, List.mem_eraseDups]

/-- The entries with values for a tally are those that give counts. -/
theorem exists_readFrom_iff : (∃ t, ReadFrom es t) ↔ Value.GivesCounts es := by
  constructor
  · rintro ⟨t, ht⟩
    obtain ⟨read, hread⟩ := ht.exists_keysRead
    refine ⟨Value.givenFor_of_forall₂ hread.forall₂_ids, fun k w hw => ?_⟩
    rw [Value.lastGiven_iff hread, ← Entries.lookup_collect, (readFrom_iff hread).1 ht,
      lookup_counted] at hw
    obtain ⟨n, -, rfl⟩ := Option.map_eq_some_iff.1 hw
    exact ⟨n, rfl, Int.natCast_nonneg n⟩
  · rintro ⟨hgiven, hcounts⟩
    obtain ⟨read, hread⟩ := Value.exists_keysRead hgiven
    -- What is collected under a key is the last value given there, so it is a count.
    have hcollected : ∀ e ∈ Entries.collect read, ∃ c : Int × Nat, e = (c.1, .int c.2) := by
      intro e he
      have hlast : Value.LastGiven es e.1 e.2 := by
        rw [Value.lastGiven_iff hread, ← Entries.lookup_collect]
        exact Entries.lookup_of_mem (Entries.nodup_keys_collect read) he
      obtain ⟨n, hn, hnonneg⟩ := hcounts e.1 e.2 hlast
      obtain ⟨c, rfl⟩ := Int.eq_ofNat_of_zero_le hnonneg
      exact ⟨(e.1, c), Prod.ext rfl hn⟩
    obtain ⟨cs, hcs⟩ := exists_forall₂ hcollected
    have heq : Entries.collect read = counted cs := by
      rwa [counted, ← List.forall₂_eq_eq_eq, List.forall₂_map_right_iff]
    have hnd : (Entries.keys cs).Nodup := by
      rw [← keys_counted, ← heq]
      exact Entries.nodup_keys_collect read
    exact ⟨⟨cs, hnd⟩, (readFrom_iff hread).2 heq⟩

end

end Tally

/-! ## Reading snapshots -/

namespace Snapshot

/-- The format of a snapshot: a day, copies, loans and fines, where loans and fines are given for the
same ids. -/
structure HasFormat (v : Value) : Prop where
  day : ∃ n : Int, v.field? "day" = some (.int n) ∧ 0 ≤ n
  copies : ∃ es, v.field? "available_copies" = some (.mapping es) ∧ Value.GivesCounts es
  loans : ∃ es, v.field? "active_loans" = some (.mapping es) ∧ Value.GivesCounts es
  fines : ∃ es, v.field? "outstanding_fines" = some (.mapping es) ∧ Value.GivesCounts es
  sameClasses : ∀ loans fines, v.field? "active_loans" = some (.mapping loans) →
    v.field? "outstanding_fines" = some (.mapping fines) →
    ∀ m, (∃ e ∈ loans, Value.GivenFor m e) ↔ ∃ e ∈ fines, Value.GivenFor m e

/-- The snapshot has the values of the document. -/
structure ReadFrom (v : Value) (s : Snapshot) : Prop where
  day : v.field? "day" = some (.int s.day)
  copies : ∃ es, v.field? "available_copies" = some (.mapping es) ∧ s.copies.ReadFrom es
  loans : ∃ es, v.field? "active_loans" = some (.mapping es) ∧ s.loans.ReadFrom es
  fines : ∃ es, v.field? "outstanding_fines" = some (.mapping es) ∧ s.fines.ReadFrom es

variable {v w : Value} {s : Snapshot}

/-- A text is read as an integer exactly when it is a numeral for it. -/
theorem keyInteger_text_eq_ok_iff {text : String} {k : Int} :
    (Value.text text).keyInteger = .ok k ↔ Text.IsNumeral text k := by
  rw [← Text.readInt?_eq_some_iff, Value.keyInteger]
  cases Text.readInt? text <;> simp

/-- The entry of a JSON mapping, with its key read. -/
theorem readEntry_eq_ok_iff {e : Value × Value} (he : ∃ text, e.1 = .text text)
    {r : Int × Value} :
    (do return (← e.1.keyInteger, e.2) : Except Fault (Int × Value)) = .ok r ↔
      Value.GivenFor r.1 e ∧ e.2 = r.2 := by
  obtain ⟨text, hkey⟩ := he
  have hgiven : Value.GivenFor r.1 e ↔ Text.IsNumeral text r.1 := by
    constructor
    · rintro ⟨text', hkey', hr⟩
      obtain rfl := Value.text.inj (hkey.symm.trans hkey')
      exact hr
    · intro hr
      exact ⟨text, hkey, hr⟩
  rw [hgiven, hkey]
  simp only [bind_eq_ok_iff, keyInteger_text_eq_ok_iff, pure_eq_ok, Except.ok.injEq]
  constructor
  · rintro ⟨k, hk, rfl⟩
    exact ⟨hk, rfl⟩
  · rintro ⟨hr, hvalue⟩
    exact ⟨r.1, hr, Prod.ext rfl hvalue⟩

/-- The keys of a JSON mapping are read as the ids for which its entries are given. -/
theorem integerEntries_eq_ok_iff (hw : w.IsJson) {u : Value} :
    integerEntries w = .ok u ↔ ∃ es read, w = .mapping es ∧ Value.KeysRead es read ∧
      u = .mapping ((Entries.collect read).map fun e => (.int e.1, e.2)) := by
  cases hw with
  | @mapping es keys all =>
      have hread : ∀ read, (es.mapM fun e => do return (← e.1.keyInteger, e.2)) =
          (.ok read : Except Fault _) ↔ Value.KeysRead es read := by
        intro read
        rw [mapM_eq_ok_iff]
        exact forall₂_congr_of_mem keys fun e r he => readEntry_eq_ok_iff he
      rw [integerEntries, bind_eq_ok_iff]
      constructor
      · rintro ⟨read, hes, hu⟩
        exact ⟨es, read, rfl, (hread read).1 hes, (Except.ok.inj hu).symm⟩
      · rintro ⟨es', read, heq, hes, rfl⟩
        cases heq
        exact ⟨read, (hread read).2 hes, rfl⟩
  | null | bool | int | float | text | list => simp [integerEntries]

/-- **Fields.**  A field of a JSON value is read and checked as a tally exactly when it is a mapping
with the values of the tally. -/
theorem exists_field_iff (hv : v.IsJson) (name : String) (t : Tally) :
    (∃ w, v.field? name = some w ∧ ∃ u, integerEntries w = .ok u ∧
      ∃ es, u.entries = .ok es ∧ Tally.ofEntries name es = .ok t) ↔
      ∃ es, v.field? name = some (.mapping es) ∧ t.ReadFrom es := by
  constructor
  · rintro ⟨w, hw, u, hu, merged, hmerged, ht⟩
    obtain ⟨es, read, rfl, hread, rfl⟩ := (integerEntries_eq_ok_iff (hv.of_field? hw)).1 hu
    cases hmerged
    rw [Tally.ofEntries_int_eq_ok_iff (Entries.nodup_keys_collect read)] at ht
    exact ⟨es, hw, (Tally.readFrom_iff hread).2 ht⟩
  · rintro ⟨es, hw, ht⟩
    obtain ⟨read, hread⟩ := ht.exists_keysRead
    refine ⟨_, hw, _, (integerEntries_eq_ok_iff (hv.of_field? hw)).2 ⟨es, read, rfl, hread, rfl⟩,
      _, rfl, ?_⟩
    rw [Tally.ofEntries_int_eq_ok_iff (Entries.nodup_keys_collect read)]
    exact (Tally.readFrom_iff hread).1 ht

/-- A snapshot is made from its day and its tallies and from nothing else. -/
theorem make_eq_ok_iff {day copies loans fines : Value} : make day copies loans fines = .ok s ↔
    day = .int s.day ∧
    (∃ es, copies.entries = .ok es ∧ Tally.ofEntries "available_copies" es = .ok s.copies) ∧
    (∃ es, loans.entries = .ok es ∧ Tally.ofEntries "active_loans" es = .ok s.loans) ∧
    ∃ es, fines.entries = .ok es ∧ Tally.ofEntries "outstanding_fines" es = .ok s.fines := by
  simp only [make, bind_eq_ok_iff, Value.count_eq_ok_iff]
  constructor
  · rintro ⟨d, rfl, ec, hec, c, hc, el, hel, l, hl, ef, hef, f, hf, hmade⟩
    split at hmade
    · cases hmade
      exact ⟨rfl, ⟨ec, hec, hc⟩, ⟨el, hel, hl⟩, ef, hef, hf⟩
    · cases hmade
  · rintro ⟨rfl, ⟨ec, hec, hc⟩, ⟨el, hel, hl⟩, ef, hef, hf⟩
    refine ⟨s.day, rfl, ec, hec, _, hc, el, hel, _, hl, ef, hef, _, hf, ?_⟩
    rw [dif_pos (covers_of_mem_iff s.sameClasses)]
    rfl

/-- **Snapshots.**  Of a JSON value the reader gives a snapshot exactly when it has the values of the
document. -/
theorem ofValue_eq_ok_iff (hv : v.IsJson) : ofValue v = .ok s ↔ ReadFrom v s := by
  have hcopies := exists_field_iff hv "available_copies" s.copies
  have hloans := exists_field_iff hv "active_loans" s.loans
  have hfines := exists_field_iff hv "outstanding_fines" s.fines
  simp only [ofValue, bind_eq_ok_iff, Value.field_eq_ok_iff, make_eq_ok_iff]
  constructor
  · rintro ⟨day, hday, wc, hwc, uc, huc, wl, hwl, ul, hul, wf, hwf, uf, huf, rfl, hc, hl, hf⟩
    exact ⟨hday, hcopies.1 ⟨wc, hwc, uc, huc, hc⟩, hloans.1 ⟨wl, hwl, ul, hul, hl⟩,
      hfines.1 ⟨wf, hwf, uf, huf, hf⟩⟩
  · rintro ⟨hday, hc, hl, hf⟩
    obtain ⟨wc, hwc, uc, huc, hc⟩ := hcopies.2 hc
    obtain ⟨wl, hwl, ul, hul, hl⟩ := hloans.2 hl
    obtain ⟨wf, hwf, uf, huf, hf⟩ := hfines.2 hf
    exact ⟨_, hday, wc, hwc, uc, huc, wl, hwl, ul, hul, wf, hwf, uf, huf, rfl, hc, hl, hf⟩

/-- The documents with values for a snapshot are those in the format. -/
theorem exists_readFrom_iff : (∃ s, ReadFrom v s) ↔ HasFormat v := by
  constructor
  · rintro ⟨s, hday, ⟨ec, hec, hc⟩, ⟨el, hel, hl⟩, ef, hef, hf⟩
    refine ⟨⟨s.day, hday, Int.natCast_nonneg _⟩, ⟨ec, hec, Tally.exists_readFrom_iff.1 ⟨_, hc⟩⟩,
      ⟨el, hel, Tally.exists_readFrom_iff.1 ⟨_, hl⟩⟩,
      ⟨ef, hef, Tally.exists_readFrom_iff.1 ⟨_, hf⟩⟩, ?_⟩
    intro loans fines hloans hfines m
    cases hel.symm.trans hloans
    cases hef.symm.trans hfines
    rw [← hl.mem_keys_iff, ← hf.mem_keys_iff]
    exact s.sameClasses m
  · rintro ⟨⟨n, hday, hn⟩, ⟨ec, hec, hc⟩, ⟨el, hel, hl⟩, ⟨ef, hef, hf⟩, hsame⟩
    obtain ⟨day, rfl⟩ := Int.eq_ofNat_of_zero_le hn
    obtain ⟨copies, hc⟩ := Tally.exists_readFrom_iff.2 hc
    obtain ⟨loans, hl⟩ := Tally.exists_readFrom_iff.2 hl
    obtain ⟨fines, hf⟩ := Tally.exists_readFrom_iff.2 hf
    have hclasses : ∀ m, m ∈ loans.keys ↔ m ∈ fines.keys := by
      intro m
      rw [hl.mem_keys_iff, hf.mem_keys_iff]
      exact hsame el ef hel hef m
    exact ⟨⟨day, copies, loans, fines, hclasses⟩, hday, ⟨ec, hec, hc⟩, ⟨el, hel, hl⟩, ef, hef, hf⟩

/-- **The format of snapshots.**  A JSON value is read as a snapshot exactly when it has the format:
a day, three mappings under numerals in which the last value given for each id is a count, and loans
and fines for the same ids.  The snapshot lists the ids in the order in which they are first given,
each with the last value given for it. -/
theorem ofValue_merges_keys (v : Value) (hv : v.IsJson) :
    ((∃ s, ofValue v = .ok s) ↔ HasFormat v) ∧ ∀ s, ofValue v = .ok s ↔ ReadFrom v s := by
  refine ⟨?_, fun s => ofValue_eq_ok_iff hv⟩
  simp only [ofValue_eq_ok_iff hv]
  exact exists_readFrom_iff

/-- A document in which entries fall together: `3` and `03`, and `-7` and `-0_7` with a blank after
it.  What is given first for these two ids is no count. -/
def mergingDocument : Value :=
  .record
    [("active_loans", .record [("3", .bool true), (" +1_0", .int 4), ("03", .int 2)]),
      ("outstanding_fines", .record [("10", .int 0), ("٣", .int 75)]),
      ("available_copies", .record [("-7", .null), ("5", .int 1), ("-0_7 ", .int 0)]),
      ("day", .int 12)]

/-- The snapshot of that document. -/
def mergedSnapshot : Snapshot where
  day := 12
  copies := ⟨[(-7, 0), (5, 1)], by decide⟩
  loans := ⟨[(3, 2), (10, 4)], by decide⟩
  fines := ⟨[(10, 0), (3, 75)], by decide⟩
  sameClasses := by
    intro m
    simp [Tally.keys, or_comm]

/-- The document has the format, and each id has the place of its first numeral and the value of its
last. -/
theorem ofValue_merges_keys_mergingDocument :
    mergingDocument.IsJson ∧ ofValue mergingDocument = .ok mergedSnapshot ∧
    HasFormat mergingDocument ∧ ReadFrom mergingDocument mergedSnapshot := by
  have hjson : mergingDocument.IsJson := by
    refine Value.isJson_record ?_
    simp only [List.forall_mem_cons]
    refine ⟨Value.isJson_record ?_, Value.isJson_record ?_, Value.isJson_record ?_, .int _, nofun⟩
    · simp only [List.forall_mem_cons]
      exact ⟨.bool _, .int _, .int _, nofun⟩
    · simp only [List.forall_mem_cons]
      exact ⟨.int _, .int _, nofun⟩
    · simp only [List.forall_mem_cons]
      exact ⟨.null, .int _, .int _, nofun⟩
  have hread : ofValue mergingDocument = .ok mergedSnapshot := rfl
  obtain ⟨haccepts, hreads⟩ := ofValue_merges_keys mergingDocument hjson
  exact ⟨hjson, hread, haccepts.1 ⟨_, hread⟩, (hreads _).1 hread⟩

end Snapshot

end Circulation
