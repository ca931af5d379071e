import Circulation.Proofs.SnapshotFormat
/-!
# Snapshots are read back from their documents

The document of a snapshot has integers as the keys of its mappings.  A JSON document has only texts
as keys, so on the way through one the integers become their decimal texts.  Either way the reader
gives the same snapshot again, with its ids in the same order: decimal texts are numerals, and no two
integers share one, so that no entries fall together.

The key construction is `Value.textKeys`, a value with its integer keys in digits.

The main facts are

* `Snapshot.isJson_textKeys` : with its keys in digits, the document of a snapshot is a JSON value;
* `Snapshot.integerEntries_of_keys` : a tally is read back whatever way its keys are written in, as
  long as each of them is read back;
* `Snapshot.ofValue_restores` : the round trip, with integers and with texts as keys.
-/

namespace Circulation

/-! ## Keys in digits -/

namespace Value

/-- A key as it stands in a JSON document: an integer becomes its decimal text. -/
def keyText : Value → Value
  | .int k => .text (toString k)
  | k => k

mutual

/-- A value with its integer keys in digits. -/
def textKeys : Value → Value
  | .list items => .list (textKeysItems items)
  | .mapping entries => .mapping (textKeysEntries entries)
  | v => v

/-- The items of a list with their integer keys in digits. -/
def textKeysItems : List Value → List Value
  | [] => []
  | v :: rest => textKeys v :: textKeysItems rest

/-- The entries of a mapping with their integer keys in digits. -/
def textKeysEntries : List (Value × Value) → List (Value × Value)
  | [] => []
  | (k, v) :: rest => (keyText k, textKeys v) :: textKeysEntries rest

end

@[simp] theorem textKeys_int (n : Int) : textKeys (.int n) = .int n := by
  simp [textKeys]

/-- The entries of a tally with their keys in digits. -/
theorem textKeysEntries_valueEntries (es : List (Int × Nat)) :
    textKeysEntries (Tally.valueEntries es) =
      es.map fun e => (.text (toString e.1), .int e.2) := by
  induction es with
  | nil => rfl
  | cons e rest ih =>
      show (keyText (.int e.1), textKeys (.int e.2)) :: textKeysEntries (Tally.valueEntries rest) =
        _
      rw [ih, textKeys_int]
      rfl

/-- A tally as a mapping with its keys in digits. -/
theorem textKeys_tally (t : Tally) :
    textKeys t.toValue = .mapping (t.entries.map fun e => (.text (toString e.1), .int e.2)) := by
  show textKeys (.mapping (Tally.valueEntries t.entries)) = _
  rw [textKeys, textKeysEntries_valueEntries]

/-- A mapping of counts under decimal texts is a JSON value. -/
theorem isJson_counts (es : List (Int × Nat)) :
    (Value.mapping (es.map fun e => (.text (toString e.1), .int e.2))).IsJson := by
  refine .mapping (fun e he => ?_) (fun e he => ?_)
  · obtain ⟨c, -, rfl⟩ := List.mem_map.1 he
    exact ⟨toString c.1, rfl⟩
  · obtain ⟨c, -, rfl⟩ := List.mem_map.1 he
    exact .int _

end Value

/-! ## Reading back -/

namespace Snapshot

/-- The document of a snapshot with its keys in digits. -/
theorem textKeys_toValue (s : Snapshot) : s.toValue.textKeys =
    .record
      [("day", .int s.day), ("available_copies", s.copies.toValue.textKeys),
        ("active_loans", s.loans.toValue.textKeys),
        ("outstanding_fines", s.fines.toValue.textKeys)] := by
  simp [toValue, Value.record, Value.textKeys, Value.textKeysEntries, Value.keyText]

/-- With its keys in digits, the document of a snapshot is a JSON value. -/
theorem isJson_textKeys (s : Snapshot) : s.toValue.textKeys.IsJson := by
  rw [textKeys_toValue]
  refine Value.isJson_record ?_
  simp only [List.forall_mem_cons, Value.textKeys_tally]
  exact ⟨.int _, Value.isJson_counts _, Value.isJson_counts _, Value.isJson_counts _, nofun⟩

/-- **Mappings.**  The keys of a tally may be written in any way that is read back: no two of them
fall together, so the tally is read with its entries in their order. -/
theorem integerEntries_of_keys {key : Int → Value} (hkey : ∀ k, (key k).keyInteger = .ok k)
    (t : Tally) :
    integerEntries (.mapping (t.entries.map fun e => (key e.1, .int e.2))) = .ok t.toValue := by
  have hread : (t.entries.map fun e => (key e.1, Value.int e.2)).mapM
      (fun e => do return (← e.1.keyInteger, e.2)) =
        (.ok (Tally.counted t.entries) : Except Fault _) := by
    rw [mapM_eq_ok_iff, Tally.counted, List.forall₂_map_left_iff, List.forall₂_map_right_iff,
      List.forall₂_same]
    intro e _
    rw [hkey]
    rfl
  have hdistinct : Entries.collect (Tally.counted t.entries) = Tally.counted t.entries := by
    apply Entries.collect_of_nodup
    rw [Tally.keys_counted]
    exact t.nodup
  rw [integerEntries, hread, ok_bind_eq, hdistinct, Tally.counted, List.map_map]
  rfl

/-- A snapshot is read from its fields when their keys are read back. -/
theorem ofValue_of_keys {key : Int → Value} (hkey : ∀ k, (key k).keyInteger = .ok k)
    (s : Snapshot) :
    ofValue (.record
      [("day", .int s.day),
        ("available_copies", .mapping (s.copies.entries.map fun e => (key e.1, .int e.2))),
        ("active_loans", .mapping (s.loans.entries.map fun e => (key e.1, .int e.2))),
        ("outstanding_fines", .mapping (s.fines.entries.map fun e => (key e.1, .int e.2)))]) =
      .ok s := by
  have hmake : make (.int s.day) s.copies.toValue s.loans.toValue s.fines.toValue = .ok s :=
    make_toValue s s.day
  simpa [ofValue, Value.record, Value.field, List.lookup_cons, Value.text_beq_text,
    integerEntries_of_keys hkey] using hmake

/-- **The round trip.**  Every snapshot is read back from its document, with its ids in the same
order, and so it is when the ids have become decimal texts on the way through a JSON document. -/
theorem ofValue_restores (s : Snapshot) :
    ofValue s.toValue = .ok s ∧
    s.toValue.textKeys.IsJson ∧ ofValue s.toValue.textKeys = .ok s := by
  refine ⟨ofValue_of_keys Value.keyInteger_int s, isJson_textKeys s, ?_⟩
  have hkey : ∀ k : Int, (Value.text (toString k)).keyInteger = .ok k := by
    intro k
    rw [keyInteger_text_eq_ok_iff]
    exact Text.isNumeral_toString k
  rw [textKeys_toValue, Value.textKeys_tally, Value.textKeys_tally, Value.textKeys_tally]
  exact ofValue_of_keys hkey s

end Snapshot

end Circulation
