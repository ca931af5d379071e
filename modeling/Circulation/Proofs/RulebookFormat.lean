import Circulation.Proofs.Computation
import Circulation.Proofs.Tally
import Circulation.Rulebook
/-!
# The format of rulebook documents

A rulebook is read from a value of any shape.  Its lists may be missing or be no lists, its entries
may be no mappings, and numbers may be truth values, fractions or out of range; texts and mappings have
elements too, and a label that is there but nothing is not the same as a label that is missing.  This
module says which JSON values are read as rulebooks and which rulebook each of them gives.

The format is stated without the readers, as `Rulebook.HasFormat`; what a document gives, as
`Rulebook.ReadFrom`.  Two numbers stand in for what a document may leave out: the id in digits for a
label, and the standard fee.

The key constructions are

* `Value.IsJson` : a value that a JSON document can hold;
* `TitleRule.HasFormat`, `ClassRule.HasFormat`, `Rulebook.HasFormat` : the format;
* `TitleRule.ReadFrom`, `ClassRule.ReadFrom`, `Rulebook.ReadFrom` : the values of a document.

The main facts are

* `mapM_eq_ok_iff` : reading a list is reading each of its items;
* `TitleRule.ofValue_eq_ok_iff`, `ClassRule.ofValue_eq_ok_iff`, `Rulebook.ofValue_eq_ok_iff` : a
  reader gives exactly the values of the document;
* `Rulebook.exists_readFrom_iff` : the documents with values for a rulebook are those in the format;
* `Rulebook.ofValue_accepts_format` : acceptance, values and the round trip.
-/

namespace Circulation

/-! ## Lists of readings -/

section

variable {ε α β : Type}

/-- A list is read exactly when each of its items is. -/
theorem mapM_eq_ok_iff {f : α → Except ε β} {items : List α} {rs : List β} :
    items.mapM f = .ok rs ↔ List.Forall₂ (fun a r => f a = .ok r) items rs := by
  induction items generalizing rs with
  | nil =>
      rw [List.mapM_nil, List.forall₂_nil_left_iff, pure_eq_ok, Except.ok.injEq]
      exact eq_comm
  | cons a rest ih =>
      rw [List.mapM_cons, bind_eq_ok_iff, List.forall₂_cons_left_iff]
      simp only [bind_eq_ok_iff, ih, pure_eq_ok, Except.ok.injEq]
      constructor
      · rintro ⟨r, hr, rs', hrs, rfl⟩
        exact ⟨r, rs', hr, hrs, rfl⟩
      · rintro ⟨r, rs', hr, hrs, rfl⟩
        exact ⟨r, hr, rs', hrs, rfl⟩

/-- Partners for each item make a list of partners. -/
theorem exists_forall₂ {R : α → β → Prop} {items : List α} (h : ∀ a ∈ items, ∃ r, R a r) :
    ∃ rs, List.Forall₂ R items rs := by
  induction items with
  | nil => exact ⟨[], .nil⟩
  | cons a rest ih =>
      obtain ⟨r, hr⟩ := h a List.mem_cons_self
      obtain ⟨rs, hrs⟩ := ih fun x hx => h x (List.mem_cons_of_mem _ hx)
      exact ⟨r :: rs, .cons hr hrs⟩

end

/-! ## JSON values -/

namespace Value

/-- A value that a JSON document can hold: all keys of its mappings are texts. -/
inductive IsJson : Value → Prop
  | null : IsJson .null
  | bool (b : Bool) : IsJson (.bool b)
  | int (n : Int) : IsJson (.int n)
  | float (x : Float) : IsJson (.float x)
  | text (s : String) : IsJson (.text s)
  | list {items : List Value} (all : ∀ v ∈ items, IsJson v) : IsJson (.list items)
  | mapping {entries : List (Value × Value)} (keys : ∀ e ∈ entries, ∃ s, e.1 = .text s)
      (all : ∀ e ∈ entries, IsJson e.2) : IsJson (.mapping entries)

section

variable {v w : Value} {name : String}

/-- What is found in a list of entries is the value of one of them. -/
theorem exists_mem_of_lookup {entries : List (Value × Value)} {key : Value}
    (h : entries.lookup key = some w) : ∃ e ∈ entries, e.2 = w := by
  induction entries with
  | nil => cases h
  | cons e rest ih =>
      rw [List.lookup_cons] at h
      cases hkey : key == e.1 with
      | true =>
          rw [hkey] at h
          exact ⟨e, List.mem_cons_self, Option.some.inj h⟩
      | false =>
          rw [hkey] at h
          obtain ⟨e', he', hw⟩ := ih h
          exact ⟨e', List.mem_cons_of_mem _ he', hw⟩

/-- The fields of a JSON value are JSON values. -/
theorem IsJson.of_field? (hv : v.IsJson) (h : v.field? name = some w) : w.IsJson := by
  cases hv with
  | mapping keys all =>
      obtain ⟨e, he, rfl⟩ := exists_mem_of_lookup h
      exact all e he
  | null | bool | int | float | text | list => cases h

/-- A mapping with named fields is a JSON value when its fields are. -/
theorem isJson_record {fields : List (String × Value)} (h : ∀ f ∈ fields, f.2.IsJson) :
    (record fields).IsJson := by
  refine .mapping (fun e he => ?_) (fun e he => ?_)
  · obtain ⟨f, -, rfl⟩ := List.mem_map.1 he
    exact ⟨f.1, rfl⟩
  · obtain ⟨f, hf, rfl⟩ := List.mem_map.1 he
    exact h f hf

/-- A field is fetched exactly when it is there. -/
theorem field_eq_ok_iff : v.field name = .ok w ↔ v.field? name = some w := by
  cases v with
  | mapping entries => cases h : entries.lookup (.text name) <;> simp [field, field?, h]
  | null | bool | int | float | text | list => simp [field, field?]

/-- A JSON value with an element that has fields is a list: the elements of texts and mappings are
texts. -/
theorem IsJson.eq_list_of_elements (hv : v.IsJson) {items : List Value}
    (h : v.elements = .ok items) {item : Value} (hitem : item ∈ items)
    (hfield : item.field? name = some w) : v = .list items := by
  cases hv with
  | list all =>
      cases h
      rfl
  | text s =>
      -- The elements of a text are its characters, as texts, and those have no fields.
      cases h
      obtain ⟨c, -, rfl⟩ := List.mem_map.1 hitem
      cases hfield
  | mapping keys all =>
      -- The elements of a mapping are its keys, which are texts in JSON.
      cases h
      obtain ⟨e, he, rfl⟩ := List.mem_map.1 hitem
      obtain ⟨s, hs⟩ := keys e he
      rw [hs] at hfield
      cases hfield
  | null | bool | int | float => cases h

/-! ## Checked values -/

/-- The counts are the integers that are not negative. -/
theorem count_eq_ok_iff {subject : Subject} {n : Nat} :
    count subject v = .ok n ↔ v = .int n := by
  cases v with
  | int i =>
      rw [count, Value.int.injEq]
      by_cases hi : 0 ≤ i
      · rw [if_pos hi, Except.ok.injEq]
        omega
      · rw [if_neg hi]
        exact iff_of_false (by simp) (by omega)
  | null | bool | float | text | list | mapping => simp [count]

/-- The ids are the integers from 1 to 99. -/
theorem entityId_eq_ok_iff {id : { n : Int // 1 ≤ n ∧ n ≤ 99 }} :
    entityId name v = .ok id ↔ v = .int id.1 := by
  obtain ⟨n, hn⟩ := id
  cases v with
  | int i =>
      rw [entityId, Value.int.injEq]
      by_cases hi : 1 ≤ i ∧ i ≤ 99
      · rw [dif_pos hi, Except.ok.injEq, Subtype.mk.injEq]
      · rw [dif_neg hi]
        refine iff_of_false (by simp) ?_
        rintro rfl
        exact hi hn
  | null | bool | float | text | list | mapping => simp [entityId]

/-- An integer that is not negative is written with at least one digit. -/
theorem toString_ne_empty {n : Int} (h : 0 ≤ n) : toString n ≠ "" := by
  obtain ⟨k, rfl⟩ := Int.eq_ofNat_of_zero_le h
  exact Nat.repr_ne_empty

end

end Value

/-! ## Title rules -/

namespace TitleRule

/-- The format of a title: an id from 1 to 99, a number of copies, and a label that is missing or a
text that is not empty. -/
structure HasFormat (v : Value) : Prop where
  id : ∃ n : Int, v.field? "title_id" = some (.int n) ∧ 1 ≤ n ∧ n ≤ 99
  copies : ∃ n : Int, v.field? "initial_copies" = some (.int n) ∧ 0 ≤ n
  label : ∀ w, v.field? "label" = some w → ∃ s, w = .text s ∧ s ≠ ""

/-- The rule has the values of the document; a missing label is the id in digits. -/
structure ReadFrom (v : Value) (r : TitleRule) : Prop where
  id : v.field? "title_id" = some (.int r.id)
  label : v.field? "label" = some (.text r.label) ∨
    v.field? "label" = none ∧ r.label = toString r.id
  copies : v.field? "initial_copies" = some (.int r.copies)

variable {v : Value} {r : TitleRule}

/-- The labels are the texts that are not empty. -/
theorem checkLabel_eq_ok_iff {label : { s : String // s ≠ "" }} :
    checkLabel v = .ok label ↔ v = .text label.1 := by
  obtain ⟨s, hs⟩ := label
  cases v with
  | text s' =>
      rw [checkLabel, Value.text.injEq]
      by_cases hs' : s' ≠ ""
      · rw [dif_pos hs', Except.ok.injEq, Subtype.mk.injEq]
      · rw [dif_neg hs']
        refine iff_of_false (by simp) ?_
        rintro rfl
        exact hs' hs
  | null | bool | int | float | list | mapping => simp [checkLabel]

/-- A title rule is built from its parts and from nothing else. -/
theorem make_eq_ok_iff {id label copies : Value} : make id label copies = .ok r ↔
    id = .int r.id ∧ label = .text r.label ∧ copies = .int r.copies := by
  constructor
  · intro h
    simp only [make, bind_eq_ok_iff] at h
    obtain ⟨⟨i, hi⟩, hid, ⟨l, hl⟩, hlabel, c, hc, heq⟩ := h
    cases heq
    exact ⟨Value.entityId_eq_ok_iff.1 hid, checkLabel_eq_ok_iff.1 hlabel,
      Value.count_eq_ok_iff.1 hc⟩
  · rintro ⟨rfl, rfl, rfl⟩
    exact make_parts r

/-- **Titles.**  The reader gives a rule exactly when it has the values of the document. -/
theorem ofValue_eq_ok_iff : ofValue v = .ok r ↔ ReadFrom v r := by
  simp only [ofValue, bind_eq_ok_iff, Value.field_eq_ok_iff, make_eq_ok_iff]
  constructor
  · rintro ⟨id, hid, copies, hcopies, rfl, hlabel, rfl⟩
    refine ⟨hid, ?_, hcopies⟩
    cases hl : v.field? "label" with
    | some w =>
        rw [hl, Option.getD_some] at hlabel
        exact .inl (congrArg some hlabel)
    | none =>
        rw [hl, Option.getD_none, Value.display_int, Value.text.injEq] at hlabel
        exact .inr ⟨rfl, hlabel.symm⟩
  · rintro ⟨hid, hlabel, hcopies⟩
    refine ⟨_, hid, _, hcopies, rfl, ?_, rfl⟩
    rcases hlabel with hl | ⟨hl, hdigits⟩
    · rw [hl, Option.getD_some]
    · rw [hl, Option.getD_none, Value.display_int, hdigits]

/-- The documents with values for a title rule are those in the format. -/
theorem exists_readFrom_iff : (∃ r, ReadFrom v r) ↔ HasFormat v := by
  constructor
  · rintro ⟨r, hid, hlabel, hcopies⟩
    refine ⟨⟨r.id, hid, r.id_range⟩, ⟨r.copies, hcopies, Int.natCast_nonneg _⟩, ?_⟩
    intro w hw
    rcases hlabel with hl | ⟨hl, -⟩
    · rw [hl, Option.some_inj] at hw
      exact ⟨r.label, hw.symm, r.label_ne⟩
    · cases hl.symm.trans hw
  · rintro ⟨⟨n, hid, hrange⟩, ⟨c, hcopies, hc⟩, hlabel⟩
    obtain ⟨copies, rfl⟩ := Int.eq_ofNat_of_zero_le hc
    -- A label that is there has to be good; the digits of an id always are.
    cases hl : v.field? "label" with
    | some w =>
        obtain ⟨s, rfl, hs⟩ := hlabel w hl
        exact ⟨⟨n, s, copies, hrange, hs⟩, hid, .inl hl, hcopies⟩
    | none =>
        have hdigits : toString n ≠ "" := Value.toString_ne_empty (by omega)
        exact ⟨⟨n, toString n, copies, hrange, hdigits⟩, hid, .inr ⟨hl, rfl⟩, hcopies⟩

end TitleRule

/-! ## Class rules -/

namespace ClassRule

/-- The format of a member class: an id from 1 to 99, a loan limit and a fine ceiling. -/
structure HasFormat (v : Value) : Prop where
  id : ∃ n : Int, v.field? "member_class" = some (.int n) ∧ 1 ≤ n ∧ n ≤ 99
  loanLimit : ∃ n : Int, v.field? "loan_limit" = some (.int n) ∧ 0 ≤ n
  fineCeiling : ∃ n : Int, v.field? "fine_ceiling" = some (.int n) ∧ 0 ≤ n

/-- The rule has the values of the document. -/
structure ReadFrom (v : Value) (r : ClassRule) : Prop where
  id : v.field? "member_class" = some (.int r.id)
  loanLimit : v.field? "loan_limit" = some (.int r.loanLimit)
  fineCeiling : v.field? "fine_ceiling" = some (.int r.fineCeiling)

variable {v : Value} {r : ClassRule}

/-- A class rule is built from its parts and from nothing else. -/
theorem make_eq_ok_iff {id loanLimit fineCeiling : Value} :
    make id loanLimit fineCeiling = .ok r ↔
      id = .int r.id ∧ loanLimit = .int r.loanLimit ∧ fineCeiling = .int r.fineCeiling := by
  constructor
  · intro h
    simp only [make, bind_eq_ok_iff] at h
    obtain ⟨⟨i, hi⟩, hid, l, hl, c, hc, heq⟩ := h
    cases heq
    exact ⟨Value.entityId_eq_ok_iff.1 hid, Value.count_eq_ok_iff.1 hl, Value.count_eq_ok_iff.1 hc⟩
  · rintro ⟨rfl, rfl, rfl⟩
    exact make_parts r

/-- **Member classes.**  The reader gives a rule exactly when it has the values of the document. -/
theorem ofValue_eq_ok_iff : ofValue v = .ok r ↔ ReadFrom v r := by
  simp only [ofValue, bind_eq_ok_iff, Value.field_eq_ok_iff, make_eq_ok_iff]
  constructor
  · rintro ⟨id, hid, loanLimit, hl, fineCeiling, hf, rfl, rfl, rfl⟩
    exact ⟨hid, hl, hf⟩
  · rintro ⟨hid, hl, hf⟩
    exact ⟨_, hid, _, hl, _, hf, rfl, rfl, rfl⟩

/-- The documents with values for a class rule are those in the format. -/
theorem exists_readFrom_iff : (∃ r, ReadFrom v r) ↔ HasFormat v := by
  constructor
  · rintro ⟨r, hid, hl, hf⟩
    exact ⟨⟨r.id, hid, r.id_range⟩, ⟨r.loanLimit, hl, Int.natCast_nonneg _⟩,
      ⟨r.fineCeiling, hf, Int.natCast_nonneg _⟩⟩
  · rintro ⟨⟨n, hid, hrange⟩, ⟨l, hl, hl0⟩, f, hf, hf0⟩
    obtain ⟨loanLimit, rfl⟩ := Int.eq_ofNat_of_zero_le hl0
    obtain ⟨fineCeiling, rfl⟩ := Int.eq_ofNat_of_zero_le hf0
    exact ⟨⟨n, loanLimit, fineCeiling, hrange⟩, hid, hl, hf⟩

end ClassRule

/-! ## Lists of rules -/

namespace Value

/-- The field is a list of documents in some format, which is not empty and in which no id occurs
twice. -/
def ListsRules (name idName : String) (format : Value → Prop) (v : Value) : Prop :=
  ∃ items, v.field? name = some (.list items) ∧ items ≠ [] ∧ (∀ t ∈ items, format t) ∧
    (items.map fun t => t.field? idName).Nodup

section

variable {α : Type} {idName : String} {v : Value}

/-- In a JSON value the elements of a field are read as rules exactly when the field is a list of
documents for them. -/
theorem IsJson.exists_elements_iff (hv : v.IsJson) (name : String) {read : Value → Except Fault α}
    {R : Value → α → Prop} (hread : ∀ {t r}, read t = .ok r ↔ R t r)
    (hid : ∀ {t r}, R t r → ∃ w, t.field? idName = some w) {rules : List α} (hne : rules ≠ []) :
    (∃ w, v.field? name = some w ∧ ∃ items, w.elements = .ok items ∧ items.mapM read = .ok rules) ↔
      ∃ items, v.field? name = some (.list items) ∧ List.Forall₂ R items rules := by
  simp only [mapM_eq_ok_iff, hread]
  constructor
  · rintro ⟨w, hw, items, helements, hrules⟩
    -- There is a first rule, so there is a first document, and that has fields.
    cases hrules with
    | nil => exact absurd rfl hne
    | cons hfirst hrest =>
        obtain ⟨w', hw'⟩ := hid hfirst
        have hlist := (hv.of_field? hw).eq_list_of_elements helements List.mem_cons_self hw'
        rw [hlist] at hw
        exact ⟨_, hw, .cons hfirst hrest⟩
  · rintro ⟨items, hw, hrules⟩
    exact ⟨_, hw, items, rfl, hrules⟩

/-- The lists of documents with distinct ids are those that give rules with distinct ids. -/
theorem listsRules_iff (v : Value) (name : String) {format : Value → Prop} {R : Value → α → Prop}
    {id : α → Int} (hformat : ∀ {t}, (∃ r, R t r) ↔ format t)
    (hid : ∀ {t r}, R t r → t.field? idName = some (.int (id r))) :
    v.ListsRules name idName format ↔ ∃ items rules, v.field? name = some (.list items) ∧
      List.Forall₂ R items rules ∧ rules ≠ [] ∧ (rules.map id).Nodup := by
  have hids : ∀ {items : List Value} {rules : List α}, List.Forall₂ R items rules →
      ((items.map fun t => t.field? idName).Nodup ↔ (rules.map id).Nodup) := by
    intro items rules hrules
    have hmap : (items.map fun t => t.field? idName) =
        (rules.map id).map fun n => some (Value.int n) := by
      rw [List.map_map, ← List.forall₂_eq_eq_eq, List.forall₂_map_left_iff,
        List.forall₂_map_right_iff]
      exact hrules.imp fun t r => hid
    rw [hmap]
    exact List.nodup_map_iff fun m n h => Value.int.inj (Option.some.inj h)
  constructor
  · rintro ⟨items, hfield, hne, hall, hnodup⟩
    obtain ⟨rules, hrules⟩ := exists_forall₂ fun t ht => hformat.2 (hall t ht)
    refine ⟨items, rules, hfield, hrules, ?_, (hids hrules).1 hnodup⟩
    rintro rfl
    exact hne (List.forall₂_nil_right_iff.1 hrules)
  · rintro ⟨items, rules, hfield, hrules, hne, hnodup⟩
    refine ⟨items, hfield, ?_, ?_, (hids hrules).2 hnodup⟩
    · rintro rfl
      exact hne (List.forall₂_nil_left_iff.1 hrules)
    · exact ((List.forall₂_and_left _ _).1
        (hrules.imp fun t r h => And.intro (hformat.1 ⟨r, h⟩) h)).1

end

end Value

/-! ## Rulebooks -/

namespace Rulebook

/-- The format of a rulebook: a list of titles and one of member classes, neither of them empty and
each with distinct ids, and a fee that is missing or not negative. -/
structure HasFormat (v : Value) : Prop where
  titles : v.ListsRules "titles" "title_id" TitleRule.HasFormat
  classes : v.ListsRules "member_classes" "member_class" ClassRule.HasFormat
  fee : ∀ w, v.field? "late_fee_per_day" = some w → ∃ n : Int, w = .int n ∧ 0 ≤ n

/-- The rulebook has the rules of the document in their order, and its fee; a missing fee is 75. -/
structure ReadFrom (v : Value) (b : Rulebook) : Prop where
  titles : ∃ items, v.field? "titles" = some (.list items) ∧
    List.Forall₂ TitleRule.ReadFrom items b.titles
  classes : ∃ items, v.field? "member_classes" = some (.list items) ∧
    List.Forall₂ ClassRule.ReadFrom items b.classes
  fee : v.field? "late_fee_per_day" = some (.int b.lateFee) ∨
    v.field? "late_fee_per_day" = none ∧ b.lateFee = 75

variable {v : Value} {b : Rulebook}

/-- A list that holds nothing but rules gives all of them. -/
theorem allRules_map_some {α : Type} (trait : String) (rules : List α) :
    allRules trait (rules.map some) = .ok ⟨rules, (List.length_map some).symm⟩ := by
  induction rules with
  | nil => rfl
  | cons rule rest ih =>
      show (allRules trait (rest.map some) >>= _) = _
      rw [ih]
      rfl

/-- Assembling rules with distinct ids leaves only the fee to be checked. -/
theorem assemble_of_nodup {titles : List TitleRule} {classes : List ClassRule} (ht : titles ≠ [])
    (hc : classes ≠ []) (htd : (titles.map TitleRule.id).Nodup)
    (hcd : (classes.map ClassRule.id).Nodup) (fee : Value) :
    assemble (titles.map some) (classes.map some) fee =
      (fun n => ⟨titles, classes, n, ht, hc, htd, hcd⟩) <$>
        Value.count (.field "late_fee_per_day") fee := by
  simp only [assemble, allRules_map_some, List.map_eq_nil_iff, ht, hc, htd, hcd, dif_neg, dif_pos,
    not_false_eq_true, ok_bind_eq, map_eq_pure_bind]

/-- A rulebook is assembled from its rules and its fee and from nothing else. -/
theorem assemble_eq_ok_iff {titles : List TitleRule} {classes : List ClassRule} {fee : Value} :
    assemble (titles.map some) (classes.map some) fee = .ok b ↔
      titles = b.titles ∧ classes = b.classes ∧ fee = .int b.lateFee := by
  constructor
  · intro h
    by_cases ht : titles = []
    · simp [assemble, ht] at h
    by_cases hc : classes = []
    · simp [assemble, ht, hc] at h
    by_cases htd : (titles.map TitleRule.id).Nodup
    · by_cases hcd : (classes.map ClassRule.id).Nodup
      · rw [assemble_of_nodup ht hc htd hcd] at h
        obtain ⟨n, hn, rfl⟩ := exists_of_map_eq_ok h
        exact ⟨rfl, rfl, Value.count_eq_ok_iff.1 hn⟩
      · simp [assemble, allRules_map_some, ht, hc, htd, hcd] at h
    · simp [assemble, allRules_map_some, ht, hc, htd] at h
  · rintro ⟨rfl, rfl, rfl⟩
    rw [assemble_of_nodup b.titles_ne b.classes_ne b.titles_nodup b.classes_nodup,
      Value.count_natCast]
    rfl

/-- The fee of a document, or the standard one. -/
theorem fee_getD_eq_iff : (v.field? "late_fee_per_day").getD (.int standardFee) = .int b.lateFee ↔
    v.field? "late_fee_per_day" = some (.int b.lateFee) ∨
      v.field? "late_fee_per_day" = none ∧ b.lateFee = 75 := by
  cases v.field? "late_fee_per_day" with
  | some w => simp
  | none =>
      simp only [Option.getD_none, standardFee, Value.int.injEq, reduceCtorEq, true_and, false_or]
      omega

/-- **Rulebooks.**  Of a JSON value the reader gives a rulebook exactly when it has the values of the
document. -/
theorem ofValue_eq_ok_iff (hv : v.IsJson) : ofValue v = .ok b ↔ ReadFrom v b := by
  have htitles := hv.exists_elements_iff "titles" TitleRule.ofValue_eq_ok_iff
    (fun h => ⟨_, h.id⟩) b.titles_ne
  have hclasses := hv.exists_elements_iff "member_classes" ClassRule.ofValue_eq_ok_iff
    (fun h => ⟨_, h.id⟩) b.classes_ne
  simp only [ofValue, bind_eq_ok_iff, Value.field_eq_ok_iff, assemble_eq_ok_iff]
  constructor
  · rintro ⟨w, hw, items, hitems, titles, ht, w', hw', items', hitems', classes, hc, rfl, rfl, hfee⟩
    exact ⟨htitles.1 ⟨w, hw, items, hitems, ht⟩, hclasses.1 ⟨w', hw', items', hitems', hc⟩,
      fee_getD_eq_iff.1 hfee⟩
  · rintro ⟨ht, hc, hfee⟩
    obtain ⟨w, hw, items, hitems, ht⟩ := htitles.2 ht
    obtain ⟨w', hw', items', hitems', hc⟩ := hclasses.2 hc
    exact ⟨w, hw, items, hitems, _, ht, w', hw', items', hitems', _, hc, rfl, rfl,
      fee_getD_eq_iff.2 hfee⟩

/-- The documents with values for a rulebook are those in the format. -/
theorem exists_readFrom_iff : (∃ b, ReadFrom v b) ↔ HasFormat v := by
  have htitles := Value.listsRules_iff v "titles" TitleRule.exists_readFrom_iff
    TitleRule.ReadFrom.id
  have hclasses := Value.listsRules_iff v "member_classes" ClassRule.exists_readFrom_iff
    ClassRule.ReadFrom.id
  constructor
  · rintro ⟨b, ⟨items, hitems, ht⟩, ⟨items', hitems', hc⟩, hfee⟩
    refine ⟨htitles.2 ⟨items, b.titles, hitems, ht, b.titles_ne, b.titles_nodup⟩,
      hclasses.2 ⟨items', b.classes, hitems', hc, b.classes_ne, b.classes_nodup⟩, ?_⟩
    intro w hw
    rcases hfee with hf | ⟨hf, -⟩
    · rw [hf, Option.some_inj] at hw
      exact ⟨b.lateFee, hw.symm, Int.natCast_nonneg _⟩
    · cases hf.symm.trans hw
  · rintro ⟨ht, hc, hfee⟩
    obtain ⟨items, titles, hitems, ht, hne, hnodup⟩ := htitles.1 ht
    obtain ⟨items', classes, hitems', hc, hne', hnodup'⟩ := hclasses.1 hc
    cases hf : v.field? "late_fee_per_day" with
    | some w =>
        obtain ⟨n, rfl, hn⟩ := hfee w hf
        obtain ⟨fee, rfl⟩ := Int.eq_ofNat_of_zero_le hn
        exact ⟨⟨titles, classes, fee, hne, hne', hnodup, hnodup'⟩, ⟨items, hitems, ht⟩,
          ⟨items', hitems', hc⟩, .inl hf⟩
    | none =>
        exact ⟨⟨titles, classes, 75, hne, hne', hnodup, hnodup'⟩, ⟨items, hitems, ht⟩,
          ⟨items', hitems', hc⟩, .inr ⟨hf, rfl⟩⟩

/-! ## Writing and reading again -/

/-- The document of a rulebook is a JSON value. -/
theorem isJson_toValue (b : Rulebook) : b.toValue.IsJson := by
  have htitles : ∀ w ∈ b.titles.map TitleRule.toValue, w.IsJson := by
    intro w hw
    obtain ⟨r, -, rfl⟩ := List.mem_map.1 hw
    refine Value.isJson_record ?_
    simp only [List.forall_mem_cons]
    exact ⟨.int _, .text _, .int _, nofun⟩
  have hclasses : ∀ w ∈ b.classes.map ClassRule.toValue, w.IsJson := by
    intro w hw
    obtain ⟨r, -, rfl⟩ := List.mem_map.1 hw
    refine Value.isJson_record ?_
    simp only [List.forall_mem_cons]
    exact ⟨.int _, .int _, .int _, nofun⟩
  refine Value.isJson_record ?_
  simp only [List.forall_mem_cons]
  exact ⟨.int _, .list htitles, .list hclasses, nofun⟩

/-- A rulebook has the values of its document. -/
theorem readFrom_toValue (b : Rulebook) : ReadFrom b.toValue b := by
  have htitles : List.Forall₂ TitleRule.ReadFrom (b.titles.map TitleRule.toValue) b.titles :=
    List.forall₂_map_left_iff.2 (List.forall₂_same.2 fun r _ =>
      TitleRule.ofValue_eq_ok_iff.1 r.ofValue_toValue)
  have hclasses : List.Forall₂ ClassRule.ReadFrom (b.classes.map ClassRule.toValue) b.classes :=
    List.forall₂_map_left_iff.2 (List.forall₂_same.2 fun r _ =>
      ClassRule.ofValue_eq_ok_iff.1 r.ofValue_toValue)
  exact ⟨⟨_, rfl, htitles⟩, ⟨_, rfl, hclasses⟩, .inl rfl⟩

/-- A rulebook is read back from its document. -/
theorem ofValue_toValue (b : Rulebook) : ofValue b.toValue = .ok b :=
  (ofValue_eq_ok_iff b.isJson_toValue).2 b.readFrom_toValue

/-- The document of the rulebook that is read from a document: all that was missing is filled in. -/
def normalize (v : Value) : Except Fault Value := toValue <$> ofValue v

/-- **The format of rulebooks.**  A JSON value is read as a rulebook exactly when it has the format,
and the rulebook is the one with its rules in their order and with its values, where a missing label
is the id in digits and a missing fee is 75.  Every rulebook is read back from its own document, so
that filling in what is missing a second time changes nothing. -/
theorem ofValue_accepts_format (v : Value) (hv : v.IsJson) :
    ((∃ b, ofValue v = .ok b) ↔ HasFormat v) ∧
    (∀ b, ofValue v = .ok b ↔ ReadFrom v b) ∧
    (∀ b : Rulebook, ofValue b.toValue = .ok b) ∧
    (normalize v >>= normalize) = normalize v := by
  refine ⟨?_, fun b => ofValue_eq_ok_iff hv, ofValue_toValue, ?_⟩
  · simp only [ofValue_eq_ok_iff hv]
    exact exists_readFrom_iff
  · unfold normalize
    cases ofValue v with
    | error f => rfl
    | ok b => rw [map_ok_eq, ok_bind_eq, ofValue_toValue, map_ok_eq]

/-- A document without a fee, with a title without a label, and with a field that means nothing. -/
def sparseDocument : Value :=
  .record
    [("member_classes", .list [.record
        [("loan_limit", .int 0), ("fine_ceiling", .int 5), ("member_class", .int 7)]]),
      ("titles", .list
        [.record [("title_id", .int 12), ("initial_copies", .int 0)],
          .record [("title_id", .int 40), ("label", .text "red"), ("initial_copies", .int 4),
            ("note", .null)]])]

/-- The rulebook of that document. -/
def sparseRulebook : Rulebook where
  titles := [⟨12, "12", 0, by decide, by decide⟩, ⟨40, "red", 4, by decide, by decide⟩]
  classes := [⟨7, 0, 5, by decide⟩]
  lateFee := 75
  titles_ne := by decide
  classes_ne := by decide
  titles_nodup := by decide
  classes_nodup := by decide

/-- The document has the format, and what it leaves out is filled in. -/
theorem ofValue_accepts_format_sparseDocument :
    sparseDocument.IsJson ∧ ofValue sparseDocument = .ok sparseRulebook ∧
    HasFormat sparseDocument ∧ ReadFrom sparseDocument sparseRulebook ∧
    (normalize sparseDocument >>= normalize) = normalize sparseDocument := by
  have hjson : sparseDocument.IsJson := by
    refine Value.isJson_record ?_
    simp only [List.forall_mem_cons]
    refine ⟨.list ?_, .list ?_, nofun⟩
    · simp only [List.forall_mem_cons]
      refine ⟨Value.isJson_record ?_, nofun⟩
      simp only [List.forall_mem_cons]
      exact ⟨.int _, .int _, .int _, nofun⟩
    · simp only [List.forall_mem_cons]
      refine ⟨Value.isJson_record ?_, Value.isJson_record ?_, nofun⟩
      · simp only [List.forall_mem_cons]
        exact ⟨.int _, .int _, nofun⟩
      · simp only [List.forall_mem_cons]
        exact ⟨.int _, .text _, .int _, .null, nofun⟩
  have hread : ofValue sparseDocument = .ok sparseRulebook := rfl
  obtain ⟨haccepts, hreads, -, hagain⟩ := ofValue_accepts_format sparseDocument hjson
  exact ⟨hjson, hread, haccepts.1 ⟨_, hread⟩, (hreads _).1 hread, hagain⟩

end Rulebook

end Circulation
