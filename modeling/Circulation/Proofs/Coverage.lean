import Circulation.Proofs.Runs
import Circulation.Proofs.WellFormed
/-!
# Snapshots with the ids of a rulebook

The first day of a library holds the titles and the member classes of its rulebook, and no step adds
an id or drops one.  So in every snapshot of a run from the first day the ids are still those of the
rulebook: what is asked about them is answered, and a report finds all that it names.

The key constructions are

* `Snapshot.Fits` : the ids of the snapshot are those of the rulebook, in their order;
* `Snapshot.HasIds` : they are those of the rulebook, in any order;
* `Snapshot.Includes` : those of the rulebook are among them;
* `Report.fields` : the labels of a report, with the numbers shown under them.

The main facts are

* `Step.rebuilds_of_apply` : what a step gives comes from changes through the constructor alone;
* `Scenario.invariant_of_follows` : what every completed step keeps holds wherever a run comes;
* `Scenario.fits_of_follows` : a run keeps the ids of the rulebook;
* `Report.stateLines_of_includes`, `Scenario.exists_reportText` : a snapshot with those ids can be
  reported, and what is reported are its fields.
-/

namespace Circulation

/-! ## The ids of a rulebook -/

namespace Rulebook

variable {b : Rulebook} {m t : Int}

/-- A class has a rule exactly when its id is one of the rulebook's. -/
theorem exists_classRule_iff : (∃ rule, b.classRule (.int m) = .ok rule) ↔ m ∈ b.classIds := by
  rw [classIds, List.mem_map]
  constructor
  · rintro ⟨rule, hrule⟩
    exact ⟨rule, mem_of_classRule hrule, id_of_classRule hrule⟩
  · rintro ⟨rule, hmem, hid⟩
    rw [classRule_int]
    cases hfind : b.classes.find? fun rule => decide (rule.id = m) with
    | none => exact absurd hid (by simpa using List.find?_eq_none.1 hfind rule hmem)
    | some found => exact ⟨found, rfl⟩

/-- The ids of titles run from 1 to 99. -/
theorem titleIds_range (h : t ∈ b.titleIds) : 1 ≤ t ∧ t ≤ 99 := by
  obtain ⟨rule, -, rfl⟩ := List.mem_map.1 h
  exact rule.id_range

end Rulebook

/-! ## Snapshots that fit a rulebook -/

namespace Snapshot

/-- What keeps the keys knows the same classes. -/
theorem Kept.loans_eq_none {s u : Snapshot} (h : s.Kept u) {m : Int} (hm : s.loans.get? m = none) :
    u.loans.get? m = none := by
  rw [Option.eq_none_iff_forall_ne_some] at hm ⊢
  intro n hn
  have hmem : m ∈ s.loans.keys := h.loans ▸ (Tally.mem_keys_iff _ m).2 ⟨n, hn⟩
  obtain ⟨n', hn'⟩ := (Tally.mem_keys_iff _ m).1 hmem
  exact hm n' hn'

/-- The titles and the classes of the snapshot are those of the rulebook. -/
structure Fits (b : Rulebook) (s : Snapshot) : Prop where
  titles : s.copies.keys = b.titleIds
  classes : s.loans.keys = b.classIds

/-- The first day has the ids of the rulebook. -/
theorem fits_opening (b : Rulebook) : (Shelf.opening b).Fits b where
  titles := by simp [Shelf.opening, Tally.keys, Entries.keys, Rulebook.titleIds, Function.comp_def]
  classes := by simp [Shelf.opening, Tally.keys, Entries.keys, Rulebook.classIds, Function.comp_def]

namespace Fits

variable {b : Rulebook} {s u : Snapshot} {t m : Int}

/-- What keeps the keys keeps the ids of the rulebook. -/
theorem of_kept (h : s.Fits b) (hkept : s.Kept u) : u.Fits b :=
  ⟨hkept.copies.trans h.titles, hkept.loans.trans h.classes⟩

/-- The titles with a count of copies are those of the rulebook. -/
theorem exists_copies_iff (h : s.Fits b) : (∃ n, s.copies.get? t = some n) ↔ t ∈ b.titleIds := by
  rw [← Tally.mem_keys_iff, h.titles]

/-- The classes with a count of loans are those of the rulebook. -/
theorem exists_loans_iff (h : s.Fits b) : (∃ n, s.loans.get? m = some n) ↔ m ∈ b.classIds := by
  rw [← Tally.mem_keys_iff, h.classes]

/-- The classes with an amount of fines are those of the rulebook. -/
theorem exists_fines_iff (h : s.Fits b) : (∃ n, s.fines.get? m = some n) ↔ m ∈ b.classIds := by
  rw [← Tally.mem_keys_iff, ← s.sameClasses, h.classes]

/-- A title that is none of the rulebook's has no copies. -/
theorem copies_eq_none (h : s.Fits b) (ht : t ∉ b.titleIds) : s.copies.get? t = none := by
  rw [Option.eq_none_iff_forall_ne_some]
  exact fun n hn => ht (h.exists_copies_iff.1 ⟨n, hn⟩)

/-- A class that is none of the rulebook's has no loans. -/
theorem loans_eq_none (h : s.Fits b) (hm : m ∉ b.classIds) : s.loans.get? m = none := by
  rw [Option.eq_none_iff_forall_ne_some]
  exact fun n hn => hm (h.exists_loans_iff.1 ⟨n, hn⟩)

/-- A class that is none of the rulebook's has no fines. -/
theorem fines_eq_none (h : s.Fits b) (hm : m ∉ b.classIds) : s.fines.get? m = none :=
  (s.loans_get?_eq_none_iff m).1 (h.loans_eq_none hm)

end Fits

/-- The titles and the classes of the snapshot are those of the rulebook, in any order. -/
structure HasIds (b : Rulebook) (s : Snapshot) : Prop where
  titles : ∀ t, t ∈ s.copies.keys ↔ t ∈ b.titleIds
  classes : ∀ m, m ∈ s.loans.keys ↔ m ∈ b.classIds

/-- Ids in the order of the rulebook are ids of the rulebook. -/
theorem Fits.hasIds {b : Rulebook} {s : Snapshot} (h : s.Fits b) : s.HasIds b :=
  ⟨fun t => by rw [h.titles], fun m => by rw [h.classes]⟩

/-- The titles and the classes of the rulebook are in the snapshot, which may have others besides. -/
structure Includes (b : Rulebook) (s : Snapshot) : Prop where
  titles : ∀ t ∈ b.titleIds, t ∈ s.copies.keys
  classes : ∀ m ∈ b.classIds, m ∈ s.loans.keys

/-- A snapshot with the ids of the rulebook includes them. -/
theorem HasIds.includes {b : Rulebook} {s : Snapshot} (h : s.HasIds b) : s.Includes b :=
  ⟨fun t => (h.titles t).2, fun m => (h.classes m).2⟩

namespace Includes

variable {b : Rulebook} {s : Snapshot} {t m : Int}

/-- The copies of a title of the rulebook can be read. -/
theorem copiesOf_eq (h : s.Includes b) (ht : t ∈ b.titleIds) :
    s.copiesOf (.int t) = .ok (s.copies.count t) :=
  copiesOf_int_iff.2 (Tally.get?_of_mem_keys (h.titles t ht))

/-- The loans of a class of the rulebook can be read. -/
theorem loansOf_eq (h : s.Includes b) (hm : m ∈ b.classIds) :
    s.loansOf (.int m) = .ok (s.loans.count m) :=
  loansOf_int_iff.2 (Tally.get?_of_mem_keys (h.classes m hm))

/-- The fines of a class of the rulebook can be read. -/
theorem finesOf_eq (h : s.Includes b) (hm : m ∈ b.classIds) :
    s.finesOf (.int m) = .ok (s.fines.count m) :=
  finesOf_int_iff.2 (Tally.get?_of_mem_keys ((s.sameClasses m).1 (h.classes m hm)))

end Includes

end Snapshot

/-! ## Steps and runs -/

/-- **What a step gives** comes from changes through the constructor alone, whatever the kinds of
its ids and amounts. -/
theorem Step.rebuilds_of_apply {b : Rulebook} {s u : Snapshot} {step : Step} {o : Option Outcome}
    (h : (step.apply b s).result = .ok (u, o)) : s.Rebuilds u := by
  cases step with
  | checkout m t =>
      obtain ⟨out, hout, h⟩ := Logged.exists_of_bind_result h
      cases h
      exact Lending.rebuilds_of_checkout hout
  | giveBack m t d =>
      obtain ⟨out, hout, h⟩ := Logged.exists_of_bind_result h
      cases h
      exact Lending.rebuilds_of_giveBack hout
  | pay m a =>
      obtain ⟨paid, hpaid, h⟩ := Logged.exists_of_bind_result h
      cases h
      exact Account.rebuilds_of_pay hpaid
  | advance d =>
      obtain ⟨later, hlater, h⟩ := Logged.exists_of_bind_result h
      cases h
      exact Shelf.rebuilds_of_advance hlater
  | report =>
      cases h
      exact .refl

namespace Scenario

section

variable {b : Rulebook} {s : Snapshot} {e : Entry} {entries : List Entry}

/-- A completed step rebuilds the snapshot through the constructor. -/
theorem rebuilds_of_completes (h : Completes b s e) : s.Rebuilds e.state :=
  Step.rebuilds_of_apply (apply_of_completes h)

/-- Every entry found some snapshot. -/
theorem exists_found_of_mem (he : e ∈ entries) (s : Snapshot) :
    ∃ u, (u, e) ∈ found s entries := by
  induction entries generalizing s with
  | nil => cases he
  | cons first rest ih =>
      rcases List.mem_cons.1 he with rfl | hrest
      · exact ⟨s, List.mem_cons_self⟩
      · obtain ⟨u, hu⟩ := ih hrest first.state
        exact ⟨u, List.mem_cons_of_mem _ hu⟩

/-- **Invariants.**  What holds at the start and is kept by every completed step holds in every
snapshot that an entry found, and after the last of them. -/
theorem invariant_of_follows {P : Snapshot → Prop}
    (hkeep : ∀ {s : Snapshot} {e : Entry}, Completes b s e → P s → P e.state)
    (h : Follows b s entries) (hs : P s) :
    (∀ p ∈ found s entries, P p.1 ∧ Completes b p.1 p.2) ∧ P (stateAfter s entries) := by
  induction h with
  | nil s => exact ⟨fun p hp => absurd hp List.not_mem_nil, hs⟩
  | cons first _ ih =>
      obtain ⟨hrest, hlast⟩ := ih (hkeep first hs)
      refine ⟨fun p hp => ?_, hlast⟩
      rcases List.mem_cons.1 hp with rfl | hmem
      · exact ⟨hs, first⟩
      · exact hrest p hmem

/-- Every entry completed from the snapshot that it found. -/
theorem completes_of_found (h : Follows b s entries) :
    ∀ p ∈ found s entries, Completes b p.1 p.2 :=
  fun p hp => ((invariant_of_follows (P := fun _ => True) (fun _ _ => trivial) h trivial).1 p hp).2

/-- What holds at the start and is kept by every completed step holds after every entry. -/
theorem forall_state_of_follows {P : Snapshot → Prop}
    (hkeep : ∀ {s : Snapshot} {e : Entry}, Completes b s e → P s → P e.state)
    (h : Follows b s entries) (hs : P s) : ∀ e ∈ entries, P e.state := by
  intro e he
  obtain ⟨u, hu⟩ := exists_found_of_mem he s
  obtain ⟨hfound, hstep⟩ := (invariant_of_follows hkeep h hs).1 (u, e) hu
  exact hkeep hstep hfound

/-- A run keeps the keys of the snapshot from which it starts. -/
theorem kept_of_follows (h : Follows b s entries) : ∀ e ∈ entries, s.Kept e.state :=
  forall_state_of_follows (P := s.Kept)
    (fun first hkept => hkept.trans (rebuilds_of_completes first).kept) h (.refl s)

/-- **Ids.**  A run from a snapshot with the ids of the rulebook only comes to such snapshots. -/
theorem fits_of_follows (h : Follows b s entries) (hfit : s.Fits b) :
    (∀ p ∈ found s entries, p.1.Fits b ∧ Completes b p.1 p.2) ∧ (stateAfter s entries).Fits b :=
  invariant_of_follows (fun first hfit => hfit.of_kept (rebuilds_of_completes first).kept) h hfit

end

end Scenario

/-! ## Reports -/

namespace Report

/-- Each label of a report with the number shown under it. -/
def fields (b : Rulebook) (s : Snapshot) : List (String × Nat) :=
  ("day", s.day) :: (b.titles.map (fun t => ("available_" ++ t.label, s.copies.count t.id)) ++
    b.classes.map (fun m => ("loans_m" ++ toString m.id, s.loans.count m.id)) ++
    b.classes.map (fun m => ("fines_m" ++ toString m.id, s.fines.count m.id)))

/-- The line of a field. -/
def fieldLine (field : String × Nat) : Line := (field.1, toString field.2)

/-- Counts that can all be read give a line for each. -/
theorem countLines_eq {α : Type} {rules : List α} {read : α → Except Fault Nat} {count : α → Nat}
    (h : ∀ rule ∈ rules, read rule = .ok (count rule)) (label : α → String) :
    countLines rules label read =
      .ok ((rules.map fun rule => (label rule, count rule)).map fieldLine) := by
  induction rules with
  | nil => rfl
  | cons rule rest ih =>
      rw [countLines, List.mapM_cons, h rule List.mem_cons_self]
      exact congrArg (· >>= fun rest => pure ((label rule, toString (count rule)) :: rest))
        (ih fun x hx => h x (List.mem_cons_of_mem _ hx))

/-- **A snapshot with the ids of the rulebook**, and perhaps others, can be reported, and what is
reported are its fields. -/
theorem stateLines_of_includes {b : Rulebook} {s : Snapshot} (h : s.Includes b) :
    stateLines b s = .ok ((fields b s).map fieldLine) := by
  have hcopies := countLines_eq
    (fun (t : TitleRule) ht => h.copiesOf_eq (List.mem_map_of_mem ht))
    fun t => "available_" ++ t.label
  have hloans := countLines_eq
    (fun (m : ClassRule) hm => h.loansOf_eq (List.mem_map_of_mem hm))
    fun m => "loans_m" ++ toString m.id
  have hfines := countLines_eq
    (fun (m : ClassRule) hm => h.finesOf_eq (List.mem_map_of_mem hm))
    fun m => "fines_m" ++ toString m.id
  rw [stateLines, hcopies, hloans, hfines, fields, List.map_cons, List.map_append, List.map_append]
  rfl

/-- The same, where there are no others. -/
theorem stateLines_eq_fields {b : Rulebook} {s : Snapshot} (h : s.HasIds b) :
    stateLines b s = .ok ((fields b s).map fieldLine) :=
  stateLines_of_includes h.includes

end Report

/-- An entry with the ids of the rulebook adds a text to the report, with or without one asked for. -/
theorem Scenario.exists_reportText {b : Rulebook} {e : Entry} (h : e.state.Fits b)
    (reporting : Bool) : ∃ text, reportText b reporting e = .ok text := by
  obtain ⟨step, s, outcome⟩ := e
  have hlines := Report.stateLines_eq_fields h.hasIds
  cases reporting with
  | false => exact ⟨"", rfl⟩
  | true =>
      cases outcome with
      | some o => exact ⟨_, rfl⟩
      | none =>
          cases step with
          | report => exact ⟨_, by rw [reportText, if_pos rfl, entryText, hlines]; rfl⟩
          | checkout | giveBack | pay | advance => exact ⟨"", rfl⟩

end Circulation
