import Circulation.Proofs.DecisionTables
import Circulation.Proofs.Wording
/-!
# Which refusals of the shelf name their title

A title without copies is refused with the code 200 and its id.  The bands of codes are as wide as the
ids of rulebooks, which run from 1 to 99, but a snapshot takes any integer as the id of a title.  The
codes of the others fall into the band of another kind, or into a gap; and title -200 falls on the
code of success, which a refusal may not carry, so that the inquiry after it fails.

The key constructions are

* `availabilityTable` : what comes of an inquiry after a title;
* `Answered` : what a caller relies on who goes by the code alone.

The main facts are

* `Code.decode_title` : what the code of a title is taken for, whatever the id;
* `firstApplies_availability` : inquiries follow their table;
* `availability_answered_iff` : a title with copies, or with an id from 1 to 99, and no other title is
  answered for as a caller relies on.
-/

namespace Circulation

/-- What the code of an unavailable title is taken for: the title, if its id runs from 1 to 99. -/
theorem Code.decode_title (t : Int) : decode (.int (200 + t)) =
    if t = -200 then .success
    else if 800 ≤ t then .returned (.int (t - 800))
    else if 1 ≤ t ∧ t ≤ 99 then .titleUnavailable (.int t)
    else if 101 ≤ t ∧ t ≤ 199 then .loanLimit (.int (t - 100))
    else if 201 ≤ t ∧ t ≤ 299 then .fineCeiling (.int (t - 200))
    else .unknown := by
  have hzero : 200 + t = 0 ↔ t = -200 := by omega
  have hreturned : 1000 ≤ 200 + t ↔ 800 ≤ t := by omega
  have htitle : 200 < 200 + t ∧ 200 + t < 300 ↔ 1 ≤ t ∧ t ≤ 99 := by omega
  have hloan : 300 < 200 + t ∧ 200 + t < 400 ↔ 101 ≤ t ∧ t ≤ 199 := by omega
  have hfine : 400 < 200 + t ∧ 200 + t < 500 ↔ 201 ≤ t ∧ t ≤ 299 := by omega
  have hdays : 200 + t - 1000 = t - 800 := by omega
  have hid : 200 + t - 200 = t := by omega
  have hloanId : 200 + t - 300 = t - 100 := by omega
  have hfineId : 200 + t - 400 = t - 200 := by omega
  simp only [decode_int, hzero, hreturned, htitle, hloan, hfine, hdays, hid, hloanId, hfineId]

namespace Shelf

open Desk

/-- The shelf holds a copy of the title. -/
def Holds (s : Snapshot) (t : Int) : Prop := ∃ n, s.copiesOf (.int t) = .ok n ∧ 0 < n

/-- The rows of an inquiry after title `t` with the answer `r`. -/
def availabilityTable (s : Snapshot) (t : Int) (r : Except Fault Outcome) : List (Prop × Prop) :=
  [(t ∉ s.copies.keys, r = .error (.unknownTitle (.int t))),
    (Holds s t, r = .ok (.success s)),
    (t = -200, r = .error (.invalid .silentRefusal)),
    (True, RefusedWith s (200 + t) r)]

/-- What a caller relies on who goes by the code alone: there is an answer, it is plain success
exactly when the shelf holds a copy, and otherwise it is a refusal that leaves the snapshot as it is
and whose code names the title. -/
def Answered (s : Snapshot) (t : Int) : Prop :=
  ∃ o, availability s (.int t) = .ok o ∧ (o.ok = true ∧ o.code = 0 ↔ Holds s t) ∧
    (¬ Holds s t → o.ok = false ∧ o.state = s ∧ o.meaning = .titleUnavailable (.int t))

section

variable {s : Snapshot} {t : Int} {n : Nat}

/-- A title with copies is held. -/
theorem holds_iff (h : s.copies.get? t = some n) : Holds s t ↔ 0 < n := by
  simp [Holds, Snapshot.copiesOf_int_iff.2 h]

/-- **Inquiries** follow their table. -/
theorem firstApplies_availability (s : Snapshot) (t : Int) :
    FirstApplies (availabilityTable s t (availability s (.int t))) := by
  refine ⟨fun hunknown => ?_, fun hknown => ?_⟩
  · exact availability_of_unknown ((Tally.get?_eq_none_iff _ _).2 hunknown)
  obtain ⟨n, hn⟩ := (Tally.mem_keys_iff _ _).1 (not_not.1 hknown)
  refine ⟨fun hholds => ?_, fun hempty => ?_⟩
  · exact availability_of_pos hn ((holds_iff hn).1 hholds)
  obtain rfl : n = 0 := Nat.eq_zero_of_not_pos ((holds_iff hn).not.1 hempty)
  refine ⟨fun hsilent => ?_, fun hcoded => ⟨fun _ => ?_, fun h => h trivial⟩⟩
  · exact availability_of_silent hn (by rw [hsilent]; rfl)
  · have hcode : t + Code.titleBase ≠ 0 := by
      unfold Code.titleBase
      omega
    exact ⟨_, availability_of_zero hn hcode, rfl, Int.add_comm t 200, rfl⟩

/-- A title with copies is answered for. -/
theorem answered_of_holds (h : s.copies.get? t = some n) (hpos : 0 < n) : Answered s t := by
  have hholds : Holds s t := (holds_iff h).2 hpos
  exact ⟨_, availability_of_pos h hpos, iff_of_true ⟨rfl, rfl⟩ hholds, fun hnot => absurd hholds hnot⟩

/-- A title without copies is answered for exactly when its id runs from 1 to 99. -/
theorem answered_of_empty_iff (h : s.copies.get? t = some 0) :
    Answered s t ↔ 1 ≤ t ∧ t ≤ 99 := by
  have hempty : ¬ Holds s t := (holds_iff h).not.2 (Nat.lt_irrefl 0)
  constructor
  · rintro ⟨o, ho, -, hrefused⟩
    obtain ⟨-, -, hmeaning⟩ := hrefused hempty
    by_cases hsilent : t + Code.titleBase = 0
    · rw [availability_of_silent h hsilent] at ho
      cases ho
    · rw [availability_of_zero h hsilent] at ho
      cases ho
      -- The code is that of the title, and only in its band it is taken for the title.
      have hdecode : Code.decode (.int (200 + t)) = .titleUnavailable (.int t) := by
        rw [Int.add_comm]
        exact hmeaning
      rw [Code.decode_title] at hdecode
      split_ifs at hdecode with hzero hreturned hband
      exact hband
  · intro hrange
    have hcode : t + Code.titleBase ≠ 0 := by
      unfold Code.titleBase
      omega
    refine ⟨_, availability_of_zero h hcode, ?_, fun _ => ⟨rfl, rfl, Code.decode_titleBase hrange⟩⟩
    exact iff_of_false (by simp) hempty

end

/-- **Refusals of the shelf.**  For every snapshot and every title in it, whatever its id, the inquiry
after it has the answer of the first row of the table that applies.  It is the answer on which a caller
relies exactly when the shelf holds a copy of the title or the id runs from 1 to 99. -/
theorem availability_answered_iff (s : Snapshot) (t : Int) (ht : t ∈ s.copies.keys) :
    (Answered s t ↔ Holds s t ∨ 1 ≤ t ∧ t ≤ 99) ∧
    FirstApplies (availabilityTable s t (availability s (.int t))) := by
  refine ⟨?_, firstApplies_availability s t⟩
  obtain ⟨n, hn⟩ := (Tally.mem_keys_iff _ _).1 ht
  rcases Nat.eq_zero_or_pos n with rfl | hpos
  · rw [answered_of_empty_iff hn, holds_iff hn]
    simp
  · exact iff_of_true (answered_of_holds hn hpos) (.inl ((holds_iff hn).2 hpos))

/-- A snapshot with titles on both sides of the greatest id of a rulebook. -/
def edgeSnapshot : Snapshot where
  day := 0
  copies := ⟨[(100, 3), (99, 0), (299, 0)], by decide⟩
  loans := ⟨[], by decide⟩
  fines := ⟨[], by decide⟩
  sameClasses := fun _ => Iff.rfl

/-- Title 99 is refused by its name, title 100 is there, and the refusal of title 299 names another. -/
theorem availability_answered_iff_edgeSnapshot :
    99 ∈ edgeSnapshot.copies.keys ∧ Answered edgeSnapshot 99 ∧
    100 ∈ edgeSnapshot.copies.keys ∧ Answered edgeSnapshot 100 ∧
    299 ∈ edgeSnapshot.copies.keys ∧ ¬ Answered edgeSnapshot 299 := by
  have hheld : Holds edgeSnapshot 100 := ⟨3, rfl, by decide⟩
  have hempty : ¬ Holds edgeSnapshot 299 := by
    rintro ⟨n, hn, hpos⟩
    cases hn
    exact absurd hpos (by decide)
  refine ⟨by decide, ?_, by decide, ?_, by decide, ?_⟩
  · exact (availability_answered_iff edgeSnapshot 99 (by decide)).1.2 (.inr (by decide))
  · exact (availability_answered_iff edgeSnapshot 100 (by decide)).1.2 (.inl hheld)
  · intro h
    rcases (availability_answered_iff edgeSnapshot 299 (by decide)).1.1 h with hholds | hrange
    · exact hempty hholds
    · exact absurd hrange (by decide)

/-- A document with two titles that no rulebook can have. -/
def spilledDocument : Value :=
  .record
    [("day", .int 0), ("available_copies", .record [("101", .int 0), ("-200", .int 0)]),
      ("active_loans", .record []), ("outstanding_fines", .record [])]

/-- The snapshot of that document. -/
def spilledSnapshot : Snapshot where
  day := 0
  copies := ⟨[(101, 0), (-200, 0)], by decide⟩
  loans := ⟨[], by decide⟩
  fines := ⟨[], by decide⟩
  sameClasses := fun _ => Iff.rfl

/-- The document is accepted; the refusal of title 101 reads as that of a class at its loan limit, and
the inquiry after title -200 fails. -/
theorem availability_misread_spilledDocument :
    Snapshot.ofValue spilledDocument = .ok spilledSnapshot ∧
    (101 ∈ spilledSnapshot.copies.keys ∧
      (∃ o, availability spilledSnapshot (.int 101) = .ok o ∧ o.ok = false ∧ o.code = 301 ∧
        o.meaning = .loanLimit (.int 1)) ∧
      ¬ Answered spilledSnapshot 101) ∧
    (-200 ∈ spilledSnapshot.copies.keys ∧
      availability spilledSnapshot (.int (-200)) = .error (.invalid .silentRefusal) ∧
      ¬ Answered spilledSnapshot (-200)) := by
  refine ⟨by cbv, ⟨by decide, ⟨_, rfl, rfl, rfl, rfl⟩, ?_⟩, by decide, rfl, ?_⟩
  · rw [answered_of_empty_iff rfl]
    decide
  · rw [answered_of_empty_iff rfl]
    decide

end Shelf

end Circulation
