import Circulation.Proofs.Conservation
import Circulation.Proofs.Coverage
/-!
# Lending limits

Opening a loan asks nothing; it is the desk that asks before.  Only a granted checkout adds to the
loans of a class, and it found the class below its limit.  So no class ever gets above its limit
through borrowing, whatever other classes do, and a class that started above it only comes down.

The key constructions are

* `Lendable` : class, title and snapshot are such that the class may have the title now;
* `LoansWithin` : from one snapshot to another the loans of a class stay within the greater of its
  limit and what they were.

The main facts are

* `ok_iff_lendable` : when a checkout is granted;
* `loans_le_of_completes` : one step keeps the bound;
* `run_within_limits` : so does every run.
-/

namespace Circulation.Scenario

open Desk

/-! ## What a granted checkout found -/

/-- Class `m` may have title `t` now: it is below its loan limit and not above its fine ceiling, and
there is a copy on the shelf. -/
def Lendable (b : Rulebook) (s : Snapshot) (m t : Int) : Prop :=
  ∃ rule loans fines copies, b.classRule (.int m) = .ok rule ∧
    s.loansOf (.int m) = .ok loans ∧ loans < rule.loanLimit ∧
    s.finesOf (.int m) = .ok fines ∧ fines ≤ rule.fineCeiling ∧
    s.copiesOf (.int t) = .ok copies ∧ 0 < copies

section

variable {b : Rulebook} {s : Snapshot} {e : Entry} {m t : Int}

/-- A title can be lent when the class may borrow and the shelf has a copy. -/
theorem lendable_iff :
    Lendable b s m t ↔ MayBorrow b s m ∧ ∃ copies, s.copies.get? t = some copies ∧ 0 < copies := by
  constructor
  · rintro ⟨rule, loans, fines, copies, hr, hl, hlimit, hf, hceiling, hc, hpos⟩
    have hst : Standing b s m rule loans fines :=
      ⟨hr, Snapshot.loansOf_int_iff.1 hl, Snapshot.finesOf_int_iff.1 hf⟩
    exact ⟨⟨rule, loans, fines, hst, hlimit, hceiling⟩, copies, Snapshot.copiesOf_int_iff.1 hc, hpos⟩
  · rintro ⟨⟨rule, loans, fines, hst, hlimit, hceiling⟩, copies, hc, hpos⟩
    exact ⟨rule, loans, fines, copies, hst.rule_eq, Snapshot.loansOf_int_iff.2 hst.loans_eq, hlimit,
      Snapshot.finesOf_int_iff.2 hst.fines_eq, hceiling, Snapshot.copiesOf_int_iff.2 hc, hpos⟩

/-- What is refused cannot be lent. -/
theorem not_lendable_of_refuses {code : Int} (why : Refuses b s m t code) :
    ¬ Lendable b s m t := by
  rw [lendable_iff]
  rintro ⟨⟨rule, loans, fines, hst, hlimit, hceiling⟩, copies, hc, hpos⟩
  cases why with
  | loanLimit standing limit =>
      obtain ⟨rfl, rfl, -⟩ := hst.unique standing
      omega
  | fineCeiling standing limit ceiling =>
      obtain ⟨rfl, -, rfl⟩ := hst.unique standing
      omega
  | unavailable eligible empty code =>
      obtain rfl : copies = 0 := Option.some.inj (hc.symm.trans empty)
      omega

/-- **When a checkout is granted.**  A completed checkout took effect exactly when the title could be
lent in the snapshot that it found. -/
theorem ok_iff_lendable (h : Completes b s e) (hstep : e.step = .checkout (.int m) (.int t))
    {o : Outcome} (ho : e.outcome = some o) : o.ok = true ↔ Lendable b s m t := by
  cases h with
  | granted eligible loans_eq copies_eq pos =>
      cases hstep
      cases ho
      exact iff_of_true rfl (lendable_iff.2 ⟨eligible, _, copies_eq, pos⟩)
  | refused why =>
      cases hstep
      cases ho
      exact iff_of_false Bool.false_ne_true (not_lendable_of_refuses why)
  | returned | paid | waited | reported => cases hstep

/-- A granted checkout found its class with the right to borrow. -/
theorem mayBorrow_of_lendsTo (h : Completes b s e) (hlends : Entry.lendsTo m e = true) :
    MayBorrow b s m := by
  cases h with
  | @granted j t loans copies eligible loans_eq copies_eq pos =>
      obtain rfl : j = m := by
        simpa [Entry.lendsTo, Entry.lends, Step.classId?, Outcome.success] using hlends
      exact eligible
  | refused | returned | paid | waited | reported =>
      simp [Entry.lendsTo, Entry.lends] at hlends

/-! ## The loans of a class -/

/-- **One step.**  The loans of a class after a completed step are at most what they were or the
limit, whichever is greater. -/
theorem loans_le_of_completes (h : Completes b s e) {rule : ClassRule}
    (hrule : b.classRule (.int m) = .ok rule) {n : Nat} (hn : s.loans.get? m = some n) :
    ∃ n', e.state.loans.get? m = some n' ∧ n' ≤ max n rule.loanLimit := by
  obtain ⟨n', hn', hbalance⟩ := loans_of_completes h hn
  refine ⟨n', hn', ?_⟩
  -- What an idle return does not close it does not open either: it counts on both sides.
  have hidle : (if idleReturnBy m (s, e) then 1 else 0) ≤ if Entry.returnsBy m e then 1 else 0 := by
    by_cases hret : Entry.returnsBy m e = true <;> simp [idleReturnBy, hret]
    split <;> omega
  by_cases hlends : Entry.lendsTo m e = true
  · obtain ⟨rule', loans, fines, hst, hlimit, -⟩ := mayBorrow_of_lendsTo h hlends
    obtain rfl : rule' = rule := Except.ok.inj (hst.rule_eq.symm.trans hrule)
    obtain rfl : loans = n := Option.some.inj (hst.loans_eq.symm.trans hn)
    rw [if_pos hlends] at hbalance
    omega
  · rw [if_neg hlends] at hbalance
    omega

end

/-- From `s` to `u` the loans of class `m` stay within the greater of `limit` and what they were; a
class that one of the snapshots does not know, the other does not know either. -/
def LoansWithin (limit : Nat) (m : Int) (s u : Snapshot) : Prop :=
  (s.loansOf (.int m) = .error (.unknownClass (.int m)) ∧
    u.loansOf (.int m) = .error (.unknownClass (.int m))) ∨
  ∃ n n', s.loansOf (.int m) = .ok n ∧ u.loansOf (.int m) = .ok n' ∧ n' ≤ max n limit

/-- A run keeps the loans of a class that has any count of them within bounds. -/
theorem loans_le_of_follows {b : Rulebook} {s : Snapshot} {entries : List Entry}
    (h : Follows b s entries) {m : Int} {rule : ClassRule}
    (hrule : b.classRule (.int m) = .ok rule) {n : Nat} (hn : s.loans.get? m = some n) :
    ∀ e ∈ entries, ∃ n', e.state.loans.get? m = some n' ∧ n' ≤ max n rule.loanLimit := by
  refine forall_state_of_follows
    (P := fun u => ∃ n', u.loans.get? m = some n' ∧ n' ≤ max n rule.loanLimit) ?_ h
    ⟨n, hn, Nat.le_max_left _ _⟩
  rintro u e first ⟨n', hn', hle⟩
  obtain ⟨n'', hn'', hstep⟩ := loans_le_of_completes first hrule hn'
  exact ⟨n'', hn'', by omega⟩

/-- Every snapshot that a run comes to has the loans of a class within bounds. -/
theorem loansWithin_of_follows {b : Rulebook} {s : Snapshot} {entries : List Entry}
    (h : Follows b s entries) {m : Int} {rule : ClassRule}
    (hrule : b.classRule (.int m) = .ok rule) :
    ∀ e ∈ entries, LoansWithin rule.loanLimit m s e.state := by
  intro e he
  cases hn : s.loans.get? m with
  | none =>
      have hnone : e.state.loans.get? m = none := (kept_of_follows h e he).loans_eq_none hn
      exact .inl ⟨Snapshot.loansOf_int_of_none hn, Snapshot.loansOf_int_of_none hnone⟩
  | some n =>
      obtain ⟨n', hn', hle⟩ := loans_le_of_follows h hrule hn e he
      exact .inr ⟨n, n', Snapshot.loansOf_int_iff.2 hn, Snapshot.loansOf_int_iff.2 hn', hle⟩

/-- On the first day no class of the rulebook has borrowed anything. -/
theorem opening_loans {b : Rulebook} {m : Int} (hm : m ∈ b.classIds) :
    (Shelf.opening b).loans.get? m = some 0 := by
  obtain ⟨n, hn⟩ := (Snapshot.fits_opening b).exists_loans_iff.2 hm
  -- Every entry of the first day's loans is zero.
  obtain ⟨rule, -, heq⟩ := List.mem_map.1 ((Tally.get?_eq_some_iff _ m n).1 hn)
  rw [hn, ← (Prod.mk.inj heq).2]

/-- **Lending limits.**  Along every run, whether it finishes or not, the loans of a class of the
rulebook stay within the greater of its loan limit and what they were at the start, and from the
first day on within the limit.  A checkout that completes took effect exactly when it found the
class below its limit and not above its ceiling, and a copy on the shelf. -/
theorem run_within_limits (b : Rulebook) (reporting : Bool) (s : Snapshot) (steps : List Step)
    (hw : ∀ step ∈ steps, step.Whole) :
    (∀ e ∈ (run b reporting s steps).entries, ∀ m rule, b.classRule (.int m) = .ok rule →
      LoansWithin rule.loanLimit m s e.state) ∧
    (∀ e ∈ (run b reporting (Shelf.opening b) steps).entries, ∀ m rule,
      b.classRule (.int m) = .ok rule →
      ∃ n, e.state.loansOf (.int m) = .ok n ∧ n ≤ rule.loanLimit) ∧
    (∀ p ∈ found s (run b reporting s steps).entries, ∀ m t o,
      p.2.step = .checkout (.int m) (.int t) → p.2.outcome = some o →
      (o.ok = true ↔ Lendable b p.1 m t)) := by
  refine ⟨?_, ?_, ?_⟩
  · intro e he m rule hrule
    exact loansWithin_of_follows (follows_run hw) hrule e he
  · intro e he m rule hrule
    have hzero := opening_loans (Rulebook.exists_classRule_iff.1 ⟨rule, hrule⟩)
    obtain ⟨n, hn, hle⟩ := loans_le_of_follows (follows_run hw) hrule hzero e he
    exact ⟨n, Snapshot.loansOf_int_iff.2 hn, by omega⟩
  · intro p hp m t o hstep ho
    exact ok_iff_lendable (completes_of_found (follows_run hw) p hp) hstep ho

/-- Two classes that want the same title, one of them beyond its limit. -/
def crowdedSteps : List Step :=
  [.checkout (.int 2) (.int 1), .checkout (.int 1) (.int 1), .checkout (.int 2) (.int 1),
    .checkout (.int 2) (.int 2), .checkout (.int 1) (.int 1), .giveBack (.int 2) (.int 1) (.int 0),
    .checkout (.int 1) (.int 1)]

/-- In these steps class 2 is stopped at its limit of two, though there are copies of title 2, and
class 1 is stopped by the empty shelf until a copy comes back. -/
theorem run_within_limits_crowdedSteps :
    let b := Rulebook.reference
    let r := run b true (Shelf.opening b) crowdedSteps
    (∀ step ∈ crowdedSteps, step.Whole) ∧
    r.outcomes.map Outcome.ok = [true, true, true, false, false, true, true] ∧
    (∀ e ∈ r.entries, ∃ n, e.state.loansOf (.int 2) = .ok n ∧ n ≤ 2) ∧
    (∃ p, (found (Shelf.opening b) r.entries)[3]? = some p ∧ ¬ Lendable b p.1 2 2) ∧
    ∃ p, (found (Shelf.opening b) r.entries)[6]? = some p ∧ Lendable b p.1 1 1 := by
  intro b r
  have hw : ∀ step ∈ crowdedSteps, step.Whole := by decide
  obtain ⟨-, hlimit, hgranted⟩ := run_within_limits b true (Shelf.opening b) crowdedSteps hw
  refine ⟨hw, rfl, fun e he => hlimit e he 2 ⟨2, 2, 2000, by decide⟩ rfl, ⟨_, rfl, ?_⟩, ⟨_, rfl, ?_⟩⟩
  · exact (hgranted _ (List.mem_of_getElem? (i := 3) rfl) 2 2 _ rfl rfl).not.1 Bool.false_ne_true
  · exact (hgranted _ (List.mem_of_getElem? (i := 6) rfl) 1 1 _ rfl rfl).1 rfl

end Circulation.Scenario
