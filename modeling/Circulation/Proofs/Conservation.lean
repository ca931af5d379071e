import Circulation.Proofs.Runs
/-!
# What a run conserves

Copies leave the shelf with granted checkouts and come back with returns, and loans are opened and
closed with them.  The one thing that breaks the balance is a return by a class without open loans:
it restocks the shelf and closes nothing.  So copies and loans together never get fewer, and they
grow by exactly those returns.

The key constructions are

* `Entry.lendsTitle`, `Entry.returnsTitle`, `Entry.lendsTo`, `Entry.returnsBy` : the entries that
  move a title, and those that move a loan of a class;
* `idleReturnBy`, `idleReturn` : returns by a class that was found without open loans;
* `Snapshot.holdings` : all copies and all loans together.

The main result is `run_conserves`.
-/

namespace Circulation

/-- All copies on the shelf and all open loans together. -/
def Snapshot.holdings (s : Snapshot) : Nat := s.copies.total + s.loans.total

/-- The days that pass with a step. -/
def Step.days : Step → Int
  | .advance d => d.integer?.getD 0
  | _ => 0

namespace Scenario

open Desk

/-! ## Entries that move copies and loans -/

namespace Entry

/-- Whether an entry is a checkout that was granted. -/
def lends (e : Entry) : Bool :=
  match e.step, e.outcome with
  | .checkout _ _, some o => o.ok
  | _, _ => false

/-- Whether an entry is a return. -/
def returns (e : Entry) : Bool :=
  match e.step with
  | .giveBack .. => true
  | _ => false

/-- Whether an entry is a granted checkout of title `t`. -/
def lendsTitle (t : Int) (e : Entry) : Bool := e.lends && e.step.titleId? == some t

/-- Whether an entry is a return of title `t`. -/
def returnsTitle (t : Int) (e : Entry) : Bool := e.returns && e.step.titleId? == some t

/-- Whether an entry is a granted checkout by class `m`. -/
def lendsTo (m : Int) (e : Entry) : Bool := e.lends && e.step.classId? == some m

/-- Whether an entry is a return by class `m`. -/
def returnsBy (m : Int) (e : Entry) : Bool := e.returns && e.step.classId? == some m

end Entry

/-- Whether an entry is a return by class `m` that found the class without open loans. -/
def idleReturnBy (m : Int) (p : Snapshot × Entry) : Bool :=
  p.2.returnsBy m && p.1.loans.get? m == some 0

/-- Whether an entry is a return by a class that it found without open loans. -/
def idleReturn (p : Snapshot × Entry) : Bool := p.2.step.classId?.any fun m => idleReturnBy m p

/-! ## One step -/

section

variable {b : Rulebook} {s : Snapshot} {e : Entry}

/-- What a completed step does to the copies of a title. -/
theorem copies_of_completes (h : Completes b s e) {t : Int} {n : Nat}
    (hn : s.copies.get? t = some n) :
    ∃ n', e.state.copies.get? t = some n' ∧
      n' + (if Entry.lendsTitle t e then 1 else 0) =
        n + (if Entry.returnsTitle t e then 1 else 0) := by
  cases h with
  | @granted m j loans copies he hl hc hpos =>
      by_cases hj : t = j
      · subst hj
        obtain rfl : n = copies := Option.some.inj (hn.symm.trans hc)
        refine ⟨n - 1, by simpa [lent] using Tally.get?_set_self hn (n - 1), ?_⟩
        simp [Entry.lendsTitle, Entry.returnsTitle, Entry.lends, Entry.returns, Step.titleId?,
          Outcome.success]
        omega
      · refine ⟨n, by simpa [lent, Tally.get?_set_of_ne _ hj] using hn, ?_⟩
        simp [Entry.lendsTitle, Entry.returnsTitle, Entry.returns, Step.titleId?, Ne.symm hj]
  | @returned m j d loans copies fines hd hc hl hf =>
      by_cases hj : t = j
      · subst hj
        obtain rfl : n = copies := Option.some.inj (hn.symm.trans hc)
        refine ⟨n + 1, by simpa [givenBack] using Tally.get?_set_self hn (n + 1), ?_⟩
        simp [Entry.lendsTitle, Entry.returnsTitle, Entry.lends, Entry.returns, Step.titleId?]
      · refine ⟨n, by simpa [givenBack, Tally.get?_set_of_ne _ hj] using hn, ?_⟩
        simp [Entry.lendsTitle, Entry.returnsTitle, Entry.lends, Step.titleId?, Ne.symm hj]
  | refused | paid | waited | reported =>
      exact ⟨n, hn, by simp [Entry.lendsTitle, Entry.returnsTitle, Entry.lends, Entry.returns]⟩

/-- What a completed step does to the loans of a class. -/
theorem loans_of_completes (h : Completes b s e) {m : Int} {n : Nat}
    (hn : s.loans.get? m = some n) :
    ∃ n', e.state.loans.get? m = some n' ∧
      n' + (if Entry.returnsBy m e then 1 else 0) =
        n + (if Entry.lendsTo m e then 1 else 0) +
          (if idleReturnBy m (s, e) then 1 else 0) := by
  cases h with
  | @granted j t loans copies he hl hc hpos =>
      by_cases hj : m = j
      · subst hj
        obtain rfl : n = loans := Option.some.inj (hn.symm.trans hl)
        refine ⟨n + 1, by simpa [lent] using Tally.get?_set_self hn (n + 1), ?_⟩
        simp [idleReturnBy, Entry.returnsBy, Entry.lendsTo, Entry.lends, Entry.returns,
          Step.classId?, Outcome.success]
      · refine ⟨n, by simpa [lent, Tally.get?_set_of_ne _ hj] using hn, ?_⟩
        simp [idleReturnBy, Entry.returnsBy, Entry.lendsTo, Entry.returns, Step.classId?,
          Ne.symm hj]
  | @returned j t d loans copies fines hd hc hl hf =>
      by_cases hj : m = j
      · subst hj
        obtain rfl : n = loans := Option.some.inj (hn.symm.trans hl)
        refine ⟨n - 1, by simpa [givenBack] using Tally.get?_set_self hn (n - 1), ?_⟩
        -- the floor at zero is exactly an idle return
        by_cases hzero : n = 0 <;>
          simp [idleReturnBy, Entry.returnsBy, Entry.lendsTo, Entry.lends, Entry.returns,
            Step.classId?, hn, hzero]
        omega
      · refine ⟨n, by simpa [givenBack, Tally.get?_set_of_ne _ hj] using hn, ?_⟩
        simp [idleReturnBy, Entry.returnsBy, Entry.lendsTo, Entry.lends, Step.classId?, Ne.symm hj]
  | refused | paid | waited | reported =>
      exact ⟨n, hn, by simp [idleReturnBy, Entry.returnsBy, Entry.lendsTo, Entry.lends,
        Entry.returns]⟩

/-- Copies and loans together grow by one with an idle return and stay the same otherwise. -/
theorem holdings_of_completes (h : Completes b s e) :
    e.state.holdings = s.holdings + (if idleReturn (s, e) then 1 else 0) := by
  cases h with
  | @granted m t loans copies he hl hc hpos =>
      have hcopies := Tally.total_set hc (copies - 1)
      have hloans := Tally.total_set hl (loans + 1)
      simp [Snapshot.holdings, lent, idleReturn, idleReturnBy, Entry.returnsBy, Entry.returns]
      omega
  | @returned m t d loans copies fines hd hc hl hf =>
      have hcopies := Tally.total_set hc (copies + 1)
      have hloans := Tally.total_set hl (loans - 1)
      by_cases hzero : loans = 0 <;>
        simp [Snapshot.holdings, givenBack, idleReturn, idleReturnBy, Entry.returnsBy,
          Entry.returns, Step.classId?, hl, hzero] at hloans ⊢ <;>
        omega
  | refused | paid | waited | reported =>
      simp [Snapshot.holdings, idleReturn, idleReturnBy, Entry.returnsBy, Entry.returns]

/-- The day moves on by the days of the step. -/
theorem day_of_completes (h : Completes b s e) : (e.state.day : Int) = s.day + e.step.days := by
  cases h with
  | waited hd =>
      simp [Step.days]
      omega
  | granted | refused | returned | paid | reported => simp [Step.days, lent, givenBack]

end

/-! ## Runs -/

section

variable {b : Rulebook} {s : Snapshot} {entries : List Entry}

/-- The copies of a title after some entries. -/
theorem copies_of_follows (h : Follows b s entries) {t : Int} {n : Nat}
    (hn : s.copies.get? t = some n) :
    ∃ n', (stateAfter s entries).copies.get? t = some n' ∧
      n' + entries.countP (Entry.lendsTitle t) = n + entries.countP (Entry.returnsTitle t) := by
  induction h generalizing n with
  | nil s => exact ⟨n, hn, rfl⟩
  | cons first _ ih =>
      obtain ⟨c, hc, hstep⟩ := copies_of_completes first hn
      obtain ⟨n', hn', hrest⟩ := ih hc
      refine ⟨n', hn', ?_⟩
      rw [List.countP_cons, List.countP_cons]
      omega

/-- The loans of a class after some entries. -/
theorem loans_of_follows (h : Follows b s entries) {m : Int} {n : Nat}
    (hn : s.loans.get? m = some n) :
    ∃ n', (stateAfter s entries).loans.get? m = some n' ∧
      n' + entries.countP (Entry.returnsBy m) =
        n + entries.countP (Entry.lendsTo m) + (found s entries).countP (idleReturnBy m) := by
  induction h generalizing n with
  | nil s => exact ⟨n, hn, rfl⟩
  | cons first _ ih =>
      obtain ⟨l, hl, hstep⟩ := loans_of_completes first hn
      obtain ⟨n', hn', hrest⟩ := ih hl
      refine ⟨n', hn', ?_⟩
      rw [found_cons, List.countP_cons, List.countP_cons, List.countP_cons]
      omega

/-- Copies and loans together grow by the idle returns. -/
theorem holdings_of_follows (h : Follows b s entries) :
    (stateAfter s entries).holdings = s.holdings + (found s entries).countP idleReturn := by
  induction h with
  | nil s => rfl
  | cons first _ ih =>
      have hstep := holdings_of_completes first
      rw [stateAfter_cons, ih, found_cons, List.countP_cons]
      omega

/-- Copies and loans together never get fewer. -/
theorem holdings_pairwise_le (h : Follows b s entries) :
    ((s :: entries.map Entry.state).map Snapshot.holdings).Pairwise (· ≤ ·) := by
  induction h with
  | nil s => simp
  | @cons s e rest first _ ih =>
      have hstep : s.holdings ≤ e.state.holdings := by
        rw [holdings_of_completes first]
        omega
      rw [List.map_cons, List.map_cons, List.map_cons] at *
      refine List.pairwise_cons.2 ⟨?_, ih⟩
      intro later hlater
      rcases List.mem_cons.1 hlater with rfl | hmem
      · exact hstep
      · exact Nat.le_trans hstep ((List.pairwise_cons.1 ih).1 later hmem)

/-- The day moves on by the days of all steps. -/
theorem day_of_follows (h : Follows b s entries) :
    ((stateAfter s entries).day : Int) =
      s.day + ((entries.map Entry.step).map Step.days).sum := by
  induction h with
  | nil s => simp
  | cons first _ ih =>
      have hstep := day_of_completes first
      rw [stateAfter_cons, ih, List.map_cons, List.map_cons, List.sum_cons]
      omega

end

/-- **Conservation.**  In a finished run the copies of a title go down with its granted checkouts
and up with its returns; the loans of a class go up with its granted checkouts and down with its
returns, those apart that found it without loans; copies and loans together never get fewer, and
grow by exactly the returns made without a loan; and the day moves on by the days of the steps. -/
theorem run_conserves (b : Rulebook) (reporting : Bool) (s : Snapshot) (steps : List Step)
    (hw : ∀ step ∈ steps, step.Whole) (hfin : (run b reporting s steps).fault = none) :
    let r := run b reporting s steps
    (∀ t n, s.copiesOf (.int t) = .ok n → ∃ n', (r.final s).copiesOf (.int t) = .ok n' ∧
      (n' : Int) = n - r.entries.countP (Entry.lendsTitle t)
        + r.entries.countP (Entry.returnsTitle t)) ∧
    (∀ m n, s.loansOf (.int m) = .ok n → ∃ n', (r.final s).loansOf (.int m) = .ok n' ∧
      (n' : Int) = n + r.entries.countP (Entry.lendsTo m) - r.entries.countP (Entry.returnsBy m)
        + (found s r.entries).countP (idleReturnBy m)) ∧
    ((s :: r.entries.map Entry.state).map Snapshot.holdings).Pairwise (· ≤ ·) ∧
    (r.final s).holdings = s.holdings + (found s r.entries).countP idleReturn ∧
    ((r.final s).day : Int) = s.day + (steps.map Step.days).sum := by
  intro r
  have hfollows : Follows b s r.entries := follows_run hw
  rw [Run.final_eq]
  refine ⟨?_, ?_, holdings_pairwise_le hfollows, holdings_of_follows hfollows, ?_⟩
  · intro t n hn
    obtain ⟨n', hn', hcount⟩ := copies_of_follows hfollows (Snapshot.copiesOf_int_iff.1 hn)
    exact ⟨n', Snapshot.copiesOf_int_iff.2 hn', by omega⟩
  · intro m n hn
    obtain ⟨n', hn', hcount⟩ := loans_of_follows hfollows (Snapshot.loansOf_int_iff.1 hn)
    exact ⟨n', Snapshot.loansOf_int_iff.2 hn', by omega⟩
  · rw [day_of_follows hfollows, steps_of_finished hfin]

/-- A refusal, a late return, a payment and a return by a class that has borrowed nothing. -/
def unevenSteps : List Step :=
  [.checkout (.int 2) (.int 1), .checkout (.int 2) (.int 3), .checkout (.int 2) (.int 2),
    .giveBack (.int 2) (.int 1) (.int 5), .giveBack (.int 1) (.int 3) (.int 0),
    .pay (.int 2) (.int 100), .advance (.int 4), .report]

/-- In these steps the return without a loan adds a copy that closes nothing. -/
theorem run_conserves_unevenSteps :
    let s := Shelf.opening Rulebook.reference
    let r := run Rulebook.reference true s unevenSteps
    (∀ step ∈ unevenSteps, step.Whole) ∧ r.fault = none ∧
    (∃ n', (r.final s).copiesOf (.int 3) = .ok n' ∧ (n' : Int) = 1 - 1 + 1) ∧
    (∃ n', (r.final s).loansOf (.int 1) = .ok n' ∧ (n' : Int) = 0 + 0 - 1 + 1) ∧
    (r.final s).holdings = 6 + 1 ∧ ((r.final s).day : Int) = 1 + 4 := by
  intro s r
  have hw : ∀ step ∈ unevenSteps, step.Whole := by decide
  have hfin : r.fault = none := rfl
  obtain ⟨hcopies, hloans, -, hholdings, hday⟩ :=
    run_conserves Rulebook.reference true s unevenSteps hw hfin
  exact ⟨hw, hfin, hcopies 3 1 rfl, hloans 1 0 rfl, hholdings, hday⟩

end Scenario

end Circulation
