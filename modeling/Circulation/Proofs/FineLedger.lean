import Circulation.Proofs.Runs
/-!
# The ledger of fines

Each step changes the fines of a class by an amount: a late return adds its fee, a payment takes
away what is paid, and all else adds nothing.  Fines never go below nothing, and what is paid beyond
them is gone.  So the fines along a run are a walk that is held up at zero, and such a walk ends at
the greatest of two things: where it would be without the floor, and the most that any last part of
its changes adds up to.

The key constructions are

* `Step.fineChange` : what a step adds to the fines of a class;
* `walk` : changes one after another, held up at zero;
* `changeUpTo` : the sum of the changes of the first steps.

The main facts are

* `fines_of_completes`, `fines_of_follows` : the fines take one step of the walk, and the whole
  walk;
* `walk_eq_max` : where a walk that is held up at zero ends;
* `Scenario.run_fines_eq_max` : the fines at the end of a finished run.
-/

namespace Circulation

/-- What a step adds to the fines of class `m`; a payment adds a negative amount. -/
def Step.fineChange (b : Rulebook) (m : Int) : Step → Int
  | .giveBack c _ d => if c.integer? = some m then d.integer?.getD 0 * b.lateFee else 0
  | .pay c a => if c.integer? = some m then -a.integer?.getD 0 else 0
  | _ => 0

/-- The steps of other classes, and those of no class, add nothing. -/
theorem Step.fineChange_of_classId? {m : Int} {step : Step} (h : step.classId? ≠ some m)
    (b : Rulebook) : step.fineChange b m = 0 := by
  cases step with
  | giveBack c t d => exact if_neg h
  | pay c a => exact if_neg h
  | checkout | advance | report => rfl

namespace Scenario

open Desk

/-! ## Walks held up at zero -/

/-- Changes one after another, none of which leads below zero. -/
def walk (f : Int) (xs : List Int) : Int := xs.foldl (fun f x => max 0 (f + x)) f

@[simp] theorem walk_nil (f : Int) : walk f [] = f := rfl

@[simp] theorem walk_cons (f x : Int) (xs : List Int) :
    walk f (x :: xs) = walk (max 0 (f + x)) xs := rfl

/-- A walk ends no lower than it would without the floor. -/
theorem add_sum_le_walk (f : Int) (xs : List Int) : f + xs.sum ≤ walk f xs := by
  induction xs generalizing f with
  | nil => simp
  | cons x xs ih =>
      have hrest := ih (max 0 (f + x))
      rw [List.sum_cons, walk_cons]
      omega

/-- A walk ends no lower than what any last part of its changes adds up to. -/
theorem sum_sub_le_walk {f : Int} (hf : 0 ≤ f) (xs : List Int) (k : Nat) :
    xs.sum - (xs.take k).sum ≤ walk f xs := by
  induction xs generalizing f k with
  | nil => simpa using hf
  | cons x xs ih =>
      cases k with
      -- Without the first change the walk starts no lower, for `0 ≤ f`.
      | zero =>
          have hrest := add_sum_le_walk (max 0 (f + x)) xs
          rw [List.take_zero, List.sum_nil, List.sum_cons, walk_cons]
          omega
      | succ k =>
          have hrest := ih (by omega : 0 ≤ max 0 (f + x)) k
          rw [List.take_succ_cons, List.sum_cons, List.sum_cons, walk_cons]
          omega

/-- A walk either never meets the floor, or ends with what it added up to since it last did. -/
theorem walk_eq_or (f : Int) (xs : List Int) :
    walk f xs = f + xs.sum ∨ ∃ k ≤ xs.length, walk f xs = xs.sum - (xs.take k).sum := by
  induction xs generalizing f with
  | nil => exact Or.inl (by simp)
  | cons x xs ih =>
      rw [walk_cons, List.sum_cons]
      rcases ih (max 0 (f + x)) with hfree | ⟨k, hk, hlast⟩
      · -- The rest never meets the floor: the first change did or did not.
        rcases Int.le_total 0 (f + x) with hpos | hneg
        · left
          rw [hfree, max_eq_right hpos]
          omega
        · right
          refine ⟨1, by simp, ?_⟩
          rw [hfree, max_eq_left hneg, List.take_succ_cons, List.take_zero, List.sum_cons,
            List.sum_nil]
          omega
      · right
        refine ⟨k + 1, by simpa using hk, ?_⟩
        rw [hlast, List.take_succ_cons, List.sum_cons]
        omega

/-- **A walk held up at zero** ends where it would without the floor, or where its greatest last
part leads from zero. -/
theorem walk_eq_max {f : Int} (hf : 0 ≤ f) (xs : List Int) :
    walk f xs = max (f + xs.sum) ((Finset.range (xs.length + 1)).sup' Finset.nonempty_range_add_one
      fun k => xs.sum - (xs.take k).sum) := by
  apply le_antisymm
  · rcases walk_eq_or f xs with hfree | ⟨k, hk, hlast⟩
    · rw [hfree]
      exact le_max_left _ _
    · refine le_trans (le_of_eq hlast) (le_trans ?_ (le_max_right _ _))
      exact Finset.le_sup' (fun k => xs.sum - (xs.take k).sum)
        (Finset.mem_range.2 (Nat.lt_succ_of_le hk))
  · refine max_le (add_sum_le_walk f xs) (Finset.sup'_le _ _ fun k _ => ?_)
    exact sum_sub_le_walk hf xs k

/-! ## One step -/

/-- **One step of the ledger.**  A completed step moves the fines of a class by its change, but not
below nothing. -/
theorem fines_of_completes {b : Rulebook} {s : Snapshot} {e : Entry} (h : Completes b s e)
    {m : Int} {f : Nat} (hf : s.fines.get? m = some f) :
    ∃ f', e.state.fines.get? m = some f' ∧ (f' : Int) = max 0 (f + e.step.fineChange b m) := by
  cases h with
  | @returned j t d loans copies fines hd hc hl hfines =>
      by_cases hj : m = j
      · subst hj
        obtain rfl : f = fines := Option.some.inj (hf.symm.trans hfines)
        refine ⟨f + d.toNat * b.lateFee, by simpa [givenBack] using Tally.get?_set_self hf _, ?_⟩
        have hchange : (Step.giveBack (.int m) (.int t) (.int d)).fineChange b m =
            d * b.lateFee := by
          simp [Step.fineChange]
        -- A fee is never negative, so the floor plays no part here.
        have hfee : 0 ≤ d * (b.lateFee : Int) := Int.mul_nonneg hd (Int.natCast_nonneg _)
        rw [hchange, Int.natCast_add, Int.natCast_mul, Int.toNat_of_nonneg hd]
        omega
      · refine ⟨f, by simpa [givenBack, Tally.get?_set_of_ne _ hj] using hf, ?_⟩
        simp [Step.fineChange, Ne.symm hj]
  | @paid j a fines ha hfines =>
      by_cases hj : m = j
      · subst hj
        obtain rfl : f = fines := Option.some.inj (hf.symm.trans hfines)
        refine ⟨f - a.toNat, by simpa using Tally.get?_set_self hf _, ?_⟩
        have hchange : (Step.pay (.int m) (.int a)).fineChange b m = -a := by
          simp [Step.fineChange]
        rw [hchange]
        omega
      · refine ⟨f, by simpa [Tally.get?_set_of_ne _ hj] using hf, ?_⟩
        simp [Step.fineChange, Ne.symm hj]
  | granted | refused | waited | reported => exact ⟨f, hf, by simp [Step.fineChange]⟩

/-! ## Runs -/

/-- What the first `k` steps add to the fines of class `m`. -/
def changeUpTo (b : Rulebook) (m : Int) (steps : List Step) (k : Nat) : Int :=
  ((steps.take k).map (Step.fineChange b m)).sum

section

variable {b : Rulebook} {s : Snapshot} {entries : List Entry} {m : Int}

/-- The fines of a class walk along the changes of the steps. -/
theorem fines_of_follows (h : Follows b s entries) {f : Nat} (hf : s.fines.get? m = some f) :
    ∃ f', (stateAfter s entries).fines.get? m = some f' ∧
      (f' : Int) = walk f ((entries.map Entry.step).map (Step.fineChange b m)) := by
  induction h generalizing f with
  | nil s => exact ⟨f, hf, rfl⟩
  | cons first _ ih =>
      obtain ⟨g, hg, hstep⟩ := fines_of_completes first hf
      obtain ⟨f', hf', hrest⟩ := ih hg
      refine ⟨f', hf', ?_⟩
      rw [List.map_cons, List.map_cons, walk_cons, hrest, hstep]

/-- Along a run every entry moves the fines of a class by its change, but not below nothing. -/
theorem fines_of_found (h : Follows b s entries) {f : Nat} (hf : s.fines.get? m = some f) :
    ∀ p ∈ found s entries, ∃ g g', p.1.fines.get? m = some g ∧
      p.2.state.fines.get? m = some g' ∧ (g' : Int) = max 0 (g + p.2.step.fineChange b m) := by
  induction h generalizing f with
  | nil s =>
      intro p hp
      cases hp
  | cons first _ ih =>
      obtain ⟨g, hg, hstep⟩ := fines_of_completes first hf
      intro p hp
      rcases List.mem_cons.1 hp with rfl | hrest
      · exact ⟨f, g, hf, hg, hstep⟩
      · exact ih hg p hrest

end

/-- **The ledger of fines.**  After a finished run of `n` steps the fines of a class are the greater
of two amounts: the first fines with all changes added, and the most that the changes after some
step `k` add up to.  On the way every step moves them by its change, but not below nothing, so that
nothing overpaid is kept; and the steps of other classes leave them alone. -/
theorem run_fines_eq_max (b : Rulebook) (reporting : Bool) (s : Snapshot) (steps : List Step)
    (hw : ∀ step ∈ steps, step.Whole) (hfin : (run b reporting s steps).fault = none)
    (m : Int) (f : Nat) (hf : s.finesOf (.int m) = .ok f) :
    let r := run b reporting s steps
    let n := steps.length
    let S := changeUpTo b m steps
    (∃ f', (r.final s).finesOf (.int m) = .ok f' ∧
      (f' : Int) = max (f + S n)
        ((Finset.range (n + 1)).sup' Finset.nonempty_range_add_one fun k => S n - S k)) ∧
    ∀ p ∈ found s r.entries, ∃ g g', p.1.finesOf (.int m) = .ok g ∧
      p.2.state.finesOf (.int m) = .ok g' ∧ (g' : Int) = max 0 (g + p.2.step.fineChange b m) ∧
      (p.2.step.classId? ≠ some m → g' = g) := by
  intro r n S
  have hfollows : Follows b s r.entries := follows_run hw
  have hf₀ : s.fines.get? m = some f := Snapshot.finesOf_int_iff.1 hf
  constructor
  · obtain ⟨f', hf', hwalk⟩ := fines_of_follows hfollows hf₀
    have hall : S n = (steps.map (Step.fineChange b m)).sum := by
      show ((steps.take n).map _).sum = _
      rw [List.take_length]
    have hpart : ∀ k, S k = ((steps.map (Step.fineChange b m)).take k).sum := by
      intro k
      show ((steps.take k).map _).sum = _
      rw [List.map_take]
    refine ⟨f', by rw [Run.final_eq]; exact Snapshot.finesOf_int_iff.2 hf', ?_⟩
    rw [steps_of_finished hfin, walk_eq_max (Int.natCast_nonneg f), List.length_map] at hwalk
    simp only [hwalk, hall, hpart, n]
  · intro p hp
    obtain ⟨g, g', hg, hg', hstep⟩ := fines_of_found hfollows hf₀ p hp
    refine ⟨g, g', Snapshot.finesOf_int_iff.2 hg, Snapshot.finesOf_int_iff.2 hg', hstep, ?_⟩
    intro hother
    rw [Step.fineChange_of_classId? hother] at hstep
    omega

/-- A late return, a payment of more than the fine, a fine for another class, and one more late
return. -/
def overpaidSteps : List Step :=
  [.giveBack (.int 2) (.int 1) (.int 2), .pay (.int 2) (.int 500),
    .giveBack (.int 1) (.int 3) (.int 9), .giveBack (.int 2) (.int 1) (.int 1), .report]

/-- In these steps the second fine is due in full, though the changes add up to less than none. -/
theorem run_fines_eq_max_overpaidSteps :
    let s := Shelf.opening Rulebook.reference
    let r := run Rulebook.reference true s overpaidSteps
    (∀ step ∈ overpaidSteps, step.Whole) ∧ r.fault = none ∧ s.finesOf (.int 2) = .ok 0 ∧
    changeUpTo Rulebook.reference 2 overpaidSteps 5 = -275 ∧
    ∃ f', (r.final s).finesOf (.int 2) = .ok f' ∧ (f' : Int) = 75 := by
  intro s r
  have hw : ∀ step ∈ overpaidSteps, step.Whole := by decide
  have hfin : r.fault = none := rfl
  have hf : s.finesOf (.int 2) = .ok 0 := rfl
  obtain ⟨⟨f', hf', hmax⟩, -⟩ :=
    run_fines_eq_max Rulebook.reference true s overpaidSteps hw hfin 2 0 hf
  exact ⟨hw, hfin, hf, by decide, f', hf', hmax.trans (by decide)⟩

end Scenario

end Circulation
