import Circulation.Proofs.Coverage
/-!
# When a run stops

A run from the first day goes through its steps in order and stops at the first one that cannot be
carried out: one that names a class or a title that the rulebook does not have, or an amount below
zero.  A title is only asked for when the class may borrow, so an unknown title can go unnoticed for
a while, and whether a checkout stops the run depends on all that came before.

Nothing else stops it.  No copy is taken from an empty shelf, no count goes below zero, and every
refusal has a code of its own, for the ids of all snapshots stay those of the rulebook.

The key constructions are `Offends`, which says why a step cannot be carried out, and `Ends`, the two
ways in which a run can end.  The main facts are

* `apply_error_iff` : a step with integer fields fails exactly when it offends, and with that fault;
* `ends_runFrom` : a run has an entry for each step, or stops at one that offends;
* `run_fault_iff_offends` : where a run from the first day stops, and why.
-/

namespace Circulation.Scenario

open Desk

/-! ## Steps that cannot be carried out -/

/-- In snapshot `s` the step cannot be carried out, for this reason. -/
inductive Offends (b : Rulebook) (s : Snapshot) : Step → Fault → Prop
  | checkoutClass {m t : Int} (unknown : m ∉ b.classIds) :
      Offends b s (.checkout (.int m) (.int t)) (.unknownClass (.int m))
  | checkoutTitle {m t : Int} (eligible : MayBorrow b s m) (unknown : t ∉ b.titleIds) :
      Offends b s (.checkout (.int m) (.int t)) (.unknownTitle (.int t))
  | returnDays {m t d : Int} (negative : d < 0) :
      Offends b s (.giveBack (.int m) (.int t) (.int d)) (.negativeAmount "late_days" (.int d))
  | returnTitle {m t d : Int} (days : 0 ≤ d) (unknown : t ∉ b.titleIds) :
      Offends b s (.giveBack (.int m) (.int t) (.int d)) (.unknownTitle (.int t))
  | returnClass {m t d : Int} (days : 0 ≤ d) (title : t ∈ b.titleIds) (unknown : m ∉ b.classIds) :
      Offends b s (.giveBack (.int m) (.int t) (.int d)) (.unknownClass (.int m))
  | payAmount {m a : Int} (negative : a < 0) :
      Offends b s (.pay (.int m) (.int a)) (.negativeAmount "payment_minor_units" (.int a))
  | payClass {m a : Int} (amount : 0 ≤ a) (unknown : m ∉ b.classIds) :
      Offends b s (.pay (.int m) (.int a)) (.unknownClass (.int m))
  | advanceDays {d : Int} (negative : d < 0) :
      Offends b s (.advance (.int d)) (.invalid (.negativeDays (.int d)))

section

variable {b : Rulebook} {s : Snapshot} {step : Step} {f : Fault}

/-- The faults of steps that offend are about ids and amounts: none comes from an empty shelf, and
none from the checks of snapshots and outcomes. -/
theorem Offends.fault_cases (h : Offends b s step f) :
    (∀ t, f ≠ .emptyShelf t) ∧ ∀ why, f = .invalid why → ∃ d, why = .negativeDays d := by
  cases h with
  | advanceDays negative =>
      refine ⟨fun t => nofun, ?_⟩
      rintro why ⟨⟩
      exact ⟨_, rfl⟩
  | checkoutClass | checkoutTitle | returnDays | returnTitle | returnClass | payAmount | payClass =>
      exact ⟨fun t => nofun, fun why => nofun⟩

/-- A step that offends fails with that fault, and notes nothing. -/
theorem apply_of_offends (hfit : s.Fits b) (h : Offends b s step f) :
    step.apply b s = ⟨[], .error f⟩ := by
  cases h with
  | checkoutClass unknown =>
      have hrule := not_exists.1 (mt Rulebook.exists_classRule_iff.1 unknown)
      simp [Step.apply, checkout_of_unknown_class (.inl hrule)]
  | checkoutTitle eligible unknown =>
      simp [Step.apply, checkout_of_unknown_title eligible (hfit.copies_eq_none unknown)]
  | returnDays negative => simp [Step.apply, giveBack_of_negative negative]
  | returnTitle days unknown =>
      simp [Step.apply, giveBack_of_unknown_title days (hfit.copies_eq_none unknown)]
  | returnClass days title unknown =>
      obtain ⟨copies, hc⟩ := hfit.exists_copies_iff.2 title
      simp [Step.apply, giveBack_of_unknown_class days hc (hfit.loans_eq_none unknown)]
  | payAmount negative => simp [Step.apply, pay_of_negative negative]
  | payClass amount unknown =>
      simp [Step.apply, pay_of_unknown amount (hfit.fines_eq_none unknown)]
  | advanceDays negative => simp [Step.apply, advance_of_negative negative]

/-- A checkout completes or offends. -/
theorem completes_or_offends_checkout (hfit : s.Fits b) (m t : Int) :
    (∃ e, Completes b s e ∧ e.step = .checkout (.int m) (.int t)) ∨
      ∃ f, Offends b s (.checkout (.int m) (.int t)) f := by
  rcases checkout_cases b s m t with hunknown | ⟨code, why⟩ | ⟨eligible, hnone⟩ |
    ⟨eligible, hempty, hcode⟩ | ⟨eligible, loans, copies, hl, hc, hpos⟩
  · refine .inr ⟨_, .checkoutClass fun hm => ?_⟩
    rcases hunknown with hrule | hnone
    · obtain ⟨rule, hr⟩ := Rulebook.exists_classRule_iff.2 hm
      exact hrule rule hr
    · obtain ⟨n, hn⟩ := hfit.exists_loans_iff.2 hm
      exact Option.some_ne_none n (hn.symm.trans hnone)
  · exact .inl ⟨_, .refused why, rfl⟩
  · refine .inr ⟨_, .checkoutTitle eligible fun ht => ?_⟩
    obtain ⟨n, hn⟩ := hfit.exists_copies_iff.2 ht
    exact Option.some_ne_none n (hn.symm.trans hnone)
  · -- The refusal without a code of its own would be that of title -200.
    have hrange := Rulebook.titleIds_range (hfit.exists_copies_iff.1 ⟨0, hempty⟩)
    unfold Code.titleBase at hcode
    omega
  · exact .inl ⟨_, .granted eligible hl hc hpos, rfl⟩

/-- A return completes or offends. -/
theorem completes_or_offends_giveBack (hfit : s.Fits b) (m t d : Int) :
    (∃ e, Completes b s e ∧ e.step = .giveBack (.int m) (.int t) (.int d)) ∨
      ∃ f, Offends b s (.giveBack (.int m) (.int t) (.int d)) f := by
  rcases lt_or_ge d 0 with hneg | hd
  · exact .inr ⟨_, .returnDays hneg⟩
  by_cases ht : t ∈ b.titleIds
  · by_cases hm : m ∈ b.classIds
    · obtain ⟨copies, hc⟩ := hfit.exists_copies_iff.2 ht
      obtain ⟨loans, hl⟩ := hfit.exists_loans_iff.2 hm
      obtain ⟨fines, hf⟩ := hfit.exists_fines_iff.2 hm
      exact .inl ⟨_, .returned hd hc hl hf, rfl⟩
    · exact .inr ⟨_, .returnClass hd ht hm⟩
  · exact .inr ⟨_, .returnTitle hd ht⟩

/-- A payment completes or offends. -/
theorem completes_or_offends_pay (hfit : s.Fits b) (m a : Int) :
    (∃ e, Completes b s e ∧ e.step = .pay (.int m) (.int a)) ∨
      ∃ f, Offends b s (.pay (.int m) (.int a)) f := by
  rcases lt_or_ge a 0 with hneg | ha
  · exact .inr ⟨_, .payAmount hneg⟩
  by_cases hm : m ∈ b.classIds
  · obtain ⟨fines, hf⟩ := hfit.exists_fines_iff.2 hm
    exact .inl ⟨_, .paid ha hf, rfl⟩
  · exact .inr ⟨_, .payClass ha hm⟩

/-- **Steps.**  In a snapshot with the ids of the rulebook a step with integer fields completes or
offends. -/
theorem completes_or_offends (hfit : s.Fits b) (hw : step.Whole) :
    (∃ e, Completes b s e ∧ e.step = step) ∨ ∃ f, Offends b s step f := by
  cases hw with
  | checkout m t => exact completes_or_offends_checkout hfit m t
  | giveBack m t d => exact completes_or_offends_giveBack hfit m t d
  | pay m a => exact completes_or_offends_pay hfit m a
  | advance d =>
      rcases lt_or_ge d 0 with hneg | hd
      · exact .inr ⟨_, .advanceDays hneg⟩
      · exact .inl ⟨_, .waited hd, rfl⟩
  | report => exact .inl ⟨_, .reported, rfl⟩

/-- A step has one offence. -/
theorem Offends.unique {f' : Fault} (h : Offends b s step f) (hfit : s.Fits b)
    (h' : Offends b s step f') : f = f' := by
  have herror := apply_of_offends hfit h
  rw [apply_of_offends hfit h'] at herror
  cases herror
  rfl

/-- What completes does not offend. -/
theorem not_offends_of_completes (hfit : s.Fits b) {e : Entry} (h : Completes b s e) :
    ¬ Offends b s e.step f := by
  intro hoff
  have hok := apply_of_completes h
  rw [apply_of_offends hfit hoff] at hok
  cases hok

/-- **Faults.**  A step with integer fields fails exactly when it offends, and with that fault. -/
theorem apply_error_iff (hfit : s.Fits b) (hw : step.Whole) :
    (step.apply b s).result = .error f ↔ Offends b s step f := by
  constructor
  · intro herror
    rcases completes_or_offends hfit hw with ⟨e, he, rfl⟩ | ⟨f', hoff⟩
    · cases herror.symm.trans (apply_of_completes he)
    · rw [apply_of_offends hfit hoff] at herror
      cases herror
      exact hoff
  · intro hoff
    rw [apply_of_offends hfit hoff]

end

/-! ## Runs -/

/-- How the run of some steps from `s` ends: with an entry for each step, or at the first step without
an entry, which offends in the snapshot reached. -/
inductive Ends (b : Rulebook) (s : Snapshot) (steps : List Step) (r : Run) : Prop
  | finished (fault : r.fault = none) (all : r.entries.map Entry.step = steps)
  | stopped {step : Step} {rest : List Step} {f : Fault} (fault : r.fault = some f)
      (split : steps = r.entries.map Entry.step ++ step :: rest)
      (offends : Offends b (stateAfter s r.entries) step f)

section

variable {b : Rulebook} {reporting : Bool} {s : Snapshot} {steps : List Step}

/-- A run from a snapshot with the ids of the rulebook ends in one of the two ways. -/
theorem ends_runFrom (index : Nat) (hfit : s.Fits b) (hw : ∀ step ∈ steps, step.Whole) :
    Ends b s steps (runFrom b reporting index s steps) := by
  induction steps generalizing index s with
  | nil => exact .finished rfl rfl
  | cons step rest ih =>
      have hstep := hw step List.mem_cons_self
      rw [runFrom]
      cases happly : (step.apply b s).result with
      | error f => exact .stopped rfl rfl ((apply_error_iff hfit hstep).1 happly)
      | ok after =>
          obtain ⟨s', outcome⟩ := after
          have hfit' : s'.Fits b := hfit.of_kept (Step.rebuilds_of_apply happly).kept
          obtain ⟨text, htext⟩ := exists_reportText (e := ⟨step, s', outcome⟩) hfit' reporting
          have hrest := ih (index + 1) hfit' fun x hx => hw x (List.mem_cons_of_mem _ hx)
          simp only [htext]
          -- One entry more in front moves neither the end nor the snapshot reached.
          cases hrest with
          | finished fault all => exact .finished fault (congrArg (step :: ·) all)
          | stopped fault split offends =>
              exact .stopped fault (congrArg (step :: ·) split) offends

/-- So does the whole scenario, which adds nothing but a note. -/
theorem ends_run (hfit : s.Fits b) (hw : ∀ step ∈ steps, step.Whole) :
    Ends b s steps (run b reporting s steps) := by
  have hends : Ends b s steps (runFrom b reporting 0 s steps) := ends_runFrom 0 hfit hw
  cases hends with
  | finished fault all => exact .finished fault all
  | stopped fault split offends => exact .stopped fault split offends

namespace Ends

variable {r : Run}

/-- A run has no fault exactly when it has an entry for each step. -/
theorem fault_eq_none_iff (h : Ends b s steps r) :
    r.fault = none ↔ r.entries.map Entry.step = steps := by
  cases h with
  | finished fault all => exact iff_of_true fault all
  | stopped fault split _ =>
      refine iff_of_false (by simp [fault]) fun hall => ?_
      rw [hall] at split
      simpa using congrArg List.length split

/-- A run has a fault exactly when the first step without an entry has this offence. -/
theorem fault_eq_some_iff (h : Ends b s steps r) (hfit : (stateAfter s r.entries).Fits b)
    (f : Fault) :
    r.fault = some f ↔ ∃ step rest, steps = r.entries.map Entry.step ++ step :: rest ∧
      Offends b (stateAfter s r.entries) step f := by
  cases h with
  | finished fault all =>
      refine iff_of_false (by simp [fault]) ?_
      rintro ⟨step, rest, hsplit, -⟩
      rw [all] at hsplit
      simpa using congrArg List.length hsplit
  | @stopped step rest f' fault split offends =>
      rw [fault]
      constructor
      · rintro ⟨⟩
        exact ⟨step, rest, split, offends⟩
      · rintro ⟨step', rest', hsplit, hoff⟩
        -- The two splits are one, and a step has one fault.
        obtain ⟨rfl, rfl⟩ := List.cons.inj (List.append_cancel_left (split.symm.trans hsplit))
        exact congrArg some (offends.unique hfit hoff)

/-- The fault of a run is one of an offence. -/
theorem fault_cases (h : Ends b s steps r) {f : Fault} (hf : r.fault = some f) :
    (∀ t, f ≠ .emptyShelf t) ∧ ∀ why, f = .invalid why → ∃ d, why = .negativeDays d := by
  cases h with
  | finished fault _ => cases fault.symm.trans hf
  | stopped fault _ offends =>
      cases fault.symm.trans hf
      exact offends.fault_cases

end Ends

end

/-- **Where a run stops.**  A run from the first day completes steps that do not offend, and it
stops with a fault exactly when the step after them offends in the snapshot reached; without such a
step it has one entry for each step.  The fault is that of the offence: never one of an empty shelf,
nor one of the checks of snapshots and outcomes, which every snapshot on the way has passed. -/
theorem run_fault_iff_offends (b : Rulebook) (reporting : Bool) (steps : List Step)
    (hw : ∀ step ∈ steps, step.Whole) :
    let s := Shelf.opening b
    let r := run b reporting s steps
    (∀ p ∈ found s r.entries, (∀ f, ¬ Offends b p.1 p.2.step f) ∧ p.1.Rebuilds p.2.state) ∧
    (r.fault = none ↔ r.entries.map Entry.step = steps) ∧
    (∀ f, r.fault = some f ↔ ∃ step rest, steps = r.entries.map Entry.step ++ step :: rest ∧
      Offends b (r.final s) step f) ∧
    (∀ f, r.fault = some f →
      (∀ t, f ≠ .emptyShelf t) ∧ ∀ why, f = .invalid why → ∃ d, why = .negativeDays d) := by
  intro s r
  have hfit : s.Fits b := Snapshot.fits_opening b
  have hfollows : Follows b s r.entries := follows_run hw
  obtain ⟨hfound, hlast⟩ := fits_of_follows hfollows hfit
  have hends : Ends b s steps r := ends_run hfit hw
  rw [Run.final_eq]
  refine ⟨?_, hends.fault_eq_none_iff, hends.fault_eq_some_iff hlast, fun f => hends.fault_cases⟩
  intro p hp
  obtain ⟨hfits, hcompletes⟩ := hfound p hp
  exact ⟨fun f => not_offends_of_completes hfits hcompletes, rebuilds_of_completes hcompletes⟩

/-- A title that the rulebook does not have is asked for twice, first by a class at its limit. -/
def maskedSteps : List Step :=
  [.checkout (.int 2) (.int 1), .checkout (.int 2) (.int 1), .checkout (.int 2) (.int 77),
    .giveBack (.int 2) (.int 1) (.int 0), .checkout (.int 2) (.int 77), .report]

/-- These steps stop at the second request for the unknown title; the first one was refused. -/
theorem run_fault_iff_offends_maskedSteps :
    let b := Rulebook.reference
    let s := Shelf.opening b
    let r := run b true s maskedSteps
    (∀ step ∈ maskedSteps, step.Whole) ∧ r.entries.map Entry.step = maskedSteps.take 4 ∧
    r.fault = some (.unknownTitle (.int 77)) ∧
    Offends b (r.final s) (.checkout (.int 2) (.int 77)) (.unknownTitle (.int 77)) := by
  intro b s r
  have hw : ∀ step ∈ maskedSteps, step.Whole := by decide
  have hentries : r.entries.map Entry.step = maskedSteps.take 4 := rfl
  have hfault : r.fault = some (.unknownTitle (.int 77)) := rfl
  obtain ⟨-, -, hstops, -⟩ := run_fault_iff_offends b true maskedSteps hw
  obtain ⟨step, rest, hsplit, hoff⟩ := (hstops _).1 hfault
  have hstep : step = .checkout (.int 2) (.int 77) := by
    rw [hentries] at hsplit
    cases hsplit
    rfl
  exact ⟨hw, hentries, hfault, hstep ▸ hoff⟩

end Circulation.Scenario
