import Circulation.Proofs.Coverage
/-!
# A code tells what happened and to whom

Refusals and returns are told by a number alone.  The bands of codes lie apart because ids run from
1 to 99, and the ids of a run from the first day are those of its rulebook; so the meaning of a code
is always known, it names the class, the title or the days that the step was about, and it says which
of the desk's questions settled the matter.

The key construction is `Tells`, what the meaning of a checkout's code says about the snapshot that
the checkout found.  The main facts are

* `Code.decode_int` : the meaning of an integer code, band by band;
* `tells_of_refuses`, `tells_of_granted` : the codes of checkouts;
* `run_code_tells` : the codes of a run from the first day.
-/

namespace Circulation

/-! ## Bands -/

namespace Code

/-- The meaning of an integer code, band by band. -/
theorem decode_int (c : Int) : decode (.int c) =
    if c = 0 then .success
    else if 1000 ≤ c then .returned (.int (c - 1000))
    else if 200 < c ∧ c < 300 then .titleUnavailable (.int (c - 200))
    else if 300 < c ∧ c < 400 then .loanLimit (.int (c - 300))
    else if 400 < c ∧ c < 500 then .fineCeiling (.int (c - 400))
    else .unknown := by
  simp [decode, inBand, Number.same, titleBase, loanBase, fineBase, returnBase, bandWidth,
    Int.sub_eq_add_neg]

/-- Only zero means plain success. -/
theorem decode_eq_success_iff (c : Int) : decode (.int c) = .success ↔ c = 0 := by
  rw [decode_int]
  constructor
  · intro h
    by_contra hne
    rw [if_neg hne] at h
    split_ifs at h
  · intro h
    rw [if_pos h]

/-- The code of an unavailable title names the title. -/
theorem decode_titleBase {t : Int} (h : 1 ≤ t ∧ t ≤ 99) :
    decode (.int (t + titleBase)) = .titleUnavailable (.int t) := by
  unfold titleBase
  rw [decode_int, if_neg (by omega), if_neg (by omega), if_pos (by omega), Int.add_sub_cancel]

/-- The code of a class at its loan limit names the class. -/
theorem decode_loanBase {m : Int} (h : 1 ≤ m ∧ m ≤ 99) :
    decode (.int (m + loanBase)) = .loanLimit (.int m) := by
  unfold loanBase
  rw [decode_int, if_neg (by omega), if_neg (by omega), if_neg (by omega), if_pos (by omega),
    Int.add_sub_cancel]

/-- The code of a class above its fine ceiling names the class. -/
theorem decode_fineBase {m : Int} (h : 1 ≤ m ∧ m ≤ 99) :
    decode (.int (m + fineBase)) = .fineCeiling (.int m) := by
  unfold fineBase
  rw [decode_int, if_neg (by omega), if_neg (by omega), if_neg (by omega), if_neg (by omega),
    if_pos (by omega), Int.add_sub_cancel]

/-- The code of a return names the days late. -/
theorem decode_returnBase {d : Int} (h : 0 ≤ d) :
    decode (.int (d + returnBase)) = .returned (.int d) := by
  unfold returnBase
  rw [decode_int, if_neg (by omega), if_pos (by omega), Int.add_sub_cancel]

end Code

namespace Scenario

open Desk

/-! ## Checkouts -/

/-- What the meaning of a checkout's code says about the snapshot that the checkout found: it is one
of four, and each refusal stands for its own reason and no other. -/
structure Tells (b : Rulebook) (s : Snapshot) (m t : Int) (meaning : Meaning) : Prop where
  known : meaning = .success ∨ meaning = .loanLimit (.int m) ∨ meaning = .fineCeiling (.int m) ∨
    meaning = .titleUnavailable (.int t)
  loanLimit : meaning = .loanLimit (.int m) ↔
    ∃ rule loans, b.classRule (.int m) = .ok rule ∧ s.loansOf (.int m) = .ok loans ∧
      rule.loanLimit ≤ loans
  fineCeiling : meaning = .fineCeiling (.int m) ↔
    ∃ rule loans fines, b.classRule (.int m) = .ok rule ∧ s.loansOf (.int m) = .ok loans ∧
      s.finesOf (.int m) = .ok fines ∧ loans < rule.loanLimit ∧ rule.fineCeiling < fines
  unavailable : meaning = .titleUnavailable (.int t) ↔
    ∃ rule loans fines, b.classRule (.int m) = .ok rule ∧ s.loansOf (.int m) = .ok loans ∧
      s.finesOf (.int m) = .ok fines ∧ loans < rule.loanLimit ∧ fines ≤ rule.fineCeiling ∧
      s.copiesOf (.int t) = .ok 0

section

variable {b : Rulebook} {s : Snapshot} {e : Entry} {m t : Int}

/-- For a class with a known standing the three reasons are three comparisons. -/
theorem tells_of_standing {rule : ClassRule} {loans fines : Nat} {meaning : Meaning}
    (hst : Standing b s m rule loans fines)
    (known : meaning = .success ∨ meaning = .loanLimit (.int m) ∨ meaning = .fineCeiling (.int m) ∨
      meaning = .titleUnavailable (.int t))
    (loanLimit : meaning = .loanLimit (.int m) ↔ rule.loanLimit ≤ loans)
    (fineCeiling : meaning = .fineCeiling (.int m) ↔
      loans < rule.loanLimit ∧ rule.fineCeiling < fines)
    (unavailable : meaning = .titleUnavailable (.int t) ↔
      loans < rule.loanLimit ∧ fines ≤ rule.fineCeiling ∧ s.copiesOf (.int t) = .ok 0) :
    Tells b s m t meaning := by
  have hl := Snapshot.loansOf_int_iff.2 hst.loans_eq
  have hf := Snapshot.finesOf_int_iff.2 hst.fines_eq
  refine ⟨known, loanLimit.trans ?_, fineCeiling.trans ?_, unavailable.trans ?_⟩
  · simp [hst.rule_eq, hl]
  · simp [hst.rule_eq, hl, hf]
  · simp [hst.rule_eq, hl, hf]

/-- A meaning that is no success is that of a refusal. -/
theorem Tells.refusal {meaning : Meaning} (h : Tells b s m t meaning) (hne : meaning ≠ .success) :
    meaning ≠ .unknown ∧ ¬ (meaning.name = "SUCCESS" ∨ meaning.name = "RETURNED") := by
  rcases h.known.resolve_left hne with rfl | rfl | rfl
  · exact ⟨nofun, by simp [Meaning.name]⟩
  · exact ⟨nofun, by simp [Meaning.name]⟩
  · exact ⟨nofun, by simp [Meaning.name]⟩

/-- The code of a granted checkout. -/
theorem tells_of_granted (eligible : MayBorrow b s m) {copies : Nat}
    (hc : s.copies.get? t = some copies) (hpos : 0 < copies) : Tells b s m t .success := by
  obtain ⟨rule, loans, fines, hst, hlimit, hceiling⟩ := eligible
  have hcopies : s.copiesOf (.int t) ≠ .ok 0 := by
    rw [Snapshot.copiesOf_int_iff.2 hc]
    rintro ⟨⟩
    omega
  refine tells_of_standing hst (.inl rfl) ?_ ?_ ?_
  · exact iff_of_false nofun (by omega)
  · exact iff_of_false nofun (by omega)
  · exact iff_of_false nofun fun h => hcopies h.2.2

/-- The code of a refused checkout. -/
theorem tells_of_refuses (hfit : s.Fits b) {code : Int} (why : Refuses b s m t code) :
    Tells b s m t (Code.decode (.int code)) := by
  cases why with
  | @loanLimit rule loans fines hst hlimit =>
      rw [Code.decode_loanBase (hst.id_range)]
      refine tells_of_standing hst (.inr (.inl rfl)) ?_ ?_ ?_
      · exact iff_of_true rfl hlimit
      · exact iff_of_false nofun (by omega)
      · exact iff_of_false nofun (by omega)
  | @fineCeiling rule loans fines hst hlimit hceiling =>
      rw [Code.decode_fineBase (hst.id_range)]
      refine tells_of_standing hst (.inr (.inr (.inl rfl))) ?_ ?_ ?_
      · exact iff_of_false nofun (by omega)
      · exact iff_of_true rfl ⟨hlimit, hceiling⟩
      · exact iff_of_false nofun (by omega)
  | unavailable eligible hempty hcode =>
      obtain ⟨rule, loans, fines, hst, hlimit, hceiling⟩ := eligible
      -- Here alone the ids of the rulebook are needed: any other title could leave its band.
      rw [Code.decode_titleBase (Rulebook.titleIds_range (hfit.exists_copies_iff.1 ⟨0, hempty⟩))]
      refine tells_of_standing hst (.inr (.inr (.inr rfl))) ?_ ?_ ?_
      · exact iff_of_false nofun (by omega)
      · exact iff_of_false nofun (by omega)
      · exact iff_of_true rfl ⟨hlimit, hceiling, Snapshot.copiesOf_int_iff.2 hempty⟩

/-! ## Runs -/

/-- **The codes of completed steps.**  The meaning of an outcome's code is known, it is that of a
success exactly when the step took effect, and it tells what the step was about. -/
theorem code_tells_of_completes (hfit : s.Fits b) (h : Completes b s e) {o : Outcome}
    (ho : e.outcome = some o) :
    o.meaning ≠ .unknown ∧
    (o.ok = true ↔ o.meaning.name = "SUCCESS" ∨ o.meaning.name = "RETURNED") ∧
    (∀ m t, e.step = .checkout (.int m) (.int t) → Tells b s m t o.meaning) ∧
    (∀ m t d, e.step = .giveBack (.int m) (.int t) (.int d) → o.meaning = .returned (.int d)) := by
  cases h with
  | granted eligible loans_eq copies_eq pos =>
      cases ho
      refine ⟨nofun, iff_of_true rfl (.inl rfl), ?_, nofun⟩
      rintro m t ⟨⟩
      exact tells_of_granted eligible copies_eq pos
  | @refused m t code why =>
      cases ho
      have htells : Tells b s m t (refusal s code why.code_ne).meaning := tells_of_refuses hfit why
      obtain ⟨hknown, hkind⟩ := htells.refusal (mt (Code.decode_eq_success_iff code).1 why.code_ne)
      refine ⟨hknown, iff_of_false Bool.false_ne_true hkind, ?_, nofun⟩
      rintro m t ⟨⟩
      exact htells
  | @returned m t d loans copies fines days copies_eq loans_eq fines_eq =>
      cases ho
      have hmeaning : (accepted (givenBack s m t loans copies fines (d.toNat * b.lateFee))
          (d + Code.returnBase)).meaning = .returned (.int d) := Code.decode_returnBase days
      rw [hmeaning]
      refine ⟨nofun, iff_of_true rfl (.inr rfl), nofun, ?_⟩
      rintro m t d ⟨⟩
      rfl
  | paid | waited | reported => cases ho

end

/-- **A code tells what happened and to whom.**  In a run from the first day the meaning of every
outcome's code is known, and it is one of success exactly when the step took effect; for a checkout
it names the class or the title and the reason that the snapshot before gave, and for a return the
days late. -/
theorem run_code_tells (b : Rulebook) (reporting : Bool) (steps : List Step)
    (hw : ∀ step ∈ steps, step.Whole) :
    let s := Shelf.opening b
    ∀ p ∈ found s (run b reporting s steps).entries, ∀ o, p.2.outcome = some o →
      o.meaning ≠ .unknown ∧
      (o.ok = true ↔ o.meaning.name = "SUCCESS" ∨ o.meaning.name = "RETURNED") ∧
      (∀ m t, p.2.step = .checkout (.int m) (.int t) → Tells b p.1 m t o.meaning) ∧
      (∀ m t d, p.2.step = .giveBack (.int m) (.int t) (.int d) →
        o.meaning = .returned (.int d)) := by
  intro s p hp o ho
  obtain ⟨hfit, hcompletes⟩ := (fits_of_follows (follows_run hw) (Snapshot.fits_opening b)).1 p hp
  exact code_tells_of_completes hfit hcompletes ho

/-- The last copy of a title, a second request for it, one at the limit and one after a late
return. -/
def tellingSteps : List Step :=
  [.checkout (.int 1) (.int 3), .checkout (.int 2) (.int 3), .checkout (.int 2) (.int 1),
    .checkout (.int 2) (.int 1), .checkout (.int 2) (.int 2), .giveBack (.int 2) (.int 1) (.int 30),
    .checkout (.int 2) (.int 2)]

/-- The codes of these steps, and what they mean. -/
theorem run_code_tells_tellingSteps :
    let b := Rulebook.reference
    let s := Shelf.opening b
    let r := run b true s tellingSteps
    (∀ step ∈ tellingSteps, step.Whole) ∧
    r.outcomes.map Outcome.code = [0, 203, 0, 0, 302, 1030, 402] ∧
    r.outcomes.map Outcome.meaning =
      [.success, .titleUnavailable (.int 3), .success, .success, .loanLimit (.int 2),
        .returned (.int 30), .fineCeiling (.int 2)] ∧
    ∃ p, (found s r.entries)[6]? = some p ∧ ∃ rule loans fines,
      b.classRule (.int 2) = .ok rule ∧ p.1.loansOf (.int 2) = .ok loans ∧
      p.1.finesOf (.int 2) = .ok fines ∧ loans < rule.loanLimit ∧ rule.fineCeiling < fines := by
  intro b s r
  have hw : ∀ step ∈ tellingSteps, step.Whole := by decide
  refine ⟨hw, rfl, rfl, _, rfl, ?_⟩
  obtain ⟨-, -, hcheckout, -⟩ :=
    run_code_tells b true tellingSteps hw _ (List.mem_of_getElem? (i := 6) rfl) _ rfl
  exact (hcheckout 2 2 rfl).fineCeiling.1 rfl

end Scenario

end Circulation
