import Circulation.Proofs.Coverage
/-!
# The decision tables of the desk

What comes of a checkout or of a return is laid down in a table: the rows are gone through from the
top, and the first one whose condition holds says what the answer is.  The conditions speak of the
ids of the rulebook and of the snapshot, which need not be the same ids, and of the counts that can
be read; a row that grants a request says all that changes in the snapshot, and that nothing else
does.

The key constructions are

* `FirstApplies` : the first row that applies is followed;
* `Tally.Differs` : one count is replaced, and the rest of a tally stays;
* `Lends`, `TakesBack` : what a granted checkout and a return change;
* `checkoutTable`, `returnTable` : the tables;
* `giveBackFining` : a return that adds the fine also when it is nothing.

The main facts are

* `FirstApplies.exists_row` : some row of a table that is followed decides;
* `checkout_follows_table` : checkouts follow their table, and fail only as it says;
* `return_follows_table` : returns follow theirs, without a look at the lists of the rulebook.
-/

namespace Circulation

/-! ## One count replaced -/

/-- The tally `u` is `t` with the count `n` under `k` replaced by `n'`. -/
structure Tally.Differs (t u : Tally) (k : Int) (n n' : Nat) : Prop where
  keys : u.keys = t.keys
  before : t.get? k = some n
  after : u.get? k = some n'
  others : ∀ j, j ≠ k → u.get? j = t.get? j

/-- Replacing a count is what it says. -/
theorem Tally.differs_set {t : Tally} {k : Int} {n : Nat} (h : t.get? k = some n) (n' : Nat) :
    t.Differs (t.set k n') k n n' where
  keys := t.keys_set k n'
  before := h
  after := get?_set_self h n'
  others := fun _ hj => get?_set_of_ne t hj n'

namespace Desk

/-! ## Tables -/

/-- In a table of conditions and decisions, the first condition that holds has its decision
followed.  Some condition has to hold. -/
def FirstApplies : List (Prop × Prop) → Prop
  | [] => False
  | (condition, decision) :: rest =>
    (condition → decision) ∧ (¬ condition → FirstApplies rest)

/-- Some row of a table that is followed decides. -/
theorem FirstApplies.exists_row {rows : List (Prop × Prop)} (h : FirstApplies rows) :
    ∃ row ∈ rows, row.1 ∧ row.2 := by
  induction rows with
  | nil => exact h.elim
  | cons row rest ih =>
      by_cases hrow : row.1
      · exact ⟨row, List.mem_cons_self, hrow, h.1 hrow⟩
      · obtain ⟨row', hmem, hrow'⟩ := ih (h.2 hrow)
        exact ⟨row', List.mem_cons_of_mem _ hmem, hrow'⟩

/-- The request is refused with this code, and the snapshot stays as it is. -/
def RefusedWith (s : Snapshot) (code : Int) (r : Except Fault Outcome) : Prop :=
  ∃ o, r = .ok o ∧ o.ok = false ∧ o.code = code ∧ o.state = s

/-! ## Checking out -/

/-- The class has as many open loans as its rule allows, or more. -/
def AtLoanLimit (b : Rulebook) (s : Snapshot) (m : Int) : Prop :=
  ∃ rule ∈ b.classes, rule.id = m ∧ ∃ loans, s.loansOf (.int m) = .ok loans ∧ rule.loanLimit ≤ loans

/-- The class has more unpaid fines than its rule allows. -/
def AboveFineCeiling (b : Rulebook) (s : Snapshot) (m : Int) : Prop :=
  ∃ rule ∈ b.classes, rule.id = m ∧
    ∃ fines, s.finesOf (.int m) = .ok fines ∧ rule.fineCeiling < fines

/-- One copy of `t` has left the shelf and class `m` has one loan more; nothing else differs. -/
structure Lends (s u : Snapshot) (m t : Int) : Prop where
  day : u.day = s.day
  copies : ∃ n, s.copies.Differs u.copies t (n + 1) n
  loans : ∃ n, s.loans.Differs u.loans m n (n + 1)
  fines : u.fines = s.fines

/-- The rows of a checkout of title `t` by class `m` with the answer `r`. -/
def checkoutTable (b : Rulebook) (s : Snapshot) (m t : Int) (r : Except Fault Outcome) :
    List (Prop × Prop) :=
  [(m ∉ b.classIds ∨ m ∉ s.loans.keys, r = .error (.unknownClass (.int m))),
    (AtLoanLimit b s m, RefusedWith s (300 + m) r),
    (AboveFineCeiling b s m, RefusedWith s (400 + m) r),
    (t ∉ s.copies.keys, r = .error (.unknownTitle (.int t))),
    (s.copiesOf (.int t) = .ok 0 ∧ t = -200, r = .error (.invalid .silentRefusal)),
    (s.copiesOf (.int t) = .ok 0, RefusedWith s (200 + t) r),
    (True, ∃ o, r = .ok o ∧ o.ok = true ∧ o.code = 0 ∧ Lends s o.state m t)]

section

variable {b : Rulebook} {s : Snapshot} {m t : Int} {rule : ClassRule} {loans fines copies : Nat}

/-- A class is unknown when its id is missing in the rulebook or in the snapshot. -/
theorem unknown_iff : (∀ rule, b.classRule (.int m) ≠ .ok rule) ∨ s.loans.get? m = none ↔
    m ∉ b.classIds ∨ m ∉ s.loans.keys := by
  rw [← not_exists, Rulebook.exists_classRule_iff, Tally.get?_eq_none_iff]

/-- What holds of some rule of a class holds of the rule in its standing: there is only one. -/
theorem Standing.exists_rule_iff (h : Standing b s m rule loans fines) {p : ClassRule → Prop} :
    (∃ r ∈ b.classes, r.id = m ∧ p r) ↔ p rule := by
  have hmem := Rulebook.mem_of_classRule h.rule_eq
  have hid := Rulebook.id_of_classRule h.rule_eq
  constructor
  · rintro ⟨r, hr, hrid, hp⟩
    obtain rfl : r = rule :=
      List.inj_on_of_nodup_map b.classes_nodup hr hmem (hrid.trans hid.symm)
    exact hp
  · intro hp
    exact ⟨rule, hmem, hid, hp⟩

theorem Standing.atLoanLimit_iff (h : Standing b s m rule loans fines) :
    AtLoanLimit b s m ↔ rule.loanLimit ≤ loans := by
  rw [AtLoanLimit, h.exists_rule_iff]
  simp [Snapshot.loansOf_int_iff, h.loans_eq]

theorem Standing.aboveFineCeiling_iff (h : Standing b s m rule loans fines) :
    AboveFineCeiling b s m ↔ rule.fineCeiling < fines := by
  rw [AboveFineCeiling, h.exists_rule_iff]
  simp [Snapshot.finesOf_int_iff, h.fines_eq]

/-- What a granted checkout changes. -/
theorem lends_lent (hl : s.loans.get? m = some loans) (hc : s.copies.get? t = some copies)
    (hpos : 0 < copies) : Lends s (lent s m t loans copies) m t where
  day := rfl
  copies := by
    refine ⟨copies - 1, ?_⟩
    rw [Nat.sub_add_cancel hpos]
    exact Tally.differs_set hc (copies - 1)
  loans := ⟨loans, Tally.differs_set hl (loans + 1)⟩
  fines := rfl

/-- A refused checkout, with the code of its row. -/
theorem refusedWith_of_refuses {code code' : Int} (h : Refuses b s m t code) (hcode : code = code') :
    RefusedWith s code' (Lending.checkout b s (.int m) (.int t)).result := by
  rw [checkout_of_refuses h]
  exact ⟨_, rfl, rfl, hcode, rfl⟩

/-- **Checkouts** follow their table. -/
theorem firstApplies_checkout (b : Rulebook) (s : Snapshot) (m t : Int) :
    FirstApplies (checkoutTable b s m t (Lending.checkout b s (.int m) (.int t)).result) := by
  refine ⟨fun hunknown => ?_, fun hknown => ?_⟩
  · rw [checkout_of_unknown_class (unknown_iff.2 hunknown)]
  obtain ⟨rule, loans, fines, hst⟩ := exists_standing (unknown_iff.not.2 hknown)
  refine ⟨fun hlimit => ?_, fun hlimit => ?_⟩
  · exact refusedWith_of_refuses (.loanLimit hst (hst.atLoanLimit_iff.1 hlimit))
      (Int.add_comm m 300)
  have hloans : loans < rule.loanLimit := Nat.not_le.1 (hst.atLoanLimit_iff.not.1 hlimit)
  refine ⟨fun hceiling => ?_, fun hceiling => ?_⟩
  · exact refusedWith_of_refuses (.fineCeiling hst hloans (hst.aboveFineCeiling_iff.1 hceiling))
      (Int.add_comm m 400)
  have hfines : fines ≤ rule.fineCeiling := Nat.not_lt.1 (hst.aboveFineCeiling_iff.not.1 hceiling)
  have he : MayBorrow b s m := ⟨rule, loans, fines, hst, hloans, hfines⟩
  -- The class may borrow, so the rows that are left ask the shelf.
  refine ⟨fun htitle => ?_, fun htitle => ?_⟩
  · rw [checkout_of_unknown_title he ((Tally.get?_eq_none_iff _ _).2 htitle)]
  obtain ⟨copies, hc⟩ := (Tally.mem_keys_iff _ _).1 (not_not.1 htitle)
  refine ⟨fun ⟨hempty, hcode⟩ => ?_, fun hsilent => ⟨fun hempty => ?_, fun hempty => ?_⟩⟩
  · rw [checkout_of_silent he (Snapshot.copiesOf_int_iff.1 hempty) (by rw [hcode]; rfl)]
  · have hcode : t + Code.titleBase ≠ 0 := by
      intro hzero
      exact hsilent ⟨hempty, by unfold Code.titleBase at hzero; omega⟩
    exact refusedWith_of_refuses
      (.unavailable he (Snapshot.copiesOf_int_iff.1 hempty) hcode) (Int.add_comm t 200)
  refine ⟨fun _ => ?_, fun h => h trivial⟩
  have hpos : 0 < copies := by
    rw [Nat.pos_iff_ne_zero]
    rintro rfl
    exact hempty (Snapshot.copiesOf_int_iff.2 hc)
  rw [checkout_of_granted he hst.loans_eq hc hpos]
  exact ⟨_, rfl, rfl, rfl, lends_lent hst.loans_eq hc hpos⟩

/-- The answers in the table of a checkout: a refusal leaves the snapshot as it is, and there are
three faults. -/
theorem answer_of_checkoutTable {r : Except Fault Outcome}
    (h : FirstApplies (checkoutTable b s m t r)) :
    (∃ o, r = .ok o ∧ (o.ok = false → o.state = s)) ∨
    ∃ f, r = .error f ∧ (f = .unknownClass (.int m) ∨ f = .unknownTitle (.int t) ∨
      t = -200 ∧ f = .invalid .silentRefusal) := by
  obtain ⟨row, hmem, hcondition, hdecision⟩ := h.exists_row
  have hrefused : ∀ {code : Int}, RefusedWith s code r →
      ∃ o, r = .ok o ∧ (o.ok = false → o.state = s) := by
    rintro code ⟨o, hr, -, -, hstate⟩
    exact ⟨o, hr, fun _ => hstate⟩
  simp only [checkoutTable, List.mem_cons, List.not_mem_nil, or_false] at hmem
  rcases hmem with rfl | rfl | rfl | rfl | rfl | rfl | rfl
  · exact .inr ⟨_, hdecision, .inl rfl⟩
  · exact .inl (hrefused hdecision)
  · exact .inl (hrefused hdecision)
  · exact .inr ⟨_, hdecision, .inr (.inl rfl)⟩
  · exact .inr ⟨_, hdecision, .inr (.inr ⟨hcondition.2, rfl⟩)⟩
  · exact .inl (hrefused hdecision)
  · obtain ⟨o, hr, hok, -⟩ := hdecision
    exact .inl ⟨o, hr, fun hno => absurd (hok.symm.trans hno) (by decide)⟩

end

/-- **The decision on a checkout.**  For every rulebook, every snapshot and all integers, the answer
is that of the first row of the table that applies.  So a refusal leaves the snapshot as it is, and
a checkout fails only for an unknown class, for an unknown title, or for the one title whose refusal
would carry the code of success. -/
theorem checkout_follows_table (b : Rulebook) (s : Snapshot) (m t : Int) :
    FirstApplies (checkoutTable b s m t (Lending.checkout b s (.int m) (.int t)).result) ∧
    (∀ o, (Lending.checkout b s (.int m) (.int t)).result = .ok o → o.ok = false →
      o.state = s) ∧
    ∀ f, (Lending.checkout b s (.int m) (.int t)).result = .error f →
      f = .unknownClass (.int m) ∨ f = .unknownTitle (.int t) ∨
        t = -200 ∧ f = .invalid .silentRefusal := by
  have htable := firstApplies_checkout b s m t
  refine ⟨htable, fun o ho hok => ?_, fun f hf => ?_⟩
  · rcases answer_of_checkoutTable htable with ⟨o', ho', hstate⟩ | ⟨f, hf, -⟩
    · obtain rfl := Except.ok.inj (ho.symm.trans ho')
      exact hstate hok
    · cases ho.symm.trans hf
  · rcases answer_of_checkoutTable htable with ⟨o, ho, -⟩ | ⟨f', hf', hcases⟩
    · cases hf.symm.trans ho
    · obtain rfl := Except.error.inj (hf.symm.trans hf')
      exact hcases

/-- A rulebook with one class. -/
def strayRulebook : Rulebook where
  titles := [⟨6, "atlas", 2, by decide, by decide⟩]
  classes := [⟨8, 3, 50, by decide⟩]
  lateFee := 25
  titles_ne := by decide
  classes_ne := by decide
  titles_nodup := by decide
  classes_nodup := by decide

/-- A snapshot with a class and with titles that the rulebook does not have. -/
def straySnapshot : Snapshot where
  day := 9
  copies := ⟨[(31, 1), (-200, 0), (40, 0)], by decide⟩
  loans := ⟨[(21, 0), (8, 2)], by decide⟩
  fines := ⟨[(8, 50), (21, 10)], by decide⟩
  sameClasses := by
    intro m
    simp [Tally.keys, or_comm]

/-- Title 40 is refused and the snapshot stays; title -200, just as empty, can only fail. -/
theorem checkout_follows_table_strayIds :
    (∃ o, (Lending.checkout strayRulebook straySnapshot (.int 8) (.int 40)).result = .ok o ∧
      o.ok = false ∧ o.code = 240 ∧ o.state = straySnapshot) ∧
    ∃ f, (Lending.checkout strayRulebook straySnapshot (.int 8) (.int (-200))).result = .error f ∧
      (f = .unknownClass (.int 8) ∨ f = .unknownTitle (.int (-200)) ∨
        (-200 : Int) = -200 ∧ f = .invalid .silentRefusal) := by
  refine ⟨⟨_, rfl, rfl, rfl, ?_⟩, ⟨_, rfl, ?_⟩⟩
  · exact (checkout_follows_table strayRulebook straySnapshot 8 40).2.1 _ rfl rfl
  · exact (checkout_follows_table strayRulebook straySnapshot 8 (-200)).2.2 _ rfl

/-! ## Giving back -/

/-- One copy of `t` is back on the shelf, class `m` has one loan less unless it had none, and its
fines have grown by `fine`; nothing else differs. -/
structure TakesBack (s u : Snapshot) (m t : Int) (fine : Int) : Prop where
  day : u.day = s.day
  copies : ∃ n, s.copies.Differs u.copies t n (n + 1)
  loans : ∃ n n' : Nat, s.loans.Differs u.loans m n n' ∧ (n' : Int) = max 0 ((n : Int) - 1)
  fines : ∃ n n' : Nat, s.fines.Differs u.fines m n n' ∧ (n' : Int) = n + fine

/-- The rows of a return of title `t` by class `m`, `d` days late, with the answer `r`. -/
def returnTable (b : Rulebook) (s : Snapshot) (m t d : Int) (r : Except Fault Outcome) :
    List (Prop × Prop) :=
  [(d < 0, r = .error (.negativeAmount "late_days" (.int d))),
    (t ∉ s.copies.keys, r = .error (.unknownTitle (.int t))),
    (m ∉ s.loans.keys, r = .error (.unknownClass (.int m))),
    (True, ∃ o, r = .ok o ∧ o.ok = true ∧ o.code = 1000 + d ∧
      TakesBack s o.state m t (d * b.lateFee))]

/-- A return with the fine always added, also when it is nothing. -/
def giveBackFining (b : Rulebook) (s : Snapshot) (m t d : Value) : Except Fault Outcome := do
  let days ← d.number
  if days.lt (.int 0) then .error (.negativeAmount "late_days" d)
  else
    let restocked ← Shelf.putBack s t
    let closed ← Account.closeLoan restocked m
    let fine ← b.feeFor days
    let fined ← Account.addFine closed m (.ofNumber fine)
    Outcome.accept fined (.ofNumber (Code.returned days))

section

variable {b : Rulebook} {s : Snapshot} {m t d : Int} {loans fines copies : Nat}

/-- What a return changes. -/
theorem takesBack_givenBack (b : Rulebook) (hd : 0 ≤ d) (hc : s.copies.get? t = some copies)
    (hl : s.loans.get? m = some loans) (hf : s.fines.get? m = some fines) :
    TakesBack s (givenBack s m t loans copies fines (d.toNat * b.lateFee)) m t (d * b.lateFee) where
  day := rfl
  copies := ⟨copies, Tally.differs_set hc (copies + 1)⟩
  loans := ⟨loans, loans - 1, Tally.differs_set hl (loans - 1), by omega⟩
  fines := by
    refine ⟨fines, _, Tally.differs_set hf (fines + d.toNat * b.lateFee), ?_⟩
    rw [Int.natCast_add, Int.natCast_mul, Int.toNat_of_nonneg hd]

/-- A return of a known title by a known class takes the title back, with the code of its days. -/
theorem exists_takesBack (b : Rulebook) (hd : 0 ≤ d) (ht : t ∈ s.copies.keys)
    (hm : m ∈ s.loans.keys) :
    ∃ o, (Lending.giveBack b s (.int m) (.int t) (.int d)).result = .ok o ∧ o.ok = true ∧
      o.code = 1000 + d ∧ TakesBack s o.state m t (d * b.lateFee) := by
  obtain ⟨copies, hc⟩ := (Tally.mem_keys_iff _ _).1 ht
  obtain ⟨loans, hl⟩ := (Tally.mem_keys_iff _ _).1 hm
  obtain ⟨fines, hf⟩ := Snapshot.exists_fines_of_loans hl
  rw [giveBack_of_known hd hc hl hf]
  exact ⟨_, rfl, rfl, Int.add_comm d 1000, takesBack_givenBack b hd hc hl hf⟩

/-- **Returns** follow their table. -/
theorem firstApplies_giveBack (b : Rulebook) (s : Snapshot) (m t d : Int) :
    FirstApplies (returnTable b s m t d
      (Lending.giveBack b s (.int m) (.int t) (.int d)).result) := by
  refine ⟨fun hneg => ?_, fun hneg => ?_⟩
  · rw [giveBack_of_negative hneg]
  have hd : 0 ≤ d := Int.not_lt.1 hneg
  refine ⟨fun htitle => ?_, fun htitle => ?_⟩
  · rw [giveBack_of_unknown_title hd ((Tally.get?_eq_none_iff _ _).2 htitle)]
  obtain ⟨copies, hc⟩ := (Tally.mem_keys_iff _ _).1 (not_not.1 htitle)
  refine ⟨fun hclass => ?_, fun hclass => ?_⟩
  · rw [giveBack_of_unknown_class hd hc ((Tally.get?_eq_none_iff _ _).2 hclass)]
  refine ⟨fun _ => ?_, fun h => h trivial⟩
  exact exists_takesBack b hd (not_not.1 htitle) (not_not.1 hclass)

/-- A return gives the answer that it would give if it added every fine. -/
theorem giveBack_result_eq_fining (b : Rulebook) (s : Snapshot) (m t d : Int) :
    (Lending.giveBack b s (.int m) (.int t) (.int d)).result =
      giveBackFining b s (.int m) (.int t) (.int d) := by
  by_cases hneg : d < 0
  · simp [giveBack_of_negative hneg, giveBackFining, hneg]
  have hd : 0 ≤ d := Int.not_lt.1 hneg
  cases hc : s.copies.get? t with
  | none => simp [giveBack_of_unknown_title hd hc, giveBackFining, hneg, putBack_of_unknown hc]
  | some copies =>
      have hput := putBack_of_known hc
      cases hl : s.loans.get? m with
      | none =>
          have hclose := closeLoan_of_unknown (s := s.setCopies t (copies + 1)) hl
          simp [giveBack_of_unknown_class hd hc hl, giveBackFining, hneg, hput, hclose]
      | some loans =>
          have hclose := closeLoan_of_known (s := s.setCopies t (copies + 1)) hl
          obtain ⟨fines, hf⟩ := Snapshot.exists_fines_of_loans hl
          -- The class is known here, so a fine of nothing puts back the amount that is there.
          have hadd := addFine_of_known
            (s := (s.setCopies t (copies + 1)).setLoans m (loans - 1)) hf
            (Int.mul_nonneg hd (Int.natCast_nonneg b.lateFee))
          simp [giveBack_of_known hd hc hl hf, giveBackFining, hneg, hput, hclose, feeFor_int b hd,
            hadd, toNat_fee b hd, givenBack, Code.returned, accepted]

/-- A return depends on the rulebook only through its fee. -/
theorem giveBack_eq_of_lateFee {b b' : Rulebook} (h : b'.lateFee = b.lateFee) (s : Snapshot)
    (m t d : Value) : Lending.giveBack b' s m t d = Lending.giveBack b s m t d := by
  have hfee : b'.feeFor = b.feeFor := by
    funext days
    rw [Rulebook.feeFor, Rulebook.feeFor, h]
  rw [Lending.giveBack, Lending.giveBack, hfee]

end

/-- **The answer to a return.**  For every rulebook, every snapshot and all integers, the answer is
that of the first row of the table that applies.  It is the one that always adding the fine would
give, and a rulebook with other titles and classes but the same fee gives the same answer and the
same log. -/
theorem return_follows_table (b : Rulebook) (s : Snapshot) (m t d : Int) :
    FirstApplies (returnTable b s m t d
      (Lending.giveBack b s (.int m) (.int t) (.int d)).result) ∧
    (Lending.giveBack b s (.int m) (.int t) (.int d)).result =
      giveBackFining b s (.int m) (.int t) (.int d) ∧
    ∀ b' : Rulebook, b'.lateFee = b.lateFee →
      Lending.giveBack b' s (.int m) (.int t) (.int d) =
        Lending.giveBack b s (.int m) (.int t) (.int d) := by
  refine ⟨firstApplies_giveBack b s m t d, giveBack_result_eq_fining b s m t d, ?_⟩
  intro b' hfee
  exact giveBack_eq_of_lateFee hfee s (.int m) (.int t) (.int d)

/-- Another rulebook with the same fee. -/
def distantRulebook : Rulebook where
  titles := [⟨31, "maps", 0, by decide, by decide⟩]
  classes := [⟨21, 0, 0, by decide⟩]
  lateFee := 25
  titles_ne := by decide
  classes_ne := by decide
  titles_nodup := by decide
  classes_nodup := by decide

/-- A class that only one of two rulebooks has, and that has no open loan, gives back a title three
days late: with either rulebook it is fined. -/
theorem return_follows_table_strayIds :
    distantRulebook.lateFee = strayRulebook.lateFee ∧
    Lending.giveBack distantRulebook straySnapshot (.int 21) (.int 31) (.int 3) =
      Lending.giveBack strayRulebook straySnapshot (.int 21) (.int 31) (.int 3) ∧
    giveBackFining strayRulebook straySnapshot (.int 21) (.int 31) (.int 3) =
      .ok (accepted ((straySnapshot.setCopies 31 2).setFines 21 85) 1003) := by
  obtain ⟨-, hfining, hrulebook⟩ := return_follows_table strayRulebook straySnapshot 21 31 3
  refine ⟨rfl, hrulebook distantRulebook rfl, ?_⟩
  rw [← hfining]
  rfl

end Desk

end Circulation
