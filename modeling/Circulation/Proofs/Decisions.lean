import Circulation.Lending
import Circulation.Proofs.Computation
import Circulation.Proofs.Snapshot
/-!
# How requests with integer ids are decided

Each operation of the desk asks its questions in a fixed order, and the first answer that settles
the matter decides.  For integer ids and amounts this module states, for each way in which a request
can be settled, the whole result: the log, and the outcome or the fault.

The key constructions are

* `Standing` : all that a class's right to borrow depends on;
* `MayBorrow` : the class is below its loan limit and not above its fine ceiling;
* `Refuses` : a checkout is refused, and with which code.

Later proofs read what an operation did off these equations and never open the operation again.
-/

namespace Circulation

/-! ## Integers -/

namespace Number

@[simp] theorem lt_int (a b : Int) : (Number.int a).lt (.int b) = decide (a < b) := rfl

@[simp] theorem le_int (a b : Int) : (Number.int a).le (.int b) = decide (a ≤ b) := rfl

@[simp] theorem add_int (a b : Int) : (Number.int a).add (.int b) = some (.int (a + b)) := rfl

@[simp] theorem sub_int (a b : Int) : (Number.int a).sub (.int b) = some (.int (a - b)) := rfl

@[simp] theorem mul_int (a b : Int) : (Number.int a).mul (.int b) = some (.int (a * b)) := rfl

@[simp] theorem offset_int (a n : Int) : (Number.int n).offset a = .int (n + a) := rfl

end Number

@[simp] theorem Value.ofNumber_int (n : Int) : Value.ofNumber (.int n) = .int n := rfl

/-- An integer that is not negative passes as a count. -/
theorem Value.count_int_of_nonneg (subject : Subject) {n : Int} (h : 0 ≤ n) :
    Value.count subject (.int n) = .ok n.toNat := by
  simp [Value.count, h]

/-! ## Class rules -/

namespace Rulebook

variable {b : Rulebook} {m : Int} {rule : ClassRule}

/-- The rule of an integer id is the first one with that id. -/
theorem classRule_int (b : Rulebook) (m : Int) :
    b.classRule (.int m) = match b.classes.find? fun rule => decide (rule.id = m) with
      | some rule => .ok rule
      | none => .error (.unknownClass (.int m)) := rfl

/-- The rule found for an integer is the first one of that class. -/
theorem find?_of_classRule (h : b.classRule (.int m) = .ok rule) :
    b.classes.find? (fun rule => decide (rule.id = m)) = some rule := by
  rw [classRule_int] at h
  cases hfind : b.classes.find? fun rule => decide (rule.id = m) with
  | none => simp [hfind] at h
  | some found => simpa [hfind] using h

/-- The rule found for an integer is the rule of that class. -/
theorem id_of_classRule (h : b.classRule (.int m) = .ok rule) : rule.id = m := by
  simpa using List.find?_some (find?_of_classRule h)

/-- The rule found for an integer is one of the rulebook's. -/
theorem mem_of_classRule (h : b.classRule (.int m) = .ok rule) : rule ∈ b.classes :=
  List.mem_of_find?_eq_some (find?_of_classRule h)

/-- An integer without a rule is an unknown class. -/
theorem classRule_int_of_not (h : ∀ rule, b.classRule (.int m) ≠ .ok rule) :
    b.classRule (.int m) = .error (.unknownClass (.int m)) := by
  rw [classRule_int] at h ⊢
  cases hfind : b.classes.find? fun rule => decide (rule.id = m) with
  | none => rfl
  | some found => exact absurd (by rw [hfind]) (h found)

end Rulebook

/-! ## Eligibility -/

namespace Desk

/-- All that a class's right to borrow depends on: its rule, its open loans and its unpaid
fines. -/
structure Standing (b : Rulebook) (s : Snapshot) (m : Int) (rule : ClassRule)
    (loans fines : Nat) : Prop where
  rule_eq : b.classRule (.int m) = .ok rule
  loans_eq : s.loans.get? m = some loans
  fines_eq : s.fines.get? m = some fines

/-- The class may borrow one more title. -/
def MayBorrow (b : Rulebook) (s : Snapshot) (m : Int) : Prop :=
  ∃ rule loans fines, Standing b s m rule loans fines ∧
    loans < rule.loanLimit ∧ fines ≤ rule.fineCeiling

/-- A refusal that leaves the snapshot as it is. -/
def refusal (s : Snapshot) (code : Int) (h : code ≠ 0) : Outcome := ⟨s, false, code, fun _ => h⟩

@[simp] theorem refusal_state (s : Snapshot) (code : Int) (h : code ≠ 0) :
    (refusal s code h).state = s := rfl

@[simp] theorem refusal_ok (s : Snapshot) (code : Int) (h : code ≠ 0) :
    (refusal s code h).ok = false := rfl

@[simp] theorem refusal_code (s : Snapshot) (code : Int) (h : code ≠ 0) :
    (refusal s code h).code = code := rfl

section

variable {b : Rulebook} {s : Snapshot} {m : Int} {rule : ClassRule} {loans fines : Nat}

/-- The id of a class with a rule runs from 1 to 99. -/
theorem Standing.id_range (h : Standing b s m rule loans fines) : 1 ≤ m ∧ m ≤ 99 := by
  rw [← Rulebook.id_of_classRule h.rule_eq]
  exact rule.id_range

theorem Standing.loanCode_ne (h : Standing b s m rule loans fines) : m + Code.loanBase ≠ 0 := by
  have hid := Rulebook.id_of_classRule h.rule_eq
  have hrange := rule.id_range
  unfold Code.loanBase
  omega

theorem Standing.fineCode_ne (h : Standing b s m rule loans fines) : m + Code.fineBase ≠ 0 := by
  have hid := Rulebook.id_of_classRule h.rule_eq
  have hrange := rule.id_range
  unfold Code.fineBase
  omega

/-- A class has one standing. -/
theorem Standing.unique {rule' : ClassRule} {loans' fines' : Nat}
    (h : Standing b s m rule loans fines) (h' : Standing b s m rule' loans' fines') :
    rule' = rule ∧ loans' = loans ∧ fines' = fines :=
  ⟨Except.ok.inj (h'.rule_eq.symm.trans h.rule_eq),
    Option.some.inj (h'.loans_eq.symm.trans h.loans_eq),
    Option.some.inj (h'.fines_eq.symm.trans h.fines_eq)⟩

/-- A class that the rulebook and the snapshot know has a standing. -/
theorem exists_standing
    (h : ¬ ((∀ rule, b.classRule (.int m) ≠ .ok rule) ∨ s.loans.get? m = none)) :
    ∃ rule loans fines, Standing b s m rule loans fines := by
  rw [not_or, not_forall_not] at h
  obtain ⟨⟨rule, hr⟩, hl⟩ := h
  obtain ⟨loans, hl⟩ := Option.ne_none_iff_exists'.1 hl
  obtain ⟨fines, hf⟩ := Snapshot.exists_fines_of_loans hl
  exact ⟨rule, loans, fines, hr, hl, hf⟩

/-- A class that the rulebook or the snapshot does not know. -/
theorem eligibility_of_unknown
    (h : (∀ rule, b.classRule (.int m) ≠ .ok rule) ∨ s.loans.get? m = none) :
    Account.eligibility b s (.int m) = ⟨[], .error (.unknownClass (.int m))⟩ := by
  by_cases hrule : ∃ rule, b.classRule (.int m) = .ok rule
  · obtain ⟨rule, hr⟩ := hrule
    have hnone : s.loans.get? m = none := h.resolve_left fun hall => hall rule hr
    have hid := Rulebook.id_of_classRule hr
    have hloans := Snapshot.loansOf_int_of_none hnone
    simp [Account.eligibility, hr, Account.bars, Account.firstBar, Account.barCode, hid, hloans]
  · have hr := Rulebook.classRule_int_of_not fun rule hr => hrule ⟨rule, hr⟩
    simp [Account.eligibility, hr]

/-- A class at its loan limit. -/
theorem eligibility_of_loanLimit (h : Standing b s m rule loans fines)
    (hl : rule.loanLimit ≤ loans) :
    Account.eligibility b s (.int m) =
      ⟨[.barred (.int m) .loanLimit (m + Code.loanBase)],
        .ok (refusal s (m + Code.loanBase) h.loanCode_ne)⟩ := by
  have hid := Rulebook.id_of_classRule h.rule_eq
  have hloans := Snapshot.loansOf_int_iff.2 h.loans_eq
  simp [Account.eligibility, h.rule_eq, Account.bars, Account.firstBar, Account.barCode, hid,
    hloans, hl, Outcome.refuse_int s h.loanCode_ne, refusal]

/-- A class below its loan limit but above its fine ceiling. -/
theorem eligibility_of_fineCeiling (h : Standing b s m rule loans fines)
    (hl : loans < rule.loanLimit) (hf : rule.fineCeiling < fines) :
    Account.eligibility b s (.int m) =
      ⟨[.barred (.int m) .fineCeiling (m + Code.fineBase)],
        .ok (refusal s (m + Code.fineBase) h.fineCode_ne)⟩ := by
  have hid := Rulebook.id_of_classRule h.rule_eq
  have hloans := Snapshot.loansOf_int_iff.2 h.loans_eq
  have hfines := Snapshot.finesOf_int_iff.2 h.fines_eq
  simp [Account.eligibility, h.rule_eq, Account.bars, Account.firstBar, Account.barCode, hid,
    hloans, hfines, Nat.not_le.2 hl, hf, Outcome.refuse_int s h.fineCode_ne, refusal]

/-- A class that may borrow. -/
theorem eligibility_of_mayBorrow (h : MayBorrow b s m) :
    Account.eligibility b s (.int m) = ⟨[], .ok (.success s)⟩ := by
  obtain ⟨rule, loans, fines, hst, hl, hf⟩ := h
  have hid := Rulebook.id_of_classRule hst.rule_eq
  have hloans := Snapshot.loansOf_int_iff.2 hst.loans_eq
  have hfines := Snapshot.finesOf_int_iff.2 hst.fines_eq
  simp [Account.eligibility, hst.rule_eq, Account.bars, Account.firstBar, Account.barCode, hid,
    hloans, hfines, Nat.not_le.2 hl, Nat.not_lt.2 hf]

/-! ## The shelf -/

variable {t : Int} {copies : Nat}

/-- A title that the snapshot does not know. -/
theorem availability_of_unknown (h : s.copies.get? t = none) :
    Shelf.availability s (.int t) = .error (.unknownTitle (.int t)) := by
  simp [Shelf.availability, Snapshot.copiesOf, Snapshot.title_int_of_none h, Functor.map, Except.map]

/-- A title with copies on the shelf. -/
theorem availability_of_pos (h : s.copies.get? t = some copies) (hpos : 0 < copies) :
    Shelf.availability s (.int t) = .ok (.success s) := by
  simp [Shelf.availability, Snapshot.copiesOf_int_iff.2 h, hpos]

/-- A title without copies on the shelf. -/
theorem availability_of_zero (h : s.copies.get? t = some 0) (hcode : t + Code.titleBase ≠ 0) :
    Shelf.availability s (.int t) = .ok (refusal s (t + Code.titleBase) hcode) := by
  simp [Shelf.availability, Snapshot.copiesOf_int_iff.2 h, Code.titleUnavailable,
    Outcome.refuse_int s hcode, refusal]

/-- The one title whose refusal would carry the code of success. -/
theorem availability_of_silent (h : s.copies.get? t = some 0) (hcode : t + Code.titleBase = 0) :
    Shelf.availability s (.int t) = .error (.invalid .silentRefusal) := by
  simp [Shelf.availability, Snapshot.copiesOf_int_iff.2 h, Code.titleUnavailable, hcode,
    Outcome.refuse, Outcome.check]

/-- Taking a copy where there is one. -/
theorem take_of_pos (h : s.copies.get? t = some copies) (hpos : 0 < copies) :
    Shelf.take s (.int t) = .ok (s.setCopies t (copies - 1)) := by
  simp [Shelf.take, Snapshot.title_int h, Nat.pos_iff_ne_zero.1 hpos]

/-! ## Checking out -/

/-- A checkout of title `t` by class `m` is refused, with this code. -/
inductive Refuses (b : Rulebook) (s : Snapshot) (m t : Int) : Int → Prop
  | loanLimit {rule : ClassRule} {loans fines : Nat} (standing : Standing b s m rule loans fines)
      (limit : rule.loanLimit ≤ loans) : Refuses b s m t (m + Code.loanBase)
  | fineCeiling {rule : ClassRule} {loans fines : Nat} (standing : Standing b s m rule loans fines)
      (limit : loans < rule.loanLimit) (ceiling : rule.fineCeiling < fines) :
      Refuses b s m t (m + Code.fineBase)
  | unavailable (eligible : MayBorrow b s m) (empty : s.copies.get? t = some 0)
      (code : t + Code.titleBase ≠ 0) : Refuses b s m t (t + Code.titleBase)

/-- A refusal has a code of its own. -/
theorem Refuses.code_ne {code : Int} (h : Refuses b s m t code) : code ≠ 0 := by
  cases h with
  | loanLimit hst _ => exact hst.loanCode_ne
  | fineCeiling hst _ _ => exact hst.fineCode_ne
  | unavailable _ _ hcode => exact hcode

/-- A checkout by a class that the rulebook or the snapshot does not know. -/
theorem checkout_of_unknown_class
    (h : (∀ rule, b.classRule (.int m) ≠ .ok rule) ∨ s.loans.get? m = none) :
    Lending.checkout b s (.int m) (.int t) = ⟨[], .error (.unknownClass (.int m))⟩ := by
  simp [Lending.checkout, eligibility_of_unknown h]

/-- A checkout of an unknown title by a class that may borrow. -/
theorem checkout_of_unknown_title (he : MayBorrow b s m) (h : s.copies.get? t = none) :
    Lending.checkout b s (.int m) (.int t) = ⟨[], .error (.unknownTitle (.int t))⟩ := by
  simp [Lending.checkout, eligibility_of_mayBorrow he, availability_of_unknown h, Outcome.success]

/-- The one checkout that can neither be granted nor refused. -/
theorem checkout_of_silent (he : MayBorrow b s m) (h : s.copies.get? t = some 0)
    (hcode : t + Code.titleBase = 0) :
    Lending.checkout b s (.int m) (.int t) = ⟨[], .error (.invalid .silentRefusal)⟩ := by
  simp [Lending.checkout, eligibility_of_mayBorrow he, availability_of_silent h hcode,
    Outcome.success]

/-- What a refused checkout notes before its rejection. -/
def barredEvents (b : Rulebook) (s : Snapshot) (m : Int) : List Event :=
  (Account.eligibility b s (.int m)).log

/-- A refused checkout leaves the snapshot as it is and says why. -/
theorem checkout_of_refuses {code : Int} (h : Refuses b s m t code) :
    Lending.checkout b s (.int m) (.int t) =
      ⟨barredEvents b s m ++ [.checkoutRejected (.int m) (.int t) code],
        .ok (refusal s code h.code_ne)⟩ := by
  cases h with
  | loanLimit hst hl =>
      simp [Lending.checkout, barredEvents, eligibility_of_loanLimit hst hl]
  | fineCeiling hst hl hf =>
      simp [Lending.checkout, barredEvents, eligibility_of_fineCeiling hst hl hf]
  | unavailable he hempty hcode =>
      simp [Lending.checkout, barredEvents, eligibility_of_mayBorrow he,
        availability_of_zero hempty hcode, Outcome.success]

/-- The snapshot after class `m` has borrowed title `t`. -/
def lent (s : Snapshot) (m t : Int) (loans copies : Nat) : Snapshot :=
  (s.setCopies t (copies - 1)).setLoans m (loans + 1)

/-- A checkout that is granted moves a copy and opens a loan. -/
theorem checkout_of_granted (he : MayBorrow b s m) (hl : s.loans.get? m = some loans)
    (h : s.copies.get? t = some copies) (hpos : 0 < copies) :
    Lending.checkout b s (.int m) (.int t) =
      ⟨[.copyTaken (.int t), .checkoutAccepted (.int m) (.int t)],
        .ok (.success (lent s m t loans copies))⟩ := by
  have hopen : Account.openLoan (s.setCopies t (copies - 1)) (.int m) =
      .ok (lent s m t loans copies) := by
    have hb : (s.setCopies t (copies - 1)).borrower (.int m) = .ok (m, loans) :=
      Snapshot.borrower_int (by simpa using hl)
    simp [Account.openLoan, hb, lent]
  simp [Lending.checkout, eligibility_of_mayBorrow he, availability_of_pos h hpos,
    take_of_pos h hpos, hopen, Outcome.success]

/-- Every checkout is settled in one of these ways. -/
theorem checkout_cases (b : Rulebook) (s : Snapshot) (m t : Int) :
    ((∀ rule, b.classRule (.int m) ≠ .ok rule) ∨ s.loans.get? m = none) ∨
    (∃ code, Refuses b s m t code) ∨
    (MayBorrow b s m ∧ s.copies.get? t = none) ∨
    (MayBorrow b s m ∧ s.copies.get? t = some 0 ∧ t + Code.titleBase = 0) ∨
    (MayBorrow b s m ∧ ∃ loans copies, s.loans.get? m = some loans ∧
      s.copies.get? t = some copies ∧ 0 < copies) := by
  by_cases hunknown : (∀ rule, b.classRule (.int m) ≠ .ok rule) ∨ s.loans.get? m = none
  · exact .inl hunknown
  right
  obtain ⟨rule, loans, fines, hst⟩ := exists_standing hunknown
  by_cases hlimit : rule.loanLimit ≤ loans
  · exact .inl ⟨_, .loanLimit hst hlimit⟩
  by_cases hceiling : rule.fineCeiling < fines
  · exact .inl ⟨_, .fineCeiling hst (Nat.not_le.1 hlimit) hceiling⟩
  have he : MayBorrow b s m :=
    ⟨rule, loans, fines, hst, Nat.not_le.1 hlimit, Nat.not_lt.1 hceiling⟩
  -- the class may borrow, so the shelf decides
  cases hc : s.copies.get? t with
  | none => exact .inr (.inl ⟨he, rfl⟩)
  | some copies =>
      rcases Nat.eq_zero_or_pos copies with rfl | hpos
      · by_cases hcode : t + Code.titleBase = 0
        · exact .inr (.inr (.inl ⟨he, rfl, hcode⟩))
        · exact .inl ⟨_, .unavailable he hc hcode⟩
      · exact .inr (.inr (.inr ⟨he, loans, copies, hst.loans_eq, rfl, hpos⟩))

/-! ## Giving back -/

variable {d : Int}

/-- No copy more of a title that the snapshot does not know. -/
theorem putBack_of_unknown (h : s.copies.get? t = none) :
    Shelf.putBack s (.int t) = .error (.unknownTitle (.int t)) := by
  simp [Shelf.putBack, Snapshot.title_int_of_none h]

/-- One copy more of a known title. -/
theorem putBack_of_known (h : s.copies.get? t = some copies) :
    Shelf.putBack s (.int t) = .ok (s.setCopies t (copies + 1)) := by
  simp [Shelf.putBack, Snapshot.title_int h]

/-- No loan less of a class that the snapshot does not know. -/
theorem closeLoan_of_unknown (h : s.loans.get? m = none) :
    Account.closeLoan s (.int m) = .error (.unknownClass (.int m)) := by
  simp [Account.closeLoan, Snapshot.borrower_int_of_none h]

/-- One loan less of a known class; with none open this puts back the count that is there. -/
theorem closeLoan_of_known (h : s.loans.get? m = some loans) :
    Account.closeLoan s (.int m) = .ok (s.setLoans m (loans - 1)) := by
  by_cases hzero : loans = 0
  · subst hzero
    simp [Account.closeLoan, Snapshot.borrower_int h, Snapshot.setLoans_of_get? h]
  · simp [Account.closeLoan, Snapshot.borrower_int h, hzero]

/-- The fine for days late is the fee for each of them. -/
theorem feeFor_int (b : Rulebook) (h : 0 ≤ d) :
    b.feeFor (.int d) = .ok (.int (d * b.lateFee)) := by
  by_cases hzero : d ≤ 0
  · have hd : d = 0 := by omega
    simp [Rulebook.feeFor, hd]
  · simp [Rulebook.feeFor, hzero]

/-- The fine for days late, as a natural number. -/
theorem toNat_fee (b : Rulebook) (h : 0 ≤ d) :
    (d * b.lateFee : Int).toNat = d.toNat * b.lateFee := by
  rw [Int.toNat_mul h (Int.natCast_nonneg _), Int.toNat_natCast]

/-- What settling a fine notes. -/
def finedEvents (m d fine : Int) : List Event :=
  if 0 < fine then [.fined (.int m) (.int fine) (.int d)] else []

/-- A fine is added to the unpaid fines of a known class. -/
theorem addFine_of_known {fine : Int} (h : s.fines.get? m = some fines) (hfine : 0 ≤ fine) :
    Account.addFine s (.int m) (.int fine) = .ok (s.setFines m (fines + fine.toNat)) := by
  have hcount : Value.count (.entry "outstanding_fines" m) (.int ((fines : Int) + fine)) =
      .ok (fines + fine.toNat) := by
    rw [Value.count_int_of_nonneg _ (by omega)]
    congr 1
    omega
  simp [Account.addFine, Int.not_lt.2 hfine, Snapshot.finesOf_int_iff.2 h, Snapshot.withFines,
    Snapshot.debtor_int h, hcount]

/-- Settling a fine adds it to the unpaid fines; adding nothing puts back the amount that is
there. -/
theorem settle_of_known {fine : Int} (h : s.fines.get? m = some fines) (hfine : 0 ≤ fine) :
    Lending.settle s (.int m) (.int d) (.int fine) =
      ⟨finedEvents m d fine, .ok (s.setFines m (fines + fine.toNat))⟩ := by
  by_cases hpos : 0 < fine
  · simp [Lending.settle, hpos, addFine_of_known h hfine, finedEvents]
  · have hz : fine = 0 := by omega
    simp [Lending.settle, hz, finedEvents, Snapshot.setFines_of_get? h]

/-- The snapshot after class `m` has given back title `t` and was fined. -/
def givenBack (s : Snapshot) (m t : Int) (loans copies fines fine : Nat) : Snapshot :=
  ((s.setCopies t (copies + 1)).setLoans m (loans - 1)).setFines m (fines + fine)

/-- An action that took effect, with its code. -/
def accepted (s : Snapshot) (code : Int) : Outcome := ⟨s, true, code, fun h => Bool.noConfusion h⟩

/-- A return with fewer than no days late. -/
theorem giveBack_of_negative (h : d < 0) :
    Lending.giveBack b s (.int m) (.int t) (.int d) =
      ⟨[], .error (.negativeAmount "late_days" (.int d))⟩ := by
  simp [Lending.giveBack, h]

/-- A return of a title that the snapshot does not know. -/
theorem giveBack_of_unknown_title (hd : 0 ≤ d) (h : s.copies.get? t = none) :
    Lending.giveBack b s (.int m) (.int t) (.int d) = ⟨[], .error (.unknownTitle (.int t))⟩ := by
  simp [Lending.giveBack, Int.not_lt.2 hd, putBack_of_unknown h]

/-- A return by a class that the snapshot does not know. -/
theorem giveBack_of_unknown_class (hd : 0 ≤ d) (h : s.copies.get? t = some copies)
    (hm : s.loans.get? m = none) :
    Lending.giveBack b s (.int m) (.int t) (.int d) = ⟨[], .error (.unknownClass (.int m))⟩ := by
  have hclose : Account.closeLoan (s.setCopies t (copies + 1)) (.int m) =
      .error (.unknownClass (.int m)) := closeLoan_of_unknown (by simpa using hm)
  simp [Lending.giveBack, Int.not_lt.2 hd, putBack_of_known h, hclose]

/-- Any other return is accepted. -/
theorem giveBack_of_known (hd : 0 ≤ d) (h : s.copies.get? t = some copies)
    (hl : s.loans.get? m = some loans) (hf : s.fines.get? m = some fines) :
    Lending.giveBack b s (.int m) (.int t) (.int d) =
      ⟨finedEvents m d (d * b.lateFee) ++ [.returnAccepted (.int m) (.int t) (.int d)],
        .ok (accepted (givenBack s m t loans copies fines (d.toNat * b.lateFee))
          (d + Code.returnBase))⟩ := by
  have hclose : Account.closeLoan (s.setCopies t (copies + 1)) (.int m) =
      .ok ((s.setCopies t (copies + 1)).setLoans m (loans - 1)) :=
    closeLoan_of_known (by simpa using hl)
  have hsettle := settle_of_known (d := d)
    (s := (s.setCopies t (copies + 1)).setLoans m (loans - 1)) (by simpa using hf)
    (Int.mul_nonneg hd (Int.natCast_nonneg b.lateFee))
  simp [Lending.giveBack, Int.not_lt.2 hd, putBack_of_known h, hclose, feeFor_int b hd, hsettle,
    toNat_fee b hd, givenBack, Code.returned, accepted]

/-! ## Paying and waiting -/

variable {a : Int}

/-- What a payment notes. -/
def overpaidEvents (m a : Int) (fines : Nat) : List Event :=
  if (fines : Int) < a then [.overpaid (.int m) (.int (a - fines))] else []

/-- A payment of less than nothing. -/
theorem pay_of_negative (h : a < 0) :
    Account.pay s (.int m) (.int a) =
      ⟨[], .error (.negativeAmount "payment_minor_units" (.int a))⟩ := by
  simp [Account.pay, h]

/-- A payment for a class that the snapshot does not know. -/
theorem pay_of_unknown (ha : 0 ≤ a) (h : s.fines.get? m = none) :
    Account.pay s (.int m) (.int a) = ⟨[], .error (.unknownClass (.int m))⟩ := by
  have hfines : s.finesOf (.int m) = .error (.unknownClass (.int m)) := by
    rw [Snapshot.finesOf, Snapshot.debtor_int_of_none h]
    rfl
  simp [Account.pay, Int.not_lt.2 ha, hfines]

/-- A payment lowers the fines, but not below nothing. -/
theorem pay_of_known (ha : 0 ≤ a) (h : s.fines.get? m = some fines) :
    Account.pay s (.int m) (.int a) =
      ⟨overpaidEvents m a fines, .ok (s.setFines m (fines - a.toNat))⟩ := by
  have hcount : Value.count (.entry "outstanding_fines" m)
      (if a < fines then .int (fines - a) else .int 0) = .ok (fines - a.toNat) := by
    by_cases hpos : a < fines
    · rw [if_pos hpos, Value.count_int_of_nonneg _ (by omega)]
      congr 1
      omega
    · rw [if_neg hpos, Value.count_int_of_nonneg _ (by omega)]
      congr 1
      omega
  by_cases hover : (fines : Int) < a
  · simp [Account.pay, Int.not_lt.2 ha, Snapshot.finesOf_int_iff.2 h, hover, Snapshot.withFines,
      Snapshot.debtor_int h, hcount, overpaidEvents]
  · simp [Account.pay, Int.not_lt.2 ha, Snapshot.finesOf_int_iff.2 h, hover, Snapshot.withFines,
      Snapshot.debtor_int h, hcount, overpaidEvents]

/-- Fewer than no days later. -/
theorem advance_of_negative (h : d < 0) :
    Shelf.advance s (.int d) = .error (.invalid (.negativeDays (.int d))) := by
  simp [Shelf.advance, h]

/-- Some days later. -/
theorem advance_of_nonneg (h : 0 ≤ d) :
    Shelf.advance s (.int d) = .ok { s with day := s.day + d.toNat } := by
  simp [Shelf.advance, Int.not_lt.2 h]

end

end Desk

end Circulation
