import Circulation.Proofs.DecisionTables
import Circulation.Proofs.SnapshotFormat
/-!
# Returns in any order restore the library

When everything that was borrowed is given back, in whatever order, the library is as it was: every
copy is on its shelf, every loan is closed, and all that is left of it are the fines for the days
late.  A return does not ask whether there is a loan to close, and with none open it closes nothing;
so it has to be shown that this never happens on the way, however the returns are shuffled.

What requests do to a tally is followed as an amount under each key.  A granted checkout and a
return each add a single amount, a list of them adds the sum, and a sum does not depend on the order.

The key constructions are

* `Tally.Moved`, `Snapshot.Moved` : the counts are moved by an amount under each key;
* `amounts` : the sum of single amounts for the items of a list;
* `Loan`, `Return`, `inTurn` : requests that are made one after another.

The main facts are

* `moved_of_lends`, `moved_of_takesBack` : what one request moves;
* `moved_of_borrowed`, `exists_returned` : what a list of requests moves;
* `returns_restore` : the library after all returns.
-/

namespace Circulation

/-! ## Amounts under keys -/

section

variable {α : Type} {key : α → Int} {amount : α → Int}

/-- The sum of the amounts of some items, each under its key. -/
def amounts (key : α → Int) (amount : α → Int) (items : List α) : Int → Int :=
  (items.map fun a => Pi.single (key a) (amount a)).sum

@[simp] theorem amounts_nil : amounts key amount [] = 0 := rfl

@[simp] theorem amounts_cons (a : α) (rest : List α) :
    amounts key amount (a :: rest) = Pi.single (key a) (amount a) + amounts key amount rest :=
  List.sum_cons

/-- The amount under a key is the sum over the items with that key. -/
theorem amounts_apply (items : List α) (k : Int) :
    amounts key amount items k = ((items.filter fun a => key a = k).map amount).sum := by
  induction items with
  | nil => rfl
  | cons a rest ih =>
      rw [amounts_cons, Pi.add_apply, ih]
      by_cases hk : key a = k
      · rw [List.filter_cons_of_pos (by simpa using hk), List.map_cons, List.sum_cons, hk,
          Pi.single_eq_same]
      · rw [List.filter_cons_of_neg (by simpa using hk), Pi.single_eq_of_ne (Ne.symm hk),
          Int.zero_add]

/-- With one for each item, there is something under the key of the first one. -/
theorem amounts_one_pos (key : α → Int) (a : α) (rest : List α) :
    0 < amounts key (fun _ => 1) (a :: rest) (key a) := by
  have hrest : 0 ≤ amounts key (fun _ => 1) rest (key a) := by
    rw [amounts_apply]
    refine List.sum_nonneg fun x hx => ?_
    obtain ⟨_, -, rfl⟩ := List.mem_map.1 hx
    exact Int.one_nonneg
  rw [amounts_cons, Pi.add_apply, Pi.single_eq_same]
  omega

/-- Amounts depend on the items alone, not on their order. -/
theorem amounts_perm {β : Type} {f : β → α} {items : List α} {images : List β}
    (h : (images.map f).Perm items) :
    amounts key amount items = amounts (fun x => key (f x)) (fun x => amount (f x)) images := by
  rw [amounts, ← (h.map _).sum_eq, List.map_map]
  rfl

end

/-! ## Counts that are moved -/

namespace Tally

/-- The tally `u` has the keys of `t` in their order, and under each of them the count of `t` is
moved by an amount. -/
structure Moved (t u : Tally) (shift : Int → Int) : Prop where
  keys : u.keys = t.keys
  counts : ∀ {k : Int} {n : Nat}, t.get? k = some n →
    ∃ n' : Nat, u.get? k = some n' ∧ (n' : Int) = n + shift k

namespace Moved

variable {t u v : Tally} {shift : Int → Int} {k : Int} {n n' : Nat}

theorem refl (t : Tally) : t.Moved t 0 := ⟨rfl, fun {_ n} h => ⟨n, h, by simp⟩⟩

/-- A count that is replaced adds its difference under its key. -/
theorem differs (h : t.Moved u shift) (hd : u.Differs v k n n') :
    t.Moved v (shift + Pi.single k ((n' : Int) - n)) where
  keys := hd.keys.trans h.keys
  counts := by
    intro j c hc
    obtain ⟨c', hc', hmoved⟩ := h.counts hc
    by_cases hj : j = k
    · subst hj
      obtain rfl : c' = n := Option.some.inj (hc'.symm.trans hd.before)
      refine ⟨n', hd.after, ?_⟩
      rw [Pi.add_apply, Pi.single_eq_same]
      omega
    · refine ⟨c', (hd.others j hj).trans hc', ?_⟩
      rw [Pi.add_apply, Pi.single_eq_of_ne hj, Int.add_zero]
      exact hmoved

/-- A tally that is moved by nothing is the same one, entry by entry. -/
theorem eq_of_zero (h : t.Moved u 0) : u = t := by
  refine Tally.ext (Entries.ext_of_lookup u.nodup h.keys fun k hk => ?_)
  obtain ⟨n, hn⟩ := (mem_keys_iff t k).1 (h.keys ▸ hk)
  obtain ⟨n', hn', hmoved⟩ := h.counts hn
  obtain rfl : n' = n := by simpa using hmoved
  exact hn'.trans hn.symm

end Moved

end Tally

/-- All that requests may have moved since the snapshot `s`. -/
structure Snapshot.Moved (s u : Snapshot) (copies loans fines : Int → Int) : Prop where
  day : u.day = s.day
  copies : s.copies.Moved u.copies copies
  loans : s.loans.Moved u.loans loans
  fines : s.fines.Moved u.fines fines

namespace Desk

/-! ## Requests one after another -/

/-- Requests made one after another, each of the snapshot that the one before left: their outcomes
and the snapshot at the end.  The first fault ends them. -/
def inTurn {α : Type} (request : Snapshot → α → Except Fault Outcome) :
    Snapshot → List α → Except Fault (List Outcome × Snapshot)
  | s, [] => .ok ([], s)
  | s, a :: rest => do
    let o ← request s a
    let (outcomes, u) ← inTurn request o.state rest
    return (o :: outcomes, u)

/-- A member class and a title that it borrows. -/
structure Loan where
  memberClass : Int
  title : Int
deriving DecidableEq

/-- A loan that is given back, with the days that this is late. -/
structure Return where
  loan : Loan
  daysLate : Nat

/-- The answer to a checkout. -/
def borrow (b : Rulebook) (s : Snapshot) (l : Loan) : Except Fault Outcome :=
  (Lending.checkout b s (.int l.memberClass) (.int l.title)).result

/-- The answer to a return. -/
def giveBack (b : Rulebook) (s : Snapshot) (r : Return) : Except Fault Outcome :=
  (Lending.giveBack b s (.int r.loan.memberClass) (.int r.loan.title) (.int r.daysLate)).result

/-- The days late of a class, all its returns together. -/
def daysLateOf (m : Int) (returns : List Return) : Nat :=
  ((returns.filter fun r => r.loan.memberClass = m).map Return.daysLate).sum

section

variable {α : Type} {request : Snapshot → α → Except Fault Outcome} {b : Rulebook}
  {s u v : Snapshot} {m t : Int} {o : Outcome} {copies loans fines : Int → Int}

/-- Requests in turn after a first one that was answered. -/
theorem inTurn_cons {a : α} (h : request s a = .ok o) (rest : List α) :
    inTurn request s (a :: rest) =
      (fun p => (o :: p.1, p.2)) <$> inTurn request o.state rest := by
  rw [inTurn, h]
  rfl

/-- Requests in turn that were all answered had a first one that was. -/
theorem exists_of_inTurn_cons {a : α} {rest : List α} {outcomes : List Outcome}
    (h : inTurn request s (a :: rest) = .ok (outcomes, v)) :
    ∃ o outcomes', request s a = .ok o ∧ inTurn request o.state rest = .ok (outcomes', v) ∧
      outcomes = o :: outcomes' := by
  obtain ⟨o, ho, h⟩ := exists_of_bind_eq_ok h
  obtain ⟨⟨outcomes', v'⟩, hrest, h⟩ := exists_of_bind_eq_ok h
  cases h
  exact ⟨o, outcomes', ho, hrest, rfl⟩

/-! ## One request -/

/-- A checkout that took effect lent the title. -/
theorem lends_of_checkout (h : (Lending.checkout b s (.int m) (.int t)).result = .ok o)
    (hok : o.ok = true) : Lends s o.state m t := by
  rcases checkout_cases b s m t with hunknown | ⟨code, hrefused⟩ | ⟨he, htitle⟩ |
    ⟨he, hempty, hcode⟩ | ⟨he, loans, copies, hl, hc, hpos⟩
  · rw [checkout_of_unknown_class hunknown] at h
    cases h
  · rw [checkout_of_refuses hrefused] at h
    cases h
    cases hok
  · rw [checkout_of_unknown_title he htitle] at h
    cases h
  · rw [checkout_of_silent he hempty hcode] at h
    cases h
  · rw [checkout_of_granted he hl hc hpos] at h
    cases h
    exact lends_lent hl hc hpos

/-- What is lent, and who borrows it, is known. -/
theorem Lends.known (h : Lends s u m t) : t ∈ s.copies.keys ∧ m ∈ s.loans.keys := by
  obtain ⟨-, ⟨_, hcopies⟩, ⟨_, hloans⟩, -⟩ := h
  rw [Tally.mem_keys_iff, Tally.mem_keys_iff]
  exact ⟨⟨_, hcopies.before⟩, _, hloans.before⟩

/-- **A granted checkout** moves one copy off the shelf and opens one loan. -/
theorem moved_of_lends (h : s.Moved u copies loans fines) (hlends : Lends u v m t) :
    s.Moved v (copies - Pi.single t 1) (loans + Pi.single m 1) fines := by
  obtain ⟨hday, ⟨c, hcopies⟩, ⟨l, hloans⟩, hfines⟩ := hlends
  refine ⟨hday.trans h.day, ?_, ?_, hfines ▸ h.fines⟩
  · have hmoved := h.copies.differs hcopies
    rwa [show ((c : Nat) : Int) - ((c + 1 : Nat) : Int) = -1 by omega, Pi.single_neg,
      ← sub_eq_add_neg] at hmoved
  · have hmoved := h.loans.differs hloans
    rwa [show ((l + 1 : Nat) : Int) - (l : Nat) = 1 by omega] at hmoved

/-- **A return** puts one copy back, and closes one loan as long as one that was opened since is
still open; the fine is added. -/
theorem moved_of_takesBack (h : s.Moved u copies loans fines) {fine : Int}
    (htakes : TakesBack u v m t fine) (hm : m ∈ s.loans.keys) (hopen : 0 < loans m) :
    s.Moved v (copies + Pi.single t 1) (loans - Pi.single m 1) (fines + Pi.single m fine) := by
  obtain ⟨hday, ⟨c, hcopies⟩, ⟨l, l', hloans, hfloor⟩, ⟨f, f', hfines, hfine⟩⟩ := htakes
  refine ⟨hday.trans h.day, ?_, ?_, ?_⟩
  · have hmoved := h.copies.differs hcopies
    rwa [show ((c + 1 : Nat) : Int) - (c : Nat) = 1 by omega] at hmoved
  · -- The loans that are open now are those of `s` and the ones opened since.
    obtain ⟨n, hn⟩ := (Tally.mem_keys_iff _ _).1 hm
    obtain ⟨n', hn', hcount⟩ := h.loans.counts hn
    obtain rfl : n' = l := Option.some.inj (hn'.symm.trans hloans.before)
    have hmoved := h.loans.differs hloans
    rwa [show (l' : Int) - n' = -1 by omega, Pi.single_neg, ← sub_eq_add_neg] at hmoved
  · have hmoved := h.fines.differs hfines
    rwa [show (f' : Int) - f = fine by omega] at hmoved

/-! ## Lists of requests -/

/-- **Checkouts in turn** that are all granted move one copy and one loan for each of them, and
their titles and classes are known. -/
theorem moved_of_borrowed {requests : List Loan} {granted : List Outcome}
    (h : s.Moved u copies loans fines) (hborrow : inTurn (borrow b) u requests = .ok (granted, v))
    (hgranted : ∀ o ∈ granted, o.ok = true) :
    s.Moved v (copies - amounts Loan.title (fun _ => 1) requests)
        (loans + amounts Loan.memberClass (fun _ => 1) requests) fines ∧
      ∀ l ∈ requests, l.title ∈ s.copies.keys ∧ l.memberClass ∈ s.loans.keys := by
  induction requests generalizing u copies loans granted with
  | nil =>
      cases hborrow
      simpa using h
  | cons l rest ih =>
      obtain ⟨o, granted', ho, hrest, rfl⟩ := exists_of_inTurn_cons hborrow
      have hlends : Lends u o.state l.memberClass l.title :=
        lends_of_checkout ho (hgranted o List.mem_cons_self)
      obtain ⟨hmoved, hknown⟩ := ih (moved_of_lends h hlends) hrest fun o' ho' =>
        hgranted o' (List.mem_cons_of_mem _ ho')
      rw [amounts_cons, amounts_cons, ← sub_sub, ← add_assoc]
      refine ⟨hmoved, List.forall_mem_cons.2 ⟨?_, hknown⟩⟩
      rw [← h.copies.keys, ← h.loans.keys]
      exact hlends.known

/-- **Returns in turn** of all that was borrowed since are all accepted, each with the code of its
days, and what is left are the fines. -/
theorem exists_returned (b : Rulebook) {returns : List Return}
    (hknown : ∀ r ∈ returns, r.loan.title ∈ s.copies.keys ∧ r.loan.memberClass ∈ s.loans.keys)
    (h : s.Moved u (-amounts (fun r => r.loan.title) (fun _ => 1) returns)
      (amounts (fun r => r.loan.memberClass) (fun _ => 1) returns) fines) :
    ∃ taken v, inTurn (giveBack b) u returns = .ok (taken, v) ∧ (∀ o ∈ taken, o.ok = true) ∧
      taken.map Outcome.code = returns.map (fun r => 1000 + (r.daysLate : Int)) ∧
      s.Moved v 0 0 (fines +
        amounts (fun r => r.loan.memberClass) (fun r => r.daysLate * b.lateFee) returns) := by
  induction returns generalizing u fines with
  | nil => exact ⟨[], u, rfl, by simp, rfl, by simpa using h⟩
  | cons r rest ih =>
      obtain ⟨⟨htitle, hclass⟩, hrest⟩ := List.forall_mem_cons.1 hknown
      obtain ⟨o, ho, hok, hcode, htakes⟩ := exists_takesBack b (Int.natCast_nonneg r.daysLate)
        (h.copies.keys ▸ htitle) (h.loans.keys ▸ hclass)
      -- This return is one of those still to come, so its class has a loan to close.
      have hmoved := moved_of_takesBack h htakes hclass
        (amounts_one_pos (fun r : Return => r.loan.memberClass) r rest)
      rw [amounts_cons, amounts_cons, neg_add_rev, neg_add_cancel_right, add_sub_cancel_left]
        at hmoved
      obtain ⟨taken, v, hturn, hall, hcodes, hleft⟩ := ih hrest hmoved
      refine ⟨o :: taken, v, ?_, List.forall_mem_cons.2 ⟨hok, hall⟩, ?_, ?_⟩
      · rw [inTurn_cons ho, hturn]
        rfl
      · rw [List.map_cons, List.map_cons, hcode, hcodes]
      · rwa [amounts_cons, ← add_assoc]

end

/-- Without late returns no class has days late. -/
theorem daysLateOf_eq_zero {returns : List Return} (h : ∀ r ∈ returns, r.daysLate = 0) (m : Int) :
    daysLateOf m returns = 0 := by
  refine List.sum_eq_zero fun d hd => ?_
  obtain ⟨r, hr, rfl⟩ := List.mem_map.1 hd
  exact h r (List.mem_of_mem_filter hr)

/-- The fines that returns leave to a class are the fee for all its days late. -/
theorem amounts_fines (b : Rulebook) (m : Int) (returns : List Return) :
    amounts (fun r => r.loan.memberClass) (fun r => (r.daysLate : Int) * b.lateFee) returns m =
      (b.lateFee * daysLateOf m returns : Nat) := by
  rw [amounts_apply, daysLateOf]
  induction returns.filter fun r => r.loan.memberClass = m with
  | nil => simp
  | cons r rest ih =>
      rw [List.map_cons, List.sum_cons, ih, List.map_cons, List.sum_cons]
      push_cast
      ring

/-- **Returns in any order restore the library.**  Checkouts that are all granted are followed by
their returns, in any order and with any days late.  Every return is accepted, with the code of its
days; then the day, the copies and the loans are what they were, in the order in which they were
entered, and the fines of each class have grown by the fee for all its days late.  When no return is
late the snapshot is the one before the checkouts. -/
theorem returns_restore (b : Rulebook) (s u : Snapshot) (requests : List Loan)
    (granted : List Outcome) (returns : List Return)
    (hborrow : inTurn (borrow b) s requests = .ok (granted, u))
    (hgranted : ∀ o ∈ granted, o.ok = true) (hperm : (returns.map Return.loan).Perm requests) :
    ∃ taken v, inTurn (giveBack b) u returns = .ok (taken, v) ∧ (∀ o ∈ taken, o.ok = true) ∧
      taken.map Outcome.code = returns.map (fun r => 1000 + (r.daysLate : Int)) ∧
      v.day = s.day ∧ v.copies = s.copies ∧ v.loans = s.loans ∧ v.fines.keys = s.fines.keys ∧
      (∀ m n, s.finesOf (.int m) = .ok n →
        v.finesOf (.int m) = .ok (n + b.lateFee * daysLateOf m returns)) ∧
      ((∀ r ∈ returns, r.daysLate = 0) → v = s) := by
  have hstart : s.Moved s 0 0 0 := ⟨rfl, .refl _, .refl _, .refl _⟩
  obtain ⟨hlent, hknown⟩ := moved_of_borrowed hstart hborrow hgranted
  rw [zero_sub, zero_add, amounts_perm hperm, amounts_perm hperm] at hlent
  have hknown' : ∀ r ∈ returns, r.loan.title ∈ s.copies.keys ∧ r.loan.memberClass ∈ s.loans.keys :=
    fun r hr => hknown r.loan (hperm.subset (List.mem_map_of_mem hr))
  obtain ⟨taken, v, hturn, hall, hcodes, hleft⟩ := exists_returned b hknown' hlent
  rw [zero_add] at hleft
  have hcopies := hleft.copies.eq_of_zero
  have hloans := hleft.loans.eq_of_zero
  refine ⟨taken, v, hturn, hall, hcodes, hleft.day, hcopies, hloans, hleft.fines.keys, ?_, ?_⟩
  · intro m n hn
    obtain ⟨n', hn', hmoved⟩ := hleft.fines.counts (Snapshot.finesOf_int_iff.1 hn)
    rw [amounts_fines] at hmoved
    rw [Snapshot.finesOf_int_iff, hn']
    congr 1
    omega
  · intro hontime
    have hzero : amounts (fun r : Return => r.loan.memberClass)
        (fun r => (r.daysLate : Int) * b.lateFee) returns = 0 := by
      funext m
      rw [amounts_fines, daysLateOf_eq_zero hontime]
      simp
    rw [hzero] at hleft
    exact Snapshot.ext hleft.day hcopies hloans hleft.fines.eq_of_zero

/-- Both classes borrow title 1, and class 1 does so twice. -/
def sharedLoans : List Loan := [⟨1, 1⟩, ⟨2, 1⟩, ⟨1, 3⟩, ⟨2, 2⟩, ⟨1, 1⟩]

/-- They give back in another order, some of them late. -/
def shuffledReturns : List Return :=
  [⟨⟨1, 3⟩, 2⟩, ⟨⟨1, 1⟩, 0⟩, ⟨⟨2, 2⟩, 4⟩, ⟨⟨1, 1⟩, 7⟩, ⟨⟨2, 1⟩, 0⟩]

/-- After these returns all copies are back, and what is left are the fines. -/
theorem returns_restore_shuffledReturns :
    let b := Rulebook.reference
    let s := Shelf.opening b
    ∃ granted u, inTurn (borrow b) s sharedLoans = .ok (granted, u) ∧
      (∀ o ∈ granted, o.ok = true) ∧ (shuffledReturns.map Return.loan).Perm sharedLoans ∧
      ∃ taken v, inTurn (giveBack b) u shuffledReturns = .ok (taken, v) ∧
        taken.map Outcome.code = [1002, 1000, 1004, 1007, 1000] ∧
        v.day = s.day ∧ v.copies = s.copies ∧ v.loans = s.loans ∧
        v.finesOf (.int 1) = .ok 675 ∧ v.finesOf (.int 2) = .ok 300 := by
  intro b s
  have hperm : (shuffledReturns.map Return.loan).Perm sharedLoans := by decide
  obtain ⟨granted, u, hborrow, hall⟩ : ∃ granted u,
      inTurn (borrow b) s sharedLoans = .ok (granted, u) ∧ granted.all Outcome.ok = true :=
    ⟨_, _, rfl, rfl⟩
  have hgranted : ∀ o ∈ granted, o.ok = true := List.all_eq_true.1 hall
  obtain ⟨taken, v, hturn, -, hcodes, hday, hcopies, hloans, -, hfines, -⟩ :=
    returns_restore b s u sharedLoans granted shuffledReturns hborrow hgranted hperm
  refine ⟨granted, u, hborrow, hgranted, hperm, taken, v, hturn, hcodes, hday, hcopies, hloans, ?_⟩
  have hfirst : 0 + b.lateFee * daysLateOf 1 shuffledReturns = 675 := by decide
  have hsecond : 0 + b.lateFee * daysLateOf 2 shuffledReturns = 300 := by decide
  exact ⟨hfirst ▸ hfines 1 0 rfl, hsecond ▸ hfines 2 0 rfl⟩

end Desk

end Circulation
