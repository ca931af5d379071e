import Circulation.Account
import Circulation.Shelf
import Circulation.Proofs.Computation
import Circulation.Proofs.Snapshot
/-!
# Snapshots are rebuilt by their constructor

Replacing a count can be done in two ways: on the tally, under the key that the id names, or on the
raw mapping, by putting the new value under the id itself and handing the mapping to the constructor
of snapshots again.  The second way takes ids and values of any kind and has only the checks of the
constructor to rely on.  Both ways give the same snapshot or the same fault.

An id such as *true* or `1.0` is the same key as `1`, so the put finds the entry under `1`, and the
key that is there stays.

The shelf and the accounts count by setting tallies directly, and let many days go by at once.  They
could as well read a count, change it and replace it through the checks, and go from one day to the
next: the snapshots and the faults are the same.

The main facts are

* `Value.int_beq_iff` : a value is the same key as an integer exactly when it denotes it;
* `Tally.ofEntries_put` : a put into the entries of a tally, checked again;
* `Snapshot.make_toValue` : the constructor gives back the snapshot of its own fields;
* `Snapshot.withCopies_eq_make`, `withLoans_eq_make`, `withFines_eq_make` : replacing a count is a
  put, then the constructor;
* `Shelf.make_opening` : the first day is built by the constructor;
* `Shelf.advance_eq_ok_iff` : days go by one after another;
* `Shelf.take_eq_withCopies`, `Shelf.putBack_eq_withCopies`, `Account.openLoan_eq_withLoans`,
  `Account.closeLoan_eq_withLoans` : counting is reading and replacing through the checks.
-/

namespace Circulation

/-! ## Numbers as keys -/

namespace Number

/-- A quotient is whole and equal to `i` exactly when `i` times the divisor is the dividend. -/
theorem quotient_eq_iff (n : Nat) {d : Nat} (hd : 0 < d) (i : Int) :
    n % d = 0 ∧ ((n / d : Nat) : Int) = i ↔ i * d = n := by
  constructor
  · rintro ⟨hmod, rfl⟩
    rw [← Int.natCast_mul, Nat.div_mul_cancel (Nat.dvd_of_mod_eq_zero hmod)]
  · intro h
    have hdvd : d ∣ n := Int.natCast_dvd_natCast.1 ⟨i, by rw [← h, Int.mul_comm]⟩
    obtain ⟨q, rfl⟩ := hdvd
    refine ⟨Nat.mul_mod_right d q, ?_⟩
    rw [Nat.mul_div_cancel_left q hd]
    apply Int.eq_of_mul_eq_mul_right (by omega : (d : Int) ≠ 0)
    rw [h, Int.natCast_mul, Int.mul_comm]

/-- The same with a sign on the quotient and on the dividend. -/
theorem signed_quotient_eq_iff (negative : Bool) (n : Nat) {d : Nat} (hd : 0 < d) (i : Int) :
    (if n % d = 0 then some (if negative then -((n / d : Nat) : Int) else ((n / d : Nat) : Int))
      else none) = some i ↔ i * d = if negative then -(n : Int) else n := by
  cases negative with
  | false => simp [← quotient_eq_iff n hd i]
  | true =>
      have hneg : i * d = -(n : Int) ↔ -i * d = n := by
        rw [Int.neg_mul]
        omega
      simp only [if_true, hneg, ← quotient_eq_iff n hd (-i), Option.ite_none_right_eq_some,
        Option.some_inj]
      omega

/-- An integer has the place of a point exactly when the two are equal at the lesser exponent. -/
theorem compare_point_zero_iff (i c e : Int) :
    Place.compare (.point i 0) (.point c e) = .eq ↔
      if e ≤ 0 then i * (2 ^ (-e).toNat : Nat) = c else i = c * (2 ^ e.toNat : Nat) := by
  show Ord.compare (i * (2 ^ (0 - min 0 e).toNat : Nat)) (c * (2 ^ (e - min 0 e).toNat : Nat)) =
    .eq ↔ _
  rw [Int.compare_eq_eq]
  by_cases he : e ≤ 0
  · have hmin : min 0 e = e := by omega
    rw [if_pos he, hmin]
    simp
  · have hmin : min 0 e = 0 := by omega
    rw [if_neg he, hmin]
    simp

/-- A number is the same as an integer exactly when it is that whole number. -/
theorem same_int_iff (i : Int) (x : Number) :
    (Number.int i).same x = true ↔ x.integer? = some i := by
  cases x with
  | int n => simp [same, integer?, eq_comm]
  | float x =>
      cases hx : Decimal.Parts.ofFloat x with
      | notANumber => simp [same, compare?, integer?, place?, hx]
      | infinite negative =>
          cases negative <;> simp [same, compare?, integer?, place?, hx, Place.compare]
      | finite negative m e =>
          have hleft : (Number.int i).same (.float x) = true ↔
              Place.compare (.point i 0) (.point (if negative then -(m : Int) else m) e) = .eq := by
            simp [same, compare?, place?, hx]
          -- Both sides compare `i · 2 ^ -e` with the significand, or `i` with it times `2 ^ e`;
          -- which of the two depends on the sign of the exponent.
          rw [hleft, compare_point_zero_iff]
          simp only [integer?, hx]
          by_cases he : e ≤ 0
          · have hscale : Decimal.scaleDown m 1 (-e) = (m, 2 ^ (-e).toNat) := by
              simp [Decimal.scaleDown, he]
            rw [if_pos he, hscale]
            exact (signed_quotient_eq_iff negative m (Nat.two_pow_pos _) i).symm
          · have hscale : Decimal.scaleDown m 1 (-e) = (m * 2 ^ e.toNat, 1) := by
              simp [Decimal.scaleDown, he]
            rw [if_neg he, hscale]
            refine Iff.trans ?_ (signed_quotient_eq_iff negative _ Nat.one_pos i).symm
            rw [Int.natCast_one, Int.mul_one, Int.natCast_mul]
            cases negative with
            | false => exact Iff.rfl
            | true => rw [if_pos rfl, if_pos rfl, Int.neg_mul]

end Number

/-- A value is the same key as an integer exactly when it denotes that integer. -/
theorem Value.int_beq_iff (i : Int) (v : Value) :
    (Value.int i == v) = true ↔ v.integer? = some i := by
  cases v with
  | bool b => exact Number.same_int_iff i (.int (if b then 1 else 0))
  | int n => exact Number.same_int_iff i (.int n)
  | float x => exact Number.same_int_iff i (.float x)
  | null | text s | list items | mapping entries =>
      simp [BEq.beq, sameKey, integer?, number?]

/-! ## Collecting distinct keys -/

namespace Entries

variable {κ α : Type} [BEq κ] [LawfulBEq κ]

/-- A put under a new key adds an entry at the end. -/
theorem put_of_not_mem {k : κ} {es : List (κ × α)} (h : k ∉ keys es) (v : α) :
    put k v es = es ++ [(k, v)] := by
  induction es with
  | nil => rfl
  | cons e rest ih =>
      rw [keys_cons, List.mem_cons, not_or] at h
      rw [put, if_neg (by simpa using Ne.symm h.1), ih h.2, List.cons_append]

/-- Entries with distinct keys are collected as they are. -/
theorem collect_of_nodup {es : List (κ × α)} (h : (keys es).Nodup) : collect es = es := by
  -- What is collected so far and what is left always make up the whole list.
  have hgen : ∀ rest done : List (κ × α), (keys (done ++ rest)).Nodup →
      rest.foldl (fun d e => put e.1 e.2 d) done = done ++ rest := by
    intro rest
    induction rest with
    | nil =>
        intro done _
        simp
    | cons e rest ih =>
        intro done hnd
        have hassoc : done ++ e :: rest = (done ++ [e]) ++ rest := by simp
        have hnew : e.1 ∉ keys done := by
          simp only [keys, List.map_append, List.map_cons, List.nodup_middle, List.nodup_cons,
            List.mem_append, not_or] at hnd
          exact hnd.1.1
        rw [List.foldl_cons, put_of_not_mem hnew, hassoc]
        exact ih (done ++ [e]) (hassoc ▸ hnd)
  exact hgen es [] (by simpa using h)

end Entries

/-! ## Tallies -/

namespace Tally

/-- Counted entries as entries of a mapping. -/
def valueEntries (es : List (Int × Nat)) : List (Value × Value) :=
  es.map fun e => (.int e.1, .int e.2)

/-- A put under whatever denotes a key replaces the value there; the key stays as it is. -/
theorem put_valueEntries {id : Value} {k : Int} {n : Nat} {before after : List (Int × Nat)}
    (hid : id.integer? = some k) (hbefore : k ∉ Entries.keys before) (v : Value) :
    Entries.put id v (valueEntries (before ++ (k, n) :: after)) =
      valueEntries before ++ (.int k, v) :: valueEntries after := by
  induction before with
  | nil =>
      have hk : (Value.int k == id) = true := (Value.int_beq_iff k id).2 hid
      simp [valueEntries, Entries.put, hk]
  | cons e rest ih =>
      rw [Entries.keys_cons, List.mem_cons, not_or] at hbefore
      -- Sameness of keys is no equality of values, so the lemmas for lawful keys do not apply.
      have he : ¬ (Value.int e.1 == id) = true := by
        rw [Value.int_beq_iff, hid, Option.some_inj]
        exact hbefore.1
      show (if (Value.int e.1 == id) = true then _ else _) = _
      rw [if_neg he]
      exact congrArg _ (ih hbefore.2)

/-- Counted entries pass their checks. -/
theorem mapM_valueEntries (name : String) (es : List (Int × Nat)) :
    (valueEntries es).mapM (checkEntry name) = .ok es := by
  induction es with
  | nil => rfl
  | cons e rest ih =>
      show ((Value.int e.1, Value.int e.2) :: valueEntries rest).mapM (checkEntry name) = _
      rw [List.mapM_cons, ih]
      simp [checkEntry]

/-- The tally of its own entries. -/
theorem ofEntries_valueEntries (name : String) (t : Tally) :
    ofEntries name (valueEntries t.entries) = .ok t := by
  rw [ofEntries, mapM_valueEntries]
  exact congrArg _ (Tally.ext (Entries.collect_of_nodup t.nodup))

/-- **A put, then the checks.**  Whatever the id, the tally of the entries after the put is the
tally with the count replaced, and the checks fail exactly when the value is no count. -/
theorem ofEntries_put (name : String) {t : Tally} {id : Value} {k : Int} {n : Nat}
    (hid : id.integer? = some k) (h : t.get? k = some n) (v : Value) :
    ofEntries name (Entries.put id v (valueEntries t.entries)) =
      t.set k <$> Value.count (.entry name k) v := by
  obtain ⟨before, after, hbefore, heq, hset⟩ := exists_replaceCount_eq t.nodup h
  -- Only the entry under `k` can fail its check: the others are counts already.
  rw [heq, put_valueEntries hid hbefore, ofEntries, List.mapM_append, List.mapM_cons,
    mapM_valueEntries, mapM_valueEntries]
  cases hv : Value.count (.entry name k) v with
  | error e => simp [checkEntry, hv]
  | ok n' =>
      have hcollect : ofList (before ++ (k, n') :: after) = t.set k n' := by
        apply Tally.ext
        show Entries.collect (before ++ (k, n') :: after) = replaceCount k n' t.entries
        rw [← hset n']
        exact Entries.collect_of_nodup (t.set k n').nodup
      simp [checkEntry, hv, hcollect]

end Tally

/-! ## Snapshots -/

namespace Snapshot

/-- Lists with the same members cover each other. -/
theorem covers_of_mem_iff {a b : List Int} (h : ∀ m, m ∈ a ↔ m ∈ b) : covers a b = true := by
  simp only [covers, Bool.and_eq_true, List.all_eq_true, List.contains_iff_mem]
  exact ⟨fun m => (h m).1, fun m => (h m).2⟩

/-- The constructor on mappings: three tallies, checked one after another, and the classes. -/
theorem make_mapping (day : Nat) (copies loans fines : List (Value × Value)) :
    make (.int day) (.mapping copies) (.mapping loans) (.mapping fines) = (do
      let copies ← Tally.ofEntries "available_copies" copies
      let loans ← Tally.ofEntries "active_loans" loans
      let fines ← Tally.ofEntries "outstanding_fines" fines
      if h : covers loans.keys fines.keys then
        return ⟨day, copies, loans, fines, mem_iff_of_covers h⟩
      else .error (.invalid .classesDiffer) : Except Fault Snapshot) := by
  simp [make, Value.entries]

/-- The constructor on the fields of a snapshot, with any day. -/
theorem make_toValue (s : Snapshot) (day : Nat) :
    make (.int day) s.copies.toValue s.loans.toValue s.fines.toValue =
      .ok { s with day := day } := by
  show make (.int day) (.mapping (Tally.valueEntries s.copies.entries))
    (.mapping (Tally.valueEntries s.loans.entries))
    (.mapping (Tally.valueEntries s.fines.entries)) = _
  simp [make_mapping, Tally.ofEntries_valueEntries, covers_of_mem_iff s.sameClasses]

section

variable {s : Snapshot} {id : Value} {k : Int} {n : Nat}

/-- Putting a value among the copies, then the constructor. -/
theorem make_put_copies (h : s.title id = .ok (k, n)) (v : Value) :
    make (.int s.day) (.mapping (Entries.put id v (Tally.valueEntries s.copies.entries)))
        s.loans.toValue s.fines.toValue =
      s.setCopies k <$> Value.count (.entry "available_copies" k) v := by
  obtain ⟨hid, hn⟩ := named_of_entryOf h
  show make _ _ (.mapping (Tally.valueEntries s.loans.entries))
    (.mapping (Tally.valueEntries s.fines.entries)) = _
  rw [make_mapping, Tally.ofEntries_put _ hid hn]
  cases Value.count (.entry "available_copies" k) v with
  | error e => rfl
  | ok n' =>
      simp [Tally.ofEntries_valueEntries, covers_of_mem_iff s.sameClasses, setCopies]

/-- Putting a value among the loans, then the constructor. -/
theorem make_put_loans (h : s.borrower id = .ok (k, n)) (v : Value) :
    make (.int s.day) s.copies.toValue
        (.mapping (Entries.put id v (Tally.valueEntries s.loans.entries))) s.fines.toValue =
      s.setLoans k <$> Value.count (.entry "active_loans" k) v := by
  obtain ⟨hid, hn⟩ := named_of_entryOf h
  show make _ (.mapping (Tally.valueEntries s.copies.entries)) _
    (.mapping (Tally.valueEntries s.fines.entries)) = _
  rw [make_mapping, Tally.ofEntries_put _ hid hn]
  cases Value.count (.entry "active_loans" k) v with
  | error e => simp [Tally.ofEntries_valueEntries, Functor.map, Except.map]
  | ok n' =>
      simp [Tally.ofEntries_valueEntries, covers_of_mem_iff s.sameClasses, setLoans]

/-- Putting a value among the fines, then the constructor. -/
theorem make_put_fines (h : s.debtor id = .ok (k, n)) (v : Value) :
    make (.int s.day) s.copies.toValue s.loans.toValue
        (.mapping (Entries.put id v (Tally.valueEntries s.fines.entries))) =
      s.setFines k <$> Value.count (.entry "outstanding_fines" k) v := by
  obtain ⟨hid, hn⟩ := named_of_entryOf h
  show make _ (.mapping (Tally.valueEntries s.copies.entries))
    (.mapping (Tally.valueEntries s.loans.entries)) _ = _
  rw [make_mapping, Tally.ofEntries_put _ hid hn]
  cases Value.count (.entry "outstanding_fines" k) v with
  | error e => simp [Tally.ofEntries_valueEntries, Functor.map, Except.map]
  | ok n' =>
      simp [Tally.ofEntries_valueEntries, covers_of_mem_iff s.sameClasses, setFines]

end

section

variable (s : Snapshot) (id v : Value)

/-- **Replacing copies** is putting a value of any kind under an id of any kind that is there, then
the constructor. -/
theorem withCopies_eq_make : s.withCopies id v = (do
    let _ ← s.title id
    make (.int s.day) (.mapping (Entries.put id v (Tally.valueEntries s.copies.entries)))
      s.loans.toValue s.fines.toValue : Except Fault Snapshot) := by
  unfold withCopies
  cases h : s.title id with
  | error e => rfl
  | ok e =>
      rw [ok_bind_eq, ok_bind_eq, make_put_copies h]
      rfl

/-- **Replacing loans**, likewise. -/
theorem withLoans_eq_make : s.withLoans id v = (do
    let _ ← s.borrower id
    make (.int s.day) s.copies.toValue
      (.mapping (Entries.put id v (Tally.valueEntries s.loans.entries)))
      s.fines.toValue : Except Fault Snapshot) := by
  unfold withLoans
  cases h : s.borrower id with
  | error e => rfl
  | ok e =>
      rw [ok_bind_eq, ok_bind_eq, make_put_loans h]
      rfl

/-- **Replacing fines**, likewise. -/
theorem withFines_eq_make : s.withFines id v = (do
    let _ ← s.debtor id
    make (.int s.day) s.copies.toValue s.loans.toValue
      (.mapping (Entries.put id v (Tally.valueEntries s.fines.entries))) :
      Except Fault Snapshot) := by
  unfold withFines
  cases h : s.debtor id with
  | error e => rfl
  | ok e =>
      rw [ok_bind_eq, ok_bind_eq, make_put_fines h]
      rfl

end

section

variable {s : Snapshot} {id : Value} {k : Int} {n : Nat}

/-- A number of copies passes the checks. -/
theorem withCopies_natCast (h : s.title id = .ok (k, n)) (c : Nat) :
    s.withCopies id (.int c) = .ok (s.setCopies k c) := by
  simp [withCopies, h]

/-- A number of loans passes the checks. -/
theorem withLoans_natCast (h : s.borrower id = .ok (k, n)) (c : Nat) :
    s.withLoans id (.int c) = .ok (s.setLoans k c) := by
  simp [withLoans, h]

end

/-- Going from one day to the next, `n` times. -/
theorem iterate_nextDay (s : Snapshot) (n : Nat) : nextDay^[n] s = { s with day := s.day + n } := by
  induction n with
  | zero => rfl
  | succ n ih =>
      rw [Function.iterate_succ_apply', ih]
      rfl

end Snapshot

/-! ## The shelf -/

namespace Shelf

/-- **The first day** is built by the constructor from the entries of the rules, which are put one
after another. -/
theorem make_opening (b : Rulebook) :
    Snapshot.make (.int 1)
        (.mapping (Tally.valueEntries (Entries.collect (b.titles.map fun t => (t.id, t.copies)))))
        (.mapping (Tally.valueEntries (Entries.collect (b.classes.map fun m => (m.id, 0)))))
        (.mapping (Tally.valueEntries (Entries.collect (b.classes.map fun m => (m.id, 0))))) =
      .ok (opening b) := by
  have hcopies : Entries.collect (b.titles.map fun t => (t.id, t.copies)) =
      (opening b).copies.entries := Entries.collect_of_nodup (opening b).copies.nodup
  have hnone : Entries.collect (b.classes.map fun m => (m.id, 0)) = (opening b).loans.entries :=
    Entries.collect_of_nodup (opening b).loans.nodup
  rw [hcopies, hnone]
  exact Snapshot.make_toValue (opening b) 1

/-- **Days** go by one after another: what comes of them is the next day, as many times as a whole
number that is not negative says, and on anything else there is a fault. -/
theorem advance_eq_ok_iff {s u : Snapshot} {days : Value} :
    advance s days = .ok u ↔
      ∃ n : Nat, days.number = .ok (.int n) ∧ u = Snapshot.nextDay^[n] s := by
  constructor
  · intro h
    obtain ⟨number, hnumber, h⟩ := exists_of_bind_eq_ok h
    split at h
    · cases h
    · rename_i hnegative
      cases number with
      | float x => cases h
      | int n =>
          obtain rfl := Except.ok.inj h
          have hn : 0 ≤ n := by simpa [Number.lt] using hnegative
          refine ⟨n.toNat, ?_, ?_⟩
          · rw [hnumber, Int.toNat_of_nonneg hn]
          · rw [Snapshot.iterate_nextDay]
  · rintro ⟨n, hnumber, rfl⟩
    rw [advance, hnumber, Snapshot.iterate_nextDay]
    simp [Number.lt]

/-- **One copy less** is the number of copies read, and replaced by one less. -/
theorem take_eq_withCopies (s : Snapshot) (t : Value) : take s t = (do
    let n ← s.copiesOf t
    if n = 0 then .error (.emptyShelf t)
    else s.withCopies t (.int ((n : Int) - 1)) : Except Fault Snapshot) := by
  unfold take Snapshot.copiesOf
  cases h : s.title t with
  | error e => rfl
  | ok e =>
      obtain ⟨k, n⟩ := e
      cases n with
      | zero => rfl
      | succ n =>
          have hless : ((n + 1 : Nat) : Int) - 1 = n := by omega
          show _ = s.withCopies t (.int (((n + 1 : Nat) : Int) - 1))
          rw [hless, Snapshot.withCopies_natCast h]
          rfl

/-- **One copy more**, likewise. -/
theorem putBack_eq_withCopies (s : Snapshot) (t : Value) : putBack s t = (do
    let n ← s.copiesOf t
    s.withCopies t (.int ((n : Int) + 1)) : Except Fault Snapshot) := by
  unfold putBack Snapshot.copiesOf
  cases h : s.title t with
  | error e => rfl
  | ok e =>
      obtain ⟨k, n⟩ := e
      exact (Snapshot.withCopies_natCast h (n + 1)).symm

end Shelf

/-! ## Accounts -/

namespace Account

/-- **One loan more** is the number of loans read, and replaced by one more. -/
theorem openLoan_eq_withLoans (s : Snapshot) (m : Value) : openLoan s m = (do
    let n ← s.loansOf m
    s.withLoans m (.int ((n : Int) + 1)) : Except Fault Snapshot) := by
  unfold openLoan Snapshot.loansOf
  cases h : s.borrower m with
  | error e => rfl
  | ok e =>
      obtain ⟨k, n⟩ := e
      exact (Snapshot.withLoans_natCast h (n + 1)).symm

/-- **One loan less**, likewise; without any, nothing is replaced. -/
theorem closeLoan_eq_withLoans (s : Snapshot) (m : Value) : closeLoan s m = (do
    let n ← s.loansOf m
    if n = 0 then return s
    else s.withLoans m (.int ((n : Int) - 1)) : Except Fault Snapshot) := by
  unfold closeLoan Snapshot.loansOf
  cases h : s.borrower m with
  | error e => rfl
  | ok e =>
      obtain ⟨k, n⟩ := e
      cases n with
      | zero => rfl
      | succ n =>
          have hless : ((n + 1 : Nat) : Int) - 1 = n := by omega
          show _ = s.withLoans m (.int (((n + 1 : Nat) : Int) - 1))
          rw [hless, Snapshot.withLoans_natCast h]
          rfl

end Account

end Circulation
