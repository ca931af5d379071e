import Circulation.Session
import Circulation.Proofs.Rebuilding
/-!
# Snapshots stay well formed

Ids and amounts of any kind reach the operations: nothing, truth values, doubles, texts, lists and
mappings.  Whatever they are, the snapshots that a sequence of operations passes through have the
keys of the first one, in the same order, and counts that are integers and not negative.

No operation writes to a snapshot directly.  Each one moves the day forward or puts values under ids
that are there, and hands the fields to the constructor again; `Rebuilt` is one such change.

The main facts are

* `Operation.rebuilds_of_run` : what an operation gives comes from such changes alone;
* `Rebuilt.kept` : such a change keeps the keys and their order, and the day does not go back;
* `Operation.passed_wellFormed` : the documents of all snapshots passed are well formed;
* `Session.remembered_wellFormed` : so are those of all snapshots that a session remembers.
-/

namespace Circulation

namespace Snapshot

/-! ## Changes through the constructor -/

/-- The constructor gives `u` from the fields of `s`, with a later day or with a value put under an
id that is there. -/
inductive Rebuilt (s : Snapshot) : Snapshot → Prop
  | days {u : Snapshot} (n : Nat)
      (made : make (.int (s.day + n : Nat)) s.copies.toValue s.loans.toValue s.fines.toValue =
        .ok u) : Rebuilt s u
  | copies {u : Snapshot} {id v : Value} {e : Int × Nat} (named : s.title id = .ok e)
      (made : make (.int s.day) (.mapping (Entries.put id v (Tally.valueEntries s.copies.entries)))
        s.loans.toValue s.fines.toValue = .ok u) : Rebuilt s u
  | loans {u : Snapshot} {id v : Value} {e : Int × Nat} (named : s.borrower id = .ok e)
      (made : make (.int s.day) s.copies.toValue
        (.mapping (Entries.put id v (Tally.valueEntries s.loans.entries))) s.fines.toValue =
        .ok u) : Rebuilt s u
  | fines {u : Snapshot} {id v : Value} {e : Int × Nat} (named : s.debtor id = .ok e)
      (made : make (.int s.day) s.copies.toValue s.loans.toValue
        (.mapping (Entries.put id v (Tally.valueEntries s.fines.entries))) = .ok u) : Rebuilt s u

/-- Any number of such changes. -/
def Rebuilds : Snapshot → Snapshot → Prop := Relation.ReflTransGen Rebuilt

/-- The keys of `s` in the same order, and a day that is not earlier. -/
structure Kept (s u : Snapshot) : Prop where
  day : s.day ≤ u.day
  copies : u.copies.keys = s.copies.keys
  loans : u.loans.keys = s.loans.keys
  fines : u.fines.keys = s.fines.keys

theorem Kept.refl (s : Snapshot) : Kept s s := ⟨Nat.le_refl _, rfl, rfl, rfl⟩

theorem Kept.trans {s u v : Snapshot} (h : Kept s u) (h' : Kept u v) : Kept s v :=
  ⟨Nat.le_trans h.day h'.day, h'.copies.trans h.copies, h'.loans.trans h.loans,
    h'.fines.trans h.fines⟩

section

variable {s u : Snapshot}

/-- **A change through the constructor** keeps the keys and their order. -/
theorem Rebuilt.kept (h : Rebuilt s u) : Kept s u := by
  cases h with
  -- In each case the constructor's answer is known, and it is a setter's.
  | days n made =>
      obtain rfl := Except.ok.inj ((make_toValue s (s.day + n)).symm.trans made)
      exact ⟨Nat.le_add_right _ _, rfl, rfl, rfl⟩
  | copies named made =>
      rw [make_put_copies named] at made
      obtain ⟨n, -, rfl⟩ := exists_of_map_eq_ok made
      exact ⟨Nat.le_refl _, by simp, rfl, rfl⟩
  | loans named made =>
      rw [make_put_loans named] at made
      obtain ⟨n, -, rfl⟩ := exists_of_map_eq_ok made
      exact ⟨Nat.le_refl _, rfl, by simp, rfl⟩
  | fines named made =>
      rw [make_put_fines named] at made
      obtain ⟨n, -, rfl⟩ := exists_of_map_eq_ok made
      exact ⟨Nat.le_refl _, rfl, rfl, by simp⟩

/-- Any number of changes through the constructor keep the keys and their order. -/
theorem Rebuilds.kept (h : Rebuilds s u) : Kept s u := by
  induction h with
  | refl => exact Kept.refl s
  | tail _ hlast ih => exact ih.trans hlast.kept

end

/-! ## Days and counts -/

section

variable {s u : Snapshot} {id v : Value}

theorem rebuilds_days (s : Snapshot) (n : Nat) : Rebuilds s { s with day := s.day + n } :=
  .single (.days n (make_toValue s (s.day + n)))

/-- Replacing the copies of a title is putting the value among them. -/
theorem rebuilds_withCopies (h : s.withCopies id v = .ok u) : Rebuilds s u := by
  rw [withCopies_eq_make] at h
  obtain ⟨e, he, h⟩ := exists_of_bind_eq_ok h
  exact .single (.copies he h)

/-- Replacing the loans of a class is putting the value among them. -/
theorem rebuilds_withLoans (h : s.withLoans id v = .ok u) : Rebuilds s u := by
  rw [withLoans_eq_make] at h
  obtain ⟨e, he, h⟩ := exists_of_bind_eq_ok h
  exact .single (.loans he h)

/-- Replacing the fines of a class is putting the value among them. -/
theorem rebuilds_withFines (h : s.withFines id v = .ok u) : Rebuilds s u := by
  rw [withFines_eq_make] at h
  obtain ⟨e, he, h⟩ := exists_of_bind_eq_ok h
  exact .single (.fines he h)

end

/-! ## Documents -/

/-- The value is a mapping with the integer keys `ks` and no others, in that order, and what it
holds under them are integers that are not negative. -/
def CountsUnder (ks : List Int) (v : Value) : Prop :=
  ∃ es, v = .mapping es ∧ Entries.keys es = ks.map Value.int ∧
    ∀ e ∈ es, ∃ n : Int, 0 ≤ n ∧ e.2 = .int n

/-- The document is one of a snapshot with the keys of `s` in the same order, on the day of `s` or
later. -/
structure WellFormed (s : Snapshot) (doc : Value) : Prop where
  day : ∃ d : Int, doc.field "day" = .ok (.int d) ∧ 0 ≤ d ∧ s.day ≤ d
  copies : ∃ v, doc.field "available_copies" = .ok v ∧ CountsUnder s.copies.keys v
  loans : ∃ v, doc.field "active_loans" = .ok v ∧ CountsUnder s.loans.keys v
  fines : ∃ v, doc.field "outstanding_fines" = .ok v ∧ CountsUnder s.fines.keys v
  sameClasses : ∃ loans fines, doc.field "active_loans" = .ok (.mapping loans) ∧
    doc.field "outstanding_fines" = .ok (.mapping fines) ∧
    ∀ k, k ∈ Entries.keys loans ↔ k ∈ Entries.keys fines

/-- Replacing a count, by an id and a value of any kind, is putting the value under the id in the
raw mapping and handing the fields to the constructor. -/
structure ReplacesByRebuilding (s : Snapshot) : Prop where
  copies : ∀ id v, s.withCopies id v = (do
    let _ ← s.title id
    make (.int s.day) (.mapping (Entries.put id v (Tally.valueEntries s.copies.entries)))
      s.loans.toValue s.fines.toValue : Except Fault Snapshot)
  loans : ∀ id v, s.withLoans id v = (do
    let _ ← s.borrower id
    make (.int s.day) s.copies.toValue
      (.mapping (Entries.put id v (Tally.valueEntries s.loans.entries)))
      s.fines.toValue : Except Fault Snapshot)
  fines : ∀ id v, s.withFines id v = (do
    let _ ← s.debtor id
    make (.int s.day) s.copies.toValue s.loans.toValue
      (.mapping (Entries.put id v (Tally.valueEntries s.fines.entries))) :
      Except Fault Snapshot)

theorem keys_valueEntries (t : Tally) :
    Entries.keys (Tally.valueEntries t.entries) = t.keys.map Value.int := by
  simp [Entries.keys, Tally.valueEntries, Tally.keys]

theorem countsUnder_toValue (t : Tally) : CountsUnder t.keys t.toValue := by
  refine ⟨Tally.valueEntries t.entries, rfl, keys_valueEntries t, ?_⟩
  intro e he
  obtain ⟨c, -, rfl⟩ := List.mem_map.1 he
  exact ⟨c.2, Int.natCast_nonneg c.2, rfl⟩

section

variable (u : Snapshot)

theorem field_day : u.toValue.field "day" = .ok (.int u.day) := rfl

theorem field_copies : u.toValue.field "available_copies" = .ok u.copies.toValue := rfl

theorem field_loans : u.toValue.field "active_loans" = .ok u.loans.toValue := rfl

theorem field_fines : u.toValue.field "outstanding_fines" = .ok u.fines.toValue := rfl

end

/-- What keeps the keys of a snapshot has a well-formed document. -/
theorem Kept.wellFormed {s u : Snapshot} (h : Kept s u) : WellFormed s u.toValue where
  day := ⟨u.day, field_day u, Int.natCast_nonneg _, Int.ofNat_le.2 h.day⟩
  copies := ⟨_, field_copies u, h.copies ▸ countsUnder_toValue u.copies⟩
  loans := ⟨_, field_loans u, h.loans ▸ countsUnder_toValue u.loans⟩
  fines := ⟨_, field_fines u, h.fines ▸ countsUnder_toValue u.fines⟩
  sameClasses := by
    refine ⟨Tally.valueEntries u.loans.entries, Tally.valueEntries u.fines.entries,
      field_loans u, field_fines u, fun k => ?_⟩
    rw [keys_valueEntries, keys_valueEntries, List.mem_map, List.mem_map]
    simp only [u.sameClasses]

end Snapshot

/-! ## Outcomes -/

/-- An outcome carries the snapshot that it was built on. -/
theorem Outcome.state_of_check {s : Snapshot} {ok code : Value} {o : Outcome}
    (h : check (.inr s) ok code = .ok o) : o.state = s := by
  unfold check at h
  split at h
  · cases h
  · rename_i heq
    obtain rfl := Sum.inr.inj heq
    split at h
    · split at h
      · split at h
        · obtain rfl := Except.ok.inj h
          rfl
        · cases h
      · cases h
    · cases h

/-! ## The operations, one by one -/

section

variable {b : Rulebook} {s u : Snapshot} {o : Outcome}

/-- The passing of days. -/
theorem Shelf.rebuilds_of_advance {days : Value} (h : advance s days = .ok u) :
    s.Rebuilds u := by
  obtain ⟨n, -, rfl⟩ := advance_eq_ok_iff.1 h
  rw [Snapshot.iterate_nextDay]
  exact Snapshot.rebuilds_days s n

/-- A question about the shelf changes nothing. -/
theorem Shelf.state_of_availability {t : Value} (h : availability s t = .ok o) : o.state = s := by
  obtain ⟨n, -, h⟩ := exists_of_bind_eq_ok h
  split at h
  · obtain rfl := Except.ok.inj h
    rfl
  · obtain ⟨x, -, h⟩ := exists_of_bind_eq_ok h
    exact Outcome.state_of_check h

/-- One copy less. -/
theorem Shelf.rebuilds_of_take {t : Value} (h : take s t = .ok u) : s.Rebuilds u := by
  rw [take_eq_withCopies] at h
  obtain ⟨n, -, h⟩ := exists_of_bind_eq_ok h
  split at h
  · cases h
  · exact Snapshot.rebuilds_withCopies h

/-- One copy more. -/
theorem Shelf.rebuilds_of_putBack {t : Value} (h : putBack s t = .ok u) : s.Rebuilds u := by
  rw [putBack_eq_withCopies] at h
  obtain ⟨n, -, h⟩ := exists_of_bind_eq_ok h
  exact Snapshot.rebuilds_withCopies h

/-- A question about an account changes nothing. -/
theorem Account.state_of_eligibility {m : Value} (h : (eligibility b s m).result = .ok o) :
    o.state = s := by
  obtain ⟨rule, -, h⟩ := Logged.exists_of_bind_result h
  obtain ⟨bar, -, h⟩ := Logged.exists_of_bind_result h
  cases bar with
  | none =>
      obtain rfl := Except.ok.inj h
      rfl
  | some bar =>
      obtain ⟨-, -, h⟩ := Logged.exists_of_bind_result h
      have hrefused : Outcome.refuse s (.int bar.2) = .ok o := h
      exact Outcome.state_of_check hrefused

/-- One loan more. -/
theorem Account.rebuilds_of_openLoan {m : Value} (h : openLoan s m = .ok u) : s.Rebuilds u := by
  rw [openLoan_eq_withLoans] at h
  obtain ⟨n, -, h⟩ := exists_of_bind_eq_ok h
  exact Snapshot.rebuilds_withLoans h

/-- One loan less, or none. -/
theorem Account.rebuilds_of_closeLoan {m : Value} (h : closeLoan s m = .ok u) : s.Rebuilds u := by
  rw [closeLoan_eq_withLoans] at h
  obtain ⟨n, -, h⟩ := exists_of_bind_eq_ok h
  split at h
  · obtain rfl := Except.ok.inj h
    exact .refl
  · exact Snapshot.rebuilds_withLoans h

/-- Fines go up, whatever the sum is. -/
theorem Account.rebuilds_of_addFine {m amount : Value} (h : addFine s m amount = .ok u) :
    s.Rebuilds u := by
  obtain ⟨a, -, h⟩ := exists_of_bind_eq_ok h
  split at h
  · cases h
  · obtain ⟨fines, -, h⟩ := exists_of_bind_eq_ok h
    split at h
    · exact Snapshot.rebuilds_withFines h
    · cases h

/-- Fines go down, whatever the difference is. -/
theorem Account.rebuilds_of_pay {m amount : Value} (h : (pay s m amount).result = .ok u) :
    s.Rebuilds u := by
  obtain ⟨a, -, h⟩ := Logged.exists_of_bind_result h
  split at h
  · cases h
  · obtain ⟨fines, -, h⟩ := Logged.exists_of_bind_result h
    split at h
    · -- The note on what was overpaid comes or not; the fines are replaced all the same.
      dsimp only at h
      split at h
      · obtain ⟨-, -, h⟩ := Logged.exists_of_bind_result h
        exact Snapshot.rebuilds_withFines h
      · exact Snapshot.rebuilds_withFines h
    · cases h

/-- Checking out; a refusal changes nothing. -/
theorem Lending.rebuilds_of_checkout {m t : Value} (h : (checkout b s m t).result = .ok o) :
    s.Rebuilds o.state := by
  obtain ⟨eligible, heligible, h⟩ := Logged.exists_of_bind_result h
  -- Both questions hand on the snapshot they were asked about.
  have hs : eligible.state = s := Account.state_of_eligibility heligible
  split at h
  · obtain ⟨available, havailable, h⟩ := Logged.exists_of_bind_result h
    have hs' : available.state = s := (Shelf.state_of_availability havailable).trans hs
    split at h
    · obtain ⟨taken, htaken, h⟩ := Logged.exists_of_bind_result h
      obtain ⟨-, -, h⟩ := Logged.exists_of_bind_result h
      obtain ⟨lent, hlent, h⟩ := Logged.exists_of_bind_result h
      obtain ⟨-, -, h⟩ := Logged.exists_of_bind_result h
      obtain rfl := Except.ok.inj h
      rw [hs'] at htaken
      exact (Shelf.rebuilds_of_take htaken).trans (Account.rebuilds_of_openLoan hlent)
    · obtain ⟨-, -, h⟩ := Logged.exists_of_bind_result h
      obtain rfl := Except.ok.inj h
      rw [hs']
      exact .refl
  · obtain ⟨-, -, h⟩ := Logged.exists_of_bind_result h
    obtain rfl := Except.ok.inj h
    rw [hs]
    exact .refl

/-- The fine for days late, if there is one. -/
theorem Lending.rebuilds_of_settle {m d : Value} {fine : Number}
    (h : (settle s m d fine).result = .ok u) : s.Rebuilds u := by
  unfold settle at h
  split at h
  · obtain ⟨fined, hfined, h⟩ := Logged.exists_of_bind_result h
    obtain ⟨-, -, h⟩ := Logged.exists_of_bind_result h
    obtain rfl := Except.ok.inj h
    exact Account.rebuilds_of_addFine hfined
  · obtain rfl := Except.ok.inj h
    exact .refl

/-- Giving back. -/
theorem Lending.rebuilds_of_giveBack {m t d : Value} (h : (giveBack b s m t d).result = .ok o) :
    s.Rebuilds o.state := by
  obtain ⟨days, -, h⟩ := Logged.exists_of_bind_result h
  split at h
  · cases h
  · obtain ⟨restocked, hrestocked, h⟩ := Logged.exists_of_bind_result h
    obtain ⟨closed, hclosed, h⟩ := Logged.exists_of_bind_result h
    obtain ⟨fine, -, h⟩ := Logged.exists_of_bind_result h
    obtain ⟨settled, hsettled, h⟩ := Logged.exists_of_bind_result h
    obtain ⟨-, -, h⟩ := Logged.exists_of_bind_result h
    have haccepted : Outcome.accept settled (.ofNumber (Code.returned days)) = .ok o := h
    rw [Outcome.state_of_check haccepted]
    exact ((Shelf.rebuilds_of_putBack hrestocked).trans
      (Account.rebuilds_of_closeLoan hclosed)).trans (Lending.rebuilds_of_settle hsettled)

end

/-! ## Sequences of operations -/

namespace Operation

/-- An operation that ends with a snapshot. -/
theorem rebuilds_of_state {s : Snapshot} {x : Logged Snapshot} {y : Yield}
    (hx : ∀ u, x.result = .ok u → s.Rebuilds u)
    (h : (x >>= fun u => pure (Yield.state u)).result = .ok y) : s.Rebuilds y.snapshot := by
  obtain ⟨u, hu, h⟩ := Logged.exists_of_bind_result h
  obtain rfl := Except.ok.inj h
  exact hx u hu

/-- An operation that ends with an outcome. -/
theorem rebuilds_of_outcome {s : Snapshot} {x : Logged Outcome} {y : Yield}
    (hx : ∀ o, x.result = .ok o → s.Rebuilds o.state)
    (h : (x >>= fun o => pure (Yield.outcome o)).result = .ok y) : s.Rebuilds y.snapshot := by
  obtain ⟨o, ho, h⟩ := Logged.exists_of_bind_result h
  obtain rfl := Except.ok.inj h
  exact hx o ho

/-- **What an operation gives** comes from changes through the constructor alone. -/
theorem rebuilds_of_run {b : Rulebook} {s : Snapshot} {op : Operation} {y : Yield}
    (h : (op.run b s).result = .ok y) : s.Rebuilds y.snapshot := by
  cases op with
  | nextDay =>
      obtain rfl := Except.ok.inj h
      exact Snapshot.rebuilds_days s 1
  | advance days => exact rebuilds_of_state (fun _ => Shelf.rebuilds_of_advance) h
  | setCopies t n => exact rebuilds_of_state (fun _ => Snapshot.rebuilds_withCopies) h
  | setLoans m n => exact rebuilds_of_state (fun _ => Snapshot.rebuilds_withLoans) h
  | setFines m n => exact rebuilds_of_state (fun _ => Snapshot.rebuilds_withFines) h
  | availability t =>
      refine rebuilds_of_outcome (fun o ho => ?_) h
      rw [Shelf.state_of_availability ho]
      exact .refl
  | take t => exact rebuilds_of_state (fun _ => Shelf.rebuilds_of_take) h
  | putBack t => exact rebuilds_of_state (fun _ => Shelf.rebuilds_of_putBack) h
  | eligibility m =>
      refine rebuilds_of_outcome (fun o ho => ?_) h
      rw [Account.state_of_eligibility ho]
      exact .refl
  | openLoan m => exact rebuilds_of_state (fun _ => Account.rebuilds_of_openLoan) h
  | closeLoan m => exact rebuilds_of_state (fun _ => Account.rebuilds_of_closeLoan) h
  | addFine m n => exact rebuilds_of_state (fun _ => Account.rebuilds_of_addFine) h
  | pay m n => exact rebuilds_of_state (fun _ => Account.rebuilds_of_pay) h
  | checkout m t => exact rebuilds_of_outcome (fun _ => Lending.rebuilds_of_checkout) h
  | giveBack m t d => exact rebuilds_of_outcome (fun _ => Lending.rebuilds_of_giveBack) h

/-- One operation keeps the keys and their order, also when it fails. -/
theorem kept_after (b : Rulebook) (s : Snapshot) (op : Operation) :
    s.Kept (op.after b s) := by
  unfold after
  split
  · rename_i y hy
    exact (rebuilds_of_run hy).kept
  · exact .refl s

/-- The snapshots that a sequence of operations passes through, the first one included; each
operation has a rulebook of its own. -/
def passed (s : Snapshot) : List (Rulebook × Operation) → List Snapshot
  | [] => [s]
  | call :: rest => s :: passed (call.2.after call.1 s) rest

/-- Every snapshot passed keeps the keys of the first one. -/
theorem kept_of_mem_passed {calls : List (Rulebook × Operation)} {s u : Snapshot}
    (hu : u ∈ passed s calls) : s.Kept u := by
  induction calls generalizing s with
  | nil =>
      obtain rfl := List.mem_singleton.1 hu
      exact .refl u
  | cons call rest ih =>
      rcases List.mem_cons.1 hu with rfl | hrest
      · exact .refl u
      · exact (kept_after call.1 s call.2).trans (ih hrest)

/-- The days of the snapshots passed never go back. -/
theorem pairwise_day_passed (s : Snapshot) (calls : List (Rulebook × Operation)) :
    (passed s calls).Pairwise fun u v => u.day ≤ v.day := by
  induction calls generalizing s with
  | nil => exact List.pairwise_singleton _ _
  | cons call rest ih =>
      refine List.pairwise_cons.2 ⟨fun v hv => ?_, ih _⟩
      exact ((kept_after call.1 s call.2).trans (kept_of_mem_passed hv)).day

/-- **Snapshots stay well formed.**  Whatever the operations, their rulebooks and the kinds of their
ids and amounts, every snapshot passed has a document with an integer day that is not negative, with
the integer keys of the first snapshot in the same order, with counts that are integers and not
negative, and with the same classes among the loans and the fines; replacing a count in it goes
through the constructor; and the days never go back. -/
theorem passed_wellFormed (s : Snapshot) (calls : List (Rulebook × Operation)) :
    (∀ u ∈ passed s calls, s.WellFormed u.toValue ∧ u.ReplacesByRebuilding) ∧
      (passed s calls).Pairwise fun u v => u.day ≤ v.day := by
  refine ⟨fun u hu => ⟨(kept_of_mem_passed hu).wellFormed, ?_⟩, pairwise_day_passed s calls⟩
  exact ⟨u.withCopies_eq_make, u.withLoans_eq_make, u.withFines_eq_make⟩

/-- Operations with truth values as ids, and two that fail on a text and on nothing. -/
def oddCalls : List (Rulebook × Operation) :=
  [.setCopies (.bool true) (.int 7), .addFine (.bool true) (.int 30), .pay (.int 1) (.text "12"),
    .checkout (.bool true) .null, .take (.bool true)].map fun op => (Rulebook.reference, op)

/-- After these operations the keys are still integers, and the counts have changed under them. -/
theorem passed_wellFormed_oddCalls :
    let s := Shelf.opening Rulebook.reference
    ∃ u ∈ passed s oddCalls, u.copies.entries = [(1, 6), (2, 2), (3, 1)] ∧
      u.fines.entries = [(1, 30), (2, 0)] ∧ s.WellFormed u.toValue := by
  intro s
  have hlast : ∃ u, (passed s oddCalls)[5]? = some u ∧
      u.copies.entries = [(1, 6), (2, 2), (3, 1)] ∧ u.fines.entries = [(1, 30), (2, 0)] :=
    ⟨_, rfl, rfl, rfl⟩
  obtain ⟨u, hu, hcopies, hfines⟩ := hlast
  have hmem : u ∈ passed s oddCalls := List.mem_of_getElem? hu
  exact ⟨u, hmem, hcopies, hfines, ((passed_wellFormed s oddCalls).1 u hmem).1⟩

end Operation

/-! ## Sessions -/

/-- The snapshot that a reply goes on with. -/
def Reply.snapshot? : Reply → Option Snapshot
  | .state s => some s
  | .outcome o => some o.state
  | .value _ => none

namespace Session

/-- The session after some commands. -/
def afterAll (x : Session) (commands : List Command) : Session :=
  commands.foldl (fun x c => x.next (x.answer c)) x

/-- The snapshot keeps the keys of `s`, or those of the first day, on which a session can be opened
again. -/
def Keeps (b : Rulebook) (s u : Snapshot) : Prop := s.Kept u ∨ (Shelf.opening b).Kept u

/-- All that a session has at hand keeps the keys: its current snapshot, the remembered ones and
that of the last outcome. -/
structure Sound (b : Rulebook) (s : Snapshot) (x : Session) : Prop where
  rulebook : x.rulebook = b
  current : Keeps b s x.current
  history : ∀ u ∈ x.history, Keeps b s u
  last : ∀ o, x.last = some o → Keeps b s o.state

section

variable {b : Rulebook} {s : Snapshot} {x : Session}

theorem sound_start (b : Rulebook) (s : Snapshot) : Sound b s (start b s) where
  rulebook := rfl
  current := .inl (.refl s)
  history := by
    intro u hu
    obtain rfl := List.mem_singleton.1 hu
    exact .inl (.refl u)
  last := nofun

/-- A reply that is made from a value goes on with no snapshot. -/
theorem snapshot?_of_value {α : Type} {y : Except Fault α} {f : α → Value} {r : Reply}
    (h : (y >>= fun a => pure (Reply.value (f a))) = .ok r) : r.snapshot? = none := by
  obtain ⟨a, -, h⟩ := exists_of_bind_eq_ok h
  obtain rfl := Except.ok.inj h
  rfl

theorem mem_history_of_remembered {index : Nat} {u : Snapshot} (h : x.remembered index = .ok u) :
    u ∈ x.history := by
  unfold remembered at h
  split at h
  · rename_i heq
    obtain rfl := Except.ok.inj h
    exact List.mem_of_getElem? heq
  · cases h

/-- **What a command goes on with** keeps the keys. -/
theorem Sound.keeps_of_answer (h : Sound b s x) {c : Command} {r : Reply} {u : Snapshot}
    (hr : (x.answer c).reply = .ok r) (hu : r.snapshot? = some u) : Keeps b s u := by
  cases c with
  | operate op =>
      obtain ⟨y, hy, rfl⟩ := exists_of_map_eq_ok hr
      have hsnapshot : y.snapshot = u := by
        cases y <;> exact Option.some.inj hu
      have hkept : x.current.Kept u := hsnapshot ▸ (Operation.rebuilds_of_run hy).kept
      exact h.current.imp (·.trans hkept) (·.trans hkept)
  | reopen =>
      obtain rfl := Except.ok.inj hr
      obtain rfl := Option.some.inj hu
      exact .inr (h.rulebook ▸ .refl _)
  | printState =>
      unfold answer at hr
      dsimp only at hr
      split at hr
      · obtain rfl := Except.ok.inj hr
        obtain rfl := Option.some.inj hu
        exact h.current
      · cases hr
  | printAction =>
      unfold answer at hr
      dsimp only at hr
      split at hr
      · rename_i o ho
        obtain rfl := Except.ok.inj hr
        obtain rfl := Option.some.inj hu
        exact h.last o ho
      · cases hr
  | goBack index =>
      obtain ⟨v, hv, hr⟩ := exists_of_bind_eq_ok hr
      obtain rfl := Except.ok.inj hr
      obtain rfl := Option.some.inj hu
      exact h.history v (mem_history_of_remembered hv)
  -- The other commands reply with a value.
  | copiesOf | loansOf | finesOf =>
      obtain ⟨n, -, rfl⟩ := exists_of_map_eq_ok hr
      cases hu
  | barCode bar m =>
      obtain ⟨rule, -, hr⟩ := exists_of_bind_eq_ok hr
      rw [snapshot?_of_value hr] at hu
      cases hu
  | stateLines | sameAs =>
      rw [snapshot?_of_value hr] at hu
      cases hu
  | inspect =>
      obtain rfl := Except.ok.inj hr
      cases hu

/-- A session that goes on with a snapshot that keeps the keys. -/
theorem Sound.goOn (h : Sound b s x) {u : Snapshot} (hu : Keeps b s u) :
    Sound b s { x with current := u, history := x.history ++ [u] } where
  rulebook := h.rulebook
  current := hu
  history := by
    intro v hv
    rcases List.mem_append.1 hv with hv | hv
    · exact h.history v hv
    · obtain rfl := List.mem_singleton.1 hv
      exact hu
  last := h.last

/-- **One command** leaves all at hand with the keys. -/
theorem Sound.next_answer (h : Sound b s x) (c : Command) : Sound b s (x.next (x.answer c)) := by
  unfold next
  split
  · rename_i u hr
    exact h.goOn (h.keeps_of_answer hr rfl)
  · rename_i o hr
    have hkeeps : Keeps b s o.state := h.keeps_of_answer hr rfl
    refine { h.goOn hkeeps with last := ?_ }
    intro o' ho'
    obtain rfl := Option.some.inj ho'
    exact hkeeps
  · exact h.goOn h.current

theorem Sound.afterAll (h : Sound b s x) (commands : List Command) :
    Sound b s (x.afterAll commands) := by
  induction commands generalizing x with
  | nil => exact h
  | cons c rest ih => exact ih (h.next_answer c)

end

theorem length_history_next (x : Session) (a : Answer) :
    (x.next a).history.length = x.history.length + 1 := by
  unfold next
  split <;> exact List.length_append

theorem length_history_afterAll (x : Session) (commands : List Command) :
    (x.afterAll commands).history.length = x.history.length + commands.length := by
  induction commands generalizing x with
  | nil => rfl
  | cons c rest ih =>
      calc ((x.next (x.answer c)).afterAll rest).history.length
          = (x.next (x.answer c)).history.length + rest.length := ih _
        _ = x.history.length + (rest.length + 1) := by
              rw [length_history_next]
              omega

/-- **A session remembers well-formed snapshots only**, one for its start and one for each command,
whatever the commands: operations that fail, going back and opening the library again included. -/
theorem remembered_wellFormed (b : Rulebook) (s : Snapshot) (commands : List Command) :
    ((start b s).afterAll commands).history.length = commands.length + 1 ∧
      ∀ u ∈ ((start b s).afterAll commands).history,
        s.WellFormed u.toValue ∨ (Shelf.opening b).WellFormed u.toValue := by
  constructor
  · rw [length_history_afterAll, start, List.length_singleton, Nat.add_comm]
  · intro u hu
    exact (((sound_start b s).afterAll commands).history u hu).imp (·.wellFormed) (·.wellFormed)

end Session

end Circulation
