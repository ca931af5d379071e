import Circulation.Proofs.Runs
/-!
# The order of entries does not show

Snapshots keep their entries in order of insertion, and two of them are the same when they hold the
same day and the same counts, whatever their order.  No operation can tell one from the other:
reading asks for the count under a key, replacing a count leaves the order alone, and a report goes
through the rulebook and not through the snapshot.  So two runs from snapshots that are the same go
through snapshots that are the same, with the same answers, the same log and the same report, and
where one stops with a fault the other stops with it too.

The key constructions are

* `Snapshot.Same`, `Outcome.Same`, `Scenario.Entry.Same` : the same but for the order of entries;
* `Results`, `Logged.Related` : computations with the same faults, and the same log, whose values are
  related.

The main facts are the congruence of each operation, from `Snapshot.Same.entryOf_eq` up to
`Step.related_apply`, the run of them in `Scenario.same_runFrom`, and
`Scenario.run_order_unobservable`.
-/

namespace Circulation

/-! ## Related computations -/

section

variable {α β γ δ : Type} {R : α → β → Prop} {S : γ → δ → Prop}

/-- Two results that are one fault, or related values. -/
inductive Results (R : α → β → Prop) : Except Fault α → Except Fault β → Prop
  | ok {a : α} {b : β} (related : R a b) : Results R (.ok a) (.ok b)
  | error (e : Fault) : Results R (.error e) (.error e)

namespace Results

/-- One result with continuations that relate what they give. -/
theorem bind_left (x : Except Fault α) {f : α → Except Fault γ} {g : α → Except Fault δ}
    (hfg : ∀ a, Results S (f a) (g a)) : Results S (x >>= f) (x >>= g) := by
  cases x with
  | ok a => exact hfg a
  | error e => exact .error e

end Results

namespace Logged

/-- Two computations that note the same and have related results. -/
structure Related (R : α → β → Prop) (x : Logged α) (y : Logged β) : Prop where
  log : x.log = y.log
  result : Results R x.result y.result

namespace Related

/-- Values without a note. -/
theorem pure {a : α} {b : β} (h : R a b) : Related R (Pure.pure a) (Pure.pure b) := ⟨rfl, .ok h⟩

/-- Results without a note. -/
theorem lift {x : Except Fault α} {y : Except Fault β} (h : Results R x y) :
    Related R (liftM x : Logged α) (liftM y : Logged β) := ⟨rfl, h⟩

/-- Related computations with continuations that relate what they give. -/
theorem bind {x : Logged α} {y : Logged β} {f : α → Logged γ} {g : β → Logged δ}
    (h : Related R x y) (hfg : ∀ a b, R a b → Related S (f a) (g b)) :
    Related S (x >>= f) (y >>= g) := by
  obtain ⟨log, x⟩ := x
  obtain ⟨log', y⟩ := y
  obtain ⟨hlog, hresult⟩ := h
  obtain rfl : log = log' := hlog
  cases hresult with
  | ok related =>
      obtain ⟨hlog, hresult⟩ := hfg _ _ related
      exact ⟨congrArg (log ++ ·) hlog, hresult⟩
  | error e => exact ⟨rfl, .error e⟩

/-- One computation with continuations that relate what they give. -/
theorem bind_left (x : Logged α) {f : α → Logged γ} {g : α → Logged δ}
    (hfg : ∀ a, Related S (f a) (g a)) : Related S (x >>= f) (x >>= g) := by
  have hx : Related (· = ·) x x := by
    refine ⟨rfl, ?_⟩
    cases x.result with
    | ok a => exact .ok rfl
    | error e => exact .error e
  refine hx.bind ?_
  rintro a _ rfl
  exact hfg a

end Related

end Logged

end

/-! ## Snapshots -/

namespace Snapshot

/-- Two snapshots that hold the same day and the same counts. -/
def Same (s u : Snapshot) : Prop := s.same u = true

/-- Snapshots are the same when they have one day and hold the same under every key. -/
theorem same_iff {s u : Snapshot} : s.Same u ↔ s.day = u.day ∧
    (∀ k, s.copies.get? k = u.copies.get? k) ∧ (∀ k, s.loans.get? k = u.loans.get? k) ∧
    ∀ k, s.fines.get? k = u.fines.get? k := by
  simp only [Same, same, Bool.and_eq_true, beq_iff_eq, Tally.agrees_iff, and_assoc]

/-- What an id of any kind names depends on the counts under keys alone. -/
theorem entryOf_congr {t t' : Tally} (h : ∀ k, t.get? k = t'.get? k) (unknown : Value → Fault)
    (id : Value) : entryOf t unknown id = entryOf t' unknown id := by
  simp only [entryOf, h]

namespace Same

variable {s u : Snapshot}

theorem day_eq (h : s.Same u) : s.day = u.day := (same_iff.1 h).1

theorem title_eq (h : s.Same u) (id : Value) : s.title id = u.title id :=
  entryOf_congr (same_iff.1 h).2.1 _ id

theorem borrower_eq (h : s.Same u) (id : Value) : s.borrower id = u.borrower id :=
  entryOf_congr (same_iff.1 h).2.2.1 _ id

theorem debtor_eq (h : s.Same u) (id : Value) : s.debtor id = u.debtor id :=
  entryOf_congr (same_iff.1 h).2.2.2 _ id

theorem copiesOf_eq (h : s.Same u) (id : Value) : s.copiesOf id = u.copiesOf id := by
  rw [copiesOf, copiesOf, h.title_eq]

theorem loansOf_eq (h : s.Same u) (id : Value) : s.loansOf id = u.loansOf id := by
  rw [loansOf, loansOf, h.borrower_eq]

theorem finesOf_eq (h : s.Same u) (id : Value) : s.finesOf id = u.finesOf id := by
  rw [finesOf, finesOf, h.debtor_eq]

theorem setCopies (h : s.Same u) (k : Int) (n : Nat) : (s.setCopies k n).Same (u.setCopies k n) := by
  obtain ⟨hday, hcopies, hloans, hfines⟩ := same_iff.1 h
  exact same_iff.2 ⟨hday, fun j => Tally.get?_set_congr (hcopies j) k n, hloans, hfines⟩

theorem setLoans (h : s.Same u) (k : Int) (n : Nat) : (s.setLoans k n).Same (u.setLoans k n) := by
  obtain ⟨hday, hcopies, hloans, hfines⟩ := same_iff.1 h
  exact same_iff.2 ⟨hday, hcopies, fun j => Tally.get?_set_congr (hloans j) k n, hfines⟩

theorem setFines (h : s.Same u) (k : Int) (n : Nat) : (s.setFines k n).Same (u.setFines k n) := by
  obtain ⟨hday, hcopies, hloans, hfines⟩ := same_iff.1 h
  exact same_iff.2 ⟨hday, hcopies, hloans, fun j => Tally.get?_set_congr (hfines j) k n⟩

/-- Replacing fines by a value of any kind. -/
theorem withFines (h : s.Same u) (id amount : Value) :
    Results Same (s.withFines id amount) (u.withFines id amount) := by
  unfold Snapshot.withFines
  rw [h.debtor_eq]
  refine Results.bind_left _ fun e => Results.bind_left _ fun n => ?_
  exact .ok (h.setFines e.1 n)

end Same

end Snapshot

/-! ## Outcomes -/

namespace Outcome

/-- Two outcomes with one answer and one code, whose snapshots are the same. -/
structure Same (o p : Outcome) : Prop where
  state : o.state.Same p.state
  ok : o.ok = p.ok
  code : o.code = p.code

variable {s u : Snapshot}

theorem same_success (h : s.Same u) : (success s).Same (success u) := ⟨h, rfl, rfl⟩

/-- The checks of an outcome do not look into its snapshot. -/
theorem results_check (h : s.Same u) (ok code : Value) :
    Results Same (check (.inr s) ok code) (check (.inr u) ok code) := by
  cases ok with
  | bool ok =>
      cases code with
      | int code =>
          simp only [check]
          split
          · exact .ok ⟨h, rfl, rfl⟩
          · exact .error _
      | null | bool | float | text | list | mapping => exact .error _
  | null | int | float | text | list | mapping => exact .error _

end Outcome

/-! ## The operations, one by one -/

section

variable {b : Rulebook} {s u : Snapshot}

/-- The passing of days. -/
theorem Shelf.results_advance (h : s.Same u) (days : Value) :
    Results Snapshot.Same (advance s days) (advance u days) := by
  refine Results.bind_left _ fun n => ?_
  split
  · exact .error _
  · cases n with
    | float x => exact .error _
    | int n =>
        obtain ⟨hday, hcopies, hloans, hfines⟩ := Snapshot.same_iff.1 h
        exact .ok (Snapshot.same_iff.2 ⟨congrArg (· + n.toNat) hday, hcopies, hloans, hfines⟩)

/-- The question whether a copy is on the shelf. -/
theorem Shelf.results_availability (h : s.Same u) (t : Value) :
    Results Outcome.Same (availability s t) (availability u t) := by
  unfold availability
  rw [h.copiesOf_eq]
  refine Results.bind_left _ fun n => ?_
  split
  · exact .ok (Outcome.same_success h)
  · exact Results.bind_left _ fun x => Outcome.results_check h _ _

/-- One copy less. -/
theorem Shelf.results_take (h : s.Same u) (t : Value) :
    Results Snapshot.Same (take s t) (take u t) := by
  unfold take
  rw [h.title_eq]
  refine Results.bind_left _ fun e => ?_
  dsimp only
  split
  · exact .error _
  · exact .ok (h.setCopies e.1 _)

/-- One copy more. -/
theorem Shelf.results_putBack (h : s.Same u) (t : Value) :
    Results Snapshot.Same (putBack s t) (putBack u t) := by
  unfold putBack
  rw [h.title_eq]
  exact Results.bind_left _ fun e => .ok (h.setCopies e.1 _)

/-- What bars a class is read off its counts. -/
theorem Account.firstBar_eq (h : s.Same u) (rule : ClassRule) (bars : List Bar) :
    firstBar s rule bars = firstBar u rule bars := by
  induction bars with
  | nil => rfl
  | cons bar rest ih =>
      have hcode : barCode s rule bar = barCode u rule bar := by
        cases bar with
        | loanLimit => rw [barCode, barCode, h.loansOf_eq]
        | fineCeiling => rw [barCode, barCode, h.finesOf_eq]
      rw [firstBar, firstBar, hcode, ih]

/-- The question whether a class may borrow. -/
theorem Account.related_eligibility (h : s.Same u) (m : Value) :
    Logged.Related Outcome.Same (eligibility b s m) (eligibility b u m) := by
  unfold eligibility
  refine Logged.Related.bind_left _ fun rule => ?_
  rw [firstBar_eq h]
  refine Logged.Related.bind_left _ fun bar => ?_
  cases bar with
  | none => exact .pure (Outcome.same_success h)
  | some bar => exact Logged.Related.bind_left _ fun _ => .lift (Outcome.results_check h _ _)

/-- One loan more. -/
theorem Account.results_openLoan (h : s.Same u) (m : Value) :
    Results Snapshot.Same (openLoan s m) (openLoan u m) := by
  unfold openLoan
  rw [h.borrower_eq]
  exact Results.bind_left _ fun e => .ok (h.setLoans e.1 _)

/-- One loan less, or none. -/
theorem Account.results_closeLoan (h : s.Same u) (m : Value) :
    Results Snapshot.Same (closeLoan s m) (closeLoan u m) := by
  unfold closeLoan
  rw [h.borrower_eq]
  refine Results.bind_left _ fun e => .ok ?_
  split
  · exact h
  · exact h.setLoans e.1 _

/-- Fines go up. -/
theorem Account.results_addFine (h : s.Same u) (m amount : Value) :
    Results Snapshot.Same (addFine s m amount) (addFine u m amount) := by
  unfold addFine
  refine Results.bind_left _ fun a => ?_
  split
  · exact .error _
  · rw [h.finesOf_eq]
    refine Results.bind_left _ fun fines => ?_
    split
    · exact h.withFines m _
    · exact .error _

/-- Fines go down; what is overpaid is read off the fines. -/
theorem Account.related_pay (h : s.Same u) (m amount : Value) :
    Logged.Related Snapshot.Same (pay s m amount) (pay u m amount) := by
  unfold pay
  refine Logged.Related.bind_left _ fun a => ?_
  split
  · exact .lift (.error _)
  · rw [h.finesOf_eq]
    refine Logged.Related.bind_left _ fun fines => ?_
    split
    · dsimp only
      split
      · exact Logged.Related.bind_left _ fun _ => .lift (h.withFines m _)
      · exact .lift (h.withFines m _)
    · exact .lift (.error _)

/-- Checking out: both questions have the same answer, and so have the changes after them. -/
theorem Lending.related_checkout (h : s.Same u) (m t : Value) :
    Logged.Related Outcome.Same (checkout b s m t) (checkout b u m t) := by
  unfold checkout
  refine (Account.related_eligibility h m).bind fun eligible eligible' heligible => ?_
  rw [heligible.ok, heligible.code]
  split
  · refine (Logged.Related.lift (Shelf.results_availability heligible.state t)).bind
      fun available available' havailable => ?_
    rw [havailable.ok, havailable.code]
    split
    · refine (Logged.Related.lift (Shelf.results_take havailable.state t)).bind
        fun taken taken' htaken => Logged.Related.bind_left _ fun _ => ?_
      refine (Logged.Related.lift (Account.results_openLoan htaken m)).bind
        fun lent lent' hlent => Logged.Related.bind_left _ fun _ => ?_
      exact .pure (Outcome.same_success hlent)
    · exact Logged.Related.bind_left _ fun _ => .pure havailable
  · exact Logged.Related.bind_left _ fun _ => .pure heligible

/-- The fine for days late, if there is one. -/
theorem Lending.related_settle (h : s.Same u) (m d : Value) (fine : Number) :
    Logged.Related Snapshot.Same (settle s m d fine) (settle u m d fine) := by
  unfold settle
  split
  · refine (Logged.Related.lift (Account.results_addFine h m _)).bind
      fun fined fined' hfined => Logged.Related.bind_left _ fun _ => ?_
    exact .pure hfined
  · exact .pure h

/-- Giving back. -/
theorem Lending.related_giveBack (h : s.Same u) (m t d : Value) :
    Logged.Related Outcome.Same (giveBack b s m t d) (giveBack b u m t d) := by
  unfold giveBack
  refine Logged.Related.bind_left _ fun days => ?_
  split
  · exact .lift (.error _)
  · refine (Logged.Related.lift (Shelf.results_putBack h t)).bind
      fun restocked restocked' hrestocked => ?_
    refine (Logged.Related.lift (Account.results_closeLoan hrestocked m)).bind
      fun closed closed' hclosed => Logged.Related.bind_left _ fun fine => ?_
    refine (Lending.related_settle hclosed m d fine).bind
      fun settled settled' hsettled => Logged.Related.bind_left _ fun _ => ?_
    exact .lift (Outcome.results_check hsettled _ _)

/-- **One step** does the same to snapshots that are the same, whatever the kinds of its ids and
amounts. -/
theorem Step.related_apply (h : s.Same u) (step : Step) :
    Logged.Related (fun x y => x.1.Same y.1 ∧ Option.Rel Outcome.Same x.2 y.2)
      (step.apply b s) (step.apply b u) := by
  cases step with
  | checkout m t =>
      exact (Lending.related_checkout h m t).bind fun o p hop => .pure ⟨hop.state, .some hop⟩
  | giveBack m t d =>
      exact (Lending.related_giveBack h m t d).bind fun o p hop => .pure ⟨hop.state, .some hop⟩
  | pay m a => exact (Account.related_pay h m a).bind fun s' u' h' => .pure ⟨h', .none⟩
  | advance d =>
      exact (Logged.Related.lift (Shelf.results_advance h d)).bind fun s' u' h' => .pure ⟨h', .none⟩
  | report => exact .pure ⟨h, .none⟩

end

/-! ## Reports -/

/-- A report goes through the rulebook, so the order of a snapshot's entries does not show. -/
theorem Report.stateLines_eq {b : Rulebook} {s u : Snapshot} (h : s.Same u) :
    stateLines b s = stateLines b u := by
  simp only [stateLines, h.copiesOf_eq, h.loansOf_eq, h.finesOf_eq, h.day_eq]

/-- The lines of an outcome are its answer and its code. -/
theorem Report.actionLines_eq {o p : Outcome} (h : o.Same p) : actionLines o = actionLines p := by
  rw [actionLines, actionLines, h.ok, h.code]

/-! ## Runs -/

namespace Scenario

/-- Two entries of one step, with the same answer and snapshots that are the same. -/
structure Entry.Same (e f : Entry) : Prop where
  step : e.step = f.step
  state : e.state.Same f.state
  outcome : Option.Rel Outcome.Same e.outcome f.outcome

section

variable {b : Rulebook} {reporting : Bool} {e f : Entry}

/-- Entries that are the same add the same to the report. -/
theorem reportText_eq (h : e.Same f) : reportText b reporting e = reportText b reporting f := by
  obtain ⟨step, s, o⟩ := e
  obtain ⟨step', u, p⟩ := f
  obtain ⟨rfl, hstate, houtcome⟩ := h
  have htext : entryText b ⟨step, s, o⟩ = entryText b ⟨step, u, p⟩ := by
    cases houtcome with
    | some hop => simp only [entryText, Report.actionLines_eq hop]
    | none =>
        cases step with
        | report => simp only [entryText, Report.stateLines_eq hstate]
        | checkout | giveBack | pay | advance => rfl
  rw [reportText, reportText, htext]

/-- Entries that are the same are refused together and with one note. -/
theorem refusalEvents_eq (h : e.Same f) (index : Nat) :
    refusalEvents index e = refusalEvents index f := by
  obtain ⟨step, s, o⟩ := e
  obtain ⟨step', u, p⟩ := f
  obtain ⟨rfl, -, houtcome⟩ := h
  cases houtcome with
  | some hop => simp only [refusalEvents, hop.ok, hop.code]
  | none => rfl

end

/-- Two runs with entries that are the same one by one, and the same report, log and fault. -/
structure Run.Same (r q : Run) : Prop where
  entries : List.Forall₂ Entry.Same r.entries q.entries
  report : r.report = q.report
  log : r.log = q.log
  fault : r.fault = q.fault

/-- Runs from snapshots that are the same. -/
theorem same_runFrom (b : Rulebook) (reporting : Bool) {s u : Snapshot} (h : s.Same u) (index : Nat)
    (steps : List Step) :
    (runFrom b reporting index s steps).Same (runFrom b reporting index u steps) := by
  induction steps generalizing index s u with
  | nil => exact ⟨.nil, rfl, rfl, rfl⟩
  | cons step rest ih =>
      obtain ⟨hlog, hresult⟩ := Step.related_apply (b := b) h step
      rw [runFrom, runFrom]
      generalize step.apply b s = x at hlog hresult
      generalize step.apply b u = y at hlog hresult
      obtain ⟨log, x⟩ := x
      obtain ⟨log', y⟩ := y
      obtain rfl : log = log' := hlog
      cases hresult with
      | error e => exact ⟨.nil, rfl, rfl, rfl⟩
      | @ok x y hxy =>
          obtain ⟨s', o⟩ := x
          obtain ⟨u', p⟩ := y
          have hentry : Entry.Same ⟨step, s', o⟩ ⟨step, u', p⟩ := ⟨rfl, hxy.1, hxy.2⟩
          obtain ⟨hentries, hreport, hlog, hfault⟩ := ih hxy.1 (index + 1)
          simp only [reportText_eq hentry, refusalEvents_eq hentry]
          cases reportText b reporting ⟨step, u', p⟩ with
          | error e => exact ⟨.cons hentry .nil, rfl, rfl, rfl⟩
          | ok text =>
              refine ⟨.cons hentry hentries, ?_, ?_, hfault⟩
              · exact congrArg (text ++ ·) hreport
              · exact congrArg (log ++ refusalEvents index ⟨step, u', p⟩ ++ ·) hlog

/-- Runs that are the same end in snapshots that are the same. -/
theorem same_stateAfter {s u : Snapshot} {entries entries' : List Entry}
    (h : List.Forall₂ Entry.Same entries entries') (hsu : s.Same u) :
    (stateAfter s entries).Same (stateAfter u entries') := by
  induction h generalizing s u with
  | nil => exact hsu
  | cons hentry hrest ih => exact ih hentry.state

/-- Runs that are the same have as many refusals. -/
theorem Run.Same.refusals_length {r q : Run} (h : r.Same q) :
    r.refusals.length = q.refusals.length := by
  have houtcomes : List.Forall₂ Outcome.Same r.outcomes q.outcomes :=
    List.rel_filterMap (fun _ _ hentry => hentry.outcome) h.entries
  have hrefusals : List.Forall₂ Outcome.Same r.refusals q.refusals := by
    refine List.rel_filter ?_ houtcomes
    intro o p hop
    simp only [hop.ok]
  exact hrefusals.length_eq

/-- Runs that are the same end with one note. -/
theorem finishEvents_eq {s u : Snapshot} {r q : Run} (h : r.Same q) (hsu : s.Same u) :
    finishEvents s r = finishEvents u q := by
  have hday : (r.final s).day = (q.final u).day := by
    rw [Run.final_eq, Run.final_eq]
    exact (same_stateAfter h.entries hsu).day_eq
  rw [finishEvents, finishEvents, h.fault, h.entries.length_eq, h.refusals_length, hday]

/-- **The order of entries does not show.**  Whatever the steps, runs from two snapshots that are the
same have entries that are the same one by one, and one fault if they stop; their reports and their
logs are equal. -/
theorem run_order_unobservable (b : Rulebook) (reporting : Bool) (s u : Snapshot)
    (steps : List Step) (h : s.same u = true) :
    let r := run b reporting s steps
    let q := run b reporting u steps
    List.Forall₂ Entry.Same r.entries q.entries ∧ r.fault = q.fault ∧ r.report = q.report ∧
      r.log = q.log := by
  intro r q
  have hsame := same_runFrom b reporting h 0 steps
  refine ⟨hsame.entries, hsame.fault, hsame.report, ?_⟩
  exact congrArg₂ (· ++ ·) hsame.log (finishEvents_eq hsame h)

/-- The first day of the reference library with every tally entered backwards. -/
def backwardOpening : Snapshot where
  day := 1
  copies := ⟨[(3, 1), (2, 2), (1, 3)], by decide⟩
  loans := ⟨[(2, 0), (1, 0)], by decide⟩
  fines := ⟨[(1, 0), (2, 0)], by decide⟩
  sameClasses := Snapshot.mem_iff_of_covers (by decide)

/-- A late return whose fine is paid twice over, two requests for the last copy of a title, and one
for a title that is not there, between two reports. -/
def assortedSteps : List Step :=
  [.report, .checkout (.int 2) (.int 3), .checkout (.int 1) (.int 3), .advance (.int 4),
    .giveBack (.int 2) (.int 3) (.int 2), .pay (.int 2) (.int 200), .report,
    .checkout (.int 1) (.int 9), .report]

/-- These steps from both openings. -/
theorem run_order_unobservable_assortedSteps :
    let b := Rulebook.reference
    let s := Shelf.opening b
    let r := run b true s assortedSteps
    let q := run b true backwardOpening assortedSteps
    s.same backwardOpening = true ∧ s.copies ≠ backwardOpening.copies ∧
    r.outcomes.map Outcome.code = [0, 203, 1002] ∧ r.fault = some (.unknownTitle (.int 9)) ∧
    List.Forall₂ Entry.Same r.entries q.entries ∧ r.fault = q.fault ∧ r.report = q.report ∧
      r.log = q.log := by
  intro b s r q
  have hsame : s.same backwardOpening = true := by decide
  refine ⟨hsame, by decide, by cbv, by cbv, ?_⟩
  exact run_order_unobservable b true s backwardOpening assortedSteps hsame

end Scenario

end Circulation
