import Circulation.Proofs.Decisions
import Circulation.Scenario
/-!
# Runs of steps with integer fields

A step with integer fields completes in one of six ways, and a run is a chain of completed steps.
Everything that holds along runs is proved for one completed step first, and then by induction over
the chain.

The key constructions are

* `Step.Whole` : a step whose ids and amounts are integers;
* `Completes` : what a completed step did;
* `Follows` : entries that follow one another from a snapshot;
* `stateAfter`, `found` : the snapshot after some entries, and the entries with the snapshots that
  they found.

The main facts are

* `apply_result_iff` : the steps that complete are exactly those, and in no other way;
* `runFrom_cons_cases` : the three ways in which a run with a first step begins;
* `follows_run`, `steps_of_finished` : the entries of a run follow one another, and those of a
  finished run are one for each step;
* `runFrom_of_follows` : entries that follow one another are the run of their steps.
-/

namespace Circulation

/-! ## Completed steps -/

/-- A step whose ids and amounts are integers. -/
inductive Step.Whole : Step → Prop
  | checkout (m t : Int) : Whole (.checkout (.int m) (.int t))
  | giveBack (m t d : Int) : Whole (.giveBack (.int m) (.int t) (.int d))
  | pay (m a : Int) : Whole (.pay (.int m) (.int a))
  | advance (d : Int) : Whole (.advance (.int d))
  | report : Whole .report

/-- Whether a value is an integer; truth values are none. -/
def Value.isInt : Value → Bool
  | .int _ => true
  | _ => false

/-- A value is an integer exactly when it is one of them. -/
theorem Value.isInt_iff {v : Value} : v.isInt = true ↔ ∃ n, v = .int n := by
  constructor
  · intro h
    cases v with
    | int n => exact ⟨n, rfl⟩
    | null | bool | float | text | list | mapping => cases h
  · rintro ⟨n, rfl⟩
    rfl

namespace Step

/-- Whether the ids and amounts of a step are integers. -/
def isWhole : Step → Bool
  | .checkout m t => m.isInt && t.isInt
  | .giveBack m t d => m.isInt && t.isInt && d.isInt
  | .pay m a => m.isInt && a.isInt
  | .advance d => d.isInt
  | .report => true

/-- The check finds exactly the steps with integer fields. -/
theorem isWhole_iff {step : Step} : step.isWhole = true ↔ step.Whole := by
  constructor
  · intro h
    cases step with
    | checkout m t =>
        rw [isWhole, Bool.and_eq_true, Value.isInt_iff, Value.isInt_iff] at h
        obtain ⟨⟨m, rfl⟩, t, rfl⟩ := h
        exact .checkout m t
    | giveBack m t d =>
        rw [isWhole, Bool.and_eq_true, Bool.and_eq_true, Value.isInt_iff, Value.isInt_iff,
          Value.isInt_iff] at h
        obtain ⟨⟨⟨m, rfl⟩, t, rfl⟩, d, rfl⟩ := h
        exact .giveBack m t d
    | pay m a =>
        rw [isWhole, Bool.and_eq_true, Value.isInt_iff, Value.isInt_iff] at h
        obtain ⟨⟨m, rfl⟩, a, rfl⟩ := h
        exact .pay m a
    | advance d =>
        obtain ⟨d, rfl⟩ := Value.isInt_iff.1 h
        exact .advance d
    | report => exact .report
  · intro h
    cases h <;> rfl

instance : DecidablePred Whole := fun _ => decidable_of_iff _ isWhole_iff

/-- The title that a checkout or return is about. -/
def titleId? : Step → Option Int
  | .checkout _ t => t.integer?
  | .giveBack _ t _ => t.integer?
  | _ => none

/-- The member class that a checkout, return or payment is about. -/
def classId? : Step → Option Int
  | .checkout m _ => m.integer?
  | .giveBack m _ _ => m.integer?
  | .pay m _ => m.integer?
  | _ => none

end Step

namespace Scenario

open Desk

/-- A step with integer fields completes from `s`, and this is its entry. -/
inductive Completes (b : Rulebook) (s : Snapshot) : Entry → Prop
  | granted {m t : Int} {loans copies : Nat} (eligible : MayBorrow b s m)
      (loans_eq : s.loans.get? m = some loans) (copies_eq : s.copies.get? t = some copies)
      (pos : 0 < copies) :
      Completes b s ⟨.checkout (.int m) (.int t), lent s m t loans copies,
        some (.success (lent s m t loans copies))⟩
  | refused {m t code : Int} (why : Refuses b s m t code) :
      Completes b s ⟨.checkout (.int m) (.int t), s, some (refusal s code why.code_ne)⟩
  | returned {m t d : Int} {loans copies fines : Nat} (days : 0 ≤ d)
      (copies_eq : s.copies.get? t = some copies) (loans_eq : s.loans.get? m = some loans)
      (fines_eq : s.fines.get? m = some fines) :
      Completes b s ⟨.giveBack (.int m) (.int t) (.int d),
        givenBack s m t loans copies fines (d.toNat * b.lateFee),
        some (accepted (givenBack s m t loans copies fines (d.toNat * b.lateFee))
          (d + Code.returnBase))⟩
  | paid {m a : Int} {fines : Nat} (amount : 0 ≤ a) (fines_eq : s.fines.get? m = some fines) :
      Completes b s ⟨.pay (.int m) (.int a), s.setFines m (fines - a.toNat), none⟩
  | waited {d : Int} (days : 0 ≤ d) :
      Completes b s ⟨.advance (.int d), { s with day := s.day + d.toNat }, none⟩
  | reported : Completes b s ⟨.report, s, none⟩

section

variable {b : Rulebook} {s s' : Snapshot} {step : Step} {o : Option Outcome}

/-- What completes is the result of the step. -/
theorem apply_of_completes {e : Entry} (h : Completes b s e) :
    (e.step.apply b s).result = .ok (e.state, e.outcome) := by
  cases h with
  | granted he hl hc hpos =>
      simp [Step.apply, checkout_of_granted he hl hc hpos, Outcome.success]
  | refused why => simp [Step.apply, checkout_of_refuses why]
  | returned hd hc hl hf => simp [Step.apply, giveBack_of_known hd hc hl hf, accepted]
  | paid ha hf => simp [Step.apply, pay_of_known ha hf]
  | waited hd => simp [Step.apply, advance_of_nonneg hd]
  | reported => simp [Step.apply]

/-- A checkout with a result is granted or refused. -/
theorem completes_of_checkout {m t : Int}
    (h : ((Step.checkout (.int m) (.int t)).apply b s).result = .ok (s', o)) :
    Completes b s ⟨.checkout (.int m) (.int t), s', o⟩ := by
  rcases checkout_cases b s m t with hunk | ⟨code, why⟩ | ⟨he, hc⟩ | ⟨he, hc, hcode⟩ |
    ⟨he, loans, copies, hl, hc, hpos⟩
  · simp [Step.apply, checkout_of_unknown_class hunk] at h
  · cases (apply_of_completes (.refused why)).symm.trans h
    exact .refused why
  · simp [Step.apply, checkout_of_unknown_title he hc] at h
  · simp [Step.apply, checkout_of_silent he hc hcode] at h
  · cases (apply_of_completes (.granted he hl hc hpos)).symm.trans h
    exact .granted he hl hc hpos

/-- A return with a result is accepted. -/
theorem completes_of_giveBack {m t d : Int}
    (h : ((Step.giveBack (.int m) (.int t) (.int d)).apply b s).result = .ok (s', o)) :
    Completes b s ⟨.giveBack (.int m) (.int t) (.int d), s', o⟩ := by
  by_cases hd : d < 0
  · simp [Step.apply, giveBack_of_negative hd] at h
  rw [Int.not_lt] at hd
  cases hc : s.copies.get? t with
  | none => simp [Step.apply, giveBack_of_unknown_title hd hc] at h
  | some copies =>
      cases hl : s.loans.get? m with
      | none => simp [Step.apply, giveBack_of_unknown_class hd hc hl] at h
      | some loans =>
          obtain ⟨fines, hf⟩ := Snapshot.exists_fines_of_loans hl
          cases (apply_of_completes (.returned hd hc hl hf)).symm.trans h
          exact .returned hd hc hl hf

/-- A payment with a result lowers the fines. -/
theorem completes_of_pay {m a : Int}
    (h : ((Step.pay (.int m) (.int a)).apply b s).result = .ok (s', o)) :
    Completes b s ⟨.pay (.int m) (.int a), s', o⟩ := by
  by_cases ha : a < 0
  · simp [Step.apply, pay_of_negative ha] at h
  rw [Int.not_lt] at ha
  cases hf : s.fines.get? m with
  | none => simp [Step.apply, pay_of_unknown ha hf] at h
  | some fines =>
      cases (apply_of_completes (.paid ha hf)).symm.trans h
      exact .paid ha hf

/-- Days that pass are not fewer than none. -/
theorem completes_of_advance {d : Int}
    (h : ((Step.advance (.int d)).apply b s).result = .ok (s', o)) :
    Completes b s ⟨.advance (.int d), s', o⟩ := by
  by_cases hd : d < 0
  · simp [Step.apply, advance_of_negative hd] at h
  rw [Int.not_lt] at hd
  cases (apply_of_completes (.waited hd)).symm.trans h
  exact .waited hd

/-- **Completed steps.**  The results of steps with integer fields are exactly those listed by
`Completes`. -/
theorem apply_result_iff (hw : step.Whole) :
    (step.apply b s).result = .ok (s', o) ↔ Completes b s ⟨step, s', o⟩ := by
  constructor
  · intro h
    cases hw with
    | checkout m t => exact completes_of_checkout h
    | giveBack m t d => exact completes_of_giveBack h
    | pay m a => exact completes_of_pay h
    | advance d => exact completes_of_advance h
    | report =>
        cases (apply_of_completes .reported).symm.trans h
        exact .reported
  · exact apply_of_completes

end

/-! ## Chains of completed steps -/

/-- Entries that follow one another from a snapshot. -/
inductive Follows (b : Rulebook) : Snapshot → List Entry → Prop
  | nil (s : Snapshot) : Follows b s []
  | cons {s : Snapshot} {e : Entry} {rest : List Entry}
      (first : Completes b s e) (next : Follows b e.state rest) : Follows b s (e :: rest)

/-- The snapshot after some entries. -/
def stateAfter (s : Snapshot) : List Entry → Snapshot
  | [] => s
  | e :: rest => stateAfter e.state rest

/-- The entries, each with the snapshot that it found. -/
def found (s : Snapshot) : List Entry → List (Snapshot × Entry)
  | [] => []
  | e :: rest => (s, e) :: found e.state rest

@[simp] theorem stateAfter_nil (s : Snapshot) : stateAfter s [] = s := rfl

@[simp] theorem stateAfter_cons (s : Snapshot) (e : Entry) (rest : List Entry) :
    stateAfter s (e :: rest) = stateAfter e.state rest := rfl

@[simp] theorem found_nil (s : Snapshot) : found s [] = [] := rfl

@[simp] theorem found_cons (s : Snapshot) (e : Entry) (rest : List Entry) :
    found s (e :: rest) = (s, e) :: found e.state rest := rfl

/-- The last snapshot of a run that has a first entry. -/
theorem Run.final_cons (s : Snapshot) (e : Entry) (r : Run) :
    { r with entries := e :: r.entries }.final s = r.final e.state := by
  unfold Run.final
  rw [List.getLast?_cons]
  cases r.entries.getLast? <;> rfl

/-- The last snapshot of a run is the one after its entries. -/
theorem Run.final_eq (s : Snapshot) (r : Run) : r.final s = stateAfter s r.entries := by
  have hgen : ∀ (entries : List Entry) (s : Snapshot),
      { r with entries := entries }.final s = stateAfter s entries := by
    intro entries
    induction entries with
    | nil =>
        intro s
        rfl
    | cons e rest ih =>
        intro s
        rw [stateAfter_cons, ← ih e.state]
        exact Run.final_cons s e { r with entries := rest }
  exact hgen r.entries s

/-! ## The entries of a run -/

section

variable {b : Rulebook} {reporting : Bool} {s : Snapshot} {steps : List Step}

/-- **One step.**  A first step fails, or it completes and its report fails, or both are done and the
rest of the run follows. -/
theorem runFrom_cons_cases (b : Rulebook) (reporting : Bool) (s : Snapshot) (step : Step) :
    (∃ f, (step.apply b s).result = .error f ∧ ∀ index rest,
      runFrom b reporting index s (step :: rest) = .failed (step.apply b s).log f) ∨
    (∃ e f, e.step = step ∧ (e.step.apply b s).result = .ok (e.state, e.outcome) ∧
      reportText b reporting e = .error f ∧ ∀ index rest,
      runFrom b reporting index s (step :: rest) =
        ⟨[e], "", (e.step.apply b s).log ++ refusalEvents index e, some f⟩) ∨
    ∃ e text, e.step = step ∧ (e.step.apply b s).result = .ok (e.state, e.outcome) ∧
      reportText b reporting e = .ok text ∧ ∀ index rest,
      runFrom b reporting index s (step :: rest) =
        .cons e text ((e.step.apply b s).log ++ refusalEvents index e)
          (runFrom b reporting (index + 1) e.state rest) := by
  cases happly : (step.apply b s).result with
  | error f =>
      refine .inl ⟨f, rfl, fun index rest => ?_⟩
      rw [runFrom, happly]
  | ok after =>
      obtain ⟨s', outcome⟩ := after
      cases htext : reportText b reporting ⟨step, s', outcome⟩ with
      | error f =>
          refine .inr (.inl ⟨⟨step, s', outcome⟩, f, rfl, happly, htext, fun index rest => ?_⟩)
          rw [runFrom, happly]
          simp only [htext]
      | ok text =>
          refine .inr (.inr ⟨⟨step, s', outcome⟩, text, rfl, happly, htext, fun index rest => ?_⟩)
          rw [runFrom, happly]
          simp only [htext]

/-- The entries of a run follow one another, whether it finishes or not. -/
theorem follows_runFrom (index : Nat) (hw : ∀ step ∈ steps, step.Whole) :
    Follows b s (runFrom b reporting index s steps).entries := by
  induction steps generalizing index s with
  | nil => exact .nil s
  | cons step rest ih =>
      have hstep := hw step List.mem_cons_self
      rcases runFrom_cons_cases b reporting s step with ⟨f, -, hrun⟩ |
        ⟨e, f, rfl, happly, -, hrun⟩ | ⟨e, text, rfl, happly, -, hrun⟩
      · rw [hrun]
        exact .nil s
      · -- A report that fails comes after the step: its entry is there, and the last one.
        rw [hrun]
        exact .cons ((apply_result_iff hstep).1 happly) (.nil e.state)
      · rw [hrun]
        exact .cons ((apply_result_iff hstep).1 happly)
          (ih (index + 1) fun x hx => hw x (List.mem_cons_of_mem _ hx))

/-- A finished run has one entry for each step. -/
theorem steps_of_runFrom (index : Nat) (h : (runFrom b reporting index s steps).fault = none) :
    (runFrom b reporting index s steps).entries.map Entry.step = steps := by
  induction steps generalizing index s with
  | nil => rfl
  | cons step rest ih =>
      rcases runFrom_cons_cases b reporting s step with ⟨f, -, hrun⟩ | ⟨e, f, -, -, -, hrun⟩ |
        ⟨e, text, rfl, -, -, hrun⟩
      · rw [hrun] at h
        cases h
      · rw [hrun] at h
        cases h
      · rw [hrun] at h ⊢
        exact congrArg (e.step :: ·) (ih (index + 1) h)

/-- The entries of a run follow one another. -/
theorem follows_run (hw : ∀ step ∈ steps, step.Whole) :
    Follows b s (run b reporting s steps).entries :=
  follows_runFrom 0 hw

/-- A finished run has one entry for each step. -/
theorem steps_of_finished (h : (run b reporting s steps).fault = none) :
    (run b reporting s steps).entries.map Entry.step = steps :=
  steps_of_runFrom 0 h

end

/-- Entries that follow one another are the run of their steps, when nothing is reported. -/
theorem runFrom_of_follows {b : Rulebook} {s : Snapshot} {entries : List Entry} (index : Nat)
    (h : Follows b s entries) :
    (runFrom b false index s (entries.map Entry.step)).entries = entries ∧
      (runFrom b false index s (entries.map Entry.step)).fault = none := by
  induction h generalizing index with
  | nil s => exact ⟨rfl, rfl⟩
  | cons first _ ih =>
      have happly := apply_of_completes first
      obtain ⟨hentries, hfault⟩ := ih (index + 1)
      rw [List.map_cons, runFrom]
      simp [happly, reportText, Run.cons, hentries, hfault]

end Scenario

end Circulation
