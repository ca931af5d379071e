import Circulation.Proofs.Composition
/-!
# The log audits the run

Whoever reads the log of a run learns what its entries say.  Each refused entry has its warning, with
the number of the step, the step and the outcome in words; each checkout or return has its decision,
accepted or rejected; a step that fails leaves no trace; and a last note counts the entries and the
refusals when the run finishes, and only then.  This holds from any snapshot, with a report or without
one.

The key constructions are

* `Event.isAt` : the events of one level and one source;
* `Warns`, `Settles` : what a warning and a decision say about an entry;
* `notes`, `trail` : what a completed step notes, and what some entries note one after another.

The main facts are

* `apply_log_of_error` : a step with integer fields that fails notes nothing;
* `notes_of_completes` : what a completed step notes, apart from details;
* `log_runFrom` : the log of a run is the trail of its entries;
* `forall₂_trail` : records that match entry by entry match along the trail;
* `run_log_audits` : the records of a run.
-/

namespace Circulation

/-! ## Records -/

/-- Whether an event has that level and that source. -/
def Event.isAt (level : Level) (source : Source) (e : Event) : Bool :=
  decide (e.level = level ∧ e.source = source)

/-- An outcome in words, with its code. -/
def Outcome.worded (o : Outcome) : String := o.describe ++ " (code " ++ toString o.code ++ ")"

/-- The words for how a request was settled. -/
def Outcome.decision (o : Outcome) : String :=
  if o.ok then " ACCEPTED" else " REJECTED: " ++ o.worded

/-- The words of a checkout or a return; other steps ask for nothing that could be refused. -/
def Step.request? : Step → Option String
  | .checkout m t => some ("Checkout " ++ Event.requestText m t)
  | .giveBack m t d => some ("Return " ++ Event.requestText m t ++ " late_days=" ++ d.display)
  | _ => none

namespace Scenario

open Desk

/-- Whether an entry is one of a refused step. -/
def Entry.isRefused (e : Entry) : Bool := e.outcome.any fun o => !o.ok

/-- Whether an entry is one of a checkout or a return. -/
def Entry.isRequest (e : Entry) : Bool := e.step.request?.isSome

/-- The record warns of the numbered entry: it names the number, the step and the outcome. -/
def Warns (e : Entry × Nat) (record : Event) : Prop :=
  ∃ o, e.1.outcome = some o ∧ record.message =
    "Step " ++ toString e.2 ++ " " ++ e.1.step.inspect ++ " refused: " ++ o.worded

/-- The record says how the request of the entry was settled. -/
def Settles (e : Entry) (record : Event) : Prop :=
  ∃ request o, e.step.request? = some request ∧ e.outcome = some o ∧
    record.message = request ++ o.decision

/-! ## Steps -/

section

variable {b : Rulebook} {s : Snapshot}

/-- A checkout that fails notes nothing. -/
theorem checkout_log_of_error {m t : Int} {f : Fault}
    (h : ((Step.checkout (.int m) (.int t)).apply b s).result = .error f) :
    ((Step.checkout (.int m) (.int t)).apply b s).log = [] := by
  rcases checkout_cases b s m t with hunknown | ⟨code, why⟩ | ⟨he, hc⟩ | ⟨he, hc, hcode⟩ |
    ⟨he, loans, copies, hl, hc, hpos⟩
  · simp [Step.apply, checkout_of_unknown_class hunknown]
  · cases h.symm.trans (apply_of_completes (.refused why))
  · simp [Step.apply, checkout_of_unknown_title he hc]
  · simp [Step.apply, checkout_of_silent he hc hcode]
  · cases h.symm.trans (apply_of_completes (.granted he hl hc hpos))

/-- A return that fails notes nothing. -/
theorem giveBack_log_of_error {m t d : Int} {f : Fault}
    (h : ((Step.giveBack (.int m) (.int t) (.int d)).apply b s).result = .error f) :
    ((Step.giveBack (.int m) (.int t) (.int d)).apply b s).log = [] := by
  by_cases hd : d < 0
  · simp [Step.apply, giveBack_of_negative hd]
  rw [Int.not_lt] at hd
  cases hc : s.copies.get? t with
  | none => simp [Step.apply, giveBack_of_unknown_title hd hc]
  | some copies =>
      cases hl : s.loans.get? m with
      | none => simp [Step.apply, giveBack_of_unknown_class hd hc hl]
      | some loans =>
          obtain ⟨fines, hf⟩ := Snapshot.exists_fines_of_loans hl
          cases h.symm.trans (apply_of_completes (.returned hd hc hl hf))

/-- A payment that fails notes nothing. -/
theorem pay_log_of_error {m a : Int} {f : Fault}
    (h : ((Step.pay (.int m) (.int a)).apply b s).result = .error f) :
    ((Step.pay (.int m) (.int a)).apply b s).log = [] := by
  by_cases ha : a < 0
  · simp [Step.apply, pay_of_negative ha]
  rw [Int.not_lt] at ha
  cases hf : s.fines.get? m with
  | none => simp [Step.apply, pay_of_unknown ha hf]
  | some fines => cases h.symm.trans (apply_of_completes (.paid ha hf))

/-- **Steps that fail.**  A step with integer fields that fails notes nothing at all. -/
theorem apply_log_of_error {step : Step} (hw : step.Whole) {f : Fault}
    (h : (step.apply b s).result = .error f) : (step.apply b s).log = [] := by
  cases hw with
  | checkout m t => exact checkout_log_of_error h
  | giveBack m t d => exact giveBack_log_of_error h
  | pay m a => exact pay_log_of_error h
  | advance d =>
      by_cases hd : d < 0
      · simp [Step.apply, advance_of_negative hd]
      · simp [Step.apply, advance_of_nonneg (Int.not_lt.1 hd)]
  | report => rfl

/-- What a completed step with that number notes: its own events, then its refusal. -/
def notes (b : Rulebook) (index : Nat) (s : Snapshot) (e : Entry) : List Event :=
  (e.step.apply b s).log ++ refusalEvents index e

/-- The decision on a checkout or a return. -/
def decisionEvents (e : Entry) : List Event :=
  match e.step, e.outcome with
  | .checkout m t, some o =>
    [if o.ok then .checkoutAccepted m t else .checkoutRejected m t o.code]
  | .giveBack m t d, some _ => [.returnAccepted m t d]
  | _, _ => []

/-- Before a refused checkout is rejected, at most a detail is noted. -/
theorem level_barredEvents {m t code : Int} (h : Refuses b s m t code) :
    ∀ e ∈ barredEvents b s m, e.level = .debug := by
  cases h with
  | loanLimit hst hl => simp [barredEvents, eligibility_of_loanLimit hst hl, Event.level]
  | fineCeiling hst hl hf =>
      simp [barredEvents, eligibility_of_fineCeiling hst hl hf, Event.level]
  | unavailable he _ _ => simp [barredEvents, eligibility_of_mayBorrow he]

/-- **Completed steps.**  A completed step notes details, then its decision if it has one, then its
refusal if it was refused. -/
theorem notes_of_completes {e : Entry} (h : Completes b s e) (index : Nat) :
    ∃ details, (∀ d ∈ details, d.level = .debug) ∧
      notes b index s e = details ++ decisionEvents e ++ refusalEvents index e := by
  cases h with
  | @granted m t loans copies eligible loans_eq copies_eq pos =>
      refine ⟨[.copyTaken (.int t)], by simp [Event.level], ?_⟩
      simp [notes, Step.apply, checkout_of_granted eligible loans_eq copies_eq pos, decisionEvents,
        Outcome.success]
  | @refused m t code why =>
      refine ⟨barredEvents b s m, level_barredEvents why, ?_⟩
      simp [notes, Step.apply, checkout_of_refuses why, decisionEvents]
  | @returned m t d loans copies fines days copies_eq loans_eq fines_eq =>
      refine ⟨finedEvents m d (d * b.lateFee), ?_, ?_⟩
      · unfold finedEvents
        split <;> simp [Event.level]
      · simp [notes, Step.apply, giveBack_of_known days copies_eq loans_eq fines_eq,
          decisionEvents]
  | @paid m a fines amount fines_eq =>
      refine ⟨overpaidEvents m a fines, ?_, ?_⟩
      · unfold overpaidEvents
        split <;> simp [Event.level]
      · simp [notes, Step.apply, pay_of_known amount fines_eq, decisionEvents]
  | waited days =>
      exact ⟨[], by simp, by simp [notes, Step.apply, advance_of_nonneg days, decisionEvents]⟩
  | reported => exact ⟨[], by simp, by simp [notes, Step.apply, decisionEvents]⟩

/-- Apart from details, a completed step notes its decision and its refusal. -/
theorem filter_notes {e : Entry} (h : Completes b s e) (index : Nat) (level : Level)
    (source : Source) (hlevel : level ≠ .debug) :
    (notes b index s e).filter (Event.isAt level source) =
      (decisionEvents e ++ refusalEvents index e).filter (Event.isAt level source) := by
  obtain ⟨details, hdetails, hnotes⟩ := notes_of_completes h index
  have hnone : details.filter (Event.isAt level source) = [] := by
    rw [List.filter_eq_nil_iff]
    intro d hd hat
    have hdebug := hdetails d hd
    rw [(of_decide_eq_true hat).1] at hdebug
    exact hlevel hdebug
  rw [hnotes, List.append_assoc, List.filter_append, hnone, List.nil_append]

/-- The warnings of a completed step: one if it was refused. -/
theorem warns_of_completes {e : Entry} (h : Completes b s e) (index : Nat) :
    List.Forall₂ Warns ([(e, index)].filter fun p => p.1.isRefused)
      ((notes b index s e).filter (Event.isAt .warning .scenario)) := by
  rw [filter_notes h index .warning .scenario nofun]
  cases h with
  | @refused m t code why => exact .cons ⟨_, rfl, rfl⟩ .nil
  | granted | returned | paid | waited | reported => exact .nil

/-- The decisions of a completed step: one if it was a checkout or a return. -/
theorem settles_of_completes {e : Entry} (h : Completes b s e) (index : Nat) :
    List.Forall₂ (fun p => Settles p.1) ([(e, index)].filter fun p => p.1.isRequest)
      ((notes b index s e).filter (Event.isAt .info .circulation)) := by
  rw [filter_notes h index .info .circulation nofun]
  cases h with
  | granted | returned => exact .cons ⟨_, _, rfl, rfl, rfl⟩ .nil
  | refused why => exact .cons ⟨_, _, rfl, rfl, String.append_assoc⟩ .nil
  | paid | waited | reported => exact .nil

/-- A completed step makes no note of the end. -/
theorem filter_notes_of_completes {e : Entry} (h : Completes b s e) (index : Nat) :
    (notes b index s e).filter (Event.isAt .info .scenario) = [] := by
  rw [filter_notes h index .info .scenario nofun]
  cases h with
  | granted | refused | returned | paid | waited | reported => rfl

/-! ## Trails -/

/-- What some entries note, one after another. -/
def trail (b : Rulebook) (index : Nat) (s : Snapshot) : List Entry → List Event
  | [] => []
  | e :: rest => notes b index s e ++ trail b (index + 1) e.state rest

/-- **Trails.**  Records of one kind that match the entries of one kind step by step match them along
the whole trail. -/
theorem forall₂_trail {R : Entry × Nat → Event → Prop} {p : Entry × Nat → Bool} {q : Event → Bool}
    (hstep : ∀ {s : Snapshot} {e : Entry}, Completes b s e → ∀ index,
      List.Forall₂ R ([(e, index)].filter p) ((notes b index s e).filter q))
    {entries : List Entry} (h : Follows b s entries) (index : Nat) :
    List.Forall₂ R ((entries.zipIdx index).filter p) ((trail b index s entries).filter q) := by
  induction h generalizing index with
  | nil s => exact .nil
  | @cons s e rest first next ih =>
      have hsplit : (e :: rest).zipIdx index = [(e, index)] ++ rest.zipIdx (index + 1) :=
        List.zipIdx_cons
      rw [hsplit, trail, List.filter_append, List.filter_append]
      exact List.rel_append (hstep first index) (ih (index + 1))

/-- The decisions along a trail; they do not name the numbers of their steps. -/
theorem settles_of_follows {entries : List Entry} (h : Follows b s entries) (index : Nat) :
    List.Forall₂ Settles (entries.filter Entry.isRequest)
      ((trail b index s entries).filter (Event.isAt .info .circulation)) := by
  -- `forall₂_trail` speaks of numbered entries, so the numbers are dropped afterwards.
  have hnumbered := List.forall₂_map_left_iff.2 (forall₂_trail settles_of_completes h index)
  have hplain : entries.filter Entry.isRequest =
      ((entries.zipIdx index).filter fun p => p.1.isRequest).map Prod.fst := by
    rw [← List.zipIdx_map_fst index entries, List.filter_map, List.zipIdx_map_fst]
    rfl
  rwa [hplain]

/-- The entries of a run make no note of its end. -/
theorem filter_trail {entries : List Entry} (h : Follows b s entries) (index : Nat) :
    (trail b index s entries).filter (Event.isAt .info .scenario) = [] := by
  induction h generalizing index with
  | nil s => rfl
  | cons first next ih =>
      rw [trail, List.filter_append, filter_notes_of_completes first, ih]
      rfl

/-! ## Runs -/

variable {reporting : Bool} {steps : List Step}

/-- The log of a run is the trail of its entries: a step that fails adds nothing to it. -/
theorem log_runFrom (index : Nat) (hw : ∀ step ∈ steps, step.Whole) :
    (runFrom b reporting index s steps).log =
      trail b index s (runFrom b reporting index s steps).entries := by
  induction steps generalizing index s with
  | nil => rfl
  | cons step rest ih =>
      rcases runFrom_cons_cases b reporting s step with ⟨f, happly, hrun⟩ |
        ⟨e, f, -, -, -, hrun⟩ | ⟨e, text, -, -, -, hrun⟩
      · rw [hrun]
        exact apply_log_of_error (hw step List.mem_cons_self) happly
      · rw [hrun]
        exact (List.append_nil _).symm
      · have hrest := ih (s := e.state) (index + 1) fun x hx => hw x (List.mem_cons_of_mem _ hx)
        rw [hrun]
        exact congrArg (notes b index s e ++ ·) hrest

/-- The entries of a run are those of its first steps. -/
theorem steps_prefix_runFrom (index : Nat) :
    (runFrom b reporting index s steps).entries.map Entry.step <+: steps := by
  induction steps generalizing index s with
  | nil => exact List.prefix_refl []
  | cons step rest ih =>
      rcases runFrom_cons_cases b reporting s step with ⟨f, -, hrun⟩ |
        ⟨e, f, rfl, -, -, hrun⟩ | ⟨e, text, rfl, -, -, hrun⟩
      · rw [hrun]
        exact List.nil_prefix
      · rw [hrun]
        exact ⟨rest, rfl⟩
      · rw [hrun]
        exact List.cons_prefix_cons.2 ⟨rfl, ih (index + 1)⟩

/-- Only the report of a snapshot can fail, and a step that reports one has no outcome. -/
theorem report_of_reportText_error {e : Entry} {f : Fault}
    (h : reportText b reporting e = .error f) : e.step = .report ∧ e.outcome = none := by
  obtain ⟨step, s, outcome⟩ := e
  cases reporting with
  | false => cases h
  | true =>
      cases outcome with
      | some o => cases h
      | none =>
          cases step with
          | report => exact ⟨rfl, rfl⟩
          | checkout | giveBack | pay | advance => cases h

/-- A single step that fails, or whose report fails, notes nothing. -/
theorem log_of_single_fault {index : Nat} {step : Step} {f : Fault} (hw : step.Whole)
    (h : (runFrom b reporting index s [step]).fault = some f) :
    (runFrom b reporting index s [step]).log = [] := by
  rcases runFrom_cons_cases b reporting s step with ⟨e, happly, hrun⟩ |
    ⟨e, f', rfl, -, htext, hrun⟩ | ⟨e, text, -, -, -, hrun⟩
  · rw [hrun]
    exact apply_log_of_error hw happly
  · -- The step itself was done, but it was one that notes nothing and has no outcome.
    obtain ⟨hstep, hnone⟩ := report_of_reportText_error htext
    rw [hrun, hstep, refusalEvents, hnone]
    rfl
  · rw [hrun] at h
    cases h

/-- The log of a scenario is the trail of its entries, then the note of its end. -/
theorem log_run (hw : ∀ step ∈ steps, step.Whole) : (run b reporting s steps).log =
    trail b 0 s (run b reporting s steps).entries ++ finishEvents s (run b reporting s steps) :=
  congrArg (· ++ finishEvents s (run b reporting s steps)) (log_runFrom 0 hw)

/-- The note of the end stands at one level of one source; all other records come from entries. -/
theorem filter_log_run (hw : ∀ step ∈ steps, step.Whole) (level : Level) (source : Source)
    (hother : ¬ (Level.info = level ∧ Source.scenario = source)) :
    (run b reporting s steps).log.filter (Event.isAt level source) =
      (trail b 0 s (run b reporting s steps).entries).filter (Event.isAt level source) := by
  have hend : (finishEvents s (run b reporting s steps)).filter (Event.isAt level source) = [] := by
    unfold finishEvents
    cases (run b reporting s steps).fault with
    | some f => rfl
    | none =>
        rw [List.filter_eq_nil_iff]
        intro e he hat
        rw [List.mem_singleton.1 he] at hat
        exact hother (of_decide_eq_true hat)
  rw [log_run hw, List.filter_append, hend, List.append_nil]

/-- A scenario that stops has the log of the steps before the one that fails. -/
theorem exists_log_of_fault (hw : ∀ step ∈ steps, step.Whole) {f : Fault}
    (h : (run b reporting s steps).fault = some f) :
    ∃ done step rest, steps = done ++ step :: rest ∧
      (run b reporting s done).fault = none ∧ (run b reporting s (done ++ [step])).fault = some f ∧
      (run b reporting s done).log =
        (run b reporting s steps).log ++ finishEvents s (run b reporting s done) := by
  obtain ⟨done, step, rest, rfl, hdone, hlast⟩ := exists_split_of_fault h
  have hone := runFrom_append b reporting 0 s done [step]
  rw [Run.andThen_of_finished hdone] at hone
  have hfault : (runFrom b reporting 0 s (done ++ [step])).fault = some f := by
    rw [hone]
    exact hlast
  have hsplit : done ++ step :: rest = (done ++ [step]) ++ rest := by simp
  -- What comes after the failing step changes nothing, so the run is cut right behind it.
  have hsame : runFrom b reporting 0 s (done ++ step :: rest) =
      runFrom b reporting 0 s (done ++ [step]) := by
    rw [hsplit, runFrom_append, Run.andThen_of_fault hfault]
  have hlog : (runFrom b reporting 0 s (done ++ step :: rest)).log =
      (runFrom b reporting 0 s done).log := by
    rw [hsame, hone]
    show _ ++ (runFrom b reporting (0 + done.length) _ [step]).log = _
    rw [log_of_single_fault (hw step (by simp)) hlast, List.append_nil]
  have hquiet : finishEvents s (runFrom b reporting 0 s (done ++ step :: rest)) = [] := by
    rw [finishEvents, hsame, hfault]
  refine ⟨done, step, rest, rfl, hdone, hfault, ?_⟩
  rw [run, run, hquiet, List.append_nil, hlog]
  rfl

end

/-- **The log audits the run.**  The warnings of a scenario are one for each refused entry, in order,
with the number of its step, the step, and its outcome in words and code.  Its decisions are one for
each completed checkout or return, in order, and say whether it was accepted, or rejected with what
code.  A step at which it stops leaves no record of any kind: the log is that of the steps before it,
less the note of their end.  That note is the last one of a scenario that finishes, tells how many
entries and refusals there were and on which day it ended, and stands in no other log. -/
theorem run_log_audits (b : Rulebook) (reporting : Bool) (s : Snapshot) (steps : List Step)
    (hw : ∀ step ∈ steps, step.Whole) :
    let r := run b reporting s steps
    r.entries.map Entry.step <+: steps ∧
    List.Forall₂ Warns (r.entries.zipIdx.filter fun e => e.1.isRefused)
      (r.log.filter (Event.isAt .warning .scenario)) ∧
    List.Forall₂ Settles (r.entries.filter Entry.isRequest)
      (r.log.filter (Event.isAt .info .circulation)) ∧
    (∀ f, r.fault = some f → ∃ done step rest, steps = done ++ step :: rest ∧
      (run b reporting s done).fault = none ∧ (run b reporting s (done ++ [step])).fault = some f ∧
      (run b reporting s done).log = r.log ++ finishEvents s (run b reporting s done)) ∧
    (r.fault = none → ∃ before last, r.log = before ++ [last] ∧
      r.log.filter (Event.isAt .info .scenario) = [last] ∧
      last.message = "Scenario finished: " ++ toString r.entries.length ++ " steps, " ++
        toString r.refusals.length ++ " refused, day " ++ toString (r.final s).day) ∧
    (r.fault ≠ none → r.log.filter (Event.isAt .info .scenario) = []) := by
  intro r
  have hfollows : Follows b s r.entries := follows_run hw
  have hlog : r.log = trail b 0 s r.entries ++ finishEvents s r := log_run hw
  have hend : r.log.filter (Event.isAt .info .scenario) =
      (finishEvents s r).filter (Event.isAt .info .scenario) := by
    rw [hlog, List.filter_append, filter_trail hfollows, List.nil_append]
  refine ⟨steps_prefix_runFrom 0, ?_, ?_, fun f => exists_log_of_fault hw, fun hfault => ?_,
    fun hfault => ?_⟩
  · rw [filter_log_run hw .warning .scenario (by decide)]
    exact forall₂_trail warns_of_completes hfollows 0
  · rw [filter_log_run hw .info .circulation (by decide)]
    exact settles_of_follows hfollows 0
  · have hnote : finishEvents s r =
        [.finished r.entries.length r.refusals.length (r.final s).day] := by
      rw [finishEvents, hfault]
    rw [hnote] at hlog hend
    exact ⟨_, _, hlog, hend, rfl⟩
  · obtain ⟨f, hf⟩ := Option.ne_none_iff_exists'.1 hfault
    rw [hend, finishEvents, hf]
    rfl

/-- The last copy of a title, a second request for it, a payment of more than is owed and a late
return. -/
def finishedSteps : List Step :=
  [.checkout (.int 1) (.int 3), .checkout (.int 2) (.int 3), .pay (.int 1) (.int 5),
    .giveBack (.int 1) (.int 3) (.int 2)]

/-- The same steps, and then one by a class that the reference rulebook does not have. -/
def stoppedSteps : List Step := finishedSteps ++ [.checkout (.int 9) (.int 1), .report]

/-- Of the steps that finish and of those that stop the warnings are the same, and only the first have
a note of their end. -/
theorem run_log_audits_stoppedSteps :
    let b := Rulebook.reference
    let s := Shelf.opening b
    let whole := run b true s finishedSteps
    let stopped := run b true s stoppedSteps
    (∀ step ∈ finishedSteps, step.Whole) ∧ (∀ step ∈ stoppedSteps, step.Whole) ∧
    (stopped.log.filter (Event.isAt .warning .scenario)).map Event.message =
      ["Step 1 Checkout(member_class=2, title_id=3) refused: title 3 unavailable (code 203)"] ∧
    List.Forall₂ Settles (stopped.entries.filter Entry.isRequest)
      (stopped.log.filter (Event.isAt .info .circulation)) ∧
    stopped.fault = some (.unknownClass (.int 9)) ∧
    stopped.log.filter (Event.isAt .info .scenario) = [] ∧
    whole.fault = none ∧ ∃ last, whole.log.filter (Event.isAt .info .scenario) = [last] ∧
      last.message = "Scenario finished: 4 steps, 1 refused, day 1" := by
  intro b s whole stopped
  have hw : ∀ step ∈ finishedSteps, step.Whole := by decide
  have hw' : ∀ step ∈ stoppedSteps, step.Whole := by decide
  have hwarning : stopped.log.filter (Event.isAt .warning .scenario) =
      [.stepRefused 1 (.checkout (.int 2) (.int 3)) 203] := rfl
  have hfault : stopped.fault = some (.unknownClass (.int 9)) := rfl
  have hfault' : stopped.fault ≠ none := by
    rw [hfault]
    exact Option.some_ne_none _
  obtain ⟨-, -, hsettles, -, -, hnone⟩ := run_log_audits b true s stoppedSteps hw'
  obtain ⟨-, -, -, -, hlast, -⟩ := run_log_audits b true s finishedSteps hw
  obtain ⟨before, last, -, hnote, hmessage⟩ := hlast rfl
  refine ⟨hw, hw', ?_, hsettles, hfault, hnone hfault', rfl, last, hnote, ?_⟩
  · rw [hwarning]
    decide +kernel
  · rw [hmessage]
    decide +kernel

end Scenario

end Circulation
