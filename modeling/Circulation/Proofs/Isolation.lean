import Circulation.Proofs.Runs
/-!
# Clients that share nothing do not see each other

A client has member classes and titles of its own.  When every step of a scenario is either the
client's, or touches none of its classes and titles, the client sees exactly what it would see
alone: its steps have the same outcomes, and its counts end the same.

The key constructions are

* `Client`, `Client.owns`, `Client.foreign` : a client, its steps, and the steps that do not touch
  what it owns;
* `Agrees` : two snapshots that hold the same under a client's keys;
* `SeesAlone` : the two runs of a client, among others and alone, agree.

One step of the client takes agreeing snapshots to agreeing snapshots with the same outcome, and a
foreign step taken on one side only keeps them agreeing.  The main result is `run_isolated`.
-/

namespace Circulation

/-- Whether an action took effect, and its code. -/
def Outcome.verdict (o : Outcome) : Bool × Int := (o.ok, o.code)

namespace Scenario

open Desk

/-! ## Clients -/

/-- The member classes and the titles that are a client's own. -/
structure Client where
  ownsClass : Int → Bool
  ownsTitle : Int → Bool

namespace Client

/-- Whether a step is the client's: its class is, and its title if it has one. -/
def owns (c : Client) (step : Step) : Bool :=
  step.classId?.any c.ownsClass && step.titleId?.all c.ownsTitle

/-- Whether a step touches no class and no title of the client. -/
def foreign (c : Client) (step : Step) : Bool :=
  step.classId?.all (fun m => !c.ownsClass m) && step.titleId?.all fun t => !c.ownsTitle t

/-- Whether two clients share no class and no title. -/
def Apart (c d : Client) : Prop :=
  (∀ m, ¬ (c.ownsClass m = true ∧ d.ownsClass m = true)) ∧
    ∀ t, ¬ (c.ownsTitle t = true ∧ d.ownsTitle t = true)

section

variable {c : Client} {step : Step} {m t : Int}

/-- The class of an own step is the client's. -/
theorem ownsClass_of_owns (h : c.owns step = true) (hm : step.classId? = some m) :
    c.ownsClass m = true := by
  rw [owns, hm, Bool.and_eq_true] at h
  exact h.1

/-- The title of an own step is the client's. -/
theorem ownsTitle_of_owns (h : c.owns step = true) (ht : step.titleId? = some t) :
    c.ownsTitle t = true := by
  rw [owns, ht, Bool.and_eq_true] at h
  exact h.2

/-- The class of a foreign step is not the client's. -/
theorem not_ownsClass_of_foreign (h : c.foreign step = true) (hm : step.classId? = some m) :
    c.ownsClass m = false := by
  rw [foreign, hm, Bool.and_eq_true] at h
  simpa using h.1

/-- The title of a foreign step is not the client's. -/
theorem not_ownsTitle_of_foreign (h : c.foreign step = true) (ht : step.titleId? = some t) :
    c.ownsTitle t = false := by
  rw [foreign, ht, Bool.and_eq_true] at h
  simpa using h.2

end

end Client

/-! ## Snapshots that agree for a client -/

/-- Two snapshots that hold the same copies, loans and fines under the keys of a client. -/
structure Agrees (c : Client) (s u : Snapshot) : Prop where
  copies : ∀ t, c.ownsTitle t = true → s.copies.get? t = u.copies.get? t
  loans : ∀ m, c.ownsClass m = true → s.loans.get? m = u.loans.get? m
  fines : ∀ m, c.ownsClass m = true → s.fines.get? m = u.fines.get? m

/-- A count put under a key that is none of these does not show under them. -/
theorem get?_set_foreign {p : Int → Bool} {t u : Tally}
    (h : ∀ j, p j = true → t.get? j = u.get? j) {k : Int} (hk : p k = false) (n : Nat) :
    ∀ j, p j = true → (t.set k n).get? j = u.get? j := by
  intro j hj
  have hne : j ≠ k := by
    rintro rfl
    rw [hj] at hk
    exact Bool.noConfusion hk
  rw [Tally.get?_set_of_ne _ hne, h j hj]

namespace Agrees

variable {c : Client} {s u : Snapshot} {k : Int}

/-- Every snapshot agrees with itself. -/
theorem refl (c : Client) (s : Snapshot) : Agrees c s s :=
  ⟨fun _ _ => rfl, fun _ _ => rfl, fun _ _ => rfl⟩

theorem setCopies (h : Agrees c s u) (k : Int) (n : Nat) :
    Agrees c (s.setCopies k n) (u.setCopies k n) :=
  ⟨fun j hj => Tally.get?_set_congr (h.copies j hj) k n, h.loans, h.fines⟩

theorem setLoans (h : Agrees c s u) (k : Int) (n : Nat) :
    Agrees c (s.setLoans k n) (u.setLoans k n) :=
  ⟨h.copies, fun j hj => Tally.get?_set_congr (h.loans j hj) k n, h.fines⟩

theorem setFines (h : Agrees c s u) (k : Int) (n : Nat) :
    Agrees c (s.setFines k n) (u.setFines k n) :=
  ⟨h.copies, h.loans, fun j hj => Tally.get?_set_congr (h.fines j hj) k n⟩

theorem setCopies_left (h : Agrees c s u) (hk : c.ownsTitle k = false) (n : Nat) :
    Agrees c (s.setCopies k n) u :=
  ⟨get?_set_foreign h.copies hk n, h.loans, h.fines⟩

theorem setLoans_left (h : Agrees c s u) (hk : c.ownsClass k = false) (n : Nat) :
    Agrees c (s.setLoans k n) u :=
  ⟨h.copies, get?_set_foreign h.loans hk n, h.fines⟩

theorem setFines_left (h : Agrees c s u) (hk : c.ownsClass k = false) (n : Nat) :
    Agrees c (s.setFines k n) u :=
  ⟨h.copies, h.loans, get?_set_foreign h.fines hk n⟩

/-- What a class's right to borrow depends on is the same for a class of the client. -/
theorem standing {b : Rulebook} {m : Int} {rule : ClassRule} {loans fines : Nat}
    (h : Agrees c s u) (hm : c.ownsClass m = true) (hst : Standing b s m rule loans fines) :
    Standing b u m rule loans fines :=
  ⟨hst.rule_eq, (h.loans m hm).symm.trans hst.loans_eq, (h.fines m hm).symm.trans hst.fines_eq⟩

/-- A class of the client may borrow in both snapshots or in neither. -/
theorem mayBorrow {b : Rulebook} {m : Int} (h : Agrees c s u) (hm : c.ownsClass m = true)
    (he : MayBorrow b s m) : MayBorrow b u m := by
  obtain ⟨rule, loans, fines, hst, hl, hf⟩ := he
  exact ⟨rule, loans, fines, h.standing hm hst, hl, hf⟩

/-- A checkout of the client is refused in both snapshots with the same code. -/
theorem refuses {b : Rulebook} {m t code : Int} (h : Agrees c s u) (hm : c.ownsClass m = true)
    (ht : c.ownsTitle t = true) (why : Refuses b s m t code) : Refuses b u m t code := by
  cases why with
  | loanLimit hst hl => exact .loanLimit (h.standing hm hst) hl
  | fineCeiling hst hl hf => exact .fineCeiling (h.standing hm hst) hl hf
  | unavailable he hempty hcode =>
      exact .unavailable (h.mayBorrow hm he) ((h.copies t ht).symm.trans hempty) hcode

end Agrees

/-! ## One step -/

section

variable {b : Rulebook} {c : Client} {s u : Snapshot} {e : Entry}

/-- **Own steps.**  A step of the client does the same in a snapshot that agrees. -/
theorem exists_completes_of_owns (h : Completes b s e) (howns : c.owns e.step = true)
    (hag : Agrees c s u) :
    ∃ e', Completes b u e' ∧ e'.step = e.step ∧
      e'.outcome.map Outcome.verdict = e.outcome.map Outcome.verdict ∧
      Agrees c e.state e'.state := by
  cases h with
  | @granted m t loans copies he hl hc hpos =>
      have hm : c.ownsClass m = true := Client.ownsClass_of_owns howns rfl
      have ht : c.ownsTitle t = true := Client.ownsTitle_of_owns howns rfl
      exact ⟨_, .granted (hag.mayBorrow hm he) ((hag.loans m hm).symm.trans hl)
        ((hag.copies t ht).symm.trans hc) hpos, rfl, rfl, (hag.setCopies t _).setLoans m _⟩
  | @refused m t code why =>
      have hm : c.ownsClass m = true := Client.ownsClass_of_owns howns rfl
      have ht : c.ownsTitle t = true := Client.ownsTitle_of_owns howns rfl
      exact ⟨_, .refused (hag.refuses hm ht why), rfl, rfl, hag⟩
  | @returned m t d loans copies fines hd hc hl hf =>
      have hm : c.ownsClass m = true := Client.ownsClass_of_owns howns rfl
      have ht : c.ownsTitle t = true := Client.ownsTitle_of_owns howns rfl
      exact ⟨_, .returned hd ((hag.copies t ht).symm.trans hc) ((hag.loans m hm).symm.trans hl)
        ((hag.fines m hm).symm.trans hf), rfl, rfl,
        ((hag.setCopies t _).setLoans m _).setFines m _⟩
  | @paid m a fines ha hf =>
      have hm : c.ownsClass m = true := Client.ownsClass_of_owns howns rfl
      exact ⟨_, .paid ha ((hag.fines m hm).symm.trans hf), rfl, rfl, hag.setFines m _⟩
  | waited hd => simp [Client.owns, Step.classId?] at howns
  | reported => simp [Client.owns, Step.classId?] at howns

/-- **Foreign steps.**  A step that touches nothing of the client leaves agreement as it is. -/
theorem agrees_of_foreign (h : Completes b s e) (hforeign : c.foreign e.step = true)
    (hag : Agrees c s u) : Agrees c e.state u := by
  cases h with
  | @granted m t loans copies he hl hc hpos =>
      have hm : c.ownsClass m = false := Client.not_ownsClass_of_foreign hforeign rfl
      have ht : c.ownsTitle t = false := Client.not_ownsTitle_of_foreign hforeign rfl
      exact (hag.setCopies_left ht _).setLoans_left hm _
  | refused why => exact hag
  | @returned m t d loans copies fines hd hc hl hf =>
      have hm : c.ownsClass m = false := Client.not_ownsClass_of_foreign hforeign rfl
      have ht : c.ownsTitle t = false := Client.not_ownsTitle_of_foreign hforeign rfl
      exact ((hag.setCopies_left ht _).setLoans_left hm _).setFines_left hm _
  | @paid m a fines ha hf =>
      have hm : c.ownsClass m = false := Client.not_ownsClass_of_foreign hforeign rfl
      exact hag.setFines_left hm _
  | waited hd => exact ⟨hag.copies, hag.loans, hag.fines⟩
  | reported => exact hag

end

/-! ## Runs -/

/-- A step, and whether it took effect and with which code. -/
def Entry.answer (e : Entry) : Step × Option (Bool × Int) :=
  (e.step, e.outcome.map Outcome.verdict)

/-- The steps of the client alone can follow one another too, with the same answers. -/
theorem exists_follows_alone {b : Rulebook} {c : Client} {s : Snapshot} {entries : List Entry}
    (h : Follows b s entries)
    (hsplit : ∀ e ∈ entries, c.owns e.step = true ∨ c.foreign e.step = true)
    {u : Snapshot} (hag : Agrees c s u) :
    ∃ alone, Follows b u alone ∧
      alone.map Entry.answer = (entries.filter fun e => c.owns e.step).map Entry.answer ∧
      Agrees c (stateAfter s entries) (stateAfter u alone) := by
  induction h generalizing u with
  | nil s => exact ⟨[], .nil u, rfl, hag⟩
  | @cons s e rest first _ ih =>
      have hrest : ∀ x ∈ rest, c.owns x.step = true ∨ c.foreign x.step = true :=
        fun x hx => hsplit x (List.mem_cons_of_mem _ hx)
      by_cases howns : c.owns e.step = true
      · obtain ⟨e', hfirst, hstep, hout, hag'⟩ := exists_completes_of_owns first howns hag
        obtain ⟨alone, hfollows, hanswers, hfinal⟩ := ih hrest hag'
        refine ⟨e' :: alone, .cons hfirst hfollows, ?_, hfinal⟩
        rw [List.filter_cons, if_pos howns, List.map_cons, List.map_cons, hanswers, Entry.answer,
          Entry.answer, hstep, hout]
      · -- a foreign step is left out, and the snapshots go on agreeing
        have hforeign := (hsplit e List.mem_cons_self).resolve_left howns
        obtain ⟨alone, hfollows, hanswers, hfinal⟩ :=
          ih hrest (agrees_of_foreign first hforeign hag)
        refine ⟨alone, hfollows, ?_, hfinal⟩
        rw [List.filter_cons, if_neg howns, hanswers]

/-- A client sees alone what it sees among others: its steps alone finish with the same answers, and
its counts end the same. -/
structure SeesAlone (b : Rulebook) (s : Snapshot) (steps : List Step) (c : Client) : Prop where
  finishes : (run b false s (steps.filter c.owns)).fault = none
  answers : (run b false s (steps.filter c.owns)).entries.map Entry.answer =
    ((run b false s steps).entries.filter fun e => c.owns e.step).map Entry.answer
  copies : ∀ t, c.ownsTitle t = true →
    ((run b false s steps).final s).copiesOf (.int t) =
      ((run b false s (steps.filter c.owns)).final s).copiesOf (.int t)
  loans : ∀ m, c.ownsClass m = true →
    ((run b false s steps).final s).loansOf (.int m) =
      ((run b false s (steps.filter c.owns)).final s).loansOf (.int m)
  fines : ∀ m, c.ownsClass m = true →
    ((run b false s steps).final s).finesOf (.int m) =
      ((run b false s (steps.filter c.owns)).final s).finesOf (.int m)

/-- What is read by an integer depends only on the count under it. -/
theorem entryOf_int_congr {t u : Tally} {k : Int} (h : t.get? k = u.get? k)
    (unknown : Value → Fault) :
    Prod.snd <$> Snapshot.entryOf t unknown (.int k) =
      Prod.snd <$> Snapshot.entryOf u unknown (.int k) := by
  cases hu : u.get? k with
  | none =>
      rw [Snapshot.entryOf_int_of_none (h.trans hu), Snapshot.entryOf_int_of_none hu]
  | some n => rw [Snapshot.entryOf_int (h.trans hu), Snapshot.entryOf_int hu]

/-- A client whose steps are among foreign ones sees what it sees alone. -/
theorem seesAlone_of_split {b : Rulebook} {s : Snapshot} {steps : List Step} {c : Client}
    (hw : ∀ step ∈ steps, step.Whole) (hfin : (run b false s steps).fault = none)
    (hsplit : ∀ step ∈ steps, c.owns step = true ∨ c.foreign step = true) :
    SeesAlone b s steps c := by
  have hsteps := steps_of_finished hfin
  obtain ⟨alone, hfollows, hanswers, hag⟩ :=
    exists_follows_alone (c := c) (follows_run hw)
      (fun e he => hsplit e.step (hsteps ▸ List.mem_map_of_mem he)) (Agrees.refl c s)
  -- The answers name their steps, so the entries alone are those of the client's own steps.
  have hown : alone.map Entry.step = steps.filter c.owns := by
    have hfst := congrArg (List.map Prod.fst) hanswers
    simp only [List.map_map] at hfst
    rw [← hsteps, List.filter_map]
    exact hfst
  obtain ⟨hentries, hfault⟩ := runFrom_of_follows 0 hfollows
  rw [hown] at hentries hfault
  have hfinal : (run b false s (steps.filter c.owns)).final s = stateAfter s alone := by
    rw [Run.final_eq]
    exact congrArg (stateAfter s) hentries
  refine ⟨hfault, ?_, ?_, ?_, ?_⟩
  · rw [← hanswers, ← hentries]
    rfl
  · intro t ht
    rw [hfinal, Run.final_eq]
    exact entryOf_int_congr (hag.copies t ht) _
  · intro m hm
    rw [hfinal, Run.final_eq]
    exact entryOf_int_congr (hag.loans m hm) _
  · intro m hm
    rw [hfinal, Run.final_eq]
    exact entryOf_int_congr (hag.fines m hm) _

/-- Whether a step is no client's: days that pass, and reports. -/
def neutral : Step → Bool
  | .advance _ => true
  | .report => true
  | _ => false

/-- A neutral step touches nothing of any client. -/
theorem foreign_of_neutral (c : Client) {step : Step} (h : neutral step = true) :
    c.foreign step = true := by
  cases step <;> simp [neutral] at h <;> rfl

/-- A step of one client touches nothing of a client apart from it. -/
theorem foreign_of_apart {c d : Client} (hcd : c.Apart d) {step : Step}
    (h : d.owns step = true) : c.foreign step = true := by
  rw [Client.owns, Bool.and_eq_true, Option.any_eq_true, Option.all_eq_true] at h
  obtain ⟨⟨m, hm, hown⟩, htitle⟩ := h
  rw [Client.foreign, Bool.and_eq_true, Option.all_eq_true, Option.all_eq_true]
  constructor
  · intro k hk
    obtain rfl : m = k := Option.some.inj (hm.symm.trans hk)
    simpa using fun hc => hcd.1 m ⟨hc, hown⟩
  · intro t ht
    simpa using fun hc => hcd.2 t ⟨hc, htitle t ht⟩

/-- **Isolation.**  In a finished run, a client whose steps are among foreign ones only sees what it
would see alone; so do both of two clients that share no class and no title, in whatever order their
steps, passing days and reports come. -/
theorem run_isolated (b : Rulebook) (s : Snapshot) (steps : List Step)
    (hw : ∀ step ∈ steps, step.Whole) (hfin : (run b false s steps).fault = none) :
    (∀ c : Client, (∀ step ∈ steps, c.owns step = true ∨ c.foreign step = true) →
      SeesAlone b s steps c) ∧
    (∀ c d : Client, c.Apart d →
      (∀ step ∈ steps, c.owns step = true ∨ d.owns step = true ∨ neutral step = true) →
      SeesAlone b s steps c ∧ SeesAlone b s steps d) := by
  refine ⟨fun c hsplit => seesAlone_of_split hw hfin hsplit, fun c d hcd hsplit => ⟨?_, ?_⟩⟩
  · refine seesAlone_of_split hw hfin fun step hstep => ?_
    rcases hsplit step hstep with hc | hd | hn
    · exact .inl hc
    · exact .inr (foreign_of_apart hcd hd)
    · exact .inr (foreign_of_neutral c hn)
  · have hdc : d.Apart c :=
      ⟨fun m hm => hcd.1 m ⟨hm.2, hm.1⟩, fun t ht => hcd.2 t ⟨ht.2, ht.1⟩⟩
    refine seesAlone_of_split hw hfin fun step hstep => ?_
    rcases hsplit step hstep with hc | hd | hn
    · exact .inr (foreign_of_apart hdc hc)
    · exact .inl hd
    · exact .inr (foreign_of_neutral d hn)

/-- A client with class 1 and title 1. -/
def firstClient : Client := ⟨fun m => m == 1, fun t => t == 1⟩

/-- A client with class 2 and title 3. -/
def secondClient : Client := ⟨fun m => m == 2, fun t => t == 3⟩

/-- Steps of two clients in turn, with a refusal, a late return and a payment among them. -/
def interleavedSteps : List Step :=
  [.checkout (.int 1) (.int 1), .checkout (.int 2) (.int 3), .advance (.int 2),
    .checkout (.int 2) (.int 3), .giveBack (.int 1) (.int 1) (.int 2), .report,
    .pay (.int 1) (.int 100), .giveBack (.int 2) (.int 3) (.int 0), .checkout (.int 1) (.int 1)]

/-- Each of the two clients sees in these steps what it sees alone. -/
theorem run_isolated_interleavedSteps :
    (∀ step ∈ interleavedSteps, step.Whole) ∧
    (run Rulebook.reference false (Shelf.opening Rulebook.reference) interleavedSteps).fault =
      none ∧
    firstClient.Apart secondClient ∧
    SeesAlone Rulebook.reference (Shelf.opening Rulebook.reference) interleavedSteps firstClient ∧
    SeesAlone Rulebook.reference (Shelf.opening Rulebook.reference) interleavedSteps
      secondClient := by
  have hw : ∀ step ∈ interleavedSteps, step.Whole := by decide
  have hfin : (run Rulebook.reference false (Shelf.opening Rulebook.reference)
      interleavedSteps).fault = none := rfl
  have hapart : firstClient.Apart secondClient := by
    constructor <;> intro k hk <;> simp [firstClient, secondClient] at hk <;> omega
  have hsplit : ∀ step ∈ interleavedSteps, firstClient.owns step = true ∨
      secondClient.owns step = true ∨ neutral step = true := by decide
  exact ⟨hw, hfin, hapart, (run_isolated _ _ _ hw hfin).2 _ _ hapart hsplit⟩

end Scenario

end Circulation
