import Circulation.Proofs.Coverage
/-!
# Reports replay the run

A scenario can be run with a report or without one, and the report changes nothing else: the entries,
the log and the fault are the same.  What is written can be told from the entries alone.  Each of them
has one block: its outcome, if it has one; else its snapshot, if the step was to report it; and else
nothing.  The blocks stand in the order of the entries, up to the step that failed if there was one.

Reporting a snapshot fails on an id of the rulebook that the snapshot does not have.  This cannot
happen in a run from the first day, for every snapshot of it has the ids of the rulebook.

The key construction is `Block`, what an entry adds to a report.  The main facts are

* `reportText_iff` : the text written for an entry is its block;
* `runFrom_cons_of_fits` : a first step fails, or it completes and adds its block;
* `run_report_replays` : the run without a report, and the blocks of the one with it.
-/

namespace Circulation.Scenario

/-! ## Blocks -/

/-- The text is what the entry adds to a report. -/
inductive Block (b : Rulebook) : Entry → String → Prop
  | action {step : Step} {s : Snapshot} (o : Outcome) :
      Block b ⟨step, s, some o⟩ (Report.render (Report.actionLines o))
  | state {s : Snapshot} {lines : List Report.Line} (known : Report.stateLines b s = .ok lines) :
      Block b ⟨.report, s, none⟩ (Report.render lines)
  | quiet {step : Step} {s : Snapshot} (other : step ≠ .report) : Block b ⟨step, s, none⟩ ""

section

variable {b : Rulebook} {s : Snapshot} {text : String}

/-- The text of an entry without an outcome is that of its snapshot, or none at all. -/
theorem block_of_entryText {step : Step} (h : entryText b ⟨step, s, none⟩ = .ok text) :
    Block b ⟨step, s, none⟩ text := by
  cases step with
  | report =>
      obtain ⟨lines, hlines, htext⟩ := exists_of_bind_eq_ok h
      cases htext
      exact .state hlines
  | checkout | giveBack | pay | advance =>
      cases h
      exact .quiet nofun

/-- What is written for an entry is its block. -/
theorem reportText_iff (e : Entry) : reportText b true e = .ok text ↔ Block b e text := by
  obtain ⟨step, s, outcome⟩ := e
  rw [reportText, if_pos rfl]
  constructor
  · intro h
    cases outcome with
    | some o =>
        cases h
        exact .action o
    | none => exact block_of_entryText h
  · intro h
    cases h with
    | action o => rfl
    | state known => rw [entryText, known]; rfl
    | quiet other =>
        cases step with
        | report => exact absurd rfl other
        | checkout | giveBack | pay | advance => rfl

/-! ## Runs -/

/-- **One step.**  In a snapshot with the ids of the rulebook a first step fails, with a report or
without one, or it completes and its block is what the report has more. -/
theorem runFrom_cons_of_fits (hfit : s.Fits b) (index : Nat) (step : Step) (rest : List Step) :
    (∃ log f, ∀ reporting, runFrom b reporting index s (step :: rest) = .failed log f) ∨
    ∃ entry text log, entry.state.Fits b ∧ Block b entry text ∧
      ∀ reporting, runFrom b reporting index s (step :: rest) =
        .cons entry (if reporting then text else "") log
          (runFrom b reporting (index + 1) entry.state rest) := by
  cases happly : (step.apply b s).result with
  | error f =>
      refine .inl ⟨(step.apply b s).log, f, fun reporting => ?_⟩
      rw [runFrom, happly]
  | ok after =>
      obtain ⟨s', outcome⟩ := after
      have hfit' : s'.Fits b := hfit.of_kept (Step.rebuilds_of_apply happly).kept
      obtain ⟨text, htext⟩ := exists_reportText (e := ⟨step, s', outcome⟩) hfit' true
      refine .inr ⟨⟨step, s', outcome⟩, text,
        (step.apply b s).log ++ refusalEvents index ⟨step, s', outcome⟩, hfit',
        (reportText_iff _).1 htext, fun reporting => ?_⟩
      have hwritten : reportText b reporting ⟨step, s', outcome⟩ =
          .ok (if reporting then text else "") := by
        cases reporting with
        | false => rfl
        | true => exact htext
      rw [runFrom, happly]
      simp only [hwritten]

/-- Without a report a run is the same but for the text. -/
theorem runFrom_silent (hfit : s.Fits b) (index : Nat) (steps : List Step) :
    runFrom b false index s steps = { runFrom b true index s steps with report := "" } := by
  induction steps generalizing index s with
  | nil => rfl
  | cons step rest ih =>
      rcases runFrom_cons_of_fits hfit index step rest with ⟨log, f, hrun⟩ |
        ⟨entry, text, log, hfit', -, hrun⟩
      · rw [hrun, hrun]
        rfl
      · rw [hrun, hrun, ih hfit' (index + 1)]
        rfl

/-- The report of a run is the blocks of its entries in order. -/
theorem exists_blocks (hfit : s.Fits b) (index : Nat) (steps : List Step) :
    ∃ blocks, List.Forall₂ (Block b) (runFrom b true index s steps).entries blocks ∧
      (runFrom b true index s steps).report = String.join blocks := by
  induction steps generalizing index s with
  | nil => exact ⟨[], .nil, rfl⟩
  | cons step rest ih =>
      rcases runFrom_cons_of_fits hfit index step rest with ⟨log, f, hrun⟩ |
        ⟨entry, text, log, hfit', hblock, hrun⟩
      · -- The step that fails has no entry, and adds nothing.
        rw [hrun]
        exact ⟨[], .nil, rfl⟩
      · obtain ⟨blocks, hblocks, hreport⟩ := ih hfit' (index + 1)
        rw [hrun]
        refine ⟨text :: blocks, .cons hblock hblocks, ?_⟩
        rw [String.join_cons, ← hreport]
        rfl

end

/-- **Reports replay the run.**  In a run from the first day, whatever the kinds of its ids and
amounts, a report changes nothing but the text: the run without one has the same entries, log and
fault.  The text is that of one block for each entry in order, and of nothing else. -/
theorem run_report_replays (b : Rulebook) (steps : List Step) :
    let s := Shelf.opening b
    let written := run b true s steps
    run b false s steps = { written with report := "" } ∧
    ∃ blocks, List.Forall₂ (Block b) written.entries blocks ∧
      written.report = String.join blocks := by
  intro s written
  have hfit : s.Fits b := Snapshot.fits_opening b
  refine ⟨?_, exists_blocks hfit 0 steps⟩
  rw [run, runFrom_silent hfit]
  rfl

/-- A checkout, a report, a payment, and a checkout by a class that is not in the rulebook. -/
def mixedSteps : List Step :=
  [.checkout (.int 1) (.int 1), .report, .pay (.int 1) (.int 5), .checkout (.int 9) (.int 1)]

/-- The first two of these steps have the block of an outcome and that of a snapshot, the payment
adds nothing, and the blocks stay although the last step fails. -/
theorem run_report_replays_mixedSteps :
    let s := Shelf.opening Rulebook.reference
    let written := run Rulebook.reference true s mixedSteps
    written.fault = some (.unknownClass (.int 9)) ∧
    run Rulebook.reference false s mixedSteps = { written with report := "" } ∧
    ∃ blocks, List.Forall₂ (Block Rulebook.reference) written.entries blocks ∧
      String.join blocks = "action_ok\ntrue\naction_code\n0\n" ++
        "day\n1\navailable_a\n2\navailable_b\n2\navailable_c\n1\n" ++
        "loans_m1\n1\nloans_m2\n0\nfines_m1\n0\nfines_m2\n0\n" := by
  obtain ⟨hsilent, blocks, hblocks, hreport⟩ := run_report_replays Rulebook.reference mixedSteps
  refine ⟨by cbv, hsilent, blocks, hblocks, ?_⟩
  rw [← hreport]
  cbv

end Circulation.Scenario
