import Circulation.Lending
import Circulation.Report
/-!
# Scenarios

A scenario runs steps one after another from a snapshot.  Each completed step leaves an entry; a
refusal is noted and the run goes on, a fault ends it.  A run is one value that holds all it
produced: the entries, the report text and the log, and the fault if there was one, so that what was
written before a fault is kept.

The key constructions are

* `Step.apply` : what a step does to a snapshot;
* `runFrom` : the run of some steps, numbered from an index;
* `run` : a whole scenario, which notes at the end how it went.
-/

namespace Circulation

/-- What a step does to a snapshot; checkouts and returns have an outcome. -/
def Step.apply (b : Rulebook) (s : Snapshot) : Step → Logged (Snapshot × Option Outcome)
  | .checkout m t => do
    let o ← Lending.checkout b s m t
    return (o.state, some o)
  | .giveBack m t d => do
    let o ← Lending.giveBack b s m t d
    return (o.state, some o)
  | .pay m amount => do return (← Account.pay s m amount, none)
  | .advance days => do return (← Shelf.advance s days, none)
  | .report => return (s, none)

namespace Scenario

/-- A completed step, the snapshot after it and its outcome. -/
structure Entry where
  step : Step
  state : Snapshot
  outcome : Option Outcome

/-- What a run produced. -/
structure Run where
  entries : List Entry
  report : String
  log : List Event
  fault : Option Fault

namespace Run

/-- The run of no steps. -/
def empty : Run := ⟨[], "", [], none⟩

/-- A run that ends at once with a fault. -/
def failed (log : List Event) (e : Fault) : Run := ⟨[], "", log, some e⟩

/-- A run that starts with one completed step. -/
def cons (entry : Entry) (report : String) (log : List Event) (rest : Run) : Run :=
  ⟨entry :: rest.entries, report ++ rest.report, log ++ rest.log, rest.fault⟩

/-- The outcomes in step order. -/
def outcomes (r : Run) : List Outcome := r.entries.filterMap Entry.outcome

/-- The refusals in step order. -/
def refusals (r : Run) : List Outcome := r.outcomes.filter fun o => !o.ok

/-- The last snapshot, for a run from `initial`. -/
def final (initial : Snapshot) (r : Run) : Snapshot :=
  match r.entries.getLast? with
  | some entry => entry.state
  | none => initial

end Run

/-- The event of a refused step. -/
def refusalEvents (index : Nat) (entry : Entry) : List Event :=
  match entry.outcome with
  | some o => if o.ok then [] else [.stepRefused index entry.step o.code]
  | none => []

/-- What an entry adds to the report: its outcome, or its snapshot when reporting is the step. -/
def entryText (b : Rulebook) (entry : Entry) : Except Fault String :=
  match entry.outcome, entry.step with
  | some o, _ => .ok (Report.render (Report.actionLines o))
  | none, .report => do return Report.render (← Report.stateLines b entry.state)
  | none, _ => .ok ""

/-- What an entry adds to the report of a run, which may be one without a report. -/
def reportText (b : Rulebook) (reporting : Bool) (entry : Entry) : Except Fault String :=
  if reporting then entryText b entry else .ok ""

/-- Runs steps numbered from `index`. -/
def runFrom (b : Rulebook) (reporting : Bool) (index : Nat) (s : Snapshot) : List Step → Run
  | [] => .empty
  | step :: rest =>
    let applied := step.apply b s
    match applied.result with
    | .error e => .failed applied.log e
    | .ok (s', outcome) =>
      let entry : Entry := ⟨step, s', outcome⟩
      let log := applied.log ++ refusalEvents index entry
      match reportText b reporting entry with
      | .error e => ⟨[entry], "", log, some e⟩
      | .ok text => .cons entry text log (runFrom b reporting (index + 1) s' rest)

/-- The event of a finished run. -/
def finishEvents (initial : Snapshot) (r : Run) : List Event :=
  match r.fault with
  | some _ => []
  | none => [.finished r.entries.length r.refusals.length (r.final initial).day]

/-- Runs a scenario from a snapshot. -/
def run (b : Rulebook) (reporting : Bool) (initial : Snapshot) (steps : List Step) : Run :=
  let r := runFrom b reporting 0 initial steps
  { r with log := r.log ++ finishEvents initial r }

/-- The reference scenario: three checkouts, a late return, a part payment, and one more checkout
two days later. -/
def demo : List Step :=
  [.report, .checkout (.int 1) (.int 1), .checkout (.int 2) (.int 1), .checkout (.int 2) (.int 3),
    .advance (.int 4), .giveBack (.int 2) (.int 1) (.int 5), .pay (.int 2) (.int 100), .report,
    .advance (.int 2), .checkout (.int 1) (.int 2), .report]

end Scenario

end Circulation
