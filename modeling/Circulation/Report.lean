import Circulation.Outcome
import Circulation.Rulebook
/-!
# Reports

A report is read line by line: each field is two lines, its label and its value.  A snapshot reports
the day, the copies of each title, then the loans and then the fines of each member class, in the
order of the rulebook.  An outcome reports whether the action took effect and its code.

The key constructions are `stateLines`, `actionLines` and `render`.
-/

namespace Circulation.Report

/-- A label and a value. -/
abbrev Line := String × String

/-- One line for each rule: its label, and its count as `read` finds it.  A count is written out
whatever its size, without the bound on digits that a runtime may set (see `Number.display`). -/
def countLines {α : Type} (rules : List α) (label : α → String)
    (read : α → Except Fault Nat) : Except Fault (List Line) :=
  rules.mapM fun rule => do return (label rule, toString (← read rule))

/-- The lines of a snapshot; each id of the rulebook must be in it. -/
def stateLines (b : Rulebook) (s : Snapshot) : Except Fault (List Line) := do
  let copies ← countLines b.titles (fun t => "available_" ++ t.label) fun t => s.copiesOf (.int t.id)
  let loans ← countLines b.classes (fun m => "loans_m" ++ toString m.id) fun m =>
    s.loansOf (.int m.id)
  let fines ← countLines b.classes (fun m => "fines_m" ++ toString m.id) fun m =>
    s.finesOf (.int m.id)
  return ("day", toString s.day) :: (copies ++ loans ++ fines)

/-- The lines of an outcome. -/
def actionLines (o : Outcome) : List Line :=
  [("action_ok", if o.ok then "true" else "false"), ("action_code", toString o.code)]

/-- The text of some lines. -/
def render (lines : List Line) : String :=
  String.join (lines.map fun line => line.1 ++ "\n" ++ line.2 ++ "\n")

end Circulation.Report
