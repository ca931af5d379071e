import Circulation.Operation
import Circulation.Report
/-!
# Sessions

A session works on one library: it carries out operations, reads counts, writes reports, and can go
back to an earlier snapshot.  It remembers each snapshot it has passed through and the last outcome.

The key constructions are `start`, `answer` and `next`; the answer to a command holds its reply or its
fault, the events noted and the text written, and the session goes on from there.
-/

namespace Circulation

/-- What a session can be asked. -/
inductive Command where
  | operate (op : Operation)
  | reopen
  | copiesOf (title : Value)
  | loansOf (memberClass : Value)
  | finesOf (memberClass : Value)
  | barCode (bar : Bar) (memberClass : Value)
  | stateLines
  | inspect
  | printState
  | printAction
  | goBack (index : Nat)
  | sameAs (index : Nat)

/-- What a command gives: a snapshot to go on with, an outcome, or a value. -/
inductive Reply where
  | state (s : Snapshot)
  | outcome (o : Outcome)
  | value (v : Value)

/-- The answer to a command. -/
structure Answer where
  reply : Except Fault Reply
  log : List Event
  out : String

/-- A session: its rulebook, its current snapshot, the snapshots so far and the last outcome. -/
structure Session where
  rulebook : Rulebook
  current : Snapshot
  history : List Snapshot
  last : Option Outcome

namespace Session

/-- A session that starts from a snapshot. -/
def start (b : Rulebook) (s : Snapshot) : Session := ⟨b, s, [s], none⟩

/-- A reply without events and text. -/
def plain (r : Except Fault Reply) : Answer := ⟨r, [], ""⟩

/-- A count as a reply. -/
def countReply (r : Except Fault Nat) : Answer := plain (r.map fun n => .value (.int n))

/-- The remembered snapshot of that number. -/
def remembered (x : Session) (index : Nat) : Except Fault Snapshot :=
  match x.history[index]? with
  | some s => .ok s
  | none => .error (.lacks "history")

/-- The reply to a yield. -/
def yieldReply : Yield → Reply
  | .state s => .state s
  | .outcome o => .outcome o

/-- The answer to a command. -/
def answer (x : Session) : Command → Answer
  | .operate op =>
    let done := op.run x.rulebook x.current
    ⟨done.result.map yieldReply, done.log, ""⟩
  | .reopen => plain (.ok (.state (Shelf.opening x.rulebook)))
  | .copiesOf t => countReply (x.current.copiesOf t)
  | .loansOf m => countReply (x.current.loansOf m)
  | .finesOf m => countReply (x.current.finesOf m)
  | .barCode bar m => plain do
    let code ← Account.barCode x.current (← x.rulebook.classRule m) bar
    return .value ((code.map Value.int).getD .null)
  | .stateLines => plain do
    let lines ← Report.stateLines x.rulebook x.current
    return .value (.list (lines.map fun l => .list [.text l.1, .text l.2]))
  | .inspect => plain (.ok (.value (.text x.current.inspect)))
  | .printState =>
    match Report.stateLines x.rulebook x.current with
    | .ok lines => ⟨.ok (.state x.current), [], Report.render lines⟩
    | .error e => plain (.error e)
  | .printAction =>
    match x.last with
    | some o => ⟨.ok (.state o.state), [], Report.render (Report.actionLines o)⟩
    | none => plain (.error (.lacks "ok"))
  | .goBack index => plain do return .state (← x.remembered index)
  | .sameAs index => plain do return .value (.bool (x.current.same (← x.remembered index)))

/-- The session after an answer: a snapshot or outcome becomes current, anything else changes
nothing, and the current snapshot is remembered. -/
def next (x : Session) (a : Answer) : Session :=
  match a.reply with
  | .ok (.state s) => { x with current := s, history := x.history ++ [s] }
  | .ok (.outcome o) =>
    { x with current := o.state, history := x.history ++ [o.state], last := some o }
  | _ => { x with history := x.history ++ [x.current] }

end Session

end Circulation
