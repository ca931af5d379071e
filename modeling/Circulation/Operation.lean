import Circulation.Lending
/-!
# Operations

Everything that can be done to a snapshot, as data: the replacement of single counts, the passing of
days, and the operations of the shelf, the accounts and the desk, each with ids and amounts of any
kind.

The key constructions are `Operation.run`, which carries out one operation, and `Operation.after`,
the snapshot to go on with, which is the same one after a fault.
-/

namespace Circulation

/-- An operation on a snapshot. -/
inductive Operation where
  | nextDay
  | advance (days : Value)
  | setCopies (title count : Value)
  | setLoans (memberClass count : Value)
  | setFines (memberClass amount : Value)
  | availability (title : Value)
  | take (title : Value)
  | putBack (title : Value)
  | eligibility (memberClass : Value)
  | openLoan (memberClass : Value)
  | closeLoan (memberClass : Value)
  | addFine (memberClass amount : Value)
  | pay (memberClass amount : Value)
  | checkout (memberClass title : Value)
  | giveBack (memberClass title lateDays : Value)

/-- What an operation gives: a snapshot, or an outcome that holds one. -/
inductive Yield where
  | state (s : Snapshot)
  | outcome (o : Outcome)

/-- The snapshot to go on with. -/
def Yield.snapshot : Yield → Snapshot
  | .state s => s
  | .outcome o => o.state

namespace Operation

/-- Carries out an operation. -/
def run (b : Rulebook) (s : Snapshot) : Operation → Logged Yield
  | .nextDay => return .state s.nextDay
  | .advance days => do return .state (← Shelf.advance s days)
  | .setCopies t n => do return .state (← s.withCopies t n)
  | .setLoans m n => do return .state (← s.withLoans m n)
  | .setFines m n => do return .state (← s.withFines m n)
  | .availability t => do return .outcome (← Shelf.availability s t)
  | .take t => do return .state (← Shelf.take s t)
  | .putBack t => do return .state (← Shelf.putBack s t)
  | .eligibility m => do return .outcome (← Account.eligibility b s m)
  | .openLoan m => do return .state (← Account.openLoan s m)
  | .closeLoan m => do return .state (← Account.closeLoan s m)
  | .addFine m n => do return .state (← Account.addFine s m n)
  | .pay m n => do return .state (← Account.pay s m n)
  | .checkout m t => do return .outcome (← Lending.checkout b s m t)
  | .giveBack m t d => do return .outcome (← Lending.giveBack b s m t d)

/-- The snapshot after an operation; a fault leaves it as it was. -/
def after (b : Rulebook) (s : Snapshot) (op : Operation) : Snapshot :=
  match (op.run b s).result with
  | .ok y => y.snapshot
  | .error _ => s

end Operation

end Circulation
