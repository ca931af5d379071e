import Circulation.Journal
import Circulation.Outcome
import Circulation.Rulebook
/-!
# Accounts of member classes

Each member class has an account of open loans and unpaid fines.

The key constructions are

* `eligibility` : whether a class may borrow one more title; the loan limit is asked first, then the
  fine ceiling;
* `openLoan`, `closeLoan` : one loan more, one less but never below none;
* `addFine`, `pay` : fines go up and down; what is paid beyond the fines is not carried over.
-/

namespace Circulation.Account

/-! ## Eligibility -/

/-- The refusal code of a bar, if it bars the class of that rule. -/
def barCode (s : Snapshot) (rule : ClassRule) : Bar → Except Fault (Option Int)
  | .loanLimit => do
    let loans ← s.loansOf (.int rule.id)
    return if rule.loanLimit ≤ loans then some (rule.id + Code.loanBase) else none
  | .fineCeiling => do
    let fines ← s.finesOf (.int rule.id)
    return if rule.fineCeiling < fines then some (rule.id + Code.fineBase) else none

/-- The first of some bars that bars the class of that rule, with its code. -/
def firstBar (s : Snapshot) (rule : ClassRule) : List Bar → Except Fault (Option (Bar × Int))
  | [] => .ok none
  | bar :: rest => do
    match ← barCode s rule bar with
    | some code => return some (bar, code)
    | none => firstBar s rule rest

/-- The bars in the order in which they are asked. -/
def bars : List Bar := [.loanLimit, .fineCeiling]

/-- Whether a member class may borrow one more title. -/
def eligibility (b : Rulebook) (s : Snapshot) (m : Value) : Logged Outcome := do
  let rule ← b.classRule m
  match ← firstBar s rule bars with
  | some (bar, code) =>
    Logged.note (.barred m bar code)
    Outcome.refuse s (.int code)
  | none => return .success s

/-! ## Loans -/

/-- One more open loan. -/
def openLoan (s : Snapshot) (m : Value) : Except Fault Snapshot := do
  let (key, n) ← s.borrower m
  return s.setLoans key (n + 1)

/-- One open loan less; without any, nothing changes. -/
def closeLoan (s : Snapshot) (m : Value) : Except Fault Snapshot := do
  let (key, n) ← s.borrower m
  return if n = 0 then s else s.setLoans key (n - 1)

/-! ## Fines -/

/-- Adds to the unpaid fines. -/
def addFine (s : Snapshot) (m amount : Value) : Except Fault Snapshot := do
  let a ← amount.number
  if a.lt (.int 0) then .error (.negativeAmount "amount_minor_units" amount)
  else
    let fines ← s.finesOf m
    match (Number.int fines).add a with
    | some total => s.withFines m (.ofNumber total)
    | none => .error .tooLarge

/-- Pays towards the unpaid fines; what is paid beyond them is absorbed. -/
def pay (s : Snapshot) (m amount : Value) : Logged Snapshot := do
  let a ← amount.number
  if a.lt (.int 0) then
    (.error (.negativeAmount "payment_minor_units" amount) : Except Fault Snapshot)
  else
    let fines ← s.finesOf m
    match (Number.int fines).sub a, a.sub (.int fines) with
    | some remaining, some excess =>
      if (Number.int fines).lt a then Logged.note (.overpaid m excess)
      s.withFines m (if (Number.int 0).lt remaining then .ofNumber remaining else .int 0)
    | _, _ => (.error .tooLarge : Except Fault Snapshot)

end Circulation.Account
