import Circulation.Account
import Circulation.Shelf
/-!
# Lending

Checking out and giving back join the shelf and the accounts.

* `checkout` asks first whether the class may borrow and then whether the title is there; the first
  refusal is the outcome and changes nothing.  Otherwise one copy leaves the shelf and one loan is
  opened.
* `giveBack` is never refused: one copy goes back, one loan is closed if there is any, and days late
  are fined.  Whether the class had borrowed that title is not asked.
-/

namespace Circulation.Lending

/-- Checks out a title. -/
def checkout (b : Rulebook) (s : Snapshot) (m t : Value) : Logged Outcome := do
  let eligible ← Account.eligibility b s m
  if eligible.ok then
    let available ← Shelf.availability eligible.state t
    if available.ok then
      let taken ← Shelf.take available.state t
      Logged.note (.copyTaken t)
      let lent ← Account.openLoan taken m
      Logged.note (.checkoutAccepted m t)
      return .success lent
    else
      Logged.note (.checkoutRejected m t available.code)
      return available
  else
    Logged.note (.checkoutRejected m t eligible.code)
    return eligible

/-- Adds the fine for `d` days late, if there is one. -/
def settle (s : Snapshot) (m d : Value) (fine : Number) : Logged Snapshot := do
  if (Number.int 0).lt fine then
    let fined ← Account.addFine s m (.ofNumber fine)
    Logged.note (.fined m fine d)
    return fined
  else return s

/-- Gives back a title, `d` days late. -/
def giveBack (b : Rulebook) (s : Snapshot) (m t d : Value) : Logged Outcome := do
  let days ← d.number
  if days.lt (.int 0) then (.error (.negativeAmount "late_days" d) : Except Fault Outcome)
  else
    let restocked ← Shelf.putBack s t
    let closed ← Account.closeLoan restocked m
    let fine ← b.feeFor days
    let settled ← settle closed m d fine
    Logged.note (.returnAccepted m t d)
    Outcome.accept settled (.ofNumber (Code.returned days))

end Circulation.Lending
