import Circulation.Code
import Circulation.Step
/-!
# The journal

Operations note what they decide.  Each note is an event with a level and a source; its line is its
wording.  An operation that fails keeps the events noted before its fault, so a computation is a log
together with a result (`Logged`).

The key constructions are `Event`, `Event.line` and the monad `Logged`.
-/

namespace Circulation

/-! ## Events -/

/-- How important an event is. -/
inductive Level where
  | debug
  | info
  | warning
  | error
deriving DecidableEq

namespace Level

/-- The name of a level. -/
def name : Level → String
  | .debug => "DEBUG"
  | .info => "INFO"
  | .warning => "WARNING"
  | .error => "ERROR"

/-- The levels in ascending order. -/
def rank : Level → Nat
  | .debug => 10
  | .info => 20
  | .warning => 30
  | .error => 40

end Level

/-- Which part of the library notes an event. -/
inductive Source where
  | config
  | members
  | circulation
  | scenario
deriving DecidableEq

/-- The name of a source. -/
def Source.name : Source → String
  | .config => "libcirc.config"
  | .members => "libcirc.members"
  | .circulation => "libcirc.circulation"
  | .scenario => "libcirc.scenario"

/-- What bars a member class from borrowing. -/
inductive Bar where
  | loanLimit
  | fineCeiling
deriving DecidableEq

/-- The name of a bar. -/
def Bar.name : Bar → String
  | .loanLimit => "loan_limit_policy"
  | .fineCeiling => "fine_ceiling_policy"

/-- Something worth noting. -/
inductive Event where
  | loaded (path : String) (titles classes : Nat)
  | barred (memberClass : Value) (bar : Bar) (code : Int)
  | overpaid (memberClass : Value) (excess : Number)
  | copyTaken (title : Value)
  | fined (memberClass : Value) (fine : Number) (lateDays : Value)
  | checkoutRejected (memberClass title : Value) (code : Int)
  | checkoutAccepted (memberClass title : Value)
  | returnAccepted (memberClass title lateDays : Value)
  | stepRefused (index : Nat) (step : Step) (code : Int)
  | finished (steps refused day : Nat)

namespace Event

/-- The level of an event. -/
def level : Event → Level
  | .loaded .. => .info
  | .barred .. => .debug
  | .overpaid .. => .debug
  | .copyTaken .. => .debug
  | .fined .. => .debug
  | .checkoutRejected .. => .info
  | .checkoutAccepted .. => .info
  | .returnAccepted .. => .info
  | .stepRefused .. => .warning
  | .finished .. => .info

/-- The source of an event. -/
def source : Event → Source
  | .loaded .. => .config
  | .barred .. => .members
  | .overpaid .. => .members
  | .copyTaken .. => .circulation
  | .fined .. => .circulation
  | .checkoutRejected .. => .circulation
  | .checkoutAccepted .. => .circulation
  | .returnAccepted .. => .circulation
  | .stepRefused .. => .scenario
  | .finished .. => .scenario

/-- A code with its wording. -/
def codeText (code : Int) : String :=
  Code.describe code ++ " (code " ++ toString code ++ ")"

/-- Who wants which title. -/
def requestText (m t : Value) : String := "member_class=" ++ m.display ++ " title=" ++ t.display

/-- The wording of an event.  Counts, codes and amounts are written out whatever their size; a bound
on the digits of a number in a text is idealised away, as it is for `Number.display`. -/
def message : Event → String
  | .loaded path titles classes =>
    "Loaded config from " ++ path ++ ": " ++ toString titles ++ " titles, " ++ toString classes ++
      " member classes"
  | .barred m bar code =>
    "Member class " ++ m.display ++ " refused by " ++ bar.name ++ " (code " ++ toString code ++ ")"
  | .overpaid m excess =>
    "Member class " ++ m.display ++ " overpaid by " ++ excess.display ++ "; excess absorbed"
  | .copyTaken t => "Copy of title " ++ t.display ++ " taken from shelf"
  | .fined m fine d =>
    "Member class " ++ m.display ++ " fined " ++ fine.display ++ " for " ++ d.display ++
      " day(s) late"
  | .checkoutRejected m t code => "Checkout " ++ requestText m t ++ " REJECTED: " ++ codeText code
  | .checkoutAccepted m t => "Checkout " ++ requestText m t ++ " ACCEPTED"
  | .returnAccepted m t d =>
    "Return " ++ requestText m t ++ " late_days=" ++ d.display ++ " ACCEPTED"
  | .stepRefused index step code =>
    "Step " ++ toString index ++ " " ++ step.inspect ++ " refused: " ++ codeText code
  | .finished steps refused day =>
    "Scenario finished: " ++ toString steps ++ " steps, " ++ toString refused ++ " refused, day " ++
      toString day

/-- The line of an event: level, source and wording. -/
def line (e : Event) : String := e.level.name ++ " " ++ e.source.name ++ ": " ++ e.message

end Event

/-! ## Computations with a log -/

/-- A result together with the events noted on the way to it. -/
structure Logged (α : Type) where
  log : List Event
  result : Except Fault α

namespace Logged

/-- Goes on with `f` after a value and stops at a fault; the log is kept either way. -/
def andThen {α β : Type} (x : Logged α) (f : α → Logged β) : Logged β :=
  match x.result with
  | .ok a => ⟨x.log ++ (f a).log, (f a).result⟩
  | .error e => ⟨x.log, .error e⟩

instance : Monad Logged where
  pure a := ⟨[], .ok a⟩
  bind := andThen

instance : MonadLift (Except Fault) Logged where
  monadLift r := ⟨[], r⟩

/-- Notes one event. -/
def note (e : Event) : Logged Unit := ⟨[e], .ok ()⟩

@[simp] theorem pure_eq {α : Type} (a : α) : (pure a : Logged α) = ⟨[], .ok a⟩ := rfl

@[simp] theorem ok_bind {α β : Type} (log : List Event) (a : α) (f : α → Logged β) :
    (⟨log, .ok a⟩ >>= f : Logged β) = ⟨log ++ (f a).log, (f a).result⟩ := rfl

@[simp] theorem error_bind {α β : Type} (log : List Event) (e : Fault) (f : α → Logged β) :
    (⟨log, .error e⟩ >>= f : Logged β) = ⟨log, .error e⟩ := rfl

@[simp] theorem lift_eq {α : Type} (r : Except Fault α) :
    (MonadLift.monadLift r : Logged α) = ⟨[], r⟩ := rfl

end Logged

end Circulation
