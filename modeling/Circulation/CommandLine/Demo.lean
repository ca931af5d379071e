import Circulation.CommandLine.Options
import Circulation.Rulebook.Load
import Circulation.Scenario
/-!
# The demo command

The command runs the reference scenario under the reference rulebook or one from a file.  The report
goes to the standard output; the log, from the chosen level on, and complaints go to the standard
error.  A rulebook that cannot be loaded, or that the scenario does not fit, gives exit code 2.
Without a level for the log the command cannot be carried out, which is a fault.

The key construction is `run`, in which reading files is a parameter.
-/

namespace Circulation.CommandLine

/-- What the command leaves behind. -/
structure Exit where
  code : Nat
  stdout : String
  stderr : String
deriving DecidableEq

/-- The lines of the events from a level on. -/
def logText (level : Level) (log : List Event) : String :=
  String.join ((log.filter fun e => level.rank ≤ e.level.rank).map fun e => e.line ++ "\n")

/-- Runs the reference scenario under a rulebook; `earlier` was written to the standard error
before.  A fault that does not come from the lending rules is passed on. -/
def demo (level : Level) (earlier : String) (b : Rulebook) : Except Fault Exit :=
  let r := Scenario.run b true (Shelf.opening b) Scenario.demo
  let stderr := earlier ++ logText level r.log
  match r.fault with
  | none => .ok ⟨0, r.report, stderr⟩
  | some f =>
    if f.isLending then
      .ok ⟨2, r.report,
        stderr ++ "error: config does not fit the demo scenario: " ++ f.message ++ "\n"⟩
    else .error f

/-- Loads the rulebook at a path, then runs the reference scenario under it. -/
def demoFrom (level : Level) (path : Path) (content : Except ReadError (List UInt8)) :
    Except Fault Exit :=
  let loading := Rulebook.load path content
  let stderr := logText level loading.log
  match loading.result with
  | .ok b => demo level stderr b
  | .error (.refused e) => .ok ⟨2, "", stderr ++ "error: " ++ e.message ++ "\n"⟩
  | .error (.escaped f) => .error f

/-- The file that some options name; an empty name names none. -/
def Options.file? (o : Options) : Option Path :=
  (o.config.filter (· ≠ "")).map Path.ofString

/-- Carries out a request. -/
def serve (program : String) (read : Path → Except ReadError (List UInt8)) :
    Request → Except Fault Exit
  | .help => .ok ⟨0, helpText program, ""⟩
  | .misuse text => .ok ⟨2, "", usage program ++ program ++ ": error: " ++ text ++ "\n"⟩
  | .run o =>
    match o.level, o.file? with
    | none, _ => .error (.mismatch .noLevel)
    | some level, none => demo level "" Rulebook.reference
    | some level, some path => demoFrom level path (read path)

/-- Runs the command. -/
def run (program : String) (read : Path → Except ReadError (List UInt8))
    (arguments : List String) : Except Fault Exit :=
  serve program read (parse arguments)

end Circulation.CommandLine
