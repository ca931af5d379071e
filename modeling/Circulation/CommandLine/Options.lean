import Circulation.Journal
import Circulation.Text.Numeral
/-!
# Command-line options

The command takes a rulebook file (`--config`) and a log level (`--log-level`), and `-h` or `--help`
for help.  An option may be shortened as long as it stays unambiguous, its value may be joined to it
with an equals sign, and the last of several values counts.  A value of its own must not look like
an option; a negative number does not.  Two dashes joined to an option take its value away.

All arguments are first told apart (`Token`), which settles ambiguous ones; then they are read from
left to right.  Help and bad values end the reading at once; arguments that mean nothing are
collected and refused at the end.

The key constructions are `tokens`, `read` and `parse`.
-/

namespace Circulation.CommandLine

/-! ## Options -/

/-- An option of the command. -/
inductive Flag where
  | help
  | config
  | logLevel
deriving DecidableEq

/-- The names of the options, in the order in which they are listed. -/
def flagNames : List (String × Flag) :=
  [("-h", .help), ("--help", .help), ("--config", .config), ("--log-level", .logLevel)]

/-- How complaints name an option. -/
def Flag.title : Flag → String
  | .help => "-h/--help"
  | .config => "--config"
  | .logLevel => "--log-level"

/-- The levels that can be chosen. -/
def levels : List Level := [.debug, .info, .warning, .error]

/-- What the command is to do: the file of the rulebook, and the level from which on the log is
shown.  Either may be missing. -/
structure Options where
  config : Option String
  level : Option Level
deriving DecidableEq

/-- Without options: the reference rulebook, and the log from warnings on. -/
def Options.standard : Options := ⟨none, some .warning⟩

/-! ## Telling arguments apart -/

/-- What an argument is. -/
inductive Token where
  /-- An argument that is no option. -/
  | plain (s : String)
  /-- Two dashes, after which nothing is an option. -/
  | separator
  /-- An option, and the value joined to it with an equals sign. -/
  | option (flag : Flag) (joined : Option String)
  /-- The short help option with letters joined to it, directly or with an equals sign. -/
  | cluster (letters : List Char)
  /-- An argument that looks like an option and is none. -/
  | unknown (s : String)
deriving DecidableEq

/-- Splits at the first equals sign. -/
def splitEquals (cs : List Char) : Option (String × String) :=
  match cs.span (· ≠ '=') with
  | (name, _ :: value) => some (String.ofList name, String.ofList value)
  | (_, []) => none

/-- Whether an argument is a negative number: a dash and digits, perhaps with a point before the
last of them, and perhaps a line break at the end. -/
def isNegativeNumber (cs : List Char) : Bool :=
  let isDigit (c : Char) := (Text.digitValue? c).isSome
  match cs with
  | '-' :: rest =>
    let body := if rest.getLast? = some '\n' then rest.dropLast else rest
    match body.span isDigit with
    | (whole, []) => !whole.isEmpty
    | (_, '.' :: fraction) => !fraction.isEmpty && fraction.all isDigit
    | _ => false
  | _ => false

/-- The options that an argument with two dashes may shorten, each with its name in full and the
joined value. -/
def candidates (cs : List Char) : List (Flag × String × Option String) :=
  match cs with
  | '-' :: '-' :: _ =>
    let (name, joined) :=
      match splitEquals cs with
      | some (name, value) => (name, some value)
      | none => (String.ofList cs, none)
    flagNames.filterMap fun known =>
      if name.toList.isPrefixOf known.1.toList then some (known.2, known.1, joined) else none
  | _ => []

/-- The option that an argument names in full, with the value joined to it. -/
def namedInFull? (s : String) : Option Token :=
  match flagNames.lookup s with
  | some flag => some (.option flag none)
  | none =>
    match splitEquals s.toList with
    | some (name, value) => (flagNames.lookup name).map fun flag => .option flag (some value)
    | none => none

/-- What an argument with two dashes is, or one with a single dash that is no help option, if it
names no option in full. -/
def abbreviated (s : String) : Except String Token :=
  match candidates s.toList with
  | [] =>
    if isNegativeNumber s.toList || s.toList.contains ' ' then .ok (.plain s) else .ok (.unknown s)
  | [(flag, _, joined)] => .ok (.option flag joined)
  | several =>
    .error ("ambiguous option: " ++ s ++ " could match " ++
      ", ".intercalate (several.map fun c => c.2.1))

/-- What an argument is. -/
def token (s : String) : Except String Token :=
  match s.toList with
  | ['-'] => .ok (.plain s)
  | '-' :: 'h' :: '=' :: letters => .ok (.cluster letters)
  | '-' :: 'h' :: letter :: letters => .ok (.cluster (letter :: letters))
  | '-' :: _ =>
    match namedInFull? s with
    | some t => .ok t
    | none => abbreviated s
  | _ => .ok (.plain s)

/-- What the arguments are. -/
def tokens : List String → Except String (List Token)
  | [] => .ok []
  | s :: rest =>
    if s = "--" then .ok (.separator :: rest.map .plain)
    else do return (← token s) :: (← tokens rest)

/-! ## Reading -/

/-- What the arguments ask for. -/
inductive Request where
  | run (options : Options)
  | help
  | misuse (complaint : String)
deriving DecidableEq

/-- The complaint about an option. -/
def complaint (flag : Flag) (text : String) : Request :=
  .misuse ("argument " ++ flag.title ++ ": " ++ text)

/-- The level of that name, which must be one of those that can be chosen. -/
def chooseLevel (name : String) : Except Request Level :=
  match levels.find? fun l => l.name == name with
  | some l => .ok l
  | none =>
    .error (complaint .logLevel ("invalid choice: " ++ Text.quote name ++ " (choose from " ++
      ", ".intercalate (levels.map fun l => Text.quote l.name) ++ ")"))

/-- Sets an option to a value, or takes its value away. -/
def setOption (o : Options) (flag : Flag) (value : Option String) : Except Request Options :=
  match flag with
  | .help => .ok o
  | .config => .ok { o with config := value }
  | .logLevel => do return { o with level := ← value.mapM chooseLevel }

/-- The value joined to an option; two dashes are none. -/
def joinedValue (value : String) : Option String := if value = "--" then none else some value

/-- The request of a help option with a value, which it does not take. -/
def valuedHelp (value : List Char) : Request :=
  complaint .help ("ignored explicit argument " ++ Text.quote (String.ofList value))

/-- The request of letters joined to the short help option: each may only ask for help again, and
there must be one. -/
def clustered (letters : List Char) : Request :=
  match letters.dropWhile (· = 'h') with
  | [] => if letters = [] then valuedHelp [] else .help
  | other => valuedHelp other

/-- Reads arguments from left to right; `extras` holds those that mean nothing, in reverse. -/
def read (o : Options) (extras : List String) : List Token → Request
  | [] =>
    if extras = [] then .run o
    else .misuse ("unrecognized arguments: " ++ " ".intercalate extras.reverse)
  | .plain s :: rest => read o (s :: extras) rest
  | .separator :: rest => read o ("--" :: extras) rest
  | .unknown s :: rest => read o (s :: extras) rest
  | .cluster letters :: _ => clustered letters
  | .option .help none :: _ => .help
  | .option .help (some value) :: _ => valuedHelp value.toList
  | .option flag (some value) :: rest =>
    match setOption o flag (joinedValue value) with
    | .ok o => read o extras rest
    | .error r => r
  | .option flag none :: .plain value :: rest =>
    match setOption o flag (some value) with
    | .ok o => read o extras rest
    | .error r => r
  | .option flag none :: _ => complaint flag "expected one argument"

/-- What the arguments ask for. -/
def parse (arguments : List String) : Request :=
  match tokens arguments with
  | .ok ts => read .standard [] ts
  | .error text => .misuse text

/-! ## Usage -/

/-- The options as they are shown, in two groups. -/
def usageParts : String × String :=
  ("[-h] [--config CONFIG]",
    "[--log-level \x7b" ++ ",".intercalate (levels.map Level.name) ++ "\x7d]")

/-- The number of columns that the usage may take. -/
def usageWidth : Nat := 78

/-- How the command is used; what does not fit on one line breaks before the second group. -/
def usage (program : String) : String :=
  let start := "usage: " ++ program ++ " "
  let line := start ++ usageParts.1 ++ " " ++ usageParts.2
  if line.length ≤ usageWidth then line ++ "\n"
  else
    start ++ usageParts.1 ++ "\n" ++ String.ofList (List.replicate start.length ' ') ++
      usageParts.2 ++ "\n"

/-- The text of help. -/
def helpText (program : String) : String :=
  usage program ++ "\nRun the library circulation demo scenario.\n\noptions:\n" ++
    "  -h, --help            show this help message and exit\n" ++
    "  --config CONFIG       JSON circulation config (default: built-in 3 titles /\n" ++
    "                        2 classes)\n" ++
    "  --log-level \x7b" ++ ",".intercalate (levels.map Level.name) ++ "\x7d\n"

end Circulation.CommandLine
