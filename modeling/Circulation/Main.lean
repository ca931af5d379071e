import Circulation.CommandLine.Demo
/-!
# The command

Reads the named file, if there is one, runs the demo command and writes what it leaves behind.
-/

open Circulation

/-- The reading error that a failed read stands for. -/
def readErrorOf : IO.Error → ReadError
  | .noFileOrDirectory .. => .missing
  | .inappropriateType _ code _ => if code = 21 then .isDirectory else .notDirectory
  | .permissionDenied .. => .denied
  | e => .failed (toString e)

/-- The content of the file at a path. -/
def contentOf (path : Path) : IO (Except ReadError (List UInt8)) := do
  try
    let content ← IO.FS.readBinFile path.text
    return .ok content.toList
  catch e => return .error (readErrorOf e)

/-- The command. -/
def main (arguments : List String) : IO UInt32 := do
  let request := CommandLine.parse arguments
  let content ←
    match request with
    | .run o =>
      match o.file? with
      | some path => contentOf path
      | none => pure (.error .missing)
    | _ => pure (.error .missing)
  match CommandLine.serve "libcirc-demo" (fun _ => content) request with
  | .ok exit =>
    (← IO.getStdout).putStr exit.stdout
    (← IO.getStderr).putStr exit.stderr
    return UInt32.ofNat exit.code
  | .error f =>
    (← IO.getStderr).putStrLn (f.className ++ ": " ++ f.message)
    return 1
