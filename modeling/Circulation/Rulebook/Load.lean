import Circulation.File
import Circulation.Journal
import Circulation.Json.Document
import Circulation.Rulebook
/-!
# Loading rulebooks

A rulebook is loaded from a file that holds a JSON object in UTF-8.  Whatever is wrong with the
file, its encoding, its syntax or its content becomes one load error that names the path and the
cause; success is noted.

The key construction is `Rulebook.load`.
-/

namespace Circulation

/-- Why a rulebook cannot be loaded. -/
inductive LoadCause where
  | unreadable (e : ReadError)
  | undecodable (e : Text.Utf8Error)
  | malformed (message : String)
  | notAnObject
  | unfit (f : Fault)

/-- A rulebook that cannot be loaded, with its path and the cause. -/
structure LoadError where
  path : Path
  cause : LoadCause

namespace LoadError

/-- The word for the class of the cause. -/
def causeName (e : LoadError) : String :=
  match e.cause with
  | .unreadable cause => cause.className
  | .undecodable _ => "UnicodeDecodeError"
  | .malformed _ => "JSONDecodeError"
  | .notAnObject => "ValueError"
  | .unfit f => f.className

/-- The wording of the cause. -/
def causeMessage (e : LoadError) : String :=
  match e.cause with
  | .unreadable cause => cause.message e.path
  | .undecodable cause => cause.message
  | .malformed message => message
  | .notAnObject => "top-level JSON must be an object"
  | .unfit f => f.message

/-- The wording of a load error. -/
def message (e : LoadError) : String :=
  "Cannot load circulation config from '" ++ e.path.text ++ "': " ++ e.causeName ++ ": " ++
    e.causeMessage

end LoadError

/-- Whether a fault of reading a rulebook is reported as a load error. -/
def Fault.isContained : Fault → Bool
  | .lacks _ => false
  | .tooLarge => false
  | .emptyShelf _ => false
  | _ => true

/-- Why loading stopped: a load error, or a fault that is not reported as one. -/
inductive LoadFailure where
  | refused (e : LoadError)
  | escaped (f : Fault)

/-- What loading gave, and what was noted. -/
structure Loading where
  log : List Event
  result : Except LoadFailure Rulebook

namespace Rulebook

/-- The value in a file's content. -/
def parseContent (content : Except ReadError (List UInt8)) : Except LoadCause Value := do
  let octets ← content.mapError .unreadable
  let chars ← (Text.decode octets).mapError .undecodable
  (Json.parse (Text.normalizeBreaks chars)).mapError .malformed

/-- The rulebook in a file's content, which must be an object. -/
def ofContent (content : Except ReadError (List UInt8)) : Except LoadCause Rulebook := do
  match ← parseContent content with
  | .mapping entries => (ofValue (.mapping entries)).mapError .unfit
  | _ => .error .notAnObject

/-- Loads the rulebook at a path whose content was read. -/
def load (path : Path) (content : Except ReadError (List UInt8)) : Loading :=
  match ofContent content with
  | .ok b => ⟨[.loaded path.text b.titles.length b.classes.length], .ok b⟩
  | .error (.unfit f) =>
    if f.isContained then ⟨[], .error (.refused ⟨path, .unfit f⟩)⟩ else ⟨[], .error (.escaped f)⟩
  | .error cause => ⟨[], .error (.refused ⟨path, cause⟩)⟩

end Rulebook

end Circulation
