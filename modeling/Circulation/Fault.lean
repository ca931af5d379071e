import Circulation.Value.Written
/-!
# Faults

A fault is why an operation could not be carried out.  Refusing a loan is no fault: a refusal is an
ordinary outcome.  Faults are kept by cause, with the value that gave rise to them, and their
wording stands in one function per cause.

The key constructions are `Fault`, its class word `Fault.className` and its text `Fault.message`.
-/

namespace Circulation

/-! ## Causes -/

/-- What a checked number is: a named field, or the entry of a named field under a key. -/
inductive Subject where
  | field (name : String)
  | entry (name : String) (key : Int)
deriving DecidableEq

/-- Why a value of the right kind is not acceptable. -/
inductive Invalid where
  | notInteger (subject : Subject) (got : Value)
  | negative (subject : Subject) (got : Int)
  | outOfRange (name : String) (got : Int)
  | emptyLabel
  | noTitles
  | noClasses
  | repeatedTitles (ids : List Int)
  | repeatedClasses (ids : List Int)
  | keyNotInteger (name : String) (key : Value)
  | classesDiffer
  | notNumeral (text : String)
  | notAPair (index length : Nat)
  | emptyName
  | notASnapshot (kind : String)
  | okNotTruth
  | codeNotInteger
  | silentRefusal
  | negativeDays (days : Value)

/-- Why a value of this kind cannot be used at all. -/
inductive Mismatch where
  | notIterable (kind : String)
  | notIndexable (kind : String)
  | notASequence (index : Nat)
  | notANumber (kind : String)
  | notWhole (kind : String)
  | notAKey (kind : String)
  | notComparable (kind : String)
  | noLevel
  | arguments
deriving DecidableEq

/-- Why an operation could not be carried out. -/
inductive Fault where
  | invalid (why : Invalid)
  | missingField (name : String)
  | mismatch (why : Mismatch)
  | lacks (trait : String)
  | tooLarge
  | unknownTitle (id : Value)
  | unknownClass (id : Value)
  | emptyShelf (title : Value)
  | negativeAmount (name : String) (amount : Value)

/-! ## Words -/

/-- The subject of a check in words. -/
def Subject.text : Subject → String
  | .field name => name
  | .entry name key => name ++ "[" ++ toString key ++ "]"

/-- A list of ids in words. -/
def idsText (ids : List Int) : String := (Value.list (ids.map .int)).inspect

/-- A text that is no numeral in words; of a long one only the first 200 characters of its quoted
form are shown. -/
def numeralText (text : String) : String := String.ofList ((Text.quote text).toList.take 200)

/-- The wording of an unacceptable value. -/
def Invalid.message : Invalid → String
  | .notInteger subject got => subject.text ++ " must be an integer, got " ++ got.inspect ++ "."
  | .negative subject got => subject.text ++ " cannot be negative, got " ++ toString got ++ "."
  | .outOfRange name got => name ++ " must be between 1 and 99, got " ++ toString got ++ "."
  | .emptyLabel => "label must be a non-empty string."
  | .noTitles => "At least one title must be configured."
  | .noClasses => "At least one member class must be configured."
  | .repeatedTitles ids => "Duplicate title_id in " ++ idsText ids ++ "."
  | .repeatedClasses ids => "Duplicate member_class in " ++ idsText ids ++ "."
  | .keyNotInteger name key => name ++ " keys must be integers, got " ++ key.inspect ++ "."
  | .classesDiffer =>
    "active_loans and outstanding_fines must cover the same member classes."
  | .notNumeral text => "invalid literal for int() with base 10: " ++ numeralText text
  | .notAPair index length =>
    "dictionary update sequence element #" ++ toString index ++ " has length " ++
      toString length ++ "; 2 is required"
  | .emptyName => "Config name must be non-empty."
  | .notASnapshot kind => "state must be LibraryState, got " ++ kind ++ "."
  | .okNotTruth => "ok must be a bool."
  | .codeNotInteger => "code must be an integer."
  | .silentRefusal =>
    "Failed result must carry a non-zero code. No silent rejections allowed."
  | .negativeDays days => "days cannot be negative, got " ++ days.display ++ "."

/-- The wording of a value of the wrong kind. -/
def Mismatch.message : Mismatch → String
  | .notIterable kind => "'" ++ kind ++ "' object is not iterable"
  | .notIndexable kind =>
    if kind = "str" then "string indices must be integers, not 'str'"
    else if kind = "list" then "list indices must be integers or slices, not str"
    else "'" ++ kind ++ "' object is not subscriptable"
  | .notASequence index =>
    "cannot convert dictionary update sequence element #" ++ toString index ++ " to a sequence"
  | .notANumber kind => "'" ++ kind ++ "' object is not a number"
  | .notWhole kind => "'" ++ kind ++ "' object cannot be interpreted as an integer"
  | .notAKey kind => "unhashable type: '" ++ kind ++ "'"
  | .notComparable kind => "'" ++ kind ++ "' object cannot be ordered among texts"
  | .noLevel => "attribute name must be string, not 'list'"
  | .arguments => "the arguments do not fit the call"

/-- The wording of a fault. -/
def Fault.message : Fault → String
  | .invalid why => why.message
  | .missingField name => Text.quote name
  | .mismatch why => why.message
  | .lacks trait => "no attribute '" ++ trait ++ "'"
  | .tooLarge => "int too large to convert to float"
  | .unknownTitle id => "Title " ++ id.inspect ++ " is not in the catalog."
  | .unknownClass id => "Member class " ++ id.inspect ++ " is not in the roster."
  | .emptyShelf title =>
    "No copies of title " ++ title.display ++
      " on the shelf. Availability must be checked before taking a copy."
  | .negativeAmount name amount => name ++ " cannot be negative, got " ++ amount.inspect ++ "."

/-- The word for the class of a fault. -/
def Fault.className : Fault → String
  | .invalid _ => "ValueError"
  | .missingField _ => "KeyError"
  | .mismatch _ => "TypeError"
  | .lacks _ => "AttributeError"
  | .tooLarge => "OverflowError"
  | .unknownTitle _ => "UnknownTitleError"
  | .unknownClass _ => "UnknownMemberClassError"
  | .emptyShelf _ => "CopyUnderflowError"
  | .negativeAmount .. => "InvalidAmountError"

/-- Whether a fault comes from the lending rules rather than from the shape of a value. -/
def Fault.isLending : Fault → Bool
  | .unknownTitle _ => true
  | .unknownClass _ => true
  | .emptyShelf _ => true
  | .negativeAmount .. => true
  | _ => false

end Circulation
