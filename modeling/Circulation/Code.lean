import Circulation.Value.Reading
/-!
# Outcome codes

An action reports one number.  Zero is plain success; the bands above 200, 300 and 400 name a title
that is unavailable, a member class at its loan limit and one above its fine ceiling; from 1000 on
the code tells how many days late a return was.  Ids run from 1 to 99, so the bands do not meet.

The key constructions are the four builders, `decode`, which splits a code into its meaning, and
`describe`, which words it.
-/

namespace Circulation

/-- What a code means, and to whom. -/
inductive Meaning where
  | success
  | titleUnavailable (title : Number)
  | loanLimit (memberClass : Number)
  | fineCeiling (memberClass : Number)
  | returned (daysLate : Number)
  | unknown
deriving DecidableEq

namespace Meaning

/-- The name of a meaning. -/
def name : Meaning → String
  | .success => "SUCCESS"
  | .titleUnavailable _ => "TITLE_UNAVAILABLE"
  | .loanLimit _ => "LOAN_LIMIT_EXCEEDED"
  | .fineCeiling _ => "FINE_CEILING_EXCEEDED"
  | .returned _ => "RETURNED"
  | .unknown => "UNKNOWN"

/-- The title, member class or number of days that a meaning is about. -/
def subject? : Meaning → Option Number
  | .titleUnavailable n => some n
  | .loanLimit n => some n
  | .fineCeiling n => some n
  | .returned n => some n
  | _ => none

/-- The wording of a meaning; an unknown code is shown as `code`. -/
def describe (code : String) : Meaning → String
  | .success => "ok"
  | .titleUnavailable n => "title " ++ n.display ++ " unavailable"
  | .loanLimit n => "member class " ++ n.display ++ " at loan limit"
  | .fineCeiling n => "member class " ++ n.display ++ " over fine ceiling"
  | .returned n => "returned " ++ n.display ++ " day(s) late"
  | .unknown => "unknown code " ++ code

end Meaning

namespace Code

/-! ## Bands -/

/-- Where the codes of unavailable titles start. -/
def titleBase : Int := 200

/-- Where the codes of classes at their loan limit start. -/
def loanBase : Int := 300

/-- Where the codes of classes above their fine ceiling start. -/
def fineBase : Int := 400

/-- Where the codes of returns start. -/
def returnBase : Int := 1000

/-- How far apart the bands of refusals start. -/
def bandWidth : Int := 100

/-! ## Builders -/

/-- The code of an unavailable title. -/
def titleUnavailable (title : Number) : Number := title.offset titleBase

/-- The code of a member class at its loan limit. -/
def loanLimit (memberClass : Number) : Number := memberClass.offset loanBase

/-- The code of a member class above its fine ceiling. -/
def fineCeiling (memberClass : Number) : Number := memberClass.offset fineBase

/-- The code of a return. -/
def returned (daysLate : Number) : Number := daysLate.offset returnBase

/-! ## Decoding -/

/-- Whether a code lies strictly between the start of a band and the start of the next. -/
def inBand (base : Int) (code : Number) : Bool :=
  (Number.int base).lt code && code.lt (.int (base + bandWidth))

/-- The meaning of a code. -/
def decode (code : Number) : Meaning :=
  if code.same (.int 0) then .success
  else if (Number.int returnBase).le code then .returned (code.offset (-returnBase))
  else if inBand titleBase code then .titleUnavailable (code.offset (-titleBase))
  else if inBand loanBase code then .loanLimit (code.offset (-loanBase))
  else if inBand fineBase code then .fineCeiling (code.offset (-fineBase))
  else .unknown

/-- The wording of an integer code. -/
def describe (code : Int) : String := (decode (.int code)).describe (toString code)

/-- The wording of a code of any kind, which must be a number. -/
def describeValue (code : Value) : Except Fault String := do
  return (decode (← code.number)).describe code.display

end Code

end Circulation
