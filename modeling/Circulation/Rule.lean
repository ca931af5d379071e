import Circulation.Value.Reading
/-!
# Rules for titles and member classes

A title rule gives a title its id, the label under which it is reported and its starting number of
copies.  A class rule gives a member class its id, the number of loans at which it may borrow no
more and the amount of fines above which it may not borrow.  Ids run from 1 to 99; labels are not
empty.

Each rule is built from values of any kind (`make`), read from a document (`ofValue`) and written to
one (`toValue`).  The main facts are the round trips

* `TitleRule.ofValue_toValue`, `ClassRule.ofValue_toValue`.
-/

namespace Circulation

/-! ## Titles -/

/-- A title of the catalog. -/
@[ext] structure TitleRule where
  id : Int
  label : String
  copies : Nat
  id_range : 1 ≤ id ∧ id ≤ 99
  label_ne : label ≠ ""
deriving DecidableEq

namespace TitleRule

/-- A label: a text that is not empty. -/
def checkLabel : Value → Except Fault { s : String // s ≠ "" }
  | .text s => if h : s ≠ "" then .ok ⟨s, h⟩ else .error (.invalid .emptyLabel)
  | _ => .error (.invalid .emptyLabel)

/-- Builds a title rule; the id is checked first, then the label, then the copies. -/
def make (id label copies : Value) : Except Fault TitleRule := do
  let ⟨id, hid⟩ ← Value.entityId "title_id" id
  let ⟨label, hlabel⟩ ← checkLabel label
  let copies ← Value.count (.field "initial_copies") copies
  return ⟨id, label, copies, hid, hlabel⟩

/-- Reads a title rule; a missing label is the written form of the id.  All fields are fetched
before any of them is checked. -/
def ofValue (v : Value) : Except Fault TitleRule := do
  let id ← v.field "title_id"
  let label := (v.field? "label").getD (.text id.display)
  let copies ← v.field "initial_copies"
  make id label copies

/-- The document of a title rule. -/
def toValue (r : TitleRule) : Value :=
  .record [("title_id", .int r.id), ("label", .text r.label), ("initial_copies", .int r.copies)]

/-- The written form of a title rule. -/
def inspect (r : TitleRule) : String :=
  "TitleRule(title_id=" ++ toString r.id ++ ", label=" ++ Text.quote r.label ++
    ", initial_copies=" ++ toString r.copies ++ ")"

/-- The parts of a title rule build it again. -/
theorem make_parts (r : TitleRule) : make (.int r.id) (.text r.label) (.int r.copies) = .ok r := by
  simp [make, Value.entityId, checkLabel, r.id_range, r.label_ne, bind, Except.bind, pure,
    Except.pure]

/-- A title rule is read back from its document. -/
theorem ofValue_toValue (r : TitleRule) : ofValue r.toValue = .ok r := by
  have hmake := make_parts r
  simpa [ofValue, toValue, Value.record, Value.field, Value.field?, List.lookup_cons,
    Value.text_beq_text, bind, Except.bind] using hmake

end TitleRule

/-! ## Member classes -/

/-- The borrowing rules of a member class. -/
@[ext] structure ClassRule where
  id : Int
  loanLimit : Nat
  fineCeiling : Nat
  id_range : 1 ≤ id ∧ id ≤ 99
deriving DecidableEq

namespace ClassRule

/-- Builds a class rule; the id is checked first, then the limit, then the ceiling. -/
def make (id loanLimit fineCeiling : Value) : Except Fault ClassRule := do
  let ⟨id, hid⟩ ← Value.entityId "member_class" id
  let loanLimit ← Value.count (.field "loan_limit") loanLimit
  let fineCeiling ← Value.count (.field "fine_ceiling") fineCeiling
  return ⟨id, loanLimit, fineCeiling, hid⟩

/-- Reads a class rule.  All fields are fetched before any of them is checked. -/
def ofValue (v : Value) : Except Fault ClassRule := do
  let id ← v.field "member_class"
  let loanLimit ← v.field "loan_limit"
  let fineCeiling ← v.field "fine_ceiling"
  make id loanLimit fineCeiling

/-- The document of a class rule. -/
def toValue (r : ClassRule) : Value :=
  .record
    [("member_class", .int r.id), ("loan_limit", .int r.loanLimit),
      ("fine_ceiling", .int r.fineCeiling)]

/-- The written form of a class rule. -/
def inspect (r : ClassRule) : String :=
  "MemberClassRule(member_class=" ++ toString r.id ++ ", loan_limit=" ++ toString r.loanLimit ++
    ", fine_ceiling=" ++ toString r.fineCeiling ++ ")"

/-- The parts of a class rule build it again. -/
theorem make_parts (r : ClassRule) :
    make (.int r.id) (.int r.loanLimit) (.int r.fineCeiling) = .ok r := by
  simp [make, Value.entityId, r.id_range, bind, Except.bind, pure, Except.pure]

/-- A class rule is read back from its document. -/
theorem ofValue_toValue (r : ClassRule) : ofValue r.toValue = .ok r := by
  have hmake := make_parts r
  simpa [ofValue, toValue, Value.record, Value.field, List.lookup_cons, Value.text_beq_text, bind,
    Except.bind] using hmake

end ClassRule

end Circulation
