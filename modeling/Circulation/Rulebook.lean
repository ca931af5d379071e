import Circulation.Rule
/-!
# Rulebooks

A rulebook holds everything that the lending rules of one library depend on: its titles and member
classes, each in reporting order and with distinct ids, and the fee for each day late.

The key constructions are

* `assemble` : the checked constructor;
* `ofValue`, `toValue` : reading and writing a document;
* `titleRule`, `classRule` : look-up by an id of any kind;
* `feeFor` : the fine for a number of days late.
-/

namespace Circulation

/-- The rules of one library. -/
@[ext] structure Rulebook where
  titles : List TitleRule
  classes : List ClassRule
  lateFee : Nat
  titles_ne : titles ≠ []
  classes_ne : classes ≠ []
  titles_nodup : (titles.map TitleRule.id).Nodup
  classes_nodup : (classes.map ClassRule.id).Nodup
deriving DecidableEq

namespace Rulebook

/-! ## Building -/

/-- The rules among some offered entries, provided each of them is a rule; `trait` is what is asked
of an entry that is none. -/
def allRules {α : Type} (trait : String) :
    (offered : List (Option α)) → Except Fault { rules : List α // rules.length = offered.length }
  | [] => .ok ⟨[], rfl⟩
  | none :: _ => .error (.lacks trait)
  | some rule :: rest => do
    let ⟨rules, h⟩ ← allRules trait rest
    return ⟨rule :: rules, by simp [h]⟩

/-- Builds a rulebook from offered entries, some of which may be no rules.  Both lists must be
non-empty; then the titles are checked to be rules with distinct ids, then the classes, then the
fee. -/
def assemble (titles : List (Option TitleRule)) (classes : List (Option ClassRule)) (fee : Value) :
    Except Fault Rulebook :=
  if ht : titles = [] then .error (.invalid .noTitles)
  else if hc : classes = [] then .error (.invalid .noClasses)
  else do
    let ⟨titleRules, htl⟩ ← allRules "title_id" titles
    let titleIds := titleRules.map TitleRule.id
    if htd : titleIds.Nodup then
      let ⟨classRules, hcl⟩ ← allRules "member_class" classes
      let classIds := classRules.map ClassRule.id
      if hcd : classIds.Nodup then
        let fee ← Value.count (.field "late_fee_per_day") fee
        have titles_ne : titleRules ≠ [] := by
          intro h
          exact ht (List.length_eq_zero_iff.1 (by simpa [h] using htl.symm))
        have classes_ne : classRules ≠ [] := by
          intro h
          exact hc (List.length_eq_zero_iff.1 (by simpa [h] using hcl.symm))
        return ⟨titleRules, classRules, fee, titles_ne, classes_ne, htd, hcd⟩
      else .error (.invalid (.repeatedClasses classIds))
    else .error (.invalid (.repeatedTitles titleIds))

/-- The fee of a rulebook that does not name one. -/
def standardFee : Nat := 75

/-- Reads a rulebook: the titles, the member classes, and the fee if there is one. -/
def ofValue (v : Value) : Except Fault Rulebook := do
  let titles ← (← (← v.field "titles").elements).mapM TitleRule.ofValue
  let classes ← (← (← v.field "member_classes").elements).mapM ClassRule.ofValue
  let fee := (v.field? "late_fee_per_day").getD (.int standardFee)
  assemble (titles.map some) (classes.map some) fee

/-- The document of a rulebook. -/
def toValue (b : Rulebook) : Value :=
  .record
    [("late_fee_per_day", .int b.lateFee), ("titles", .list (b.titles.map TitleRule.toValue)),
      ("member_classes", .list (b.classes.map ClassRule.toValue))]

/-- The reference rulebook: three titles and two member classes. -/
def reference : Rulebook where
  titles :=
    [⟨1, "a", 3, by decide, by decide⟩, ⟨2, "b", 2, by decide, by decide⟩,
      ⟨3, "c", 1, by decide, by decide⟩]
  classes := [⟨1, 3, 2000, by decide⟩, ⟨2, 2, 2000, by decide⟩]
  lateFee := standardFee
  titles_ne := by decide
  classes_ne := by decide
  titles_nodup := by decide
  classes_nodup := by decide

/-! ## Look-up -/

/-- The title ids in reporting order. -/
def titleIds (b : Rulebook) : List Int := b.titles.map TitleRule.id

/-- The class ids in reporting order. -/
def classIds (b : Rulebook) : List Int := b.classes.map ClassRule.id

/-- The rule of the title that `id` equals; a value that can be no key equals none. -/
def titleRule (b : Rulebook) (id : Value) : Except Fault TitleRule :=
  match b.titles.find? fun rule => Value.int rule.id == id with
  | some rule => .ok rule
  | none => .error (.unknownTitle id)

/-- The rule of the member class that `id` equals; a value that can be no key equals none. -/
def classRule (b : Rulebook) (id : Value) : Except Fault ClassRule :=
  match b.classes.find? fun rule => Value.int rule.id == id with
  | some rule => .ok rule
  | none => .error (.unknownClass id)

/-! ## Fees -/

/-- The fine for a return that many days late: nothing when it is on time. -/
def feeFor (b : Rulebook) (days : Number) : Except Fault Number :=
  if days.le (.int 0) then .ok (.int 0)
  else
    match days.mul (.int b.lateFee) with
    | some fee => .ok fee
    | none => .error .tooLarge

/-! ## Text -/

/-- Written parts in parentheses; a single one is followed by a comma. -/
def groupText : List String → String
  | [part] => "(" ++ part ++ ",)"
  | parts => "(" ++ ", ".intercalate parts ++ ")"

/-- The written form of a rulebook. -/
def inspect (b : Rulebook) : String :=
  "CirculationConfig(titles=" ++ groupText (b.titles.map TitleRule.inspect) ++
    ", member_classes=" ++ groupText (b.classes.map ClassRule.inspect) ++
    ", late_fee_per_day=" ++ toString b.lateFee ++ ")"

end Rulebook

end Circulation
