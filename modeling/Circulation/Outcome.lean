import Circulation.Code
import Circulation.Snapshot
/-!
# Outcomes

An action that can be refused has exactly one outcome: the snapshot to go on with, whether the
action took effect, and its code.  A refusal never carries the code of success.

The key constructions are `check`, the constructor from values of any kind, and its three uses
`success`, `accept` and `refuse`.
-/

namespace Circulation

/-- What came of an action. -/
@[ext] structure Outcome where
  state : Snapshot
  ok : Bool
  code : Int
  coded : ok = false → code ≠ 0

namespace Outcome

/-- Builds an outcome; the snapshot is checked first, then the truth value, then the code, then that
a refusal has a code of its own. -/
def check (state : Value ⊕ Snapshot) (ok code : Value) : Except Fault Outcome :=
  match state with
  | .inl v => .error (.invalid (.notASnapshot v.kindName))
  | .inr s =>
    match ok with
    | .bool ok =>
      match code with
      | .int code =>
        if h : ok = false → code ≠ 0 then .ok ⟨s, ok, code, h⟩
        else .error (.invalid .silentRefusal)
      | _ => .error (.invalid .codeNotInteger)
    | _ => .error (.invalid .okNotTruth)

/-- Plain success. -/
def success (s : Snapshot) : Outcome := ⟨s, true, 0, fun h => Bool.noConfusion h⟩

/-- Success with a code. -/
def accept (s : Snapshot) (code : Value) : Except Fault Outcome := check (.inr s) (.bool true) code

/-- Refusal with a code. -/
def refuse (s : Snapshot) (code : Value) : Except Fault Outcome := check (.inr s) (.bool false) code

/-- The meaning of an outcome's code. -/
def meaning (o : Outcome) : Meaning := Code.decode (.int o.code)

/-- The wording of an outcome. -/
def describe (o : Outcome) : String := Code.describe o.code

/-- Every integer is accepted as the code of a success. -/
@[simp] theorem accept_int (s : Snapshot) (code : Int) :
    accept s (.int code) = .ok ⟨s, true, code, fun h => Bool.noConfusion h⟩ := by
  simp [accept, check]

/-- Every integer other than zero is accepted as the code of a refusal. -/
theorem refuse_int (s : Snapshot) {code : Int} (h : code ≠ 0) :
    refuse s (.int code) = .ok ⟨s, false, code, fun _ => h⟩ := by
  simp [refuse, check, h]

end Outcome

end Circulation
