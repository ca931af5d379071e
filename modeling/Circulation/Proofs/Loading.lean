import Circulation.Proofs.RulebookFormat
import Circulation.Rulebook.Load
/-!
# Loading contains every fault

A rulebook is read from a value before anything is known about its shape: fields are fetched, lists
are gone through and missing fields are filled in, at every depth.  Whatever the value is, reading
fails in three ways only: something is unacceptable, a field is missing, or a value is of the wrong
kind.  In particular nothing is ever asked of a value that it does not have: a field with a
substitute is looked up only in what has already turned out to be a mapping, and ids are only read
off rules.  So everything that can go wrong with a file becomes a load error.

The key constructions are

* `Fault.OfReading` : the three kinds of faults;
* `FailsAs` : a computation that fails with faults of some kind only;
* `Value.ask`, `Rulebook.ofValueAsking` : reading that asks for fields with a substitute whatever the
  value is, and fails when it is no mapping;
* `Rulebook.Explains` : what the content of a file is like for each cause of a load error.

The main facts are

* `FailsAs.bind`, `FailsAs.mapM` : the kind of faults is that of the parts;
* `Rulebook.failsAs_ofValue` : reading a rulebook fails in three ways only;
* `Rulebook.ofValueAsking_eq` : no substitute is asked of anything but a mapping;
* `Rulebook.load_contains_faults` : loading gives a rulebook or a load error.
-/

namespace Circulation

/-! ## Kinds of faults -/

/-- A fault of reading: something unacceptable, a missing field, or a value of the wrong kind. -/
inductive Fault.OfReading : Fault → Prop
  | invalid (why : Invalid) : OfReading (.invalid why)
  | missingField (name : String) : OfReading (.missingField name)
  | mismatch (why : Mismatch) : OfReading (.mismatch why)

/-- The words for the faults of reading. -/
theorem Fault.OfReading.className_mem {f : Fault} (h : f.OfReading) :
    f.className ∈ ["KeyError", "TypeError", "ValueError"] := by
  cases h with
  | invalid why => exact List.mem_of_getElem? (i := 2) rfl
  | missingField name => exact List.mem_of_getElem? (i := 0) rfl
  | mismatch why => exact List.mem_of_getElem? (i := 1) rfl

/-- The faults of reading are reported as load errors. -/
theorem Fault.OfReading.isContained {f : Fault} (h : f.OfReading) : f.isContained = true := by
  cases h <;> rfl

/-- The computation fails with faults of the kind `P` only. -/
def FailsAs {α : Type} (P : Fault → Prop) (x : Except Fault α) : Prop := ∀ f, x = .error f → P f

namespace FailsAs

variable {α β : Type} {P : Fault → Prop}

/-- A value is no fault. -/
theorem ok (a : α) : FailsAs P (.ok a) := by
  rintro f ⟨⟩

/-- A fault of the kind. -/
theorem error {f : Fault} (h : P f) : FailsAs P (.error f : Except Fault α) := by
  rintro g ⟨⟩
  exact h

/-- Two parts that fail in a way fail in that way together. -/
theorem bind {x : Except Fault α} {g : α → Except Fault β} (hx : FailsAs P x)
    (hg : ∀ a, FailsAs P (g a)) : FailsAs P (x >>= g) := by
  cases x with
  | error f => exact error (hx f rfl)
  | ok a => exact hg a

/-- What is done with a value afterwards adds no faults. -/
theorem map {x : Except Fault α} (hx : FailsAs P x) (g : α → β) : FailsAs P (g <$> x) := by
  cases x with
  | error f => exact error (hx f rfl)
  | ok a => exact ok (g a)

/-- A list of parts that fail in a way fails in that way. -/
theorem mapM {g : α → Except Fault β} (hg : ∀ a, FailsAs P (g a)) (items : List α) :
    FailsAs P (items.mapM g) := by
  induction items with
  | nil => exact ok []
  | cons a rest ih =>
      rw [List.mapM_cons]
      exact bind (hg a) fun r => bind ih fun rs => ok (r :: rs)

end FailsAs

/-! ## Readers -/

namespace Value

open Fault.OfReading

/-- Fetching a field fails where there is none, or where there are no fields. -/
theorem failsAs_field (name : String) (v : Value) : FailsAs Fault.OfReading (v.field name) := by
  cases v with
  | mapping entries =>
      rw [field]
      cases entries.lookup (.text name) with
      | some w => exact .ok w
      | none => exact .error (missingField name)
  | null | bool | int | float | text | list => exact .error (mismatch _)

/-- Going through a value fails where it has no elements. -/
theorem failsAs_elements (v : Value) : FailsAs Fault.OfReading v.elements := by
  cases v with
  | list | text | mapping => exact .ok _
  | null | bool | int | float => exact .error (mismatch _)

/-- Checking a count fails where the value is none. -/
theorem failsAs_count (subject : Subject) (v : Value) :
    FailsAs Fault.OfReading (v.count subject) := by
  cases v with
  | int n =>
      rw [count]
      split_ifs
      · exact .ok _
      · exact .error (invalid _)
  | null | bool | float | text | list | mapping => exact .error (invalid _)

/-- Checking an id fails where the value is none. -/
theorem failsAs_entityId (name : String) (v : Value) :
    FailsAs Fault.OfReading (v.entityId name) := by
  cases v with
  | int n =>
      rw [entityId]
      split_ifs
      · exact .ok _
      · exact .error (invalid _)
  | null | bool | float | text | list | mapping => exact .error (invalid _)

/-- The field named `name`, or the substitute in a mapping without it; what is no mapping cannot be
asked. -/
def ask (v : Value) (name : String) (substitute : Value) : Except Fault Value :=
  match v with
  | .mapping entries => .ok ((entries.lookup (.text name)).getD substitute)
  | _ => .error (.lacks "get")

/-- What has a field can be asked for others. -/
theorem ask_of_field {v w : Value} {known : String} (h : v.field known = .ok w) (name : String)
    (substitute : Value) : v.ask name substitute = .ok ((v.field? name).getD substitute) := by
  cases v with
  | mapping entries => rfl
  | null | bool | int | float | text | list => cases h

end Value

namespace TitleRule

/-- Checking a label fails where the value is none. -/
theorem failsAs_checkLabel (v : Value) : FailsAs Fault.OfReading (checkLabel v) := by
  cases v with
  | text s =>
      rw [checkLabel]
      split_ifs
      · exact .ok _
      · exact .error (.invalid _)
  | null | bool | int | float | list | mapping => exact .error (.invalid _)

/-- Reading a title rule fails in three ways only. -/
theorem failsAs_ofValue (v : Value) : FailsAs Fault.OfReading (ofValue v) := by
  refine .bind (v.failsAs_field _) fun id => .bind (v.failsAs_field _) fun copies => ?_
  refine .bind (Value.failsAs_entityId _ _) fun id => ?_
  refine .bind (failsAs_checkLabel _) fun label => ?_
  exact .bind (Value.failsAs_count _ _) fun copies => .ok _

/-- Reads a title rule, asking for the label whatever the value is. -/
def ofValueAsking (v : Value) : Except Fault TitleRule := do
  let id ← v.field "title_id"
  let label ← v.ask "label" (.text id.display)
  let copies ← v.field "initial_copies"
  make id label copies

/-- A label is only asked of a mapping. -/
theorem ofValueAsking_eq (v : Value) : ofValueAsking v = ofValue v := by
  rw [ofValueAsking, ofValue]
  cases hid : v.field "title_id" with
  | error f => rfl
  | ok id => simp only [ok_bind_eq, Value.ask_of_field hid]

end TitleRule

/-- Reading a class rule fails in three ways only. -/
theorem ClassRule.failsAs_ofValue (v : Value) : FailsAs Fault.OfReading (ofValue v) := by
  refine .bind (v.failsAs_field _) fun id => .bind (v.failsAs_field _) fun loanLimit => ?_
  refine .bind (v.failsAs_field _) fun fineCeiling => ?_
  refine .bind (Value.failsAs_entityId _ _) fun id => ?_
  refine .bind (Value.failsAs_count _ _) fun loanLimit => ?_
  exact .bind (Value.failsAs_count _ _) fun fineCeiling => .ok _

namespace Rulebook

/-- Assembling rules fails in three ways only: ids are read off nothing but rules. -/
theorem failsAs_assemble (titles : List TitleRule) (classes : List ClassRule) (fee : Value) :
    FailsAs Fault.OfReading (assemble (titles.map some) (classes.map some) fee) := by
  by_cases ht : titles = []
  · rw [assemble, dif_pos (List.map_eq_nil_iff.2 ht)]
    exact .error (.invalid _)
  by_cases hc : classes = []
  · rw [assemble, dif_neg (List.map_eq_nil_iff.not.2 ht), dif_pos (List.map_eq_nil_iff.2 hc)]
    exact .error (.invalid _)
  by_cases htd : (titles.map TitleRule.id).Nodup
  · by_cases hcd : (classes.map ClassRule.id).Nodup
    · rw [assemble_of_nodup ht hc htd hcd]
      exact .map (Value.failsAs_count _ fee) _
    · simp only [assemble, List.map_eq_nil_iff, ht, hc, htd, hcd, allRules_map_some, ok_bind_eq,
        dif_neg, dif_pos, not_false_eq_true]
      exact .error (.invalid _)
  · simp only [assemble, List.map_eq_nil_iff, ht, hc, htd, allRules_map_some, ok_bind_eq, dif_neg,
      not_false_eq_true]
    exact .error (.invalid _)

/-- **Reading** a rulebook fails in three ways only, whatever the value is. -/
theorem failsAs_ofValue (v : Value) : FailsAs Fault.OfReading (ofValue v) := by
  refine .bind (v.failsAs_field _) fun w => .bind w.failsAs_elements fun items => ?_
  refine .bind (.mapM TitleRule.failsAs_ofValue items) fun titles => ?_
  refine .bind (v.failsAs_field _) fun w => .bind w.failsAs_elements fun items => ?_
  refine .bind (.mapM ClassRule.failsAs_ofValue items) fun classes => ?_
  exact failsAs_assemble titles classes _

/-- Reads a rulebook, asking for labels and for the fee whatever the values are. -/
def ofValueAsking (v : Value) : Except Fault Rulebook := do
  let titles ← (← (← v.field "titles").elements).mapM TitleRule.ofValueAsking
  let classes ← (← (← v.field "member_classes").elements).mapM ClassRule.ofValue
  let fee ← v.ask "late_fee_per_day" (.int standardFee)
  assemble (titles.map some) (classes.map some) fee

/-- **Asking.**  Labels and fees are only asked of mappings. -/
theorem ofValueAsking_eq (v : Value) : ofValueAsking v = ofValue v := by
  have htitles : TitleRule.ofValueAsking = TitleRule.ofValue := funext TitleRule.ofValueAsking_eq
  rw [ofValueAsking, ofValue, htitles]
  cases hfield : v.field "titles" with
  | error f => rfl
  | ok w => simp only [ok_bind_eq, Value.ask_of_field hfield]

/-! ## Files -/

/-- What the content of a file is like for each cause of a load error. -/
inductive Explains (content : Except ReadError (List UInt8)) : LoadCause → Prop
  | unreadable {e : ReadError} (read : content = .error e) : Explains content (.unreadable e)
  | undecodable {octets : List UInt8} {e : Text.Utf8Error} (read : content = .ok octets)
      (decoded : Text.decode octets = .error e) : Explains content (.undecodable e)
  | malformed {octets : List UInt8} {chars : List Char} {message : String}
      (read : content = .ok octets) (decoded : Text.decode octets = .ok chars)
      (parsed : Json.parse (Text.normalizeBreaks chars) = .error message) :
      Explains content (.malformed message)
  | notAnObject {v : Value} (parsed : parseContent content = .ok v)
      (shape : ∀ entries, v ≠ .mapping entries) : Explains content .notAnObject
  | unfit {entries : List (Value × Value)} {f : Fault}
      (parsed : parseContent content = .ok (.mapping entries))
      (fault : ofValue (.mapping entries) = .error f) (kind : f.OfReading) :
      Explains content (.unfit f)

variable {content : Except ReadError (List UInt8)}

/-- Content without a value is unreadable, undecodable or malformed. -/
theorem explains_of_parseContent {cause : LoadCause} (h : parseContent content = .error cause) :
    Explains content cause := by
  rw [parseContent] at h
  cases hread : content with
  | error e =>
      rw [hread] at h
      cases h
      exact .unreadable rfl
  | ok octets =>
      rw [hread] at h
      cases hdecoded : Text.decode octets with
      | error e =>
          simp only [Except.mapError, hdecoded, ok_bind_eq, error_bind_eq] at h
          cases h
          exact .undecodable rfl hdecoded
      | ok chars =>
          simp only [Except.mapError, hdecoded, ok_bind_eq] at h
          cases hparsed : Json.parse (Text.normalizeBreaks chars) with
          | ok v =>
              rw [hparsed] at h
              cases h
          | error message =>
              rw [hparsed] at h
              cases h
              exact .malformed rfl hdecoded hparsed

/-- The rulebook in some content is read from its object; content without one has a cause. -/
theorem ofContent_cases (content : Except ReadError (List UInt8)) :
    (∃ entries b, parseContent content = .ok (.mapping entries) ∧
      ofValue (.mapping entries) = .ok b ∧ ofContent content = .ok b) ∨
    ∃ cause, Explains content cause ∧ ofContent content = .error cause := by
  rw [ofContent]
  cases hparsed : parseContent content with
  | error cause => exact .inr ⟨cause, explains_of_parseContent hparsed, rfl⟩
  | ok v =>
      cases v with
      | mapping entries =>
          cases hread : ofValue (.mapping entries) with
          | ok b => exact .inl ⟨entries, b, rfl, hread, by simp [hread, Except.mapError]⟩
          | error f =>
              refine .inr ⟨.unfit f, .unfit hparsed hread (failsAs_ofValue _ f hread), ?_⟩
              simp [hread, Except.mapError]
      | null | bool | int | float | text | list =>
          exact .inr ⟨.notAnObject, .notAnObject hparsed (fun entries => by simp), rfl⟩

/-- What is explained is reported as a load error. -/
theorem load_of_explains (path : Path) {cause : LoadCause} (hcause : Explains content cause)
    (h : ofContent content = .error cause) :
    load path content = ⟨[], .error (.refused ⟨path, cause⟩)⟩ := by
  rw [load, h]
  cases hcause with
  | unfit parsed fault kind => simp only [kind.isContained, if_true]
  | unreadable | undecodable | malformed | notAnObject => rfl

/-- **Loading contains every fault.**  Every value is read as a rulebook or fails with one of three
classes of faults, and nothing is asked of a value that it does not have.  Every content of a file is
loaded as the rulebook of the object in it, or there is a load error with the path and the cause, which
is that of the content; no other fault gets out. -/
theorem load_contains_faults :
    (∀ v, (∃ b, ofValue v = .ok b) ∨
      ∃ f, ofValue v = .error f ∧ f.className ∈ ["KeyError", "TypeError", "ValueError"]) ∧
    (∀ v, ofValueAsking v = ofValue v) ∧
    ∀ path content,
      (∃ entries b, parseContent content = .ok (.mapping entries) ∧
        ofValue (.mapping entries) = .ok b ∧
        load path content = ⟨[.loaded path.text b.titles.length b.classes.length], .ok b⟩) ∨
      ∃ cause, Explains content cause ∧
        load path content = ⟨[], .error (.refused ⟨path, cause⟩)⟩ := by
  refine ⟨fun v => ?_, ofValueAsking_eq, fun path content => ?_⟩
  · cases hread : ofValue v with
    | ok b => exact .inl ⟨b, rfl⟩
    | error f => exact .inr ⟨f, rfl, (failsAs_ofValue v f hread).className_mem⟩
  · rcases ofContent_cases content with ⟨entries, b, hparsed, hread, hok⟩ | ⟨cause, hcause, herror⟩
    · exact .inl ⟨entries, b, hparsed, hread, by rw [load, hok]⟩
    · exact .inr ⟨cause, hcause, load_of_explains path hcause herror⟩

end Rulebook

end Circulation
