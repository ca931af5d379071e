import Circulation.Journal
/-!
# Peeling computations apart

Operations are computations that may fail, some of them with a log.  A computation whose first part
is known goes on with its value or stops with its fault; and one that gave a value had a first part
that gave one.

The main facts are the equations for known first parts, which `simp` uses, the two inversions
`exists_of_bind_eq_ok` and `Logged.exists_of_bind_result`, and `bind_eq_ok_iff`, which says when a
computation in two parts gives a value.
-/

namespace Circulation

/-! ## Computations that may fail -/

section

variable {ε α β : Type}

@[simp] theorem ok_bind_eq (a : α) (f : α → Except ε β) : (Except.ok a >>= f) = f a := rfl

@[simp] theorem error_bind_eq (e : ε) (f : α → Except ε β) :
    (Except.error e >>= f) = Except.error e := rfl

@[simp] theorem pure_eq_ok (a : α) : (pure a : Except ε α) = Except.ok a := rfl

@[simp] theorem map_ok_eq (f : α → β) (a : α) :
    (f <$> (Except.ok a : Except ε α)) = Except.ok (f a) := rfl

/-- A computation that gave a value had a first part that gave one. -/
theorem exists_of_bind_eq_ok {x : Except ε α} {f : α → Except ε β} {r : β}
    (h : x >>= f = .ok r) : ∃ a, x = .ok a ∧ f a = .ok r := by
  cases x with
  | error e => cases h
  | ok a => exact ⟨a, rfl, h⟩

/-- A computation gives a value exactly when its parts do, one after another. -/
theorem bind_eq_ok_iff {x : Except ε α} {f : α → Except ε β} {r : β} :
    x >>= f = .ok r ↔ ∃ a, x = .ok a ∧ f a = .ok r := by
  constructor
  · exact exists_of_bind_eq_ok
  · rintro ⟨a, rfl, h⟩
    exact h

/-- A mapped computation that gave a value gave the image of one. -/
theorem exists_of_map_eq_ok {x : Except ε α} {f : α → β} {r : β} (h : f <$> x = .ok r) :
    ∃ a, x = .ok a ∧ f a = r := by
  cases x with
  | error e => cases h
  | ok a => exact ⟨a, rfl, Except.ok.inj h⟩

end

/-! ## Computations with a log -/

namespace Logged

variable {α β : Type}

@[simp] theorem liftM_eq (r : Except Fault α) : (liftM r : Logged α) = ⟨[], r⟩ := rfl

@[simp] theorem note_bind (e : Event) (f : Unit → Logged β) :
    (note e >>= f) = ⟨e :: (f ()).log, (f ()).result⟩ := rfl

/-- A computation that gave a value had a first part that gave one. -/
theorem exists_of_bind_result {x : Logged α} {f : α → Logged β} {r : β}
    (h : (x >>= f).result = .ok r) : ∃ a, x.result = .ok a ∧ (f a).result = .ok r := by
  obtain ⟨log, result⟩ := x
  cases result with
  | error e => cases h
  | ok a => exact ⟨a, rfl, h⟩

end Logged

end Circulation
