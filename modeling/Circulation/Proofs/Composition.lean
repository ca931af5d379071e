import Circulation.Proofs.Runs
/-!
# Runs compose

A scenario in two parts is the scenario of the first part, followed by that of the second from the
snapshot that the first part reached.  A fault in the first part is the end of both.  This holds at
every place where a scenario can be cut, right before a step that fails and at either end of the list
too, and whatever the kinds of the ids and amounts.

The key construction is `Run.andThen`, one run after another.  The main facts are

* `runFrom_append` : the run of two lists of steps is one run after another;
* `unlogged_runFrom` : the numbers of the steps show in the log alone;
* `exists_split_of_fault` : a run that stops does so at one step, after a run that finishes;
* `run_composes` : the parts and the whole, field by field.
-/

namespace Circulation.Scenario

/-! ## One run after another -/

/-- The snapshot after two lists of entries. -/
theorem stateAfter_append (s : Snapshot) (xs ys : List Entry) :
    stateAfter s (xs ++ ys) = stateAfter (stateAfter s xs) ys := by
  induction xs generalizing s with
  | nil => rfl
  | cons e rest ih => exact ih e.state

namespace Run

/-- A run and then another one, which does not take place after a fault. -/
def andThen (r next : Run) : Run :=
  match r.fault with
  | some _ => r
  | none => ⟨r.entries ++ next.entries, r.report ++ next.report, r.log ++ next.log, next.fault⟩

/-- After a fault nothing follows. -/
theorem andThen_of_fault {r : Run} {f : Fault} (h : r.fault = some f) (next : Run) :
    r.andThen next = r := by
  rw [andThen, h]

/-- After a run that finished the next one follows, and how that ends is how both end. -/
theorem andThen_of_finished {r : Run} (h : r.fault = none) (next : Run) : r.andThen next =
    ⟨r.entries ++ next.entries, r.report ++ next.report, r.log ++ next.log, next.fault⟩ := by
  rw [andThen, h]

/-- The run of no steps adds nothing in front. -/
theorem empty_andThen (next : Run) : empty.andThen next = next := by
  rw [andThen_of_finished rfl]
  simp [empty]

/-- A completed step in front of two runs is one in front of the first. -/
theorem cons_andThen (entry : Entry) (text : String) (log : List Event) (rest next : Run) :
    (cons entry text log rest).andThen next = cons entry text log (rest.andThen next) := by
  cases hf : rest.fault with
  | some f =>
      have hcons : (cons entry text log rest).fault = some f := hf
      rw [andThen_of_fault hcons, andThen_of_fault hf]
  | none =>
      have hcons : (cons entry text log rest).fault = none := hf
      rw [andThen_of_finished hcons, andThen_of_finished hf]
      simp [cons, String.append_assoc]

/-- The last snapshot of a run that starts with a completed step. -/
theorem final_of_cons (s : Snapshot) (entry : Entry) (text : String) (log : List Event)
    (rest : Run) : (cons entry text log rest).final s = rest.final entry.state := by
  rw [final_eq, final_eq]
  rfl

/-- The last snapshot of two runs is that of the second, from where the first came. -/
theorem final_andThen {r : Run} (h : r.fault = none) (s : Snapshot) (next : Run) :
    (r.andThen next).final s = next.final (r.final s) := by
  rw [andThen_of_finished h, final_eq, final_eq, final_eq]
  exact stateAfter_append s r.entries next.entries

end Run

/-! ## Two lists of steps -/

section

variable (b : Rulebook) (reporting : Bool)

/-- **Runs.**  The run of two lists of steps is the run of the first, then that of the second from the
snapshot reached, with the steps numbered on. -/
theorem runFrom_append (index : Nat) (s : Snapshot) (xs ys : List Step) :
    runFrom b reporting index s (xs ++ ys) =
      (runFrom b reporting index s xs).andThen
        (runFrom b reporting (index + xs.length) ((runFrom b reporting index s xs).final s) ys) := by
  induction xs generalizing index s with
  | nil => exact (Run.empty_andThen _).symm
  | cons step rest ih =>
      rw [List.cons_append]
      rcases runFrom_cons_cases b reporting s step with ⟨f, -, hrun⟩ | ⟨e, f, -, -, -, hrun⟩ |
        ⟨e, text, -, -, -, hrun⟩
      · rw [hrun, hrun]
        exact (Run.andThen_of_fault rfl _).symm
      · rw [hrun, hrun]
        exact (Run.andThen_of_fault rfl _).symm
      · have hindex : index + (step :: rest).length = index + 1 + rest.length := by
          rw [List.length_cons]
          omega
        rw [hrun, hrun, Run.cons_andThen, Run.final_of_cons, ih (index + 1) e.state, hindex]

/-- A run without its log. -/
def Run.unlogged (r : Run) : Run := { r with log := [] }

/-- The numbers of the steps show in the log alone. -/
theorem unlogged_runFrom (i j : Nat) (s : Snapshot) (steps : List Step) :
    (runFrom b reporting i s steps).unlogged = (runFrom b reporting j s steps).unlogged := by
  induction steps generalizing i j s with
  | nil => rfl
  | cons step rest ih =>
      rcases runFrom_cons_cases b reporting s step with ⟨f, -, hrun⟩ | ⟨e, f, -, -, -, hrun⟩ |
        ⟨e, text, -, -, -, hrun⟩
      · rw [hrun, hrun]
      · rw [hrun, hrun]
        rfl
      · have hrest := ih (i + 1) (j + 1) e.state
        simp only [Run.unlogged, Run.mk.injEq] at hrest
        rw [hrun, hrun]
        simp only [Run.unlogged, Run.cons, hrest.1, hrest.2.1, hrest.2.2.2]

/-- **Where a run stops.**  A run with a fault has a first part that finishes, and one step more
brings the fault; what comes after that step does not matter. -/
theorem exists_split_of_fault {b : Rulebook} {reporting : Bool} {index : Nat} {s : Snapshot}
    {steps : List Step} {f : Fault} (h : (runFrom b reporting index s steps).fault = some f) :
    ∃ done step rest, steps = done ++ step :: rest ∧
      (runFrom b reporting index s done).fault = none ∧
      (runFrom b reporting (index + done.length)
        ((runFrom b reporting index s done).final s) [step]).fault = some f := by
  induction steps generalizing index s with
  | nil => cases h
  | cons step rest ih =>
      have hsplit := runFrom_append b reporting index s [step] rest
      rw [List.singleton_append] at hsplit
      cases hone : (runFrom b reporting index s [step]).fault with
      | some e =>
          rw [hsplit, Run.andThen_of_fault hone] at h
          exact ⟨[], step, rest, rfl, rfl, h⟩
      | none =>
          -- The first step is done; the fault comes in the rest, numbered from one more.
          rw [hsplit, Run.andThen_of_finished hone] at h
          obtain ⟨done, last, rest', rfl, hdone, hlast⟩ := ih h
          have hcons := runFrom_append b reporting index s [step] done
          have hindex : index + (step :: done).length = index + [step].length + done.length := by
            simp only [List.length_cons, List.length_nil]
            omega
          rw [List.singleton_append] at hcons
          refine ⟨step :: done, last, rest', rfl, ?_, ?_⟩
          · rw [hcons, Run.andThen_of_finished hone]
            exact hdone
          · rw [hindex, hcons, Run.final_andThen hone]
            exact hlast

end

/-- **Scenarios compose.**  When the first part stops with a fault, the whole scenario is the first
part: the same fault, entries, report and log.  When it finishes, the whole scenario ends as the
second part does from the snapshot reached, finished or with the same fault; its entries, outcomes and
refusals are those of the two parts in order, its report is the two reports in order, up to a fault if
there is one, and the last snapshot is that of the second part. -/
theorem run_composes (b : Rulebook) (reporting : Bool) (s : Snapshot) (xs ys : List Step) :
    let first := run b reporting s xs
    let reached := first.final s
    let second := run b reporting reached ys
    let whole := run b reporting s (xs ++ ys)
    (first.fault ≠ none → whole = first) ∧
    (first.fault = none →
      whole.fault = second.fault ∧
      whole.entries = first.entries ++ second.entries ∧
      whole.final s = second.final reached ∧
      whole.outcomes = first.outcomes ++ second.outcomes ∧
      whole.refusals = first.refusals ++ second.refusals ∧
      whole.report = first.report ++ second.report) := by
  intro first reached second whole
  have happend := runFrom_append b reporting 0 s xs ys
  refine ⟨fun hfault => ?_, fun hfault => ?_⟩
  · obtain ⟨f, hf⟩ := Option.ne_none_iff_exists'.1 hfault
    have hf' : (runFrom b reporting 0 s xs).fault = some f := hf
    rw [Run.andThen_of_fault hf'] at happend
    show run b reporting s (xs ++ ys) = run b reporting s xs
    rw [run, happend, run]
  · have hf' : (runFrom b reporting 0 s xs).fault = none := hfault
    rw [Run.andThen_of_finished hf'] at happend
    -- The second part is numbered from zero when it stands alone, which only its log can show.
    have halone := unlogged_runFrom b reporting (0 + xs.length) 0 reached ys
    simp only [Run.unlogged, Run.mk.injEq] at halone
    obtain ⟨hentries, hreport, -, hend⟩ := halone
    have hwhole : whole.entries = first.entries ++ second.entries :=
      (congrArg Run.entries happend).trans (congrArg (first.entries ++ ·) hentries)
    refine ⟨(congrArg Run.fault happend).trans hend, hwhole, ?_, ?_, ?_,
      (congrArg Run.report happend).trans (congrArg (first.report ++ ·) hreport)⟩
    · rw [Run.final_eq, hwhole, stateAfter_append, ← Run.final_eq, ← Run.final_eq]
    · rw [Run.outcomes, hwhole, List.filterMap_append]
      rfl
    · rw [Run.refusals, Run.outcomes, hwhole, List.filterMap_append, List.filter_append]
      rfl

/-- A report, a loan and a refusal. -/
def openingSteps : List Step :=
  [.report, .checkout (.int 1) (.int 3), .checkout (.int 2) (.int 3)]

/-- A return, a report, and a request for a title that the reference rulebook does not have. -/
def brokenSteps : List Step :=
  [.giveBack (.int 1) (.int 3) (.int 2), .report, .checkout (.int 2) (.int 77), .report]

/-- The second part stops right after its report, and so does the whole; with the parts the other way
round nothing comes after the fault. -/
theorem run_composes_brokenSteps :
    let b := Rulebook.reference
    let s := Shelf.opening b
    let first := run b true s openingSteps
    let second := run b true (first.final s) brokenSteps
    let whole := run b true s (openingSteps ++ brokenSteps)
    let stopped := run b true s brokenSteps
    first.fault = none ∧ second.fault = some (.unknownTitle (.int 77)) ∧
    whole.fault = second.fault ∧ whole.report = first.report ++ second.report ∧
    whole.refusals = first.refusals ++ second.refusals ∧
    stopped.fault ≠ none ∧ run b true s (brokenSteps ++ openingSteps) = stopped := by
  intro b s first second whole stopped
  have hfirst : first.fault = none := rfl
  have hsecond : second.fault = some (.unknownTitle (.int 77)) := by cbv
  have hstopped : stopped.fault ≠ none := by
    rw [show stopped.fault = some (.unknownTitle (.int 77)) by cbv]
    exact Option.some_ne_none _
  obtain ⟨hend, -, -, -, hrefusals, hreport⟩ :=
    (run_composes b true s openingSteps brokenSteps).2 hfirst
  exact ⟨hfirst, hsecond, hend, hreport, hrefusals, hstopped,
    (run_composes b true s brokenSteps openingSteps).1 hstopped⟩

end Circulation.Scenario
