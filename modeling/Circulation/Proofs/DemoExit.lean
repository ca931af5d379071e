import Circulation.CommandLine.Demo
import Circulation.Proofs.Documents
import Circulation.Proofs.Isolation
import Circulation.Proofs.LendingLimits
import Circulation.Proofs.Stopping
/-!
# Which rulebooks suit the reference scenario

The demo command runs the reference scenario under a rulebook from a file.  The scenario asks for
titles 1, 2 and 3 in the name of classes 1 and 2, and a rulebook need not have them all.  Title 1 and
both classes are always looked at.  Titles 2 and 3 are not: each of them is asked for once, and a class
at its loan limit is refused before its title is looked up.  Whether it is at its limit depends on what
the first two checkouts have lent, that is, on the limits and on the copies of title 1.

So the scenario is followed symbolically, with two numbers: what class 1 has borrowed after its first
checkout, and what class 2 has.  No other step before the last checkout touches the loans of class 1.

The key constructions are

* `Finishes` : some steps can be carried out one after another;
* `taken` : the copies that a checkout takes, none or one;
* `Names`, `Suits` : the rules that the scenario depends on, and the condition on them;
* `CommandLine.Opens` : the command loads a rulebook from the file that its arguments name.

The main facts are

* `finishes_append_iff` : steps that were carried out can be left out;
* `offends_checkout_iff` : a checkout stops a run when its title is unknown and its class may borrow;
* `finishes_demo_iff` : the reference scenario can be carried out exactly when the rulebook suits it;
* `CommandLine.demo_exit_iff_suits` : the exit codes of the demo command.
-/

namespace Circulation.Scenario

open Desk

/-! ## Steps that can all be carried out -/

/-- The steps can be carried out one after another from `s`. -/
def Finishes (b : Rulebook) (s : Snapshot) (steps : List Step) : Prop :=
  ∃ entries, Follows b s entries ∧ entries.map Entry.step = steps

section

variable {b : Rulebook} {s : Snapshot} {e : Entry} {entries : List Entry} {step : Step}

/-- A step completes in one way. -/
theorem Completes.unique {e' : Entry} (h : Completes b s e) (h' : Completes b s e')
    (hstep : e'.step = e.step) : e' = e := by
  have happly := apply_of_completes h'
  rw [hstep, apply_of_completes h] at happly
  obtain ⟨step, state, outcome⟩ := e
  obtain ⟨step', state', outcome'⟩ := e'
  cases happly
  cases hstep
  rfl

/-- A first step that completes can be left out. -/
theorem finishes_cons_iff (h : Completes b s e) (rest : List Step) :
    Finishes b s (e.step :: rest) ↔ Finishes b e.state rest := by
  constructor
  · rintro ⟨entries, hfollows, hsteps⟩
    cases hfollows with
    | nil => cases hsteps
    | cons first next =>
        obtain ⟨hstep, hrest⟩ := List.cons.inj hsteps
        cases h.unique first hstep
        exact ⟨_, next, hrest⟩
  · rintro ⟨entries, hfollows, rfl⟩
    exact ⟨e :: entries, .cons h hfollows, rfl⟩

/-- **Steps that were carried out** can be left out. -/
theorem finishes_append_iff (h : Follows b s entries) (rest : List Step) :
    Finishes b s (entries.map Entry.step ++ rest) ↔ Finishes b (stateAfter s entries) rest := by
  induction h with
  | nil s => exact Iff.rfl
  | cons first _ ih => exact (finishes_cons_iff first _).trans ih

/-- Nothing follows a step that offends. -/
theorem not_finishes_of_offends (hfit : s.Fits b) {f : Fault} (h : Offends b s step f)
    (rest : List Step) : ¬ Finishes b s (step :: rest) := by
  rintro ⟨entries, hfollows, hsteps⟩
  cases hfollows with
  | nil => cases hsteps
  | cons first _ =>
      obtain ⟨rfl, -⟩ := List.cons.inj hsteps
      exact not_offends_of_completes hfit first h

/-- Entries that follow one another are the first ones of every run that begins with their steps. -/
theorem prefix_runFrom (reporting : Bool) (index : Nat) (hfit : s.Fits b)
    (h : Follows b s entries) (rest : List Step) :
    entries <+: (runFrom b reporting index s (entries.map Entry.step ++ rest)).entries := by
  induction h generalizing index with
  | nil s => exact List.nil_prefix
  | @cons s e _ first _ ih =>
      have hfit' : e.state.Fits b := hfit.of_kept (rebuilds_of_completes first).kept
      obtain ⟨text, htext⟩ := exists_reportText hfit' reporting
      rw [List.map_cons, List.cons_append, runFrom, apply_of_completes first]
      simp only [htext]
      exact (List.prefix_cons_inj e).2 (ih (index + 1) hfit')

/-- The same for a whole scenario, which adds nothing but a note. -/
theorem prefix_run (reporting : Bool) (hfit : s.Fits b) (h : Follows b s entries)
    (rest : List Step) :
    entries <+: (run b reporting s (entries.map Entry.step ++ rest)).entries :=
  prefix_runFrom reporting 0 hfit h rest

/-- A run has no fault exactly when its steps can be carried out. -/
theorem finished_iff (reporting : Bool) {steps : List Step} (hfit : s.Fits b)
    (hw : ∀ step ∈ steps, step.Whole) :
    (run b reporting s steps).fault = none ↔ Finishes b s steps := by
  constructor
  · intro hfault
    exact ⟨_, follows_run hw, steps_of_finished hfault⟩
  · rintro ⟨entries, hfollows, rfl⟩
    have hle := (prefix_run reporting hfit hfollows []).length_le
    rw [List.append_nil] at hle
    have hends : Ends b s (entries.map Entry.step) (run b reporting s (entries.map Entry.step)) :=
      ends_run hfit hw
    cases hends with
    | finished fault _ => exact fault
    | stopped _ split _ =>
        -- There would be more steps than entries.
        have hlen := congrArg List.length split
        simp only [List.length_append, List.length_map, List.length_cons] at hlen
        omega

/-- A step that does not offend completes. -/
theorem exists_completes (hfit : s.Fits b) (hw : step.Whole) (hclear : ∀ f, ¬ Offends b s step f) :
    ∃ e, Completes b s e ∧ e.step = step ∧ e.state.Fits b := by
  rcases completes_or_offends hfit hw with ⟨e, he, hstep⟩ | ⟨f, hoff⟩
  · exact ⟨e, he, hstep, hfit.of_kept (rebuilds_of_completes he).kept⟩
  · exact absurd hoff (hclear f)

end

/-! ## Checkouts -/

/-- The copies that a checkout takes from the shelf: one if the class is below its limit and there is
one, and else none. -/
def taken (rule : ClassRule) (loans copies : Nat) : Nat :=
  if loans < rule.loanLimit ∧ 0 < copies then 1 else 0

section

variable {b : Rulebook} {s : Snapshot} {e : Entry} {m t : Int} {rule : ClassRule}
  {loans fines copies : Nat}

/-- A class with a standing is one of the rulebook's. -/
theorem mem_classIds_of_standing (h : Standing b s m rule loans fines) : m ∈ b.classIds :=
  Rulebook.exists_classRule_iff.1 ⟨rule, h.rule_eq⟩

/-- **When a checkout stops a run.**  For a class of the rulebook with no fines above its ceiling this
is when the title is unknown, and the class is below its limit: at its limit it would be refused
before the title is looked up. -/
theorem offends_checkout_iff (hst : Standing b s m rule loans fines)
    (hfines : fines ≤ rule.fineCeiling) :
    (∃ f, Offends b s (.checkout (.int m) (.int t)) f) ↔
      ¬ (t ∈ b.titleIds ∨ rule.loanLimit ≤ loans) := by
  rw [not_or, Nat.not_le]
  constructor
  · rintro ⟨f, hoff⟩
    cases hoff with
    | checkoutClass unknown => exact absurd (mem_classIds_of_standing hst) unknown
    | checkoutTitle eligible unknown =>
        obtain ⟨rule', loans', fines', hst', hlimit, -⟩ := eligible
        obtain ⟨rfl, rfl, -⟩ := hst.unique hst'
        exact ⟨unknown, hlimit⟩
  · rintro ⟨unknown, hlimit⟩
    exact ⟨_, .checkoutTitle ⟨rule, loans, fines, hst, hlimit, hfines⟩ unknown⟩

/-- A checkout of a known title takes what it takes from the shelf to the loans of the class. -/
theorem standing_of_checkout (h : Completes b s e) (hstep : e.step = .checkout (.int m) (.int t))
    (hst : Standing b s m rule loans fines) (hfines : fines ≤ rule.fineCeiling)
    (hc : s.copies.get? t = some copies) :
    Standing b e.state m rule (loans + taken rule loans copies) fines ∧
      e.state.copies.get? t = some (copies - taken rule loans copies) := by
  cases h with
  | granted eligible loans_eq copies_eq pos =>
      cases hstep
      cases loans_eq.symm.trans hst.loans_eq
      cases copies_eq.symm.trans hc
      obtain ⟨rule', loans', fines', hst', hlimit, -⟩ := eligible
      obtain ⟨rfl, rfl, -⟩ := hst.unique hst'
      rw [taken, if_pos ⟨hlimit, pos⟩]
      exact ⟨⟨hst.rule_eq, Tally.get?_set_self loans_eq _, hst.fines_eq⟩,
        Tally.get?_set_self copies_eq _⟩
  | refused why =>
      cases hstep
      have hnone : ¬ (loans < rule.loanLimit ∧ 0 < copies) := by
        rintro ⟨hlimit, hpos⟩
        exact not_lendable_of_refuses why
          (lendable_iff.2 ⟨⟨rule, loans, fines, hst, hlimit, hfines⟩, copies, hc, hpos⟩)
      rw [taken, if_neg hnone]
      exact ⟨hst, hc⟩
  | returned | paid | waited | reported => cases hstep

/-- A completed checkout has an outcome, which is a success exactly when a copy was taken. -/
theorem outcome_of_checkout (h : Completes b s e) (hstep : e.step = .checkout (.int m) (.int t))
    (hst : Standing b s m rule loans fines) (hfines : fines ≤ rule.fineCeiling)
    (hc : s.copies.get? t = some copies) :
    ∃ o, e.outcome = some o ∧ (o.ok = true ↔ loans < rule.loanLimit ∧ 0 < copies) := by
  have hlendable : Lendable b s m t ↔ loans < rule.loanLimit ∧ 0 < copies := by
    rw [lendable_iff]
    constructor
    · rintro ⟨⟨rule', loans', fines', hst', hlimit, -⟩, copies', hc', hpos⟩
      obtain ⟨rfl, rfl, -⟩ := hst.unique hst'
      cases hc'.symm.trans hc
      exact ⟨hlimit, hpos⟩
    · rintro ⟨hlimit, hpos⟩
      exact ⟨⟨rule, loans, fines, hst, hlimit, hfines⟩, copies, hc, hpos⟩
  have hok := fun o ho => (ok_iff_lendable (o := o) h hstep ho).trans hlendable
  cases h with
  | granted | refused => exact ⟨_, rfl, hok _ rfl⟩
  | returned | paid | waited | reported => cases hstep

/-- The client that owns one class and no title. -/
def classAlone (m : Int) : Client := ⟨fun k => decide (k = m), fun _ => false⟩

/-- A step that does not name a class leaves its standing as it is. -/
theorem standing_of_other (h : Completes b s e) (hother : e.step.classId? ≠ some m)
    (hst : Standing b s m rule loans fines) : Standing b e.state m rule loans fines := by
  have hforeign : (classAlone m).foreign e.step = true := by
    cases hm : e.step.classId? with
    | none => simp [Client.foreign, classAlone, hm]
    | some k =>
        have hne : k ≠ m := fun heq => hother (heq ▸ hm)
        simp [Client.foreign, classAlone, hm, hne]
  have hagrees := agrees_of_foreign h hforeign (.refl _ s)
  have hown : (classAlone m).ownsClass m = true := decide_eq_true rfl
  exact ⟨hst.rule_eq, (hagrees.loans m hown).trans hst.loans_eq,
    (hagrees.fines m hown).trans hst.fines_eq⟩

/-- A checkout by another class leaves the standing of a class as it is. -/
theorem standing_of_other_checkout {k : Int} (h : Completes b s e)
    (hstep : e.step = .checkout (.int k) (.int t)) (hne : k ≠ m)
    (hst : Standing b s m rule loans fines) : Standing b e.state m rule loans fines := by
  refine standing_of_other h ?_ hst
  rw [hstep]
  exact fun heq => hne (Option.some.inj heq)

/-- **Steps that never offend** and do not name a class can be left out as far as this class goes. -/
theorem exists_past {steps : List Step} (hfit : s.Fits b) (hw : ∀ step ∈ steps, step.Whole)
    (hclear : ∀ step ∈ steps, ∀ u f, ¬ Offends b u step f)
    (hother : ∀ step ∈ steps, step.classId? ≠ some m) (hst : Standing b s m rule loans fines) :
    ∃ u, u.Fits b ∧ Standing b u m rule loans fines ∧
      ∀ rest, Finishes b s (steps ++ rest) ↔ Finishes b u rest := by
  induction steps generalizing s with
  | nil => exact ⟨s, hfit, hst, fun _ => Iff.rfl⟩
  | cons step rest ih =>
      obtain ⟨e, he, rfl, hfit'⟩ := exists_completes hfit (hw step List.mem_cons_self)
        (hclear step List.mem_cons_self s)
      obtain ⟨u, hu, hst', hiff⟩ := ih hfit' (fun x hx => hw x (List.mem_cons_of_mem _ hx))
        (fun x hx => hclear x (List.mem_cons_of_mem _ hx))
        (fun x hx => hother x (List.mem_cons_of_mem _ hx))
        (standing_of_other he (hother e.step List.mem_cons_self) hst)
      exact ⟨u, hu, hst', fun last => (finishes_cons_iff he _).trans (hiff last)⟩

/-- A checkout goes on unless it stops the run. -/
theorem finishes_checkout_iff {rest : List Step} {P : Prop} (hfit : s.Fits b)
    (hst : Standing b s m rule loans fines) (hfines : fines ≤ rule.fineCeiling)
    (hrest : ∀ e, Completes b s e → e.step = .checkout (.int m) (.int t) → e.state.Fits b →
      (Finishes b e.state rest ↔ P)) :
    Finishes b s (.checkout (.int m) (.int t) :: rest) ↔
      (t ∈ b.titleIds ∨ rule.loanLimit ≤ loans) ∧ P := by
  by_cases hgoes : t ∈ b.titleIds ∨ rule.loanLimit ≤ loans
  · have hclear : ∀ f, ¬ Offends b s (.checkout (.int m) (.int t)) f :=
      fun f hoff => (offends_checkout_iff hst hfines).1 ⟨f, hoff⟩ hgoes
    obtain ⟨e, he, hstep, hfit'⟩ := exists_completes hfit (.checkout m t) hclear
    rw [← hstep, finishes_cons_iff he, hrest e he hstep hfit', and_iff_right hgoes]
  · obtain ⟨f, hoff⟩ := (offends_checkout_iff hst hfines).2 hgoes
    exact iff_of_false (not_finishes_of_offends hfit hoff rest) fun h => hgoes h.1

end

/-! ## The reference scenario -/

/-- Title 1 and classes 1 and 2 of a rulebook, on which the reference scenario depends. -/
structure Names (b : Rulebook) (t : TitleRule) (m n : ClassRule) : Prop where
  title : t ∈ b.titles
  title_id : t.id = 1
  first : m ∈ b.classes
  first_id : m.id = 1
  second : n ∈ b.classes
  second_id : n.id = 2

/-- The rulebook suits the reference scenario.  It may do without title 3 if class 2 cannot borrow it
anyway, with nothing allowed or with title 1 taken, and without title 2 if class 1 cannot. -/
def Suits (b : Rulebook) : Prop :=
  ∃ t m n, Names b t m n ∧
    (3 ∈ b.titleIds ∨ n.loanLimit = 0 ∨
      n.loanLimit = 1 ∧ (2 ≤ t.copies ∨ t.copies = 1 ∧ m.loanLimit = 0)) ∧
    (2 ∈ b.titleIds ∨ m.loanLimit = 0 ∨ m.loanLimit = 1 ∧ 1 ≤ t.copies)

section

variable {b : Rulebook} {t : TitleRule} {m n : ClassRule}

/-- Ids of the rulebook have rules. -/
theorem exists_names (ht : 1 ∈ b.titleIds) (hm : 1 ∈ b.classIds) (hn : 2 ∈ b.classIds) :
    ∃ t m n, Names b t m n := by
  obtain ⟨t, ht, htid⟩ := List.mem_map.1 ht
  obtain ⟨m, hm, hmid⟩ := List.mem_map.1 hm
  obtain ⟨n, hn, hnid⟩ := List.mem_map.1 hn
  exact ⟨t, m, n, ht, htid, hm, hmid, hn, hnid⟩

/-- On the first day a class has no loans and no fines. -/
theorem standing_opening {rule : ClassRule} (h : rule ∈ b.classes) :
    Standing b (Shelf.opening b) rule.id rule 0 0 := by
  have hid : rule.id ∈ b.classIds := List.mem_map_of_mem h
  obtain ⟨found, hfound⟩ := Rulebook.exists_classRule_iff.2 hid
  obtain rfl : found = rule :=
    List.inj_on_of_nodup_map b.classes_nodup (Rulebook.mem_of_classRule hfound) h
      (Rulebook.id_of_classRule hfound)
  -- The loans and the fines of the first day are the same tally.
  exact ⟨hfound, opening_loans hid, opening_loans hid⟩

/-- On the first day all copies of a title are on the shelf. -/
theorem opening_copies (h : t ∈ b.titles) :
    (Shelf.opening b).copies.get? t.id = some t.copies :=
  (Tally.get?_eq_some_iff _ _ _).2 (List.mem_map_of_mem h)

/-- **The first two checkouts** find title 1 and their classes. -/
theorem exists_first_entries (h : Names b t m n) :
    let s := Shelf.opening b
    let loaned := taken m 0 t.copies
    ∃ e e' : Entry, Follows b s [⟨.report, s, none⟩, e, e'] ∧
      e.step = .checkout (.int 1) (.int 1) ∧ e'.step = .checkout (.int 2) (.int 1) ∧
      e'.state.Fits b ∧ Standing b e'.state 1 m loaned 0 ∧
      Standing b e'.state 2 n (taken n 0 (t.copies - loaned)) 0 ∧
      ∃ o, e'.outcome = some o ∧ (o.ok = true ↔ 0 < n.loanLimit ∧ 0 < t.copies - loaned) := by
  intro s loaned
  have hfit : s.Fits b := Snapshot.fits_opening b
  have hfirst : Standing b s 1 m 0 0 := h.first_id ▸ standing_opening h.first
  have hsecond : Standing b s 2 n 0 0 := h.second_id ▸ standing_opening h.second
  have hcopies : s.copies.get? 1 = some t.copies := h.title_id ▸ opening_copies h.title
  have htitle : (1 : Int) ∈ b.titleIds := hfit.exists_copies_iff.1 ⟨_, hcopies⟩
  obtain ⟨e, he, hstep, hfit'⟩ := exists_completes hfit (.checkout 1 1)
    fun f hoff => (offends_checkout_iff hfirst (Nat.zero_le _)).1 ⟨f, hoff⟩ (.inl htitle)
  obtain ⟨hfirst', hcopies'⟩ := standing_of_checkout he hstep hfirst (Nat.zero_le _) hcopies
  have hsecond' := standing_of_other_checkout he hstep (by decide) hsecond
  obtain ⟨e', he', hstep', hfit''⟩ := exists_completes hfit' (.checkout 2 1)
    fun f hoff => (offends_checkout_iff hsecond' (Nat.zero_le _)).1 ⟨f, hoff⟩ (.inl htitle)
  obtain ⟨hsecond'', -⟩ := standing_of_checkout he' hstep' hsecond' (Nat.zero_le _) hcopies'
  have hfirst'' := standing_of_other_checkout he' hstep' (by decide) hfirst'
  rw [Nat.zero_add] at hfirst'' hsecond''
  exact ⟨e, e', .cons .reported (.cons he (.cons he' (.nil _))), hstep, hstep', hfit'', hfirst'',
    hsecond'', outcome_of_checkout he' hstep' hsecond' (Nat.zero_le _) hcopies'⟩

/-- What happens between the last two checkouts. -/
def between : List Step :=
  [.advance (.int 4), .giveBack (.int 2) (.int 1) (.int 5), .pay (.int 2) (.int 100), .report,
    .advance (.int 2)]

/-- None of it offends where title 1 and class 2 are known. -/
theorem not_offends_between (h : Names b t m n) :
    ∀ step ∈ between, ∀ u f, ¬ Offends b u step f := by
  have htitle : (1 : Int) ∈ b.titleIds := h.title_id ▸ List.mem_map_of_mem h.title
  have hclass : (2 : Int) ∈ b.classIds := h.second_id ▸ List.mem_map_of_mem h.second
  intro step hstep u f hoff
  simp only [between, List.mem_cons, List.not_mem_nil, or_false] at hstep
  rcases hstep with rfl | rfl | rfl | rfl | rfl
  · cases hoff with
    | advanceDays negative => omega
  · cases hoff with
    | returnDays negative => omega
    | returnTitle _ unknown => exact unknown htitle
    | returnClass _ _ unknown => exact unknown hclass
  · cases hoff with
    | payAmount negative => omega
    | payClass _ unknown => exact unknown hclass
  · cases hoff
  · cases hoff with
    | advanceDays negative => omega

/-- **The reference scenario, symbolically.**  It can be carried out when the third checkout does not
stop it, nor the last. -/
theorem finishes_demo (h : Names b t m n) :
    let loaned := taken m 0 t.copies
    Finishes b (Shelf.opening b) demo ↔
      (3 ∈ b.titleIds ∨ n.loanLimit ≤ taken n 0 (t.copies - loaned)) ∧
      (2 ∈ b.titleIds ∨ m.loanLimit ≤ loaned) := by
  intro loaned
  obtain ⟨e, e', hfollows, hstep, hstep', hfit, hfirst, hsecond, -⟩ := exists_first_entries h
  have hsplit : demo = List.map Entry.step [⟨.report, Shelf.opening b, none⟩, e, e'] ++
      Step.checkout (.int 2) (.int 3) :: (between ++ [.checkout (.int 1) (.int 2), .report]) := by
    simp [hstep, hstep', demo, between]
  rw [hsplit, finishes_append_iff hfollows]
  refine finishes_checkout_iff hfit hsecond (Nat.zero_le _) fun u hu hustep hufit => ?_
  have hfirst' := standing_of_other_checkout hu hustep (by decide) hfirst
  obtain ⟨v, hvfit, hvst, hv⟩ := exists_past hufit (by decide) (not_offends_between h) (by decide)
    hfirst'
  rw [hv, finishes_checkout_iff hvfit hvst (Nat.zero_le _) (P := True), and_true]
  exact fun w _ _ _ => iff_of_true ((finishes_cons_iff .reported []).2 ⟨[], .nil _, rfl⟩) trivial

/-- A class that has borrowed at most one title is at its limit when it may borrow none, or one and
has it. -/
theorem loanLimit_le_taken_iff (rule : ClassRule) (copies : Nat) :
    rule.loanLimit ≤ taken rule 0 copies ↔
      rule.loanLimit = 0 ∨ rule.loanLimit = 1 ∧ 0 < copies := by
  unfold taken
  split_ifs with hgranted
  · omega
  · omega

/-- A copy is left after the first checkout when there were two, or one that was not taken. -/
theorem pos_sub_taken_iff (rule : ClassRule) (copies : Nat) :
    0 < copies - taken rule 0 copies ↔ 2 ≤ copies ∨ copies = 1 ∧ rule.loanLimit = 0 := by
  unfold taken
  split_ifs with hgranted
  · omega
  · omega

/-- A step of a scenario that can be carried out does not offend where it is reached. -/
theorem exists_not_offends_of_finishes {s : Snapshot} {steps : List Step} {step : Step}
    (hfit : s.Fits b) (h : Finishes b s steps) (hmem : step ∈ steps) :
    ∃ u, ∀ f, ¬ Offends b u step f := by
  obtain ⟨entries, hfollows, rfl⟩ := h
  obtain ⟨e, he, rfl⟩ := List.mem_map.1 hmem
  obtain ⟨u, hu⟩ := exists_found_of_mem he s
  obtain ⟨hufit, hcompletes⟩ := (fits_of_follows hfollows hfit).1 (u, e) hu
  exact ⟨u, fun f => not_offends_of_completes hufit hcompletes⟩

/-- The reference scenario cannot be carried out without title 1 and classes 1 and 2. -/
theorem exists_names_of_finishes (h : Finishes b (Shelf.opening b) demo) :
    ∃ t m n, Names b t m n := by
  have hfit := Snapshot.fits_opening b
  obtain ⟨u, hcheckout⟩ := exists_not_offends_of_finishes hfit h
    (show .checkout (.int 1) (.int 1) ∈ demo by simp [demo])
  obtain ⟨v, hreturn⟩ := exists_not_offends_of_finishes hfit h
    (show .giveBack (.int 2) (.int 1) (.int 5) ∈ demo by simp [demo])
  have htitle : 1 ∈ b.titleIds := by
    by_contra hunknown
    exact hreturn _ (.returnTitle (by decide) hunknown)
  refine exists_names htitle ?_ ?_
  · by_contra hunknown
    exact hcheckout _ (.checkoutClass hunknown)
  · by_contra hunknown
    exact hreturn _ (.returnClass (by decide) htitle hunknown)

/-- **The reference scenario** can be carried out exactly when the rulebook suits it. -/
theorem finishes_demo_iff : Finishes b (Shelf.opening b) demo ↔ Suits b := by
  constructor
  · intro hfinishes
    obtain ⟨t, m, n, h⟩ := exists_names_of_finishes hfinishes
    obtain ⟨hthird, hlast⟩ := (finishes_demo h).1 hfinishes
    rw [loanLimit_le_taken_iff, pos_sub_taken_iff] at hthird
    rw [loanLimit_le_taken_iff] at hlast
    exact ⟨t, m, n, h, hthird, hlast⟩
  · rintro ⟨t, m, n, h, hthird, hlast⟩
    refine (finishes_demo h).2 ⟨?_, ?_⟩
    · rwa [loanLimit_le_taken_iff, pos_sub_taken_iff]
    · rwa [loanLimit_le_taken_iff]

/-- The third step of the reference scenario is the first checkout of class 2.  It is granted when a
copy of title 1 is left to it. -/
theorem exists_third_entry (reporting : Bool) (h : Names b t m n) :
    ∃ (e : Entry) (o : Outcome), (run b reporting (Shelf.opening b) demo).entries[2]? = some e ∧
      e.step = .checkout (.int 2) (.int 1) ∧ e.outcome = some o ∧
      (o.ok = true ↔ 0 < n.loanLimit ∧ (2 ≤ t.copies ∨ t.copies = 1 ∧ m.loanLimit = 0)) := by
  obtain ⟨e, e', hfollows, hstep, hstep', -, -, -, o, ho, hok⟩ := exists_first_entries h
  have hprefix := prefix_run reporting (Snapshot.fits_opening b) hfollows (demo.drop 3)
  have hsteps : List.map Entry.step [⟨.report, Shelf.opening b, none⟩, e, e'] ++ demo.drop 3 =
      demo := by
    simp [hstep, hstep', demo]
  rw [hsteps] at hprefix
  rw [pos_sub_taken_iff] at hok
  exact ⟨e', o, List.prefix_iff_getElem?.1 hprefix 2 (by simp), hstep', ho, hok⟩

/-- The faults of the reference scenario come from the lending rules: no days pass backwards. -/
theorem isLending_of_offends {s : Snapshot} {step : Step} {f : Fault} (h : Offends b s step f)
    (hstep : step ∈ demo) : f.isLending = true := by
  cases h with
  | @advanceDays d negative =>
      have hdays : d = 4 ∨ d = 2 := by simpa [demo] using hstep
      omega
  | checkoutClass | checkoutTitle | returnDays | returnTitle | returnClass | payAmount | payClass =>
      rfl

end

end Circulation.Scenario

/-! ## The command -/

namespace Circulation.CommandLine

/-- Called with these arguments, the command loads this rulebook from the file that they name. -/
inductive Opens (read : Path → Except ReadError (List UInt8)) (arguments : List String)
    (b : Rulebook) : Prop
  | mk {o : Options} {level : Level} {path : Path} (request : parse arguments = .run o)
      (level_eq : o.level = some level) (file_eq : o.file? = some path)
      (loaded : (Rulebook.load path (read path)).result = .ok b)

/-- The reference scenario always ends with an exit code, which is 0 when the rulebook suits it. -/
theorem exists_demo_exit (level : Level) (earlier : String) (b : Rulebook) :
    ∃ exit, demo level earlier b = .ok exit ∧ (exit.code = 0 ∨ exit.code = 2) ∧
      (exit.code = 0 ↔ Scenario.Suits b) := by
  have hfit := Snapshot.fits_opening b
  have hw : ∀ step ∈ Scenario.demo, step.Whole := by decide
  rw [← Scenario.finishes_demo_iff, ← Scenario.finished_iff true hfit hw, demo]
  have hends : Scenario.Ends b _ Scenario.demo (Scenario.run b true (Shelf.opening b) _) :=
    Scenario.ends_run hfit hw
  cases hends with
  | finished fault _ =>
      rw [fault]
      exact ⟨_, rfl, .inl rfl, iff_of_true rfl rfl⟩
  | @stopped step rest f fault split offends =>
      have hstep : step ∈ Scenario.demo := by
        rw [split]
        exact List.mem_append_right _ List.mem_cons_self
      simp only [fault, Scenario.isLending_of_offends offends hstep, if_true]
      exact ⟨_, rfl, .inr rfl, iff_of_false (by simp) (by simp)⟩

/-- **Exit codes.**  Whatever rulebook the command loads from a file, it comes to an end with exit code
0 or 2 and no fault gets out.  The code is 0 exactly when the rulebook suits the reference scenario.
This depends on whether the first checkout of class 2 is granted, and it is when class 2 may borrow at
all and a copy of title 1 is left to it. -/
theorem demo_exit_iff_suits (program : String) (read : Path → Except ReadError (List UInt8))
    (arguments : List String) (b : Rulebook) (h : Opens read arguments b) :
    (∃ exit, run program read arguments = .ok exit ∧ (exit.code = 0 ∨ exit.code = 2) ∧
      (exit.code = 0 ↔ Scenario.Suits b)) ∧
    ∀ t m n, Scenario.Names b t m n →
      ∃ (e : Scenario.Entry) (o : Outcome),
        (Scenario.run b true (Shelf.opening b) Scenario.demo).entries[2]? = some e ∧
        e.step = .checkout (.int 2) (.int 1) ∧ e.outcome = some o ∧
        (o.ok = true ↔
          0 < n.loanLimit ∧ (2 ≤ t.copies ∨ t.copies = 1 ∧ m.loanLimit = 0)) := by
  refine ⟨?_, fun t m n => Scenario.exists_third_entry true⟩
  obtain ⟨request, level_eq, file_eq, loaded⟩ := h
  rw [run, request, serve]
  simp only [level_eq, file_eq, demoFrom, loaded]
  exact exists_demo_exit _ _ b

/-! ### A rulebook without titles 2 and 3 -/

/-- One title with a copy for each of two classes, which may borrow no more than that. -/
def modestRulebook : Rulebook where
  titles := [⟨1, "only", 2, (by decide : (1 : Int) ∈ Set.Icc 1 99), by decide⟩]
  classes :=
    [⟨1, 1, 0, (by decide : (1 : Int) ∈ Set.Icc 1 99)⟩,
      ⟨2, 1, 0, (by decide : (2 : Int) ∈ Set.Icc 1 99)⟩]
  lateFee := 5
  titles_ne := by decide
  classes_ne := by decide
  titles_nodup := by decide
  classes_nodup := by decide

/-- Its title in a document. -/
def modestTitle : Json.Part :=
  .ofFields [("title_id", .ofDigit '1'), ("label", .ofString "only"), ("initial_copies", .ofDigit '2')]

/-- One of its classes in a document. -/
def modestClass (id : Char) : Json.Part :=
  .ofFields
    [("member_class", .ofDigit id), ("loan_limit", .ofDigit '1'), ("fine_ceiling", .ofDigit '0')]

/-- Its document. -/
def modestDocument : Json.Part :=
  .ofFields
    [("late_fee_per_day", .ofDigit '5'), ("titles", .ofList [modestTitle]),
      ("member_classes", .ofList [modestClass '1', modestClass '2'])]

theorem spells_modestTitle : modestTitle.Spells :=
  Json.Part.spells_ofFields (by simp) (by decide) (by
    simpa using ⟨Json.Part.spells_ofDigit rfl, Json.Part.spells_ofString (by decide),
      Json.Part.spells_ofDigit rfl⟩)

theorem spells_modestClass {id : Char} (h : Json.isDigit id = true) : (modestClass id).Spells :=
  Json.Part.spells_ofFields (by simp)
    (by simp only [List.forall_mem_cons]; decide) (by
    simpa using ⟨Json.Part.spells_ofDigit h, Json.Part.spells_ofDigit rfl,
      Json.Part.spells_ofDigit rfl⟩)

/-- The document spells what it is meant to. -/
theorem spells_modestDocument : modestDocument.Spells :=
  Json.Part.spells_ofFields (by simp) (by decide) (by
    simpa using ⟨Json.Part.spells_ofDigit rfl,
      Json.Part.spells_ofList (by simp) (by simpa using spells_modestTitle),
      Json.Part.spells_ofList (by simp)
        (by simpa using ⟨spells_modestClass rfl, spells_modestClass rfl⟩)⟩)

/-- A tree of files in which every path leads to this document. -/
def modestFile (_ : Path) : Except ReadError (List UInt8) := .ok (Text.octets modestDocument.text)

/-- The command loads the rulebook from there.  Its exit code is 0 although titles 2 and 3 are
missing: both classes have borrowed title 1 by then, and may not borrow another. -/
theorem demo_exit_iff_suits_modestRulebook :
    let arguments := ["--config", "modest.json"]
    let r := Scenario.run modestRulebook true (Shelf.opening modestRulebook) Scenario.demo
    Opens modestFile arguments modestRulebook ∧ modestRulebook.titleIds = [1] ∧
    (∃ exit, run "demo" modestFile arguments = .ok exit ∧ exit.code = 0) ∧
    ∃ (e : Scenario.Entry) (o : Outcome),
      r.entries[2]? = some e ∧ e.outcome = some o ∧ o.ok = true := by
  intro arguments r
  have hopens : Opens modestFile arguments modestRulebook :=
    .mk (o := ⟨some "modest.json", some .warning⟩) (by cbv) rfl rfl
      (Rulebook.load_of_spells _ (by decide +kernel) spells_modestDocument rfl)
  obtain ⟨t, m, n, hnames, ht, hm, hn⟩ : ∃ t m n, Scenario.Names modestRulebook t m n ∧
      t.copies = 2 ∧ m.loanLimit = 1 ∧ n.loanLimit = 1 :=
    ⟨_, _, _, ⟨List.mem_cons_self, rfl, List.mem_cons_self, rfl,
      List.mem_cons_of_mem _ List.mem_cons_self, rfl⟩, rfl, rfl, rfl⟩
  obtain ⟨⟨exit, hrun, -, hcode⟩, hthird⟩ :=
    demo_exit_iff_suits "demo" modestFile arguments modestRulebook hopens
  have hsuits : Scenario.Suits modestRulebook :=
    ⟨t, m, n, hnames, .inr (.inr ⟨hn, .inl (by omega)⟩), .inr (.inr ⟨hm, by omega⟩)⟩
  obtain ⟨e, o, he, -, ho, hok⟩ := hthird t m n hnames
  exact ⟨hopens, rfl, ⟨exit, hrun, hcode.2 hsuits⟩, e, o, he, ho,
    hok.2 ⟨by omega, .inl (by omega)⟩⟩

end Circulation.CommandLine
