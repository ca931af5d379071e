import Circulation.Proofs.Coverage
import Circulation.Proofs.Ordering
/-!
# A report can be read back

The text of a report is its labels and values one after another, each with a newline behind it, and
nothing is escaped.  The label of a title may be any text that is not empty; it may hold newlines or
digits, or look like the fields that follow, and two titles may have one label.  Whoever knows the
rulebook can still read the report: the label comes first and is known, and the value after it is
decimal digits up to the next newline.  So two reports are equal only when the snapshots are the
same.

The main facts are

* `line_unique` : digits are told from what follows by the newline behind them;
* `render_injective` : under equal labels, equal texts have equal numbers;
* `same_of_fields_eq` : the fields hold all that a snapshot with the ids of the rulebook holds;
* `stateLines_lossless` : equal reports are those of snapshots that are the same.
-/

namespace Circulation.Report

/-! ## Reading a text -/

/-- A text without a newline is told from what follows by the newline behind it. -/
theorem line_unique {a a' rest rest' : List Char} (ha : '\n' ∉ a) (ha' : '\n' ∉ a')
    (h : a ++ '\n' :: rest = a' ++ '\n' :: rest') : a = a' ∧ rest = rest' := by
  induction a generalizing a' with
  | nil =>
      cases a' with
      | nil => exact ⟨rfl, (List.cons.inj h).2⟩
      | cons c a' =>
          obtain ⟨rfl, -⟩ := List.cons.inj h
          exact absurd List.mem_cons_self ha'
  | cons c a ih =>
      cases a' with
      | nil =>
          obtain ⟨rfl, -⟩ := List.cons.inj h
          exact absurd List.mem_cons_self ha
      | cons c' a' =>
          obtain ⟨rfl, htail⟩ := List.cons.inj h
          obtain ⟨rfl, hrest⟩ := ih (fun hc => ha (List.mem_cons_of_mem _ hc))
            (fun hc => ha' (List.mem_cons_of_mem _ hc)) htail
          exact ⟨rfl, hrest⟩

/-- The digits of a number hold no newline. -/
theorem newline_not_mem_toString (n : Nat) : '\n' ∉ (toString n).toList := by
  intro h
  have hdigit : ('\n' : Char).isDigit = true :=
    Nat.isDigit_of_mem_toDigits (by decide) (by decide) (Nat.toList_repr (n := n) ▸ h)
  exact absurd hdigit (by decide)

/-- The text of a first field and of the rest. -/
theorem render_cons (label : String) (n : Nat) (rest : List (String × Nat)) :
    (render (((label, n) :: rest).map fieldLine)).toList =
      label.toList ++ '\n' :: ((toString n).toList ++ '\n' ::
        (render (rest.map fieldLine)).toList) := by
  simp [render, fieldLine, String.toList_join]

/-- **Reading.**  Under equal labels, equal texts have equal numbers. -/
theorem render_injective {fs gs : List (String × Nat)} (hlabels : fs.map Prod.fst = gs.map Prod.fst)
    (h : render (fs.map fieldLine) = render (gs.map fieldLine)) : fs = gs := by
  induction fs generalizing gs with
  | nil => exact (List.map_eq_nil_iff.1 hlabels.symm).symm
  | cons f fs ih =>
      obtain ⟨label, n⟩ := f
      cases gs with
      | nil => cases hlabels
      | cons g gs =>
          obtain ⟨label', n'⟩ := g
          obtain ⟨rfl, hothers⟩ : label = label' ∧ fs.map Prod.fst = gs.map Prod.fst :=
            List.cons.inj hlabels
          have htext := congrArg String.toList h
          rw [render_cons, render_cons] at htext
          -- The label is known and may hold anything; the value ends at the newline behind it.
          have hvalue := (List.cons.inj (List.append_cancel_left htext)).2
          obtain ⟨hdigits, hrest⟩ := line_unique (newline_not_mem_toString n)
            (newline_not_mem_toString n') hvalue
          rw [Nat.repr_injective (String.toList_injective hdigits),
            ih hothers (String.toList_injective hrest)]

/-! ## Snapshots -/

/-- The labels of a report depend on the rulebook alone. -/
theorem labels_fields (b : Rulebook) (s u : Snapshot) :
    (fields b s).map Prod.fst = (fields b u).map Prod.fst := by
  simp [fields, Function.comp_def]

/-- The numbers shown for a list of rules decide what a tally with their ids holds. -/
theorem get?_eq_of_shown {α : Type} {rules : List α} {id : α → Int} {label : α → String}
    {t u : Tally} (ht : ∀ k, k ∈ t.keys ↔ k ∈ rules.map id)
    (hu : ∀ k, k ∈ u.keys ↔ k ∈ rules.map id)
    (h : rules.map (fun r => (label r, t.count (id r))) =
      rules.map fun r => (label r, u.count (id r))) (k : Int) :
    t.get? k = u.get? k := by
  by_cases hk : k ∈ rules.map id
  · rw [Tally.get?_of_mem_keys ((ht k).2 hk), Tally.get?_of_mem_keys ((hu k).2 hk)]
    obtain ⟨rule, hrule, rfl⟩ := List.mem_map.1 hk
    exact congrArg some (Prod.mk.inj (List.map_inj_left.1 h rule hrule)).2
  · rw [(Tally.get?_eq_none_iff t k).2 ((ht k).not.2 hk),
      (Tally.get?_eq_none_iff u k).2 ((hu k).not.2 hk)]

/-- The fields hold all that a snapshot with the ids of the rulebook holds. -/
theorem same_of_fields_eq {b : Rulebook} {s u : Snapshot} (hs : s.HasIds b) (hu : u.HasIds b)
    (h : fields b s = fields b u) : s.Same u := by
  obtain ⟨hday, hrest⟩ := List.cons.inj h
  obtain ⟨hfront, hfines⟩ := List.append_inj hrest (by simp)
  obtain ⟨hcopies, hloans⟩ := List.append_inj hfront (by simp)
  have hclasses : ∀ {v : Snapshot}, v.HasIds b → ∀ m, m ∈ v.fines.keys ↔ m ∈ b.classIds :=
    fun {v} hv m => (v.sameClasses m).symm.trans (hv.classes m)
  refine Snapshot.same_iff.2 ⟨(Prod.mk.inj hday).2, ?_, ?_, ?_⟩
  · exact get?_eq_of_shown hs.titles hu.titles hcopies
  · exact get?_eq_of_shown hs.classes hu.classes hloans
  · exact get?_eq_of_shown (hclasses hs) (hclasses hu) hfines

/-- **A report can be read back.**  For every rulebook, whatever its labels, and two snapshots with
its ids, entered in any order: both can be reported, and the texts of their reports are equal exactly
when the snapshots are the same. -/
theorem stateLines_lossless (b : Rulebook) (s u : Snapshot) (hs : s.HasIds b) (hu : u.HasIds b) :
    ∃ lines lines', stateLines b s = .ok lines ∧ stateLines b u = .ok lines' ∧
      (render lines = render lines' ↔ s.same u = true) := by
  refine ⟨_, _, stateLines_eq_fields hs, stateLines_eq_fields hu, fun htext => ?_, fun hsame => ?_⟩
  · exact same_of_fields_eq hs hu (render_injective (labels_fields b s u) htext)
  · have hlines := stateLines_eq (b := b) hsame
    rw [stateLines_eq_fields hs, stateLines_eq_fields hu] at hlines
    rw [Except.ok.inj hlines]

/-- A rulebook with one label for two titles, and a label that looks like a field of theirs. -/
def mimicRulebook : Rulebook where
  titles :=
    [⟨14, "x", 0, by decide, by decide⟩, ⟨11, "x\n0\navailable_x", 4, by decide, by decide⟩,
      ⟨13, "x", 1, by decide, by decide⟩]
  classes := [⟨15, 1, 0, by decide⟩]
  lateFee := 3
  titles_ne := by decide
  classes_ne := by decide
  titles_nodup := by decide
  classes_nodup := by decide

/-- A snapshot of its library. -/
def mimicSnapshot : Snapshot where
  day := 2
  copies := ⟨[(11, 0), (13, 10), (14, 1)], by decide⟩
  loans := ⟨[(15, 0)], by decide⟩
  fines := ⟨[(15, 6)], by decide⟩
  sameClasses := Snapshot.mem_iff_of_covers (by decide)

/-- Another one, with the copies of two titles the other way round. -/
def mimicSwapped : Snapshot where
  day := 2
  copies := ⟨[(13, 10), (14, 0), (11, 1)], by decide⟩
  loans := ⟨[(15, 0)], by decide⟩
  fines := ⟨[(15, 6)], by decide⟩
  sameClasses := Snapshot.mem_iff_of_covers (by decide)

/-- Their texts differ. -/
theorem stateLines_lossless_mimicRulebook :
    mimicSnapshot.HasIds mimicRulebook ∧ mimicSwapped.HasIds mimicRulebook ∧
    ∃ lines lines', stateLines mimicRulebook mimicSnapshot = .ok lines ∧
      stateLines mimicRulebook mimicSwapped = .ok lines' ∧ render lines ≠ render lines' := by
  have hids : ∀ {s : Snapshot}, Snapshot.covers s.copies.keys mimicRulebook.titleIds = true →
      Snapshot.covers s.loans.keys mimicRulebook.classIds = true → s.HasIds mimicRulebook :=
    fun ht hm => ⟨Snapshot.mem_iff_of_covers ht, Snapshot.mem_iff_of_covers hm⟩
  have hs : mimicSnapshot.HasIds mimicRulebook := hids (by decide) (by decide)
  have hu : mimicSwapped.HasIds mimicRulebook := hids (by decide) (by decide)
  obtain ⟨lines, lines', hlines, hlines', htext⟩ :=
    stateLines_lossless mimicRulebook mimicSnapshot mimicSwapped hs hu
  refine ⟨hs, hu, lines, lines', hlines, hlines', fun heq => ?_⟩
  exact absurd (htext.1 heq) (by decide)

end Circulation.Report
