import Circulation.Proofs.ReportReading
import Circulation.Session
/-!
# Two lines for each field

A report is meant to be read line by line: a label, its value, the next label, its value.  Cut at its
newlines, the text of a report falls into the parts of its labels and of its values one after
another, and nothing stands behind the last newline.  Values are digits, and the other labels are
fixed words and ids; only the label of a title can hold a newline of its own.  Each such newline adds
one line and moves all the lines behind it.

The key constructions are

* `parts`, `textLines` : a text cut at its newlines, and the lines that a newline ends;
* `TwoLinesEach` : what a reader of lines relies on.

The main facts are

* `parts_render` : the parts of a report are those of its labels and values;
* `length_textLines_render` : a report has two lines for each field and one for each newline in a
  label or a value;
* `twoLinesEach_render_iff` : two lines for each field are those of fields without newlines;
* `printState_two_lines_iff` : the reports with two lines for each field are those under labels
  without newlines.
-/

namespace Circulation.Report

/-! ## Cutting texts -/

/-- The parts of a text between its newlines. -/
def parts (text : String) : List String := (text.toList.splitOn '\n').map String.ofList

/-- The lines of a text, each of them ended by a newline. -/
def textLines (text : String) : List String := (parts text).dropLast

/-- What stands on both sides of a newline is cut apart from it. -/
theorem parts_append_newline (a c : String) : parts (a ++ "\n" ++ c) = parts a ++ parts c := by
  have hchars : (a ++ "\n" ++ c).toList = a.toList ++ '\n' :: c.toList := by
    simp
  rw [parts, hchars, List.splitOn, List.splitOnP_append_cons _ _ (by decide), List.map_append]
  rfl

/-- A text without newlines is one part. -/
theorem parts_of_not_mem {text : String} (h : '\n' ∉ text.toList) : parts text = [text] := by
  have hall : ∀ c ∈ text.toList, (c == '\n') = false := by
    intro c hc
    rw [beq_eq_false_iff_ne]
    rintro rfl
    exact h hc
  rw [parts, List.splitOn, List.splitOnP_eq_singleton hall, List.map_singleton, String.ofList_toList]

/-- There is one part more than there are newlines. -/
theorem length_parts (text : String) : (parts text).length = text.toList.count '\n' + 1 := by
  rw [parts, List.length_map]
  induction text.toList with
  | nil => rfl
  | cons c rest ih =>
      rw [List.splitOn, List.splitOnP_cons_eq_if_modifyHead]
      by_cases hc : c = '\n'
      · simpa [hc, List.splitOn] using ih
      · simpa [hc, List.splitOn] using ih

/-! ## The text of a report -/

/-- How many newlines stand in the label and in the value of a field. -/
def newlines (line : Line) : Nat := line.1.toList.count '\n' + line.2.toList.count '\n'

/-- **Cutting a report.**  The parts of a report are those of its labels and values in turn, and an
empty one behind the last newline. -/
theorem parts_render (lines : List Line) :
    parts (render lines) = lines.flatMap (fun line => parts line.1 ++ parts line.2) ++ [""] := by
  induction lines with
  | nil => rfl
  | cons line rest ih =>
      have htext : render (line :: rest) = line.1 ++ "\n" ++ (line.2 ++ "\n" ++ render rest) := by
        simp [render, String.join_cons, String.append_assoc]
      rw [htext, parts_append_newline, parts_append_newline, ih, List.flatMap_cons,
        List.append_assoc, List.append_assoc]

/-- The lines of a report are all its parts but the last. -/
theorem textLines_render (lines : List Line) :
    textLines (render lines) = lines.flatMap fun line => parts line.1 ++ parts line.2 := by
  rw [textLines, parts_render, List.dropLast_concat]

/-- **Counting.**  A report has two lines for each field, and one more for each newline in a label or
a value. -/
theorem length_textLines_render (lines : List Line) :
    (textLines (render lines)).length = 2 * lines.length + (lines.map newlines).sum := by
  rw [textLines_render]
  induction lines with
  | nil => rfl
  | cons line rest ih =>
      rw [List.flatMap_cons, List.length_append, ih, List.length_append, length_parts, length_parts,
        List.map_cons, List.sum_cons, List.length_cons, newlines]
      omega

/-- Labels and values in turn, read at their places. -/
theorem getElem?_flatMap_pair (lines : List Line) (i : Nat) :
    (lines.flatMap fun line => [line.1, line.2])[2 * i]? = (lines[i]?).map Prod.fst ∧
      (lines.flatMap fun line => [line.1, line.2])[2 * i + 1]? = (lines[i]?).map Prod.snd := by
  induction lines generalizing i with
  | nil => exact ⟨rfl, rfl⟩
  | cons line rest ih =>
      cases i with
      | zero => exact ⟨rfl, rfl⟩
      | succ i => exact ih i

/-- What a reader of lines relies on: the text ends with a newline, has two lines for each of `n`
fields, and shows the label and the value of the field `i` on the lines `2 i` and `2 i + 1`. -/
structure TwoLinesEach (n : Nat) (lines : List Line) (text : String) : Prop where
  ended : (parts text).getLast? = some ""
  count : (textLines text).length = 2 * n
  label : ∀ i line, lines[i]? = some line → (textLines text)[2 * i]? = some line.1
  value : ∀ i line, lines[i]? = some line → (textLines text)[2 * i + 1]? = some line.2

/-- **Two lines for each field** are shown exactly when neither labels nor values hold newlines. -/
theorem twoLinesEach_render_iff {lines : List Line} {n : Nat} (hn : lines.length = n) :
    TwoLinesEach n lines (render lines) ↔ ∀ line ∈ lines, newlines line = 0 := by
  constructor
  · intro h line hline
    have hcount := h.count
    rw [length_textLines_render] at hcount
    have hle : newlines line ≤ (lines.map newlines).sum :=
      List.single_le_sum (fun _ _ => Nat.zero_le _) _ (List.mem_map_of_mem hline)
    omega
  · intro h
    have hparts : textLines (render lines) = lines.flatMap fun line => [line.1, line.2] := by
      rw [textLines_render]
      refine List.flatMap_congr fun line hline => ?_
      obtain ⟨hlabel, hvalue⟩ := Nat.add_eq_zero_iff.1 (h line hline)
      rw [parts_of_not_mem (List.count_eq_zero.1 hlabel),
        parts_of_not_mem (List.count_eq_zero.1 hvalue), List.singleton_append]
    refine ⟨?_, ?_, fun i line hi => ?_, fun i line hi => ?_⟩
    · rw [parts_render, List.getLast?_concat]
    · have hsum : (lines.map newlines).sum = 0 := by
        rw [List.sum_eq_zero_iff]
        exact List.forall_mem_map.2 h
      rw [length_textLines_render, hsum, hn, Nat.add_zero]
    · rw [hparts, (getElem?_flatMap_pair lines i).1, hi, Option.map_some]
    · rw [hparts, (getElem?_flatMap_pair lines i).2, hi, Option.map_some]

/-! ## The report of a snapshot -/

/-- The digits of an id hold no newline. -/
theorem newline_not_mem_id {n : Int} (h : 1 ≤ n ∧ n ≤ 99) : '\n' ∉ (toString n).toList := by
  obtain ⟨k, rfl⟩ := Int.eq_ofNat_of_zero_le (Int.le_trans Int.one_nonneg h.1)
  exact newline_not_mem_toString k

/-- The fields of a report: the day, one for each title, and two for each class. -/
theorem length_fields (b : Rulebook) (s : Snapshot) :
    (fields b s).length = 1 + b.titles.length + 2 * b.classes.length := by
  simp only [fields, List.length_cons, List.length_append, List.length_map]
  omega

/-- The newlines of a field are those of its label: values are digits. -/
theorem newlines_fieldLine (label : String) (n : Nat) :
    newlines (fieldLine (label, n)) = label.toList.count '\n' := by
  rw [newlines, fieldLine, List.count_eq_zero_of_not_mem (newline_not_mem_toString n),
    Nat.add_zero]

/-- The field of a class has no newlines. -/
theorem newlines_classField (name : String) (hname : '\n' ∉ name.toList) (m : ClassRule) (n : Nat) :
    newlines (fieldLine (name ++ toString m.id, n)) = 0 := by
  rw [newlines_fieldLine, String.toList_append, List.count_append,
    List.count_eq_zero_of_not_mem hname,
    List.count_eq_zero_of_not_mem (newline_not_mem_id m.id_range)]

/-- The field of a title has the newlines of its label. -/
theorem newlines_titleField (t : TitleRule) (n : Nat) :
    newlines (fieldLine ("available_" ++ t.label, n)) = t.label.toList.count '\n' := by
  have hname : '\n' ∉ ("available_" : String).toList := by decide
  rw [newlines_fieldLine, String.toList_append, List.count_append,
    List.count_eq_zero_of_not_mem hname, Nat.zero_add]

/-- The newlines of all fields are those of the labels of titles. -/
theorem newlines_fields (b : Rulebook) (s : Snapshot) :
    ((fields b s).map fieldLine).map newlines =
      0 :: (b.titles.map (fun t => t.label.toList.count '\n') ++
        (b.classes.map fun _ => 0) ++ b.classes.map fun _ => 0) := by
  have hloans : '\n' ∉ ("loans_m" : String).toList := by decide
  have hfines : '\n' ∉ ("fines_m" : String).toList := by decide
  have hday : newlines (fieldLine ("day", s.day)) = 0 := by
    rw [newlines_fieldLine]
    decide
  simp only [fields, List.map_cons, List.map_append, List.map_map, Function.comp_def, hday,
    newlines_titleField, newlines_classField _ hloans, newlines_classField _ hfines]

/-- **Two lines for each field.**  The report of a snapshot with the ids of the rulebook, and perhaps
others, can be printed.  It has two lines for each field and one more for each newline in the label of
a title; so it shows each field on two lines of its own exactly when no label holds a newline. -/
theorem printState_two_lines_iff (b : Rulebook) (s : Snapshot) (h : s.Includes b) :
    let n := 1 + b.titles.length + 2 * b.classes.length
    ∃ lines text, stateLines b s = .ok lines ∧ lines.length = n ∧
      (Session.start b s).answer .printState = ⟨.ok (.state s), [], text⟩ ∧
      (textLines text).length = 2 * n + (b.titles.map fun t => t.label.toList.count '\n').sum ∧
      (TwoLinesEach n lines text ↔ ∀ t ∈ b.titles, '\n' ∉ t.label.toList) := by
  intro n
  have hlines := stateLines_of_includes h
  have hlength : ((fields b s).map fieldLine).length = n := by
    rw [List.length_map, length_fields]
  have hnewlines := newlines_fields b s
  refine ⟨_, render ((fields b s).map fieldLine), hlines, hlength, ?_, ?_, ?_⟩
  · show Session.answer ⟨b, s, [s], none⟩ .printState = _
    simp only [Session.answer, hlines]
  · rw [length_textLines_render, hlength, hnewlines]
    simp
  · rw [twoLinesEach_render_iff hlength, ← List.forall_mem_map (P := (· = 0)), hnewlines]
    simp [or_imp, List.count_eq_zero]

/-- A rulebook with one label for two titles, which holds a carriage return but no newline. -/
def carriageRulebook : Rulebook where
  titles := [⟨24, "tea\rtime", 2, by decide, by decide⟩, ⟨25, "tea\rtime", 0, by decide, by decide⟩]
  classes := [⟨26, 4, 9, by decide⟩]
  lateFee := 8
  titles_ne := by decide
  classes_ne := by decide
  titles_nodup := by decide
  classes_nodup := by decide

/-- A snapshot with its ids and with others. -/
def carriageSnapshot : Snapshot where
  day := 12
  copies := ⟨[(25, 0), (-3, 1), (24, 17)], by decide⟩
  loans := ⟨[(26, 4), (28, 0)], by decide⟩
  fines := ⟨[(28, 0), (26, 10)], by decide⟩
  sameClasses := Snapshot.mem_iff_of_covers (by decide)

/-- Its report has ten lines, two for each field. -/
theorem printState_two_lines_iff_carriageReturn :
    carriageSnapshot.Includes carriageRulebook ∧
    ∃ lines text, stateLines carriageRulebook carriageSnapshot = .ok lines ∧
      (Session.start carriageRulebook carriageSnapshot).answer .printState =
        ⟨.ok (.state carriageSnapshot), [], text⟩ ∧
      (textLines text).length = 10 ∧ TwoLinesEach 5 lines text := by
  have hids : carriageSnapshot.Includes carriageRulebook := ⟨by decide, by decide⟩
  obtain ⟨lines, text, hlines, -, hanswer, hcount, hiff⟩ :=
    printState_two_lines_iff carriageRulebook carriageSnapshot hids
  exact ⟨hids, lines, text, hlines, hanswer, hcount, hiff.2 (by decide)⟩

/-- A rulebook with a newline in the label of its only title. -/
def wrappedRulebook : Rulebook where
  titles := [⟨22, "x\ny", 1, by decide, by decide⟩]
  classes := [⟨23, 1, 0, by decide⟩]
  lateFee := 4
  titles_ne := by decide
  classes_ne := by decide
  titles_nodup := by decide
  classes_nodup := by decide

/-- Its report on the first day has nine lines for four fields, and from the label on each line stands
where a reader expects another. -/
theorem printState_three_lines_wrappedLabel :
    let s := Shelf.opening wrappedRulebook
    let lines : List Line :=
      [("day", "1"), ("available_x\ny", "1"), ("loans_m23", "0"), ("fines_m23", "0")]
    let text := ((Session.start wrappedRulebook s).answer .printState).out
    s.Includes wrappedRulebook ∧ stateLines wrappedRulebook s = .ok lines ∧
    textLines text =
      ["day", "1", "available_x", "y", "1", "loans_m23", "0", "fines_m23", "0"] ∧
    ¬ TwoLinesEach 4 lines text := by
  intro s lines text
  have hlines : textLines text =
      ["day", "1", "available_x", "y", "1", "loans_m23", "0", "fines_m23", "0"] := by
    decide +kernel
  refine ⟨⟨by decide, by decide⟩, by cbv, hlines, fun h => ?_⟩
  have hcount := h.count
  rw [hlines] at hcount
  exact absurd hcount (by decide)

end Circulation.Report
