import Circulation.Proofs.RulebookFormat
import Circulation.Rulebook.Load
/-!
# Files that hold rulebooks

A reader of JSON carries a bound along with what is left of the text, which makes its equations hard
to chain.  This module first states what each branch of the reader does without the bounds.  From
these it follows by induction that a text put together from parts is read as the value put together
from what its parts are read as: a list from its items, an object from its members.  A rulebook is then
loaded from each file of ASCII characters that spell its document.

The key constructions are

* `Text.Plain`, `Text.octets` : ASCII characters, and the octets that encode them;
* `Json.Reads`, `Json.ReadsItems`, `Json.ReadsMembers` : what is read, and what is left;
* `Json.Part`, `Json.Part.Spells` : a text with a value, as which it is read whatever may follow.

The main facts are

* `Text.decode_octets` : the octets of ASCII characters are decoded to them;
* `Json.Part.spells_ofList`, `Json.Part.spells_ofFields` : lists and objects of parts that spell their
  values spell theirs;
* `Json.Part.Spells.parse_eq`, `Rulebook.load_of_spells` : what is read from such texts, and loaded.
-/

namespace Circulation

/-! ## ASCII characters -/

namespace Text

/-- ASCII characters without carriage returns. -/
def Plain (cs : List Char) : Prop := ∀ c ∈ cs, c.toNat < 0x80 ∧ c ≠ '\r'

instance : DecidablePred Plain := fun cs =>
  decidable_of_iff (cs.all fun c => decide (c.toNat < 0x80 ∧ c ≠ '\r') = true) (by simp [Plain])

/-- The octets of ASCII characters: one for each. -/
def octets (cs : List Char) : List UInt8 := cs.map fun c => UInt8.ofNat c.toNat

/-- The octet of an ASCII character announces it and nothing more. -/
theorem lead?_of_ascii {c : Char} (h : c.toNat < 0x80) :
    lead? (UInt8.ofNat c.toNat) = some ⟨c.toNat, 0, 0x80, 0xBF⟩ := by
  have hnat : (UInt8.ofNat c.toNat).toNat = c.toNat := by
    rw [UInt8.toNat_ofNat']
    omega
  rw [lead?]
  simp [hnat, h]

/-- ASCII characters are decoded one by one. -/
theorem decodeFrom_octets {cs : List Char} (h : Plain cs) (position : Nat) (done : List Char) :
    decodeFrom position none done (octets cs) = .ok (done.reverse ++ cs) := by
  induction cs generalizing position done with
  | nil => simp [octets, decodeFrom]
  | cons c rest ih =>
      have hc := (h c List.mem_cons_self).1
      have hrest := ih (fun x hx => h x (List.mem_cons_of_mem c hx)) (position + 1) (c :: done)
      rw [octets, List.map_cons, decodeFrom, lead?_of_ascii hc]
      simpa [Char.ofNat_toNat, octets] using hrest

/-- **Octets.**  Those of ASCII characters are decoded to them. -/
theorem decode_octets {cs : List Char} (h : Plain cs) : decode (octets cs) = .ok cs :=
  decodeFrom_octets h 0 []

/-- Without carriage returns there are no line endings to change. -/
theorem normalizeBreaks_of_plain {cs : List Char} (h : Plain cs) : normalizeBreaks cs = cs := by
  induction cs with
  | nil => rfl
  | cons c rest ih =>
      have hc := (h c List.mem_cons_self).2
      have hrest := ih fun x hx => h x (List.mem_cons_of_mem c hx)
      rw [normalizeBreaks]
      · rw [if_neg hc, hrest]
      · rintro rest' rfl
        exact absurd rfl hc

end Text

/-! ## Reading documents -/

namespace Json

/-- A text goes on with a string up to its closing quote, and this is left of it. -/
def ReadsString (opening : Nat) (done cs : List Char) (name : String) (rest : List Char) : Prop :=
  ∃ h, string opening done cs = .ok (name, ⟨rest, h⟩)

/-- A text starts with a value, and this is left of it. -/
def Reads (cs : List Char) (v : Value) (rest : List Char) : Prop :=
  ∃ h, value cs = .ok (v, ⟨rest, h⟩)

/-- A text starts with the last items of a list, and this is left of it. -/
def ReadsItems (done : List Value) (cs : List Char) (items : List Value) (rest : List Char) : Prop :=
  ∃ h, Json.items done cs = .ok (items, ⟨rest, h⟩)

/-- A text starts with the last members of an object, and this is left of it. -/
def ReadsMembers (done : List (Value × Value)) (cs : List Char) (members : List (Value × Value))
    (rest : List Char) : Prop :=
  ∃ h, Json.members done cs = .ok (members, ⟨rest, h⟩)

section

variable {cs mid after rest : List Char} {v : Value} {vs done : List Value}
  {es grown : List (Value × Value)} {name : String}

/-- A list that is not empty is read up to its last item. -/
theorem reads_list (hinner : (skipBlanks cs).head? ≠ some ']')
    (h : ReadsItems [] (skipBlanks cs) vs rest) : Reads ('[' :: cs) (.list vs) rest := by
  obtain ⟨hlt, hitems⟩ := h
  rw [Reads, value]
  split
  · next after hafter => exact absurd (by rw [hafter]; rfl) hinner
  · rw [hitems]
    exact ⟨Nat.lt_trans hlt (length_skipBlanks_lt_cons '[' cs), rfl⟩

/-- An object that is not empty is read up to its last member. -/
theorem reads_object (hinner : (skipBlanks cs).head? ≠ some '\x7d')
    (h : ReadsMembers [] (skipBlanks cs) es rest) : Reads ('\x7b' :: cs) (.mapping es) rest := by
  obtain ⟨hlt, hmembers⟩ := h
  rw [Reads, value]
  split
  · next after hafter => exact absurd (by rw [hafter]; rfl) hinner
  · rw [hmembers]
    exact ⟨Nat.lt_trans hlt (length_skipBlanks_lt_cons '\x7b' cs), rfl⟩

/-- The last item of a list. -/
theorem readsItems_last (h : Reads cs v mid) (hs : skipBlanks mid = ']' :: rest) :
    ReadsItems done cs (v :: done).reverse rest := by
  obtain ⟨hlt, hvalue⟩ := h
  rw [ReadsItems, items, hvalue]
  refine ⟨Nat.lt_trans (length_lt_of_skipBlanks hs) hlt, ?_⟩
  dsimp only
  split
  · next heq => cases hs.symm.trans heq; rfl
  · next heq => cases hs.symm.trans heq
  · next hnone _ => exact absurd hs (hnone _)

/-- An item with others behind it. -/
theorem readsItems_more (h : Reads cs v mid) (hs : skipBlanks mid = ',' :: after)
    (hnext : ReadsItems (v :: done) (skipBlanks after) vs rest) : ReadsItems done cs vs rest := by
  obtain ⟨hlt, hvalue⟩ := h
  obtain ⟨hlt', hitems⟩ := hnext
  rw [ReadsItems, items, hvalue]
  refine ⟨Nat.lt_trans hlt' (Nat.lt_trans (length_skipBlanks_lt hs) hlt), ?_⟩
  dsimp only
  split
  · next heq => cases hs.symm.trans heq
  · next heq =>
      cases hs.symm.trans heq
      rw [hitems]
      rfl
  · next _ hnone => exact absurd hs (hnone _)

/-- The last member of an object. -/
theorem readsMembers_last (hname : ReadsString (cs.length + 1) [] cs name (':' :: mid))
    (h : Reads (skipBlanks mid) v after) (hs : skipBlanks after = '\x7d' :: rest) :
    ReadsMembers grown ('"' :: cs) (Entries.put (.text name) v grown) rest := by
  obtain ⟨hlt, hstring⟩ := hname
  obtain ⟨hlt', hvalue⟩ := h
  have hafter : after.length < cs.length :=
    Nat.lt_trans (Nat.lt_of_lt_of_le hlt' (length_skipBlanks_le mid)) (Nat.lt_of_succ_lt hlt)
  rw [ReadsMembers, members, hstring]
  refine ⟨Nat.lt_succ_of_lt (Nat.lt_trans (length_lt_of_skipBlanks hs) hafter), ?_⟩
  dsimp only
  split
  · next heq =>
      cases heq
      rw [hvalue]
      dsimp only
      split
      · next heq => cases hs.symm.trans heq; rfl
      · next heq => cases hs.symm.trans heq
      · next hnone _ => exact absurd hs (hnone _)
  · next hnone => exact absurd rfl (hnone mid)

/-- A member with others behind it. -/
theorem readsMembers_more {others : List Char}
    (hname : ReadsString (cs.length + 1) [] cs name (':' :: mid))
    (h : Reads (skipBlanks mid) v after) (hs : skipBlanks after = ',' :: others)
    (hnext : ReadsMembers (Entries.put (.text name) v grown) (skipBlanks others) es rest) :
    ReadsMembers grown ('"' :: cs) es rest := by
  obtain ⟨hlt, hstring⟩ := hname
  obtain ⟨hlt', hvalue⟩ := h
  obtain ⟨hlt'', hmembers⟩ := hnext
  have hafter : after.length < cs.length :=
    Nat.lt_trans (Nat.lt_of_lt_of_le hlt' (length_skipBlanks_le mid)) (Nat.lt_of_succ_lt hlt)
  rw [ReadsMembers, members, hstring]
  refine ⟨Nat.lt_succ_of_lt (Nat.lt_trans (Nat.lt_trans hlt'' (length_skipBlanks_lt hs)) hafter), ?_⟩
  dsimp only
  split
  · next heq =>
      cases heq
      rw [hvalue]
      dsimp only
      split
      · next heq => cases hs.symm.trans heq
      · next heq =>
          cases hs.symm.trans heq
          rw [hmembers]
          rfl
      · next _ hnone => exact absurd hs (hnone _)
  · next hnone => exact absurd rfl (hnone mid)

end

/-! ## Strings and digits -/

/-- Characters that stand for themselves in a string. -/
def Literal (cs : List Char) : Prop := ∀ c ∈ cs, c ≠ '"' ∧ c ≠ '\\' ∧ 0x20 ≤ c.toNat

instance : DecidablePred Literal := fun cs =>
  decidable_of_iff (cs.all fun c => decide (c ≠ '"' ∧ c ≠ '\\' ∧ 0x20 ≤ c.toNat) = true)
    (by simp [Literal])

/-- What may follow a value: nothing, a comma or what closes a list or an object. -/
inductive Delimits : List Char → Prop
  | done : Delimits []
  | more (d : Char) (rest : List Char) (hd : d ∈ [',', ']', '\x7d']) : Delimits (d :: rest)

section

variable {cs rest : List Char} {c : Char}

/-- A string whose characters stand for themselves is read up to its closing quote. -/
theorem readsString_of_literal (h : Literal cs) (opening : Nat) (done rest : List Char) :
    ReadsString opening done (cs ++ '"' :: rest) (String.ofList (done.reverse ++ cs)) rest := by
  induction cs generalizing done with
  | nil =>
      rw [List.nil_append, List.append_nil, ReadsString, string]
      exact ⟨Nat.lt_succ_self _, rfl⟩
  | cons c more ih =>
      obtain ⟨hquote, hescape, hcontrol⟩ := h c List.mem_cons_self
      obtain ⟨hlt, hmore⟩ := ih (fun x hx => h x (List.mem_cons_of_mem c hx)) (c :: done)
      rw [List.cons_append, ReadsString, string]
      · rw [if_neg (Nat.not_lt.2 hcontrol), hmore, List.reverse_cons, List.append_assoc]
        exact ⟨Nat.lt_succ_of_lt hlt, rfl⟩
      · exact hquote
      · exact fun heq _ => hescape heq
      · exact fun _ heq _ => hescape heq
      · exact fun _ _ heq _ => hescape heq

/-- The name of a member is read up to its closing quote. -/
theorem readsString_name {s : String} (h : Literal s.toList) (rest : List Char) :
    ReadsString ((s.toList ++ '"' :: rest).length + 1) [] (s.toList ++ '"' :: rest) s rest := by
  simpa using readsString_of_literal h ((s.toList ++ '"' :: rest).length + 1) [] rest

/-- A digit is none of the characters that are no digits. -/
theorem ne_of_isDigit {d : Char} (hc : isDigit c = true) (hd : isDigit d = false) : c ≠ d := by
  rintro rfl
  exact Bool.noConfusion (hc.symm.trans hd)

/-- No word that stands for a value starts with a digit. -/
theorem word?_of_digit (hc : isDigit c = true) : word? words (c :: rest) = none := by
  have hne : ∀ d, isDigit d = false → d ≠ c := fun d hd => (ne_of_isDigit hc hd).symm
  simp [word?, words, hne 'n' rfl, hne 't' rfl, hne 'f' rfl, hne 'N' rfl, hne 'I' rfl, hne '-' rfl]

/-- Nothing that may follow a value goes on with a number. -/
theorem Delimits.ends_number (h : Delimits rest) :
    leadingDigits rest = [] ∧ fractionDigits rest = [] ∧ exponentPart rest = none := by
  cases h with
  | done => exact ⟨rfl, rfl, rfl⟩
  | more d rest hd =>
      simp only [List.mem_cons, List.not_mem_nil, or_false] at hd
      rcases hd with rfl | rfl | rfl
      · exact ⟨rfl, rfl, rfl⟩
      · exact ⟨rfl, rfl, rfl⟩
      · exact ⟨rfl, rfl, rfl⟩

/-- The digits of a number of one digit. -/
theorem wholeDigits_of_digit (hc : isDigit c = true) (h : leadingDigits rest = []) :
    wholeDigits (c :: rest) = [c] := by
  by_cases hzero : c = '0'
  · subst hzero
    rfl
  · rw [wholeDigits]
    · rw [leadingDigits, List.takeWhile_cons_of_pos hc]
      exact congrArg (c :: ·) h
    · rintro _ ⟨⟩
      exact hzero rfl

/-- A number of one digit is read up to what may follow it. -/
theorem reads_digit (hc : isDigit c = true) (h : Delimits rest) :
    Reads (c :: rest) (.int (c.toNat - 0x30 : Nat)) rest := by
  obtain ⟨hleading, hfraction, hexponent⟩ := h.ends_number
  have hnumber : number (c :: rest) = .ok (.int (c.toNat - 0x30 : Nat), ⟨rest, by simp⟩) := by
    rw [number]
    · simp [unsigned, wholeDigits_of_digit hc hleading, hfraction, hexponent, numberValue,
        digitsValue]
    · rintro _ ⟨⟩
      exact ne_of_isDigit hc rfl rfl
  refine ⟨Nat.lt_succ_self _, ?_⟩
  rw [value, scalar, word?_of_digit hc]
  · exact hnumber
  · exact List.cons_ne_nil _ _
  all_goals
    rintro _ ⟨⟩
    exact ne_of_isDigit hc rfl rfl

end

/-! ## Parts of documents -/

/-- A part of a document: a text, and the value that it is meant to spell. -/
structure Part where
  text : List Char
  value : Value

namespace Part

/-- The text spells the value: it starts with neither a blank nor the end of a list, and it is read up
to what may follow. -/
structure Spells (p : Part) : Prop where
  start : ∃ c more, p.text = c :: more ∧ isBlank c = false ∧ c ≠ ']'
  reads : ∀ rest, Delimits rest → Reads (p.text ++ rest) p.value rest

/-- A string in its quotes. -/
def quoted (s : String) : List Char := '"' :: (s.toList ++ ['"'])

/-- Texts with commas between them, and what closes them. -/
def enclosed (close : Char) : List (List Char) → List Char
  | [] => [close]
  | [text] => text ++ [close]
  | text :: next :: rest => text ++ ',' :: enclosed close (next :: rest)

/-- The text of a member of an object. -/
def memberText (f : String × Part) : List Char := quoted f.1 ++ ':' :: f.2.text

/-- The members of an object with those of some fields put one after another. -/
def putAll (grown : List (Value × Value)) (fields : List (String × Part)) : List (Value × Value) :=
  fields.foldl (fun done f => Entries.put (.text f.1) f.2.value done) grown

/-- A number of one digit. -/
def ofDigit (c : Char) : Part := ⟨[c], .int (c.toNat - 0x30 : Nat)⟩

/-- A string. -/
def ofString (s : String) : Part := ⟨quoted s, .text s⟩

/-- A list. -/
def ofList (parts : List Part) : Part :=
  ⟨'[' :: enclosed ']' (parts.map text), .list (parts.map value)⟩

/-- An object; a repeated name has its first place and its last value. -/
def ofFields (fields : List (String × Part)) : Part :=
  ⟨'\x7b' :: enclosed '\x7d' (fields.map memberText), .mapping (putAll [] fields)⟩

/-- What stands behind the first of several texts. -/
theorem exists_enclosed_eq (close : Char) (text : List Char) (others : List (List Char)) :
    ∃ more, enclosed close (text :: others) = text ++ more := by
  cases others with
  | nil => exact ⟨_, rfl⟩
  | cons next rest => exact ⟨_, rfl⟩

/-- There are no blanks to skip in front of a text that spells a value. -/
theorem Spells.skipBlanks_eq {p : Part} (h : p.Spells) (rest : List Char) :
    skipBlanks (p.text ++ rest) = p.text ++ rest := by
  obtain ⟨c, more, htext, hblank, -⟩ := h.start
  rw [htext]
  exact List.dropWhile_cons_of_neg (by simp [hblank])

/-- A digit spells its number. -/
theorem spells_ofDigit {c : Char} (hc : isDigit c = true) : (ofDigit c).Spells where
  start := by
    have hne : ∀ d, isDigit d = false → c ≠ d := fun d hd => ne_of_isDigit hc hd
    refine ⟨c, [], rfl, ?_, hne ']' rfl⟩
    simp [isBlank, hne ' ' rfl, hne '\t' rfl, hne '\n' rfl, hne '\r' rfl]
  reads := fun rest hrest => reads_digit hc hrest

/-- A string in its quotes spells itself. -/
theorem spells_ofString {s : String} (h : Literal s.toList) : (ofString s).Spells where
  start := ⟨_, _, rfl, rfl, by decide⟩
  reads := by
    intro rest _
    obtain ⟨hlt, hstring⟩ := readsString_name h rest
    have htext : quoted s ++ rest = '"' :: (s.toList ++ '"' :: rest) := by simp [quoted]
    rw [ofString, htext, Reads, Json.value, hstring]
    exact ⟨Nat.lt_succ_of_lt hlt, rfl⟩

/-- The items of a list that is not empty are read one after another. -/
theorem readsItems_of_spells {parts : List Part} (hne : parts ≠ []) (h : ∀ p ∈ parts, p.Spells)
    (done : List Value) (rest : List Char) :
    ReadsItems done (enclosed ']' (parts.map text) ++ rest) (done.reverse ++ parts.map value)
      rest := by
  induction parts generalizing done with
  | nil => exact absurd rfl hne
  | cons p others ih =>
      have hp := h p List.mem_cons_self
      cases others with
      | nil =>
          have hread := hp.reads (']' :: rest) (.more ']' rest (by decide))
          have hitems : ReadsItems done (p.text ++ ']' :: rest) (p.value :: done).reverse rest :=
            readsItems_last hread rfl
          simpa [enclosed] using hitems
      | cons q more =>
          have hq := h q (List.mem_cons_of_mem p List.mem_cons_self)
          have hothers := ih (List.cons_ne_nil q more) (fun x hx => h x (List.mem_cons_of_mem p hx))
            (p.value :: done)
          obtain ⟨tail, htail⟩ := exists_enclosed_eq ']' q.text (more.map text)
          rw [List.map_cons, htail, List.append_assoc, ← hq.skipBlanks_eq] at hothers
          have hread := hp.reads (',' :: (q.text ++ (tail ++ rest))) (.more ',' _ (by decide))
          simpa [enclosed, htail] using readsItems_more hread rfl hothers

/-- **Lists.**  One that is not empty spells the list of what its items spell. -/
theorem spells_ofList {parts : List Part} (hne : parts ≠ []) (h : ∀ p ∈ parts, p.Spells) :
    (ofList parts).Spells where
  start := ⟨_, _, rfl, rfl, by decide⟩
  reads := by
    intro rest _
    have hitems := readsItems_of_spells hne h [] rest
    obtain ⟨p, others, rfl⟩ := List.exists_cons_of_ne_nil hne
    have hp := h p List.mem_cons_self
    obtain ⟨tail, htail⟩ := exists_enclosed_eq ']' p.text (others.map text)
    rw [List.map_cons, htail, List.append_assoc, ← hp.skipBlanks_eq] at hitems
    rw [ofList, List.map_cons, htail, List.cons_append, List.append_assoc]
    refine reads_list ?_ hitems
    obtain ⟨c, more, hc, -, hclose⟩ := hp.start
    rw [hp.skipBlanks_eq, hc]
    exact fun heq => hclose (Option.some.inj heq)

/-- The members of an object that is not empty are read one after another. -/
theorem readsMembers_of_spells {fields : List (String × Part)} (hne : fields ≠ [])
    (hnames : ∀ f ∈ fields, Literal f.1.toList) (h : ∀ f ∈ fields, f.2.Spells)
    (grown : List (Value × Value)) (rest : List Char) :
    ReadsMembers grown (enclosed '\x7d' (fields.map memberText) ++ rest) (putAll grown fields)
      rest := by
  induction fields generalizing grown with
  | nil => exact absurd rfl hne
  | cons f others ih =>
      have hname := hnames f List.mem_cons_self
      have hf := h f List.mem_cons_self
      cases others with
      | nil =>
          have hread := hf.reads ('\x7d' :: rest) (.more '\x7d' rest (by decide))
          rw [← hf.skipBlanks_eq] at hread
          have hmembers : ReadsMembers grown _ (Entries.put (.text f.1) f.2.value grown) rest :=
            readsMembers_last (readsString_name hname _) hread rfl
          simpa [enclosed, memberText, quoted, putAll] using hmembers
      | cons g more =>
          have hothers := ih (List.cons_ne_nil g more)
            (fun x hx => hnames x (List.mem_cons_of_mem f hx))
            (fun x hx => h x (List.mem_cons_of_mem f hx)) (Entries.put (.text f.1) f.2.value grown)
          obtain ⟨tail, htail⟩ := exists_enclosed_eq '\x7d' (memberText g) (more.map memberText)
          rw [List.map_cons, htail, List.append_assoc] at hothers
          have hread := hf.reads (',' :: (memberText g ++ (tail ++ rest))) (.more ',' _ (by decide))
          rw [← hf.skipBlanks_eq] at hread
          have hmembers := readsMembers_more (readsString_name hname _) hread rfl hothers
          rw [List.map_cons, List.map_cons, enclosed, htail]
          simpa [memberText, quoted, putAll] using hmembers

/-- **Objects.**  One that is not empty spells the mapping of what its members spell. -/
theorem spells_ofFields {fields : List (String × Part)} (hne : fields ≠ [])
    (hnames : ∀ f ∈ fields, Literal f.1.toList) (h : ∀ f ∈ fields, f.2.Spells) :
    (ofFields fields).Spells where
  start := ⟨_, _, rfl, rfl, by decide⟩
  reads := by
    intro rest _
    have hmembers := readsMembers_of_spells hne hnames h [] rest
    obtain ⟨f, others, rfl⟩ := List.exists_cons_of_ne_nil hne
    obtain ⟨tail, htail⟩ := exists_enclosed_eq '\x7d' (memberText f) (others.map memberText)
    rw [List.map_cons, htail, List.append_assoc] at hmembers
    rw [ofFields, List.map_cons, htail, List.cons_append, List.append_assoc]
    exact reads_object (by simp [memberText, quoted, skipBlanks, isBlank]) hmembers

/-- **Documents.**  A text that spells a value is read as it. -/
theorem Spells.parse_eq {p : Part} (h : p.Spells) (hmark : p.text.head? ≠ some '\ufeff') :
    parse p.text = .ok p.value := by
  have hread := h.reads [] .done
  rw [← h.skipBlanks_eq, List.append_nil] at hread
  obtain ⟨hlt, hvalue⟩ := hread
  have hdocument : document p.text = .ok p.value := by
    rw [document, if_neg hmark, hvalue]
    rfl
  rw [parse, hdocument]
  rfl

end Part

end Json

/-- **Files.**  A rulebook is loaded from a file of ASCII characters that spell its document. -/
theorem Rulebook.load_of_spells {b : Rulebook} {p : Json.Part} (path : Path)
    (hplain : Text.Plain p.text) (hspells : p.Spells) (hvalue : p.value = b.toValue) :
    (load path (.ok (Text.octets p.text))).result = .ok b := by
  have hmark : p.text.head? ≠ some '\ufeff' := by
    intro hhead
    exact absurd (hplain _ (List.mem_of_head? hhead)).1 (by decide)
  have hparsed : parseContent (.ok (Text.octets p.text)) = .ok b.toValue := by
    simp [parseContent, Except.mapError, Text.decode_octets hplain,
      Text.normalizeBreaks_of_plain hplain, hspells.parse_eq hmark, hvalue]
  have hcontent : ofContent (.ok (Text.octets p.text)) = .ok b := by
    have hread := ofValue_toValue b
    rw [ofContent, hparsed, ok_bind_eq]
    simp only [toValue, Value.record] at hread ⊢
    rw [hread]
    rfl
  rw [load, hcontent]

end Circulation
