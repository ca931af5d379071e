import Circulation.Proofs.Tally
import Circulation.Text.Numeral
/-!
# Which texts are integer numerals

A numeral may have blanks around it, a sign before its digits, digits of any script and single
underscores between digits, so that one integer has many numerals: `7`, `+07`, ` 0_7` and so on.
The reader goes from left to right with the number read so far.  Here the numerals are described
without it, by what they are made of, and the reader accepts exactly these.

The separators U+001C to U+001F are no blanks.

The key constructions are

* `Spells` : digits, with the number they spell;
* `SpellsInt` : digits after an optional sign, with the integer they spell;
* `IsNumeral` : a numeral with blanks around it.

The main facts are

* `readInt?_eq_some_iff` : the reader gives exactly the integer of a numeral;
* `IsNumeral.unique` : a text is a numeral for one integer at most;
* `isNumeral_toString` : the decimal text of an integer is a numeral for it.
-/

namespace Circulation.Text

/-! ## Digits -/

/-- Digits of any script, with at most one underscore between neighbours, and the number that they
spell in base ten. -/
inductive Spells : List Char → Nat → Prop
  | digit {c : Char} {d : Nat} (last : digitValue? c = some d) : Spells [c] d
  | next {cs : List Char} {n : Nat} {c : Char} {d : Nat} (front : Spells cs n)
      (last : digitValue? c = some d) : Spells (cs ++ [c]) (n * 10 + d)
  | underscore {cs : List Char} {n : Nat} {c : Char} {d : Nat} (front : Spells cs n)
      (last : digitValue? c = some d) : Spells (cs ++ ['_', c]) (n * 10 + d)

/-- No digit of any script is a blank. -/
theorem isBlank_of_digit {c : Char} {d : Nat} (h : digitValue? c = some d) : isBlank c = false := by
  have hscan : ∀ z ∈ digitZeros, ∀ i < 10, isBlank (Char.ofNat (z + i)) = false := by
    decide +kernel
  obtain ⟨z, hz, hc⟩ := List.exists_of_findSome?_eq_some h
  split at hc
  · rename_i hrange
    have hcode : c.toNat = z + (c.toNat - z) := by omega
    rw [← Char.ofNat_toNat c, hcode]
    exact hscan z hz _ (by omega)
  · cases hc

/-- A digit is no character without a value. -/
theorem ne_of_digit {c x : Char} {d : Nat} (h : digitValue? c = some d)
    (hx : digitValue? x = none) : c ≠ x := by
  rintro rfl
  rw [hx] at h
  cases h

/-- The digits of decimal texts have their values. -/
theorem digitValue?_digitChar {d : Nat} (h : d < 10) : digitValue? (Nat.digitChar d) = some d := by
  have hscan : ∀ d < 10, digitValue? (Nat.digitChar d) = some d := by decide +kernel
  exact hscan d h

section

variable {cs : List Char} {n : Nat}

/-- Spelt digits begin with a digit. -/
theorem Spells.exists_head (h : Spells cs n) :
    ∃ c rest d, cs = c :: rest ∧ digitValue? c = some d := by
  induction h with
  | digit last => exact ⟨_, [], _, rfl, last⟩
  | next front last ih | underscore front last ih =>
      obtain ⟨c, rest, d, rfl, hd⟩ := ih
      exact ⟨c, rest ++ _, d, List.cons_append, hd⟩

/-- Spelt digits end with a digit. -/
theorem Spells.exists_last (h : Spells cs n) :
    ∃ front c d, cs = front ++ [c] ∧ digitValue? c = some d := by
  cases h with
  | digit last => exact ⟨[], _, _, rfl, last⟩
  | next front last => exact ⟨_, _, _, rfl, last⟩
  | @underscore cs n c d front last => exact ⟨cs ++ ['_'], c, d, by simp, last⟩

/-- What the reader gives for the rest of some digits continues what they spell so far. -/
theorem spells_append_of_readDigits {acc : Nat} {rest : List Char} (hcs : Spells cs acc)
    (h : readDigits? acc rest = some n) : Spells (cs ++ rest) n := by
  fun_induction readDigits? acc rest generalizing cs with
  | case1 acc =>
      cases h
      rwa [List.append_nil]
  | case2 acc c rest ih =>
      obtain ⟨d, hd, hrest⟩ := Option.bind_eq_some_iff.1 h
      have hread := ih d (hcs.underscore hd) hrest
      rwa [List.append_assoc] at hread
  | case3 acc c rest _ ih =>
      obtain ⟨d, hd, hrest⟩ := Option.bind_eq_some_iff.1 h
      have hread := ih d (hcs.next hd) hrest
      rwa [List.append_assoc] at hread

/-- After digits that were read, the reader goes on with their number. -/
theorem readDigits?_append {acc : Nat} {front : List Char} (h : readDigits? acc front = some n)
    (rest : List Char) : readDigits? acc (front ++ rest) = readDigits? n rest := by
  fun_induction readDigits? acc front with
  | case1 acc =>
      cases h
      rfl
  | case2 acc c front ih =>
      obtain ⟨d, hd, hfront⟩ := Option.bind_eq_some_iff.1 h
      rw [List.cons_append, List.cons_append, readDigits?, hd, Option.bind_some]
      exact ih d hfront
  | case3 acc c front hc ih =>
      obtain ⟨d, hd, hfront⟩ := Option.bind_eq_some_iff.1 h
      -- A lone underscore is no digit, so the first character is none.
      have hne : c ≠ '_' := ne_of_digit hd (by decide)
      rw [List.cons_append, readDigits?, hd, Option.bind_some]
      · exact ih d hfront
      · intro c' rest' heq
        exact absurd heq hne

/-- **Digits.**  The reader gives a number exactly for the digits that spell it. -/
theorem readNat?_eq_some_iff : readNat? cs = some n ↔ Spells cs n := by
  constructor
  · intro h
    cases cs with
    | nil => cases h
    | cons c rest =>
        obtain ⟨d, hd, hrest⟩ := Option.bind_eq_some_iff.1 h
        exact spells_append_of_readDigits (.digit hd) hrest
  · intro h
    -- The digits before the last one are not empty, and the reader goes on after them.
    have hgoes : ∀ {cs : List Char} {n : Nat}, readNat? cs = some n → ∀ rest,
        readNat? (cs ++ rest) = readDigits? n rest := by
      intro cs n hcs rest
      cases cs with
      | nil => cases hcs
      | cons c front =>
          obtain ⟨d, hd, hfront⟩ := Option.bind_eq_some_iff.1 hcs
          rw [List.cons_append, readNat?, hd, Option.bind_some]
          exact readDigits?_append hfront rest
    induction h with
    | digit last => simp [readNat?, readDigits?, last]
    | next front last ih | underscore front last ih =>
        rw [hgoes ih]
        simp [readDigits?, last]

end

/-! ## Signs -/

/-- Digits after an optional sign, with the integer that they spell. -/
inductive SpellsInt : List Char → Int → Prop
  | plain {cs : List Char} {n : Nat} (digits : Spells cs n) : SpellsInt cs n
  | plus {cs : List Char} {n : Nat} (digits : Spells cs n) : SpellsInt ('+' :: cs) n
  | minus {cs : List Char} {n : Nat} (digits : Spells cs n) : SpellsInt ('-' :: cs) (-n)

section

variable {cs : List Char} {n : Int}

/-- The reader after a minus. -/
theorem readSigned?_minus (rest : List Char) :
    readSigned? ('-' :: rest) = (readNat? rest).map fun k : Nat => -(k : Int) := by
  cases h : readNat? rest <;> simp [readSigned?, h]

/-- The reader after a plus. -/
theorem readSigned?_plus (rest : List Char) :
    readSigned? ('+' :: rest) = (readNat? rest).map fun k : Nat => (k : Int) := by
  cases h : readNat? rest <;> simp [readSigned?, h]

/-- The reader without a sign. -/
theorem readSigned?_of_ne (hminus : ∀ rest, cs ≠ '-' :: rest) (hplus : ∀ rest, cs ≠ '+' :: rest) :
    readSigned? cs = (readNat? cs).map fun k : Nat => (k : Int) := by
  rw [readSigned?]
  · cases readNat? cs <;> rfl
  · exact hminus
  · exact hplus

/-- **Signs.**  The reader gives an integer exactly for the signed digits that spell it. -/
theorem readSigned?_eq_some_iff : readSigned? cs = some n ↔ SpellsInt cs n := by
  constructor
  · intro h
    by_cases hminus : ∃ rest, cs = '-' :: rest
    · obtain ⟨rest, rfl⟩ := hminus
      rw [readSigned?_minus] at h
      obtain ⟨k, hk, rfl⟩ := Option.map_eq_some_iff.1 h
      exact .minus (readNat?_eq_some_iff.1 hk)
    by_cases hplus : ∃ rest, cs = '+' :: rest
    · obtain ⟨rest, rfl⟩ := hplus
      rw [readSigned?_plus] at h
      obtain ⟨k, hk, rfl⟩ := Option.map_eq_some_iff.1 h
      exact .plus (readNat?_eq_some_iff.1 hk)
    rw [readSigned?_of_ne (not_exists.1 hminus) (not_exists.1 hplus)] at h
    obtain ⟨k, hk, rfl⟩ := Option.map_eq_some_iff.1 h
    exact .plain (readNat?_eq_some_iff.1 hk)
  · intro h
    cases h with
    | plain digits =>
        -- The first character is a digit, and the signs are none.
        obtain ⟨c, rest, d, rfl, hd⟩ := digits.exists_head
        rw [readSigned?_of_ne, readNat?_eq_some_iff.2 digits, Option.map_some]
        · exact fun _ heq => ne_of_digit hd (by decide) (List.cons.inj heq).1
        · exact fun _ heq => ne_of_digit hd (by decide) (List.cons.inj heq).1
    | plus digits => rw [readSigned?_plus, readNat?_eq_some_iff.2 digits, Option.map_some]
    | minus digits => rw [readSigned?_minus, readNat?_eq_some_iff.2 digits, Option.map_some]

/-- Signed digits begin and end with a character that is no blank. -/
theorem SpellsInt.ends (h : SpellsInt cs n) :
    (∃ c rest, cs = c :: rest ∧ isBlank c = false) ∧
    ∃ front c, cs = front ++ [c] ∧ isBlank c = false := by
  cases h with
  | plain digits =>
      obtain ⟨c, rest, d, hhead, hc⟩ := digits.exists_head
      obtain ⟨front, c', d', hlast, hc'⟩ := digits.exists_last
      exact ⟨⟨c, rest, hhead, isBlank_of_digit hc⟩, front, c', hlast, isBlank_of_digit hc'⟩
  | plus digits =>
      obtain ⟨front, c, d, rfl, hc⟩ := digits.exists_last
      exact ⟨⟨'+', _, rfl, by decide⟩, '+' :: front, c, rfl, isBlank_of_digit hc⟩
  | minus digits =>
      obtain ⟨front, c, d, rfl, hc⟩ := digits.exists_last
      exact ⟨⟨'-', _, rfl, by decide⟩, '-' :: front, c, rfl, isBlank_of_digit hc⟩

end

/-! ## Blanks -/

/-- A numeral for an integer: signed digits that spell it, with blanks on both sides. -/
def IsNumeral (s : String) (n : Int) : Prop :=
  ∃ before digits after, s.toList = before ++ digits ++ after ∧
    (∀ c ∈ before, isBlank c = true) ∧ (∀ c ∈ after, isBlank c = true) ∧ SpellsInt digits n

/-- Blanks in front are dropped up to the first other character. -/
theorem dropWhile_blanks {before : List Char} (h : ∀ c ∈ before, isBlank c = true) {c : Char}
    (hc : isBlank c = false) (rest : List Char) :
    (before ++ c :: rest).dropWhile isBlank = c :: rest := by
  rw [List.dropWhile_append_of_pos h, List.dropWhile_cons_of_neg (by simp [hc])]

/-- Trimming drops the blanks around what begins and ends with another character. -/
theorem trimBlanks_of_ends {before body after : List Char} (hbefore : ∀ c ∈ before, isBlank c = true)
    (hafter : ∀ c ∈ after, isBlank c = true)
    (hhead : ∃ c rest, body = c :: rest ∧ isBlank c = false)
    (hlast : ∃ front c, body = front ++ [c] ∧ isBlank c = false) :
    trimBlanks (before ++ body ++ after) = body := by
  have hfront : (before ++ body ++ after).dropWhile isBlank = body ++ after := by
    obtain ⟨c, rest, rfl, hc⟩ := hhead
    rw [List.append_assoc, List.cons_append]
    exact dropWhile_blanks hbefore hc (rest ++ after)
  have hback : (body ++ after).reverse.dropWhile isBlank = body.reverse := by
    obtain ⟨front, c, rfl, hc⟩ := hlast
    rw [List.reverse_append, List.reverse_append, List.reverse_singleton, List.singleton_append]
    exact dropWhile_blanks (fun x hx => hafter x (List.mem_reverse.1 hx)) hc front.reverse
  rw [trimBlanks, hfront, hback, List.reverse_reverse]

/-- What trimming drops are blanks. -/
theorem exists_trimBlanks (cs : List Char) :
    ∃ before after, cs = before ++ trimBlanks cs ++ after ∧
      (∀ c ∈ before, isBlank c = true) ∧ ∀ c ∈ after, isBlank c = true := by
  refine ⟨cs.takeWhile isBlank, ((cs.dropWhile isBlank).reverse.takeWhile isBlank).reverse, ?_,
    fun c hc => List.mem_takeWhile_imp hc,
    fun c hc => List.mem_takeWhile_imp (List.mem_reverse.1 hc)⟩
  rw [trimBlanks, List.append_assoc, ← List.reverse_append, List.takeWhile_append_dropWhile,
    List.reverse_reverse, List.takeWhile_append_dropWhile]

/-- **Numerals.**  The reader gives an integer exactly for its numerals. -/
theorem readInt?_eq_some_iff {s : String} {n : Int} : readInt? s = some n ↔ IsNumeral s n := by
  rw [readInt?, readSigned?_eq_some_iff]
  constructor
  · intro h
    obtain ⟨before, after, hsplit, hbefore, hafter⟩ := exists_trimBlanks s.toList
    exact ⟨before, _, after, hsplit, hbefore, hafter, h⟩
  · rintro ⟨before, digits, after, hsplit, hbefore, hafter, h⟩
    rwa [hsplit, trimBlanks_of_ends hbefore hafter h.ends.1 h.ends.2]

/-- A text is a numeral for one integer at most. -/
theorem IsNumeral.unique {s : String} {m n : Int} (hm : IsNumeral s m) (hn : IsNumeral s n) :
    m = n :=
  Option.some.inj ((readInt?_eq_some_iff.2 hm).symm.trans (readInt?_eq_some_iff.2 hn))

/-! ## Decimal texts -/

/-- The decimal digits of a number spell it. -/
theorem spells_toDigits (n : Nat) : Spells (Nat.toDigits 10 n) n := by
  induction n using Nat.strong_induction_on with
  | _ n ih =>
      rcases Nat.lt_or_ge n 10 with hlt | hge
      · rw [Nat.toDigits_of_lt_base hlt]
        exact .digit (digitValue?_digitChar hlt)
      · have hdiv : n / 10 < n := Nat.div_lt_self (by omega) (by decide)
        have hlast := digitValue?_digitChar (Nat.mod_lt n (by decide : 0 < 10))
        have hspells := (ih (n / 10) hdiv).next hlast
        rwa [← Nat.toDigits_of_base_le (by decide) hge, Nat.div_add_mod' n 10] at hspells

/-- **Decimal texts.**  The decimal text of an integer is a numeral for it. -/
theorem isNumeral_toString (n : Int) : IsNumeral (toString n) n := by
  refine ⟨[], (toString n).toList, [], by simp, by simp, by simp, ?_⟩
  cases n with
  | ofNat k =>
      have htext : (toString (Int.ofNat k)).toList = Nat.toDigits 10 k := Nat.toList_repr
      rw [htext]
      exact .plain (spells_toDigits k)
  | negSucc k =>
      have htext : (toString (Int.negSucc k)).toList = '-' :: Nat.toDigits 10 (k + 1) := by
        show ("-" ++ Nat.repr (k + 1)).toList = _
        rw [String.toList_append, Nat.toList_repr]
        rfl
      rw [htext]
      exact .minus (spells_toDigits (k + 1))

end Circulation.Text
