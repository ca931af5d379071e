import Circulation.Proofs.Verdicts
/-!
# Codes and their wording lose nothing

An integer is decoded into a meaning and can be described in words.  Neither loses anything.  The
codes with a meaning are those that the builders give for ids from 1 to 99 and for days that are not
negative, and each of them is decoded into what it was built from; the gaps between the bands, their
starts and all negative numbers stay unknown.  The words around the number in a description tell the
kinds of codes apart, by their first character or by their last one, so a description is that of one
code only.

The key constructions are

* `Encodes` : the codes that the builders give a meaning;
* `Template` : a description with a place for a number, and what is to be added to the number;
* `Template.Clashes` : two templates that no numbers make equal.

The main facts are

* `decode_eq_iff`, `decode_eq_unknown_iff` : decoding undoes the builders and nothing else;
* `exists_template` : every description but that of success fills in a template;
* `codes_lose_nothing` : both of them, and that descriptions differ.
-/

namespace Circulation.Code

/-! ## Encoding -/

/-- The integer is the code that the builders give to the meaning. -/
@[mk_iff] inductive Encodes : Meaning → Int → Prop
  | success : Encodes .success 0
  | titleUnavailable {n c : Int} (id : 1 ≤ n ∧ n ≤ 99)
      (built : .int c = titleUnavailable (.int n)) : Encodes (.titleUnavailable (.int n)) c
  | loanLimit {n c : Int} (id : 1 ≤ n ∧ n ≤ 99) (built : .int c = loanLimit (.int n)) :
      Encodes (.loanLimit (.int n)) c
  | fineCeiling {n c : Int} (id : 1 ≤ n ∧ n ≤ 99) (built : .int c = fineCeiling (.int n)) :
      Encodes (.fineCeiling (.int n)) c
  | returned {d c : Int} (days : 0 ≤ d) (built : .int c = returned (.int d)) :
      Encodes (.returned (.int d)) c

/-- Decoding undoes the builders. -/
theorem Encodes.decode_eq {meaning : Meaning} {c : Int} (h : Encodes meaning c) :
    decode (.int c) = meaning := by
  cases h with
  | success => rfl
  | titleUnavailable id built => rw [built]; exact decode_titleBase id
  | loanLimit id built => rw [built]; exact decode_loanBase id
  | fineCeiling id built => rw [built]; exact decode_fineBase id
  | returned days built => rw [built]; exact decode_returnBase days

/-- What is decoded was built, unless the code is unknown. -/
theorem encodes_decode {c : Int} (h : decode (.int c) ≠ .unknown) :
    Encodes (decode (.int c)) c := by
  rw [decode_int] at h ⊢
  split_ifs at h ⊢ with hzero hreturned htitle hloan hfine
  · rw [hzero]
    exact .success
  · exact .returned (by omega) (congrArg Number.int (Int.sub_add_cancel c 1000).symm)
  · exact .titleUnavailable (by omega) (congrArg Number.int (Int.sub_add_cancel c 200).symm)
  · exact .loanLimit (by omega) (congrArg Number.int (Int.sub_add_cancel c 300).symm)
  · exact .fineCeiling (by omega) (congrArg Number.int (Int.sub_add_cancel c 400).symm)
  · exact absurd rfl h

/-- **Decoding.**  A code is decoded into a meaning exactly when it is built for it. -/
theorem decode_eq_iff {meaning : Meaning} (h : meaning ≠ .unknown) (c : Int) :
    decode (.int c) = meaning ↔ Encodes meaning c := by
  constructor
  · rintro rfl
    exact encodes_decode h
  · exact Encodes.decode_eq

/-- The codes without a meaning are those that are built for none. -/
theorem decode_eq_unknown_iff (c : Int) :
    decode (.int c) = .unknown ↔ ¬ ∃ meaning, Encodes meaning c := by
  constructor
  · rintro hunknown ⟨meaning, h⟩
    rw [h.decode_eq] at hunknown
    subst hunknown
    cases h
  · intro hnone
    by_contra hknown
    exact hnone ⟨_, encodes_decode hknown⟩

/-- The codes that are built, builder by builder. -/
theorem exists_encodes_iff (c : Int) : (∃ meaning, Encodes meaning c) ↔ c = 0 ∨
    (∃ n : Int, .int c = titleUnavailable (.int n) ∧ 1 ≤ n ∧ n ≤ 99) ∨
    (∃ n : Int, .int c = loanLimit (.int n) ∧ 1 ≤ n ∧ n ≤ 99) ∨
    (∃ n : Int, .int c = fineCeiling (.int n) ∧ 1 ≤ n ∧ n ≤ 99) ∨
    ∃ d : Int, .int c = returned (.int d) ∧ 0 ≤ d := by
  constructor
  · rintro ⟨meaning, h⟩
    cases h with
    | success => exact .inl rfl
    | titleUnavailable id built => exact .inr (.inl ⟨_, built, id⟩)
    | loanLimit id built => exact .inr (.inr (.inl ⟨_, built, id⟩))
    | fineCeiling id built => exact .inr (.inr (.inr (.inl ⟨_, built, id⟩)))
    | returned days built => exact .inr (.inr (.inr (.inr ⟨_, built, days⟩)))
  · rintro (rfl | ⟨n, built, id⟩ | ⟨n, built, id⟩ | ⟨n, built, id⟩ | ⟨d, built, days⟩)
    · exact ⟨_, .success⟩
    · exact ⟨_, .titleUnavailable id built⟩
    · exact ⟨_, .loanLimit id built⟩
    · exact ⟨_, .fineCeiling id built⟩
    · exact ⟨_, .returned days built⟩

/-! ## Templates -/

/-- A description with a place for a number, and what is to be added to the number for the code. -/
structure Template where
  base : Int
  before : String
  after : String
deriving DecidableEq

namespace Template

/-- The description of a code. -/
def fill (t : Template) (c : Int) : String := t.before ++ toString (c - t.base) ++ t.after

/-- The templates begin with different characters, or end with different ones. -/
def Clashes (t u : Template) : Prop :=
  t.before ≠ "" ∧ u.before ≠ "" ∧ t.before.toList.head? ≠ u.before.toList.head? ∨
  t.after ≠ "" ∧ u.after ≠ "" ∧ t.after.toList.getLast? ≠ u.after.toList.getLast?
deriving Decidable

variable {t u : Template} {c d : Int}

/-- A description begins as its template. -/
theorem head?_fill (h : t.before ≠ "") (c : Int) :
    (t.fill c).toList.head? = t.before.toList.head? := by
  rw [fill, String.toList_append, String.toList_append, List.append_assoc]
  exact List.head?_append_of_ne_nil _ (String.toList_eq_nil_iff.not.2 h)

/-- A description ends as its template. -/
theorem getLast?_fill (h : t.after ≠ "") (c : Int) :
    (t.fill c).toList.getLast? = t.after.toList.getLast? := by
  rw [fill, String.toList_append]
  exact List.getLast?_append_of_ne_nil _ (String.toList_eq_nil_iff.not.2 h)

/-- Whatever the numbers, templates that clash give different descriptions. -/
theorem Clashes.fill_ne (h : t.Clashes u) : t.fill c ≠ u.fill d := by
  intro heq
  rcases h with ⟨ht, hu, hne⟩ | ⟨ht, hu, hne⟩
  · rw [← head?_fill ht c, ← head?_fill hu d, heq] at hne
    exact hne rfl
  · rw [← getLast?_fill ht c, ← getLast?_fill hu d, heq] at hne
    exact hne rfl

/-- One template gives different codes different descriptions. -/
theorem fill_injective (t : Template) : Function.Injective t.fill := by
  intro c d h
  have hdigits : toString (c - t.base) = toString (d - t.base) :=
    (String.append_right_inj _).1 ((String.append_left_inj _).1 h)
  have hnumber : c - t.base = d - t.base := Int.repr_inj.1 hdigits
  omega

end Template

/-- The templates of all descriptions with a number. -/
def templates : List Template :=
  [⟨titleBase, "title ", " unavailable"⟩,
    ⟨loanBase, "member class ", " at loan limit"⟩,
    ⟨fineBase, "member class ", " over fine ceiling"⟩,
    ⟨returnBase, "returned ", " day(s) late"⟩,
    ⟨0, "unknown code ", ""⟩]

/-- Templates that are not the same clash. -/
theorem eq_or_clashes : ∀ t ∈ templates, ∀ u ∈ templates, t = u ∨ t.Clashes u := by
  decide +kernel

/-- Every description but that of success fills in a template. -/
theorem exists_template {c : Int} (h : c ≠ 0) : ∃ t ∈ templates, describe c = t.fill c := by
  rw [describe, decode_int, if_neg h]
  split_ifs with hreturned htitle hloan hfine
  · exact ⟨_, List.mem_of_getElem? (i := 3) rfl, rfl⟩
  · exact ⟨_, List.mem_of_getElem? (i := 0) rfl, rfl⟩
  · exact ⟨_, List.mem_of_getElem? (i := 1) rfl, rfl⟩
  · exact ⟨_, List.mem_of_getElem? (i := 2) rfl, rfl⟩
  · refine ⟨_, List.mem_of_getElem? (i := 4) rfl, ?_⟩
    rw [Template.fill, Int.sub_zero, String.append_empty]
    rfl

/-- The description of success fills in no template. -/
theorem describe_zero_ne {t : Template} (ht : t ∈ templates) (c : Int) : describe 0 ≠ t.fill c := by
  have hscan : ∀ t ∈ templates, t.before ≠ "" ∧ t.before.toList.head? ≠ some 'o' := by
    decide +kernel
  obtain ⟨hbefore, hhead⟩ := hscan t ht
  intro h
  rw [← Template.head?_fill hbefore c, ← h] at hhead
  exact hhead (by decide +kernel)

/-- **Descriptions.**  No two codes have the same one. -/
theorem describe_injective : Function.Injective describe := by
  intro c d h
  by_cases hc : c = 0
  · subst hc
    by_contra hd
    obtain ⟨u, hu, hdu⟩ := exists_template (Ne.symm hd)
    exact describe_zero_ne hu d (h.trans hdu)
  obtain ⟨t, ht, hct⟩ := exists_template hc
  by_cases hd : d = 0
  · subst hd
    exact absurd (h.symm.trans hct) (describe_zero_ne ht c)
  obtain ⟨u, hu, hdu⟩ := exists_template hd
  have hfill : t.fill c = u.fill d := hct.symm.trans (h.trans hdu)
  rcases eq_or_clashes t ht u hu with rfl | hclash
  · exact t.fill_injective hfill
  · exact absurd hfill hclash.fill_ne

/-- **Codes and their wording lose nothing.**  Every integer is decoded into success exactly when it
is zero, into an unavailable title, a class at its loan limit or a class above its fine ceiling
exactly when it is built for an id from 1 to 99, and into a return exactly when it is built for days
that are not negative; in all other cases it is unknown.  And no two integers have the same
description. -/
theorem codes_lose_nothing :
    (∀ c : Int,
      (decode (.int c) = .success ↔ c = 0) ∧
      (∀ n : Int, decode (.int c) = .titleUnavailable (.int n) ↔
        .int c = titleUnavailable (.int n) ∧ 1 ≤ n ∧ n ≤ 99) ∧
      (∀ n : Int, decode (.int c) = .loanLimit (.int n) ↔
        .int c = loanLimit (.int n) ∧ 1 ≤ n ∧ n ≤ 99) ∧
      (∀ n : Int, decode (.int c) = .fineCeiling (.int n) ↔
        .int c = fineCeiling (.int n) ∧ 1 ≤ n ∧ n ≤ 99) ∧
      (∀ d : Int, decode (.int c) = .returned (.int d) ↔ .int c = returned (.int d) ∧ 0 ≤ d) ∧
      (decode (.int c) = .unknown ↔ ¬ (c = 0 ∨
        (∃ n : Int, .int c = titleUnavailable (.int n) ∧ 1 ≤ n ∧ n ≤ 99) ∨
        (∃ n : Int, .int c = loanLimit (.int n) ∧ 1 ≤ n ∧ n ≤ 99) ∨
        (∃ n : Int, .int c = fineCeiling (.int n) ∧ 1 ≤ n ∧ n ≤ 99) ∨
        ∃ d : Int, .int c = returned (.int d) ∧ 0 ≤ d))) ∧
    Function.Injective describe := by
  refine ⟨fun c => ?_, describe_injective⟩
  refine ⟨decode_eq_success_iff c, fun n => ?_, fun n => ?_, fun n => ?_, fun d => ?_, ?_⟩
  · rw [decode_eq_iff (by simp), encodes_iff]
    simp [and_comm]
  · rw [decode_eq_iff (by simp), encodes_iff]
    simp [and_comm]
  · rw [decode_eq_iff (by simp), encodes_iff]
    simp [and_comm]
  · rw [decode_eq_iff (by simp), encodes_iff]
    simp [and_comm]
  · rw [decode_eq_unknown_iff, exists_encodes_iff]

end Circulation.Code
