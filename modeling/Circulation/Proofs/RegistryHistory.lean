import Circulation.Registry
import Circulation.Proofs.SnapshotFormat
/-!
# A registry answers from its history

A registry is used by calls, one after another: additions, look-ups and requests for all names, in
any order.  Whatever the calls, each reply can be told from the additions that succeeded before it.
A look-up gives the rulebook of the latest addition under its name, or the reference rulebook where
the name is *default* and was not added again; the names are *default* and those that were added, in
strictly ascending order.  Additions under the empty name fail and change nothing.

One invariant carries all of this: the entries of a registry are those that its successful additions
collect, the reference rulebook being the first of them.  So a registry is a finite map from texts,
and its keys, which are values of any kind, behave as the texts that they hold.

The key constructions are

* `Call`, `Exchange`, `converse` : calls with names that are texts, and what comes of them;
* `additions` : the successful additions among some exchanges;
* `Exchange.AccordsWith` : an exchange that is what the exchanges before it call for;
* `Holds` : the invariant.

The main facts are

* `Text.ascending_mergeSort` : sorted texts ascend strictly by their code points;
* `Holds.exchange_add`, `Holds.exchange_get`, `Holds.exchange_names` : what comes of each call;
* `Holds.exchange_after`, `holds_before` : the invariant after one call, and along calls;
* `latest_or_reference_iff` : the last entry given under a name, in terms of the additions;
* `converse_accords_with_history` : every exchange with a new registry is what the ones before it
  call for.
-/

namespace Circulation

/-! ## Texts in order -/

/-- The code points of a text. -/
def Text.codePoints (s : String) : List Nat := s.toList.map Char.toNat

/-- Texts in ascending order have code points in ascending order. -/
theorem Text.codePoints_lt {a b : String} (h : a < b) : codePoints a < codePoints b :=
  List.map_lt (fun _ _ hlt => hlt) (String.lt_iff_toList_lt.1 h)

/-- Sorted texts ascend.  Sorting alone leaves room for repetitions, so there must be none before. -/
theorem Text.ascending_mergeSort {texts : List String} (hnd : texts.Nodup) :
    (texts.mergeSort fun a b => decide (a ≤ b)).Pairwise fun a b => codePoints a < codePoints b := by
  have hle : (texts.mergeSort fun a b => decide (a ≤ b)).Pairwise
      fun a b => decide (a ≤ b) = true := by
    refine List.pairwise_mergeSort ?_ ?_ texts
    · intro a b c hab hbc
      rw [decide_eq_true_eq] at hab hbc ⊢
      exact le_trans hab hbc
    · intro a b
      rw [Bool.or_eq_true, decide_eq_true_eq, decide_eq_true_eq]
      exact le_total a b
  have hne : (texts.mergeSort fun a b => decide (a ≤ b)).Nodup :=
    (List.mergeSort_perm texts _).nodup_iff.2 hnd
  refine (hle.and hne).imp ?_
  rintro a b ⟨hab, hdiffer⟩
  exact codePoints_lt (lt_of_le_of_ne (of_decide_eq_true hab) hdiffer)

/-! ## Entries under texts -/

namespace Entries

variable {α : Type}

/-- Entries whose keys are the texts that name them. -/
def named (es : List (String × α)) : List (Value × α) := es.map fun e => (.text e.1, e.2)

/-- A put under a text is a put under a name. -/
theorem put_named (name : String) (v : α) (es : List (String × α)) :
    put (.text name) v (named es) = named (put name v es) := by
  induction es with
  | nil => rfl
  | cons e rest ih =>
      show put (Value.text name) v ((.text e.1, e.2) :: named rest) = named (put name v (e :: rest))
      rw [put, put, Value.text_beq_text, ih]
      split <;> rfl

/-- What stands under a text stands under a name. -/
theorem lookup_named (name : String) (es : List (String × α)) :
    (named es).lookup (.text name) = es.lookup name := by
  induction es with
  | nil => rfl
  | cons e rest ih =>
      show List.lookup (Value.text name) ((.text e.1, e.2) :: named rest) = _
      rw [List.lookup_cons, List.lookup_cons, Value.text_beq_text, ih]

/-- The keys are the names as texts. -/
theorem keys_named (es : List (String × α)) : keys (named es) = (keys es).map .text := by
  simp only [keys, named, List.map_map, Function.comp_def]

end Entries

namespace Registry

/-! ## Calls -/

/-- A call on a registry, under a name that is a text. -/
inductive Call where
  | add (name : String) (b : Rulebook)
  | get (name : String)
  | names

/-- What a call that succeeds gives back. -/
inductive Reply where
  | added
  | found (b : Option Rulebook)
  | listed (names : List String)

/-- Makes a call: what it gives back, and the registry after it. -/
def serve (r : Registry) : Call → Except Fault (Reply × Registry)
  | .add name b => do return (.added, ← r.add (.text name) b)
  | .get name => do return (.found (← r.get (.text name)), r)
  | .names => do return (.listed (← r.names), r)

/-- A call with what came of it, and the registry before and after it. -/
structure Exchange where
  before : Registry
  call : Call
  reply : Except Fault Reply
  after : Registry

/-- The exchange of a call.  A fault comes without a registry: the one before the call stays. -/
def exchange (r : Registry) (call : Call) : Exchange :=
  match r.serve call with
  | .ok (reply, r') => ⟨r, call, .ok reply, r'⟩
  | .error f => ⟨r, call, .error f, r⟩

/-- Calls made one after another, each on the registry that the one before it left. -/
def converse (r : Registry) : List Call → List Exchange
  | [] => []
  | call :: rest => r.exchange call :: converse (r.exchange call).after rest

/-! ## What a history calls for -/

/-- The name and the rulebook of a successful addition. -/
def Exchange.addition? (e : Exchange) : Option (String × Rulebook) :=
  match e.call, e.reply with
  | .add name b, .ok .added => some (name, b)
  | _, _ => none

/-- The successful additions among some exchanges, in their order. -/
def additions (past : List Exchange) : List (String × Rulebook) :=
  past.filterMap Exchange.addition?

/-- The rulebook of the latest successful addition under a name: no later one is under that name. -/
def Latest (past : List Exchange) (name : String) (b : Rulebook) : Prop :=
  ∃ earlier later, additions past = earlier ++ (name, b) :: later ∧ name ∉ Entries.keys later

/-- A successful addition under the name is among the exchanges. -/
def Added (past : List Exchange) (name : String) : Prop := name ∈ Entries.keys (additions past)

/-- The call failed with a fault of that class. -/
def Exchange.FailsWith (e : Exchange) (className : String) : Prop :=
  ∃ f, e.reply = .error f ∧ f.className = className

/-- The exchange is what the exchanges before it call for. -/
structure Exchange.AccordsWith (e : Exchange) (past : List Exchange) : Prop where
  /-- An addition fails exactly under the empty name, and then nothing changes. -/
  add : ∀ name b, e.call = .add name b →
    (e.FailsWith "ValueError" ↔ name = "") ∧ (name ≠ "" → e.reply = .ok .added) ∧
      (name = "" → e.after = e.before)
  /-- A look-up gives the latest addition under its name; failing that, *default* is the name of the
  reference rulebook, and under another name there is nothing. -/
  get : ∀ name, e.call = .get name → ∃ found, e.reply = .ok (.found found) ∧
    (∀ b, found = some b ↔
      Latest past name b ∨ name = "default" ∧ ¬ Added past name ∧ b = Rulebook.reference) ∧
      e.after = e.before
  /-- The names ascend by their code points, and they are *default* and the names added. -/
  names : e.call = .names → ∃ listed, e.reply = .ok (.listed listed) ∧
    (listed.Pairwise fun a b => Text.codePoints a < Text.codePoints b) ∧
    (∀ name, name ∈ listed ↔ name = "default" ∨ Added past name) ∧ e.after = e.before

/-! ## The invariant -/

/-- The registry holds the given entries: what they collect, each under the text that names it. -/
def Holds (r : Registry) (given : List (String × Rulebook)) : Prop :=
  r.entries = Entries.named (Entries.collect given)

/-- A new registry holds the reference rulebook. -/
theorem holds_fresh : Holds fresh [("default", Rulebook.reference)] := rfl

/-- An addition under the empty name fails. -/
theorem add_empty (r : Registry) (b : Rulebook) :
    r.add (.text "") b = .error (.invalid .emptyName) := by
  have hpresent : (Value.text "").isPresent = false := by simp [Value.isPresent]
  rw [add, hpresent]
  rfl

namespace Holds

variable {r : Registry} {given : List (String × Rulebook)}

/-- An addition under any other name puts one more entry after the given ones. -/
theorem add (h : Holds r given) {name : String} (hname : name ≠ "") (b : Rulebook) :
    ∃ r', r.add (.text name) b = .ok r' ∧ Holds r' (given ++ [(name, b)]) := by
  have hpresent : (Value.text name).isPresent = true := by simpa [Value.isPresent] using hname
  refine ⟨⟨Entries.put (.text name) b r.entries⟩, ?_, ?_⟩
  · rw [Registry.add, hpresent]
    rfl
  · rw [Holds, h, Entries.put_named, Entries.collect_concat]

/-- A look-up gives the last entry under its name. -/
theorem get (h : Holds r given) (name : String) :
    r.get (.text name) = .ok (given.reverse.lookup name) := by
  have hget : r.get (.text name) = .ok (r.entries.lookup (.text name)) := rfl
  rw [hget, h, Entries.lookup_named, Entries.lookup_collect]

/-- The names are the sorted names of what is collected. -/
theorem names_eq (h : Holds r given) :
    r.names = .ok ((Entries.keys (Entries.collect given)).mergeSort fun a b => decide (a ≤ b)) := by
  have htexts : (Entries.keys r.entries).mapM nameText =
      .ok (Entries.keys (Entries.collect given)) := by
    rw [h, Entries.keys_named, mapM_eq_ok_iff, List.forall₂_map_left_iff, List.forall₂_same]
    exact fun name _ => rfl
  rw [Registry.names, htexts]
  rfl

/-- The names of the given entries are listed in strictly ascending order. -/
theorem names (h : Holds r given) : ∃ listed, r.names = .ok listed ∧
    (listed.Pairwise fun a b => Text.codePoints a < Text.codePoints b) ∧
    ∀ name, name ∈ listed ↔ name ∈ Entries.keys given := by
  refine ⟨_, h.names_eq, Text.ascending_mergeSort (Entries.nodup_keys_collect given), fun name => ?_⟩
  rw [List.mem_mergeSort, Entries.keys_collect, List.mem_eraseDups]

/-! ## Exchanges -/

/-- **Additions.**  Under a name that is not empty they succeed, with one more entry. -/
theorem exchange_add (h : Holds r given) {name : String} (hname : name ≠ "") (b : Rulebook) :
    ∃ r', r.exchange (.add name b) = ⟨r, .add name b, .ok .added, r'⟩ ∧
      Holds r' (given ++ [(name, b)]) := by
  obtain ⟨r', hadd, hr'⟩ := h.add hname b
  refine ⟨r', ?_, hr'⟩
  rw [exchange, serve, hadd]
  rfl

/-- **Look-ups.**  They give the last entry under the name and change nothing. -/
theorem exchange_get (h : Holds r given) (name : String) :
    r.exchange (.get name) = ⟨r, .get name, .ok (.found (given.reverse.lookup name)), r⟩ := by
  rw [exchange, serve, h.get]
  rfl

/-- **Names.**  They are those of the given entries, and asking for them changes nothing. -/
theorem exchange_names (h : Holds r given) :
    ∃ listed, r.exchange .names = ⟨r, .names, .ok (.listed listed), r⟩ ∧
      (listed.Pairwise fun a b => Text.codePoints a < Text.codePoints b) ∧
      ∀ name, name ∈ listed ↔ name ∈ Entries.keys given := by
  obtain ⟨listed, hnames, hlisted⟩ := h.names
  refine ⟨listed, ?_, hlisted⟩
  rw [exchange, serve, hnames]
  rfl

end Holds

/-- An addition under the empty name fails and changes nothing. -/
theorem exchange_add_empty (r : Registry) (b : Rulebook) :
    r.exchange (.add "" b) = ⟨r, .add "" b, .error (.invalid .emptyName), r⟩ := by
  rw [exchange, serve, add_empty]
  rfl

/-- The call of an exchange is the one that was made, on the registry that was there. -/
theorem exchange_call_before (r : Registry) (call : Call) :
    (r.exchange call).call = call ∧ (r.exchange call).before = r := by
  rw [exchange]
  split <;> exact ⟨rfl, rfl⟩

/-- The additions of a first exchange and of the ones after it. -/
theorem additions_cons (e : Exchange) (past : List Exchange) :
    additions (e :: past) = e.addition?.toList ++ additions past := by
  rw [additions, List.filterMap_cons]
  cases e.addition? <;> rfl

/-- **Steps.**  After a call the registry holds one more entry if the call was a successful addition,
and the same ones otherwise. -/
theorem Holds.exchange_after {r : Registry} {given : List (String × Rulebook)} (h : Holds r given)
    (call : Call) :
    Holds (r.exchange call).after (given ++ (r.exchange call).addition?.toList) := by
  cases call with
  | add name b =>
      by_cases hname : name = ""
      · rw [hname, exchange_add_empty]
        simpa [Exchange.addition?] using h
      · obtain ⟨r', heq, hr'⟩ := h.exchange_add hname b
        rw [heq]
        exact hr'
  | get name =>
      rw [h.exchange_get]
      simpa [Exchange.addition?] using h
  | names =>
      obtain ⟨listed, heq, -⟩ := h.exchange_names
      rw [heq]
      simpa [Exchange.addition?] using h

/-- **Runs.**  Each exchange is that of its call on the registry before it, which holds what was
given at the start and what the exchanges before added. -/
theorem holds_before {r : Registry} {given : List (String × Rulebook)} (h : Holds r given)
    {calls : List Call} {past later : List Exchange} {e : Exchange}
    (heq : r.converse calls = past ++ e :: later) :
    e = e.before.exchange e.call ∧ Holds e.before (given ++ additions past) := by
  -- What is given grows with the exchanges, so the induction on the calls is for any of it.
  induction calls generalizing r given past with
  | nil => simp [converse] at heq
  | cons call rest ih =>
      rw [converse] at heq
      cases past with
      | nil =>
          obtain ⟨rfl, -⟩ := List.cons.inj heq
          obtain ⟨hcall, hbefore⟩ := r.exchange_call_before call
          rw [hcall, hbefore]
          exact ⟨rfl, by simpa [additions] using h⟩
      | cons first past =>
          obtain ⟨rfl, hrest⟩ := List.cons.inj heq
          obtain ⟨hexchange, hholds⟩ := ih (h.exchange_after call) hrest
          refine ⟨hexchange, ?_⟩
          rw [additions_cons, ← List.append_assoc]
          exact hholds

/-- The calls of the exchanges are the calls made. -/
theorem map_call_converse (r : Registry) (calls : List Call) :
    (r.converse calls).map Exchange.call = calls := by
  induction calls generalizing r with
  | nil => rfl
  | cons call rest ih => rw [converse, List.map_cons, ih, (r.exchange_call_before call).1]

/-! ## The history -/

/-- The last entry under a name, where the reference rulebook was given first: the latest addition,
or the reference rulebook if there was none. -/
theorem latest_or_reference_iff (past : List Exchange) (name : String) (b : Rulebook) :
    (("default", Rulebook.reference) :: additions past).reverse.lookup name = some b ↔
      Latest past name b ∨ name = "default" ∧ ¬ Added past name ∧ b = Rulebook.reference := by
  have hfirst : [("default", Rulebook.reference)].lookup name = some b ↔
      name = "default" ∧ b = Rulebook.reference := by
    rw [List.lookup_cons]
    by_cases hname : name = "default"
    · simp [hname, eq_comm]
    · simp [hname, beq_eq_false_iff_ne.2 hname]
  rw [List.reverse_cons, List.lookup_append, Option.or_eq_some_iff, hfirst,
    Entries.lookup_reverse_eq_some_iff, Entries.lookup_reverse_eq_none_iff]
  exact or_congr_right and_left_comm

/-- A registry that holds the reference rulebook and some additions makes the exchange that these call
for. -/
theorem Holds.exchange_accords {past : List Exchange} {r : Registry}
    (h : Holds r (("default", Rulebook.reference) :: additions past)) (call : Call) :
    (r.exchange call).AccordsWith past := by
  cases call with
  | add name b =>
      by_cases hname : name = ""
      · rw [hname, exchange_add_empty]
        refine ⟨?_, by simp, by simp⟩
        rintro _ _ ⟨⟩
        exact ⟨iff_of_true ⟨_, rfl, rfl⟩ rfl, fun hne => absurd rfl hne, fun _ => rfl⟩
      · obtain ⟨r', heq, -⟩ := h.exchange_add hname b
        rw [heq]
        refine ⟨?_, by simp, by simp⟩
        rintro _ _ ⟨⟩
        refine ⟨iff_of_false ?_ hname, fun _ => rfl, fun heq => absurd heq hname⟩
        rintro ⟨f, hf, -⟩
        cases hf
  | get name =>
      rw [h.exchange_get]
      refine ⟨by simp, ?_, by simp⟩
      rintro _ ⟨⟩
      exact ⟨_, rfl, latest_or_reference_iff past name, rfl⟩
  | names =>
      obtain ⟨listed, heq, hascending, hlisted⟩ := h.exchange_names
      rw [heq]
      refine ⟨by simp, by simp, fun _ => ⟨listed, rfl, hascending, fun name => ?_, rfl⟩⟩
      rw [hlisted, Entries.keys_cons, List.mem_cons, Added]

/-- **A registry answers from its history.**  Take any calls on a new registry.  Each of them has its
exchange.  An addition fails, with a *ValueError*, exactly under the empty name, and then the registry
stays as it was.  A look-up gives the rulebook of the latest addition under its name that succeeded,
or the reference rulebook under *default* while nothing was added there, or else nothing.  The names
ascend strictly by their code points, and they are *default* and those of the additions that
succeeded so far. -/
theorem converse_accords_with_history (calls : List Call) :
    (fresh.converse calls).map Exchange.call = calls ∧
    ∀ past e later, fresh.converse calls = past ++ e :: later → e.AccordsWith past := by
  refine ⟨map_call_converse fresh calls, fun past e later heq => ?_⟩
  obtain ⟨hexchange, hholds⟩ := holds_before holds_fresh heq
  rw [hexchange]
  exact hholds.exchange_accords e.call

/-- The reference rules without a late fee. -/
def freeOfCharge : Rulebook := { Rulebook.reference with lateFee := 0 }

/-- Calls that replace rulebooks, the reference one among them, and that fail once. -/
def busyCalls : List Call :=
  [.add "😀" freeOfCharge, .add "" freeOfCharge, .get "default", .add "default" freeOfCharge,
    .add "～" freeOfCharge, .add "😀" Rulebook.reference, .get "default", .get "😀", .get "", .names]

/-- Three names for four additions; the one with the larger code point comes last, although it is
written with smaller units in some encodings. -/
theorem converse_accords_with_history_busyCalls :
    (fresh.converse busyCalls).map Exchange.reply =
      [.ok .added, .error (.invalid .emptyName), .ok (.found (some Rulebook.reference)),
        .ok .added, .ok .added, .ok .added, .ok (.found (some freeOfCharge)),
        .ok (.found (some Rulebook.reference)), .ok (.found none),
        .ok (.listed ["default", "～", "😀"])] ∧
    ∃ past e, fresh.converse busyCalls = past ++ [e] ∧ e.call = .names ∧ e.AccordsWith past ∧
      Entries.keys (additions past) = ["😀", "default", "～", "😀"] := by
  refine ⟨by cbv, (fresh.converse busyCalls).take 9, _, rfl, rfl, ?_, by decide +kernel⟩
  exact (converse_accords_with_history busyCalls).2 _ _ _ rfl

end Registry

end Circulation
