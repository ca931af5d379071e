import Circulation.Json.Scalar
/-!
# JSON documents

A document is one value with blanks around it.  Besides the standard forms, the three number words
`NaN`, `Infinity` and `-Infinity` are read.  A repeated property name has its first place and its
last value.  Values may be nested to any depth: a runtime's bound on the depth is idealised away.

The key construction is `parse`; `value`, `items` and `members` read a value, the items of a list
and the members of an object, each from a text that gets shorter.
-/

namespace Circulation.Json

/-- The words that stand for a value, with that value. -/
def words : List (List Char × Value) :=
  [("null".toList, .null), ("true".toList, .bool true), ("false".toList, .bool false),
    ("NaN".toList, .float (Float.ofBits 0x7FF8000000000000)),
    ("Infinity".toList, .float (Decimal.ofMagnitude false Decimal.infinityBits)),
    ("-Infinity".toList, .float (Decimal.ofMagnitude true Decimal.infinityBits))]

/-- The first of the given words with which a text starts. -/
def word? (known : List (List Char × Value)) (cs : List Char) : Option (Value × Rest cs) :=
  match known with
  | [] => none
  | (w, v) :: others =>
    if h : w.isPrefixOf cs ∧ 0 < w.length then
      some (v, ⟨cs.drop w.length, by
        have hpos : w.length ≤ cs.length := (List.isPrefixOf_iff_prefix.1 h.1).length_le
        simp
        omega⟩)
    else word? others cs

/-- Reads a word or a number. -/
def scalar (cs : List Char) : Scan Value cs :=
  match word? words cs with
  | some found => .ok found
  | none => number cs

mutual

/-- Reads a value. -/
def value (cs : List Char) : Scan Value cs :=
  match cs with
  | [] => complain .value []
  | '"' :: rest =>
    (string (rest.length + 1) [] rest).wrap Value.text (Nat.le_succ rest.length)
  | '[' :: rest =>
    match hs : skipBlanks rest with
    | ']' :: after => .ok (.list [], ⟨after, Nat.lt_succ_of_lt (length_lt_of_skipBlanks hs)⟩)
    | inner =>
      have hinner : inner.length < ('[' :: rest).length := hs ▸ length_skipBlanks_lt_cons '[' rest
      (items [] inner).wrap Value.list (Nat.le_of_lt hinner)
  | '\x7b' :: rest =>
    match hs : skipBlanks rest with
    | '\x7d' :: after => .ok (.mapping [], ⟨after, Nat.lt_succ_of_lt (length_lt_of_skipBlanks hs)⟩)
    | inner =>
      have hinner : inner.length < ('\x7b' :: rest).length :=
        hs ▸ length_skipBlanks_lt_cons '\x7b' rest
      (members [] inner).wrap Value.mapping (Nat.le_of_lt hinner)
  | cs => scalar cs
termination_by (cs.length, 0)

/-- Reads items up to the end of their list; `done` holds the items so far in reverse. -/
def items (done : List Value) (cs : List Char) : Scan (List Value) cs :=
  match value cs with
  | .error e => .error e
  | .ok (v, ⟨rest, hrest⟩) =>
    match hs : skipBlanks rest with
    | ']' :: after =>
      .ok ((v :: done).reverse, ⟨after, Nat.lt_trans (length_lt_of_skipBlanks hs) hrest⟩)
    | ',' :: after =>
      have hnext : (skipBlanks after).length < cs.length :=
        Nat.lt_trans (length_skipBlanks_lt hs) hrest
      (items (v :: done) (skipBlanks after)).widen (Nat.le_of_lt hnext)
    | other => complain .comma other
termination_by (cs.length, 1)

/-- Reads members up to the end of their object; `done` holds the members so far. -/
def members (done : List (Value × Value)) (cs : List Char) : Scan (List (Value × Value)) cs :=
  match cs with
  | '"' :: afterQuote =>
    match string (afterQuote.length + 1) [] afterQuote with
    | .error e => .error e
    | .ok (name, ⟨afterName, hname⟩) =>
      match hs : skipBlanks afterName with
      | ':' :: afterColon =>
        have hvalue : (skipBlanks afterColon).length < ('"' :: afterQuote).length :=
          Nat.lt_succ_of_lt (Nat.lt_trans (length_skipBlanks_lt hs) hname)
        match value (skipBlanks afterColon) with
        | .error e => .error e
        | .ok (v, ⟨rest, hrest⟩) =>
          let grown := Entries.put (.text name) v done
          match hr : skipBlanks rest with
          | '\x7d' :: after =>
            .ok (grown, ⟨after, Nat.lt_trans (length_lt_of_skipBlanks hr) (Nat.lt_trans hrest hvalue)⟩)
          | ',' :: after =>
            have hnext : (skipBlanks after).length < ('"' :: afterQuote).length :=
              Nat.lt_trans (length_skipBlanks_lt hr) (Nat.lt_trans hrest hvalue)
            (members grown (skipBlanks after)).widen (Nat.le_of_lt hnext)
          | other => complain .comma other
      | other => complain .colon other
  | other => complain .propertyName other
termination_by (cs.length, 1)

end

/-- Reads a document. -/
def document (text : List Char) : Except Failure Value :=
  if text.head? = some '\ufeff' then complain .byteOrderMark text
  else do
    let (v, rest) ← value (skipBlanks text)
    match skipBlanks rest.1 with
    | [] => return v
    | other => complain .extraData other

/-- Reads a document; a text that is none gives the message of its failure. -/
def parse (text : List Char) : Except String Value :=
  (document text).mapError fun f => f.message text

end Circulation.Json
