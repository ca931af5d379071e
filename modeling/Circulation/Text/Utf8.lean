import Circulation.Text.Quoted
/-!
# UTF-8 text

Strict decoding of octets into characters.  A lead octet announces how many octets follow and, for
the four leads where the full range would admit overlong forms, surrogates or numbers beyond the
last code point, narrows the range of the first of them.

The key construction is `decode`, which stops at the first malformed sequence and reports its span:
the octets that were still a valid beginning.  `normalizeBreaks` afterwards turns every line ending
into a line feed.
-/

namespace Circulation.Text

/-! ## Sequences -/

/-- Why a sequence of octets is malformed. -/
inductive Utf8Reason where
  /-- No sequence starts with this octet. -/
  | start
  /-- An octet that should continue the sequence does not. -/
  | continuation
  /-- The data ends inside the sequence. -/
  | truncated
deriving DecidableEq

/-- A malformed sequence: where it starts, the octets that were a valid beginning, and the reason. -/
structure Utf8Error where
  position : Nat
  octets : List UInt8
  reason : Utf8Reason
deriving DecidableEq

/-- What a lead octet announces: its payload, how many octets follow, and the range of the first of
them. -/
structure Lead where
  payload : Nat
  following : Nat
  low : Nat
  high : Nat

/-- The announcement of a lead octet, if it is one. -/
def lead? (b : UInt8) : Option Lead :=
  let n := b.toNat
  if n < 0x80 then some ⟨n, 0, 0x80, 0xBF⟩
  else if n < 0xC2 then none
  else if n < 0xE0 then some ⟨n - 0xC0, 1, 0x80, 0xBF⟩
  else if n = 0xE0 then some ⟨0, 2, 0xA0, 0xBF⟩
  else if n = 0xED then some ⟨0xD, 2, 0x80, 0x9F⟩
  else if n < 0xF0 then some ⟨n - 0xE0, 2, 0x80, 0xBF⟩
  else if n = 0xF0 then some ⟨0, 3, 0x90, 0xBF⟩
  else if n < 0xF4 then some ⟨n - 0xF0, 3, 0x80, 0xBF⟩
  else if n = 0xF4 then some ⟨4, 3, 0x80, 0x8F⟩
  else none

/-! ## Decoding -/

/-- A sequence that is being read: where it started, its octets so far in reverse, its payload so
far, how many octets are still missing, and the range of the next one. -/
structure Pending where
  start : Nat
  seen : List UInt8
  payload : Nat
  missing : Nat
  low : Nat
  high : Nat

/-- The error of a sequence that breaks off for `reason`. -/
def Pending.fail (p : Pending) (reason : Utf8Reason) : Utf8Error :=
  ⟨p.start, p.seen.reverse, reason⟩

/-- Decodes the octets from `position` on; `pending` is the sequence that is open there and
`done` holds the characters so far in reverse. -/
def decodeFrom (position : Nat) (pending : Option Pending) (done : List Char) :
    List UInt8 → Except Utf8Error (List Char)
  | [] =>
    match pending with
    | none => .ok done.reverse
    | some p => .error (p.fail .truncated)
  | b :: rest =>
    match pending with
    | none =>
      match lead? b with
      | none => .error ⟨position, [b], .start⟩
      | some l =>
        if l.following = 0 then
          decodeFrom (position + 1) none (Char.ofNat l.payload :: done) rest
        else
          decodeFrom (position + 1)
            (some ⟨position, [b], l.payload, l.following, l.low, l.high⟩) done rest
    | some p =>
      if p.low ≤ b.toNat ∧ b.toNat ≤ p.high then
        let payload := p.payload * 64 + (b.toNat - 0x80)
        if p.missing = 1 then
          decodeFrom (position + 1) none (Char.ofNat payload :: done) rest
        else
          decodeFrom (position + 1)
            (some ⟨p.start, b :: p.seen, payload, p.missing - 1, 0x80, 0xBF⟩) done rest
      else .error (p.fail .continuation)

/-- The characters that a list of octets encodes. -/
def decode (octets : List UInt8) : Except Utf8Error (List Char) :=
  decodeFrom 0 none [] octets

/-! ## Messages -/

/-- The reason in words. -/
def Utf8Reason.text : Utf8Reason → String
  | .start => "invalid start byte"
  | .continuation => "invalid continuation byte"
  | .truncated => "unexpected end of data"

/-- The message of a malformed sequence: one octet is shown by value, several by their span. -/
def Utf8Error.message (e : Utf8Error) : String :=
  let place :=
    match e.octets with
    | [b] => "byte 0x" ++ hex 2 b.toNat ++ " in position " ++ toString e.position
    | octets =>
      "bytes in position " ++ toString e.position ++ "-" ++
        toString (e.position + octets.length - 1)
  "'utf-8' codec can't decode " ++ place ++ ": " ++ e.reason.text

/-! ## Line endings -/

/-- Turns a carriage return, with or without a line feed after it, into one line feed. -/
def normalizeBreaks : List Char → List Char
  | [] => []
  | '\r' :: '\n' :: rest => '\n' :: normalizeBreaks rest
  | c :: rest => (if c = '\r' then '\n' else c) :: normalizeBreaks rest

end Circulation.Text
