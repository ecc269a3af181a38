/-!
# UTF-8

Bytes from a server, a file or a command line are `List UInt8`; text is `String`.  This file holds
the two directions between them.

* `encode` writes characters as bytes.
* `decodeOne` reads one character, or says that the bytes in front start none and how many of them
  to give up.
* `decode` accepts well-formed input only, and otherwise says where it fails; `decodeLossy` replaces each piece that `decodeOne`
  gives up by one `U+FFFD`.

A piece that is given up is the longest run of bytes that could still have become a character:
after an invalid lead byte that one byte, after a lead byte with `k` acceptable continuation bytes
those `k + 1` bytes.  So a character cut short costs one replacement, and the byte that broke it is
read afresh.
-/

namespace LanguageClient.Utf8

/-- The character that stands for bytes which are no text. -/
def replacement : Char := '\uFFFD'

/-- The bytes of a list of characters, one after another. -/
def encode (cs : List Char) : List UInt8 :=
  cs.flatMap String.utf8EncodeChar

/-- The bytes of a text. -/
def ofString (s : String) : List UInt8 :=
  encode s.toList

/-- What a lead byte promises: how many bytes follow, which values the first of them may have, and
the bits that the lead byte itself contributes. -/
structure Lead where
  tail : Nat
  low : UInt8
  high : UInt8
  bits : Nat
  deriving DecidableEq, Repr

/-- The promise of a byte that is not ASCII.  The narrower ranges keep out overlong forms (`E0`,
`F0`), surrogates (`ED`) and values above `U+10FFFF` (`F4`). -/
def lead? (b : UInt8) : Option Lead :=
  if b < 0xC2 then none
  else if b < 0xE0 then some ⟨1, 0x80, 0xBF, b.toNat - 0xC0⟩
  else if b = 0xE0 then some ⟨2, 0xA0, 0xBF, 0⟩
  else if b = 0xED then some ⟨2, 0x80, 0x9F, 13⟩
  else if b < 0xF0 then some ⟨2, 0x80, 0xBF, b.toNat - 0xE0⟩
  else if b = 0xF0 then some ⟨3, 0x90, 0xBF, 0⟩
  else if b < 0xF4 then some ⟨3, 0x80, 0xBF, b.toNat - 0xF0⟩
  else if b = 0xF4 then some ⟨3, 0x80, 0x8F, 4⟩
  else none

/-- Reads `n` continuation bytes, the first of them within `low` and `high`.  Answers the value
built so far and how many bytes were taken; the value is absent when a byte did not fit. -/
def continuation : (n : Nat) → (low high : UInt8) → (value : Nat) → List UInt8 → Option Nat × Nat
  | 0, _, _, value, _ => (some value, 0)
  | _ + 1, _, _, _, [] => (none, 0)
  | n + 1, low, high, value, b :: bs =>
    if low ≤ b ∧ b ≤ high then
      let (v, k) := continuation n 0x80 0xBF (value * 64 + (b.toNat - 0x80)) bs
      (v, k + 1)
    else (none, 0)

/-- Reads what starts with byte `b`: a character, or nothing, and how many of the bytes after `b`
belong to it. -/
def decodeOne (b : UInt8) (bs : List UInt8) : Option Char × Nat :=
  if b < 0x80 then (some (Char.ofNat b.toNat), 0)
  else match lead? b with
    | none => (none, 0)
    | some l =>
      let (v, k) := continuation l.tail l.low l.high l.bits bs
      (v.map Char.ofNat, k)

/-- The pieces of a byte string: a character, or `none` for bytes that are given up. -/
def pieces : List UInt8 → List (Option Char)
  | [] => []
  | b :: bs => (decodeOne b bs).1 :: pieces (bs.drop (decodeOne b bs).2)
termination_by bs => bs.length
decreasing_by simp only [List.length_drop, List.length_cons]; omega

/-- The text of the bytes with a replacement character for every piece that is none. -/
def decodeLossy (bs : List UInt8) : String :=
  String.ofList ((pieces bs).map (·.getD replacement))

/-- Where bytes stop being text: the index of the first piece that is none, and its length, unless
the input ends where the piece could still have become a character. -/
structure Flaw where
  index : Nat
  length : Option Nat
  deriving DecidableEq, Repr

def Flaw.message (f : Flaw) : String :=
  match f.length with
  | some n =>
    "invalid utf-8 sequence of " ++ toString n ++ " bytes from index " ++ toString f.index
  | none => "incomplete utf-8 byte sequence from index " ++ toString f.index

/-- Reads bytes that start at an index, all of which have to be text. -/
def decodeFrom (index : Nat) : List UInt8 → Except Flaw (List Char)
  | [] => .ok []
  | b :: bs =>
    match decodeOne b bs with
    | (some c, k) => (decodeFrom (index + k + 1) (bs.drop k)).map (c :: ·)
    | (none, k) =>
      if (lead? b).isSome && bs.length == k then .error ⟨index, none⟩
      else .error ⟨index, some (k + 1)⟩
termination_by bs => bs.length
decreasing_by simp only [List.length_drop, List.length_cons]; omega

/-- The text of the bytes if all of them are text. -/
def decode (bs : List UInt8) : Except Flaw String :=
  (decodeFrom 0 bs).map String.ofList

/-- `decode` where the place of the flaw does not matter. -/
def decode? (bs : List UInt8) : Option String :=
  (decode bs).toOption

end LanguageClient.Utf8
