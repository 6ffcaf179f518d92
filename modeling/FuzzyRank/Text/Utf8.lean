/-!
UTF-8 decoding that never fails: what is not well formed is marked and passed over.

The decoder is a machine that takes one byte at a time. A byte that cannot go on with the character
begun ends the ill-formed part and is looked at afresh, so that every ill-formed part is as long as
some character's beginning allows and no longer.
-/

namespace FuzzyRank.Text

/-- A character of which some bytes have been read. -/
structure Unfinished where
  /-- How many bytes are missing. -/
  missing : Nat
  /-- The least value of the next byte. -/
  low : UInt8
  /-- The greatest value of the next byte. -/
  high : UInt8
  /-- The code point's bits so far. -/
  code : Nat
deriving DecidableEq, Repr

/-- What follows from a byte: decoded characters, with `none` for an ill-formed part, and the
character that is not finished. -/
abbrev Decoded := List (Option Char) × Option Unfinished

/-- Takes the first byte of a character. The bounds of the second byte leave out longer spellings
than needed, surrogates, and code points beyond the last. -/
def beginCharacter (b : UInt8) : Decoded :=
  if b < 0x80 then ([some (Char.ofNat b.toNat)], none)
  else if b < 0xC2 then ([none], none)
  else if b < 0xE0 then ([], some ⟨1, 0x80, 0xBF, b.toNat - 0xC0⟩)
  else if b < 0xF0 then
    let low := if b = 0xE0 then 0xA0 else 0x80
    let high := if b = 0xED then 0x9F else 0xBF
    ([], some ⟨2, low, high, b.toNat - 0xE0⟩)
  else if b < 0xF5 then
    let low := if b = 0xF0 then 0x90 else 0x80
    let high := if b = 0xF4 then 0x8F else 0xBF
    ([], some ⟨3, low, high, b.toNat - 0xF0⟩)
  else ([none], none)

/-- Takes one byte. -/
def takeByte : Option Unfinished → UInt8 → Decoded
  | none, b => beginCharacter b
  | some u, b =>
    if u.low ≤ b ∧ b ≤ u.high then
      let code := u.code * 64 + (b.toNat - 0x80)
      if u.missing ≤ 1 then ([some (Char.ofNat code)], none)
      else ([], some ⟨u.missing - 1, 0x80, 0xBF, code⟩)
    else
      let (decoded, unfinished) := beginCharacter b
      (none :: decoded, unfinished)

/-- Decodes bytes after some of an unfinished character. At the end an unfinished character is
ill-formed. -/
def decodeAfter : Option Unfinished → List UInt8 → List (Option Char)
  | none, [] => []
  | some _, [] => [none]
  | unfinished, b :: rest =>
    let (decoded, unfinished) := takeByte unfinished b
    decoded ++ decodeAfter unfinished rest

/-- The characters of a sequence of bytes, with `none` for every ill-formed part. -/
def decode (bytes : List UInt8) : List (Option Char) :=
  decodeAfter none bytes

/-- The bytes are well-formed UTF-8. -/
def isWellFormed (bytes : List UInt8) : Bool :=
  (decode bytes).all Option.isSome

/-- The character that stands for an ill-formed part. -/
def replacement : Char := '\ufffd'

/-- The characters of a sequence of bytes, with a replacement for every ill-formed part. -/
def decodeLossy (bytes : List UInt8) : List Char :=
  (decode bytes).map (·.getD replacement)

end FuzzyRank.Text
