import FuzzyRank.CaseRule
import FuzzyRank.CharClass

/-!
The units in which texts are compared: bytes when both sides are ASCII, characters otherwise.
-/

namespace FuzzyRank

/-- A unit of comparison. -/
class Symbol (α : Type) where
  /-- Equal under the case rule. -/
  same : CaseRule → α → α → Bool
  /-- The class that scoring sees. -/
  charClass : α → CharClass
  /-- The first index, from the given one on, at which the text holds the symbol. -/
  firstFrom : CaseRule → α → Array α → Nat → Option Nat

/-- The first of `count` indices from `start` on whose element satisfies `p`. -/
def findWithin {α : Type} (p : α → Bool) (text : Array α) : (count start : Nat) → Option Nat
  | 0, _ => none
  | count + 1, start =>
    if text[start]?.any p then some start else findWithin p text count (start + 1)

/-- The first index, from `start` on, whose element satisfies `p`. -/
def findFrom {α : Type} (p : α → Bool) (text : Array α) (start : Nat) : Option Nat :=
  findWithin p text (text.size - start) start

/-- The last index below `stop` whose element satisfies `p`. -/
def findBefore {α : Type} (p : α → Bool) (text : Array α) : Nat → Option Nat
  | 0 => none
  | k + 1 => if text[k]?.any p then some k else findBefore p text k

/-- The smaller of two indices, where either may be missing. -/
def earlier : Option Nat → Option Nat → Option Nat
  | none, found | found, none => found
  | some i, some j => some (min i j)

namespace Symbol

/-- The small letter of an ASCII capital; every other byte itself. -/
def lowerByte (b : UInt8) : UInt8 :=
  if 65 ≤ b ∧ b ≤ 90 then b + 32 else b

/-- The capital of an ASCII small letter; every other byte itself. -/
def upperByte (b : UInt8) : UInt8 :=
  if 97 ≤ b ∧ b ≤ 122 then b - 32 else b

/-- Equality of bytes under the case rule. -/
def sameByte : CaseRule → UInt8 → UInt8 → Bool
  | .respect, a, b => a == b
  | .ignore, a, b => lowerByte a == lowerByte b

/-- A search for one byte. When case is ignored, both spellings of a letter are looked for and
the earlier find wins. -/
def firstByteFrom : CaseRule → UInt8 → Array UInt8 → Nat → Option Nat
  | .respect, b, text, start => findFrom (· == b) text start
  | .ignore, b, text, start =>
    let small := lowerByte b
    let capital := upperByte b
    if small == capital then findFrom (· == small) text start
    else earlier (findFrom (· == small) text start) (findFrom (· == capital) text start)

instance : Symbol UInt8 where
  same := sameByte
  charClass b := CharClass.ofAscii (Char.ofNat b.toNat)
  firstFrom := firstByteFrom

/-- Equality of characters under the case rule. Only ASCII letters have a second spelling. -/
def sameChar : CaseRule → Char → Char → Bool
  | .respect, a, b => a == b
  | .ignore, a, b => a.toLower == b.toLower

instance : Symbol Char where
  same := sameChar
  charClass := CharClass.ofChar
  firstFrom rule c text start := findFrom (sameChar rule c) text start

end Symbol
end FuzzyRank
