import FuzzyRank.Matcher
import FuzzyRank.Proofs.Search
import FuzzyRank.Proofs.Trail

/-!
Two ASCII texts look the same byte by byte and character by character.

An ASCII character and its byte have the same class, and two of them are the same under a case rule
if and only if their bytes are. An alignment sees no more of a text than that, so both ways of
reading a pair of ASCII texts give the same board.
-/

namespace FuzzyRank

namespace Symbol

/-- The byte of an ASCII character. -/
def byteOf (c : Char) : UInt8 :=
  c.toNat.toUInt8

variable {a b c : Char}

theorem toNat_byteOf (h : c.toNat < 128) : (byteOf c).toNat = c.toNat := by
  show c.toNat % 256 = c.toNat
  omega

theorem toNat_toLower (c : Char) :
    c.toLower.toNat = if 65 ≤ c.toNat ∧ c.toNat ≤ 90 then c.toNat + 32 else c.toNat := by
  unfold Char.toLower
  split
  · next h =>
    have h' : 65 ≤ c.toNat ∧ c.toNat ≤ 90 := h
    rw [if_pos h']
    show (c.val + 32).toNat = c.toNat + 32
    rw [UInt32.toNat_add, show (32 : UInt32).toNat = 32 from rfl,
      show c.val.toNat = c.toNat from rfl]
    omega
  · next h =>
    have h' : ¬ (65 ≤ c.toNat ∧ c.toNat ≤ 90) := h
    rw [if_neg h']

/-- The case rules agree on ASCII characters and their bytes. -/
theorem sameByte_byteOf (rule : CaseRule) (ha : a.toNat < 128) (hb : b.toNat < 128) :
    sameByte rule (byteOf a) (byteOf b) = sameChar rule a b := by
  rw [Bool.eq_iff_iff]
  cases rule with
  | respect =>
    show (byteOf a == byteOf b) = true ↔ (a == b) = true
    rw [beq_iff_eq, beq_iff_eq, ← UInt8.toNat_inj, toNat_byteOf ha, toNat_byteOf hb, Char.toNat_inj]
  | ignore =>
    show (lowerByte (byteOf a) == lowerByte (byteOf b)) = true ↔ (a.toLower == b.toLower) = true
    rw [beq_iff_eq, beq_iff_eq, ← UInt8.toNat_inj, toNat_lowerByte, toNat_lowerByte,
      toNat_byteOf ha, toNat_byteOf hb, ← Char.toNat_inj, toNat_toLower, toNat_toLower]

/-- An ASCII character and its byte are of the same class. -/
theorem charClass_byteOf (h : c.toNat < 128) :
    Symbol.charClass (byteOf c) = Symbol.charClass c := by
  show CharClass.ofAscii (Char.ofNat (byteOf c).toNat) = CharClass.ofChar c
  rw [toNat_byteOf h, Char.ofNat_toNat, CharClass.ofChar, if_pos h]

end Symbol

open FuzzyRank.Symbol Scoring

/-- All characters are ASCII. -/
def AllAscii (cs : List Char) : Prop :=
  ∀ c ∈ cs, c.toNat < 128

theorem Matcher.isAscii_iff (text : String) : isAscii text = true ↔ AllAscii text.toList := by
  simp [isAscii, AllAscii]

variable {ps cs : List Char}

theorem AllAscii.getElem? (h : AllAscii cs) {j : Nat} {c : Char} (hc : cs[j]? = some c) :
    c.toNat < 128 :=
  h c (List.mem_of_getElem? hc)

theorem classBefore_bytes (h : AllAscii cs) (j : Nat) :
    classBefore (cs.map byteOf).toArray j = classBefore cs.toArray j := by
  cases j with
  | zero => rfl
  | succ j =>
    simp only [classBefore, List.getElem?_toArray, List.getElem?_map]
    cases hc : cs[j]? with
    | none => rfl
    | some c =>
      simp only [Option.map_some, Option.getD_some]
      exact charClass_byteOf (h.getElem? hc)

theorem bonusAt_bytes (h : AllAscii cs) (j : Nat) :
    bonusAt (cs.map byteOf).toArray j = bonusAt cs.toArray j := by
  simp only [bonusAt, classBefore_bytes h, List.getElem?_toArray, List.getElem?_map]
  cases hc : cs[j]? with
  | none => rfl
  | some c =>
    simp only [Option.map_some]
    rw [charClass_byteOf (h.getElem? hc)]

/-- The board of two ASCII texts is the same for their bytes as for their characters. -/
theorem Board.of_bytes (rule : CaseRule) (hp : AllAscii ps) (hc : AllAscii cs) :
    Board.of rule (ps.map byteOf) (cs.map byteOf).toArray = Board.of rule ps cs.toArray := by
  have hagrees : ∀ i j, (Board.of rule (ps.map byteOf) (cs.map byteOf).toArray).agrees i j ↔
      (Board.of rule ps cs.toArray).agrees i j := by
    intro i j
    simp only [Board.of, List.getElem?_map, List.getElem?_toArray]
    cases hpi : ps[i]? with
    | none => simp
    | some p =>
      cases hcj : cs[j]? with
      | none => simp
      | some c =>
        have hsame := sameByte_byteOf rule (hp.getElem? hpi) (hc.getElem? hcj)
        simp only [Option.map_some, Option.some.injEq, exists_eq_left', Option.any_some]
        exact iff_of_eq (congrArg (· = true) hsame)
  ext i j
  · exact hagrees i j
  · exact bonusAt_bytes hc i

end FuzzyRank
