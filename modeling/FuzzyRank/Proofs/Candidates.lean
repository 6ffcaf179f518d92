import FuzzyRank.Cli.Candidates
import Mathlib.Algebra.Group.Nat.Defs
import Mathlib.Data.List.Basic

/-!
What the candidates of an input hold.

A character that is spelled with more than one byte lies beyond ASCII, whatever its bytes are. An
ASCII character is therefore decoded from its own byte only, and a line, which has no newline among
its bytes, has none among its characters.
-/

namespace FuzzyRank

namespace Text

/-! ## Characters of several bytes -/

/-- Whichever bytes are still to come, the code point lies beyond ASCII. -/
structure Unfinished.BeyondAscii (u : Unfinished) : Prop where
  missing_pos : 1 ≤ u.missing
  low_ge : 128 ≤ u.low.toNat
  least_ge : 128 ≤ u.code * 64 ^ u.missing + (u.low.toNat - 128) * 64 ^ (u.missing - 1)

section Bytes

variable {b lead low high : UInt8} {c : Char} {u : Unfinished} {missing : Nat}

/-- The first byte of three or four has bits of its own, or else the second byte begins so far up
that it has some. -/
theorem beyondAscii_of_lead (hmissing : 2 ≤ missing) (hb : lead ≤ b) (hlow : 130 ≤ low.toNat) :
    Unfinished.BeyondAscii
      ⟨missing, if b = lead then low else 0x80, high, b.toNat - lead.toNat⟩ := by
  have hpos : 1 ≤ missing := by omega
  by_cases heq : b = lead
  · rw [if_pos heq]
    have hbits : 2 ≤ low.toNat - 128 := by omega
    have hpow : 64 ^ 1 ≤ 64 ^ (missing - 1) := Nat.pow_le_pow_right (by decide) (by omega)
    have hleast := Nat.mul_le_mul hbits hpow
    refine ⟨hpos, ?_, ?_⟩
    · show 128 ≤ low.toNat
      omega
    · show 128 ≤ _ * 64 ^ missing + (low.toNat - 128) * 64 ^ (missing - 1)
      omega
  · rw [if_neg heq]
    have hle : lead.toNat ≤ b.toNat := hb
    have hne : b.toNat ≠ lead.toNat := fun h => heq (UInt8.toNat_inj.mp h)
    have hcode : 1 ≤ b.toNat - lead.toNat := by omega
    have hpow : 64 ^ 2 ≤ 64 ^ missing := Nat.pow_le_pow_right (by decide) hmissing
    have hleast := Nat.mul_le_mul hcode hpow
    refine ⟨hpos, Nat.le_refl 128, ?_⟩
    show 128 ≤ (b.toNat - lead.toNat) * 64 ^ missing + _
    omega

theorem beginCharacter_beyondAscii (h : (beginCharacter b).2 = some u) : u.BeyondAscii := by
  unfold beginCharacter at h
  split at h
  · cases h
  split at h
  · cases h
  next htwo =>
  have htwo : 194 ≤ b.toNat := UInt8.not_lt.mp htwo
  split at h
  · cases h
    refine ⟨Nat.le_refl 1, Nat.le_refl 128, ?_⟩
    show 128 ≤ (b.toNat - 192) * 64 ^ 1 + (128 - 128) * 64 ^ 0
    omega
  next hthree =>
  split at h
  · cases h
    exact beyondAscii_of_lead (Nat.le_refl 2) (UInt8.not_lt.mp hthree) (by decide)
  next hfour =>
  split at h
  · cases h
    exact beyondAscii_of_lead (by decide) (UInt8.not_lt.mp hfour) (by decide)
  · cases h

/-- One more byte leaves the code point beyond ASCII. -/
theorem Unfinished.BeyondAscii.next (h : u.BeyondAscii) (hlow : u.low ≤ b)
    (hmissing : ¬ u.missing ≤ 1) :
    Unfinished.BeyondAscii ⟨u.missing - 1, 0x80, high, u.code * 64 + (b.toNat - 0x80)⟩ := by
  obtain ⟨hpos, hlow128, hleast⟩ := h
  have hlow : u.low.toNat ≤ b.toNat := hlow
  refine ⟨by dsimp only; omega, Nat.le_refl 128, ?_⟩
  have hpow : 64 ^ u.missing = 64 * 64 ^ (u.missing - 1) := by
    rw [← Nat.pow_succ', Nat.succ_eq_add_one, Nat.sub_add_cancel hpos]
  have hbits : u.low.toNat - 128 ≤ b.toNat - 128 := by omega
  have hbits' := Nat.mul_le_mul_right (64 ^ (u.missing - 1)) hbits
  rw [hpow, ← Nat.mul_assoc] at hleast
  dsimp only
  rw [Nat.add_mul]
  omega

theorem Unfinished.BeyondAscii.last (h : u.BeyondAscii) (hlow : u.low ≤ b)
    (hmissing : u.missing ≤ 1) : 128 ≤ u.code * 64 + (b.toNat - 0x80) := by
  obtain ⟨hpos, hlow128, hleast⟩ := h
  have hlow : u.low.toNat ≤ b.toNat := hlow
  rw [show u.missing = 1 by omega] at hleast
  simp only [Nat.pow_one, Nat.sub_self, Nat.pow_zero, Nat.mul_one] at hleast
  omega

/-! ## Characters of one byte -/

theorem toNat_ofNat (n : Nat) : (Char.ofNat n).toNat = if n.isValidChar then n else 0 := by
  by_cases h : n.isValidChar
  · rw [if_pos h, Char.ofNat, dif_pos h]
    rfl
  · rw [if_neg h, Char.ofNat, dif_neg h]
    rfl

/-- A character that is spelled with one byte. NUL is left out, since it also stands for code points
that are no characters. -/
def IsOneByte (c : Char) : Prop :=
  0 < c.toNat ∧ c.toNat < 128

theorem not_isOneByte_ofNat {n : Nat} (h : 128 ≤ n) : ¬ IsOneByte (Char.ofNat n) := by
  unfold IsOneByte
  rw [toNat_ofNat]
  split <;> omega

theorem toNat_eq_of_mem_beginCharacter (h : some c ∈ (beginCharacter b).1) :
    c.toNat = b.toNat := by
  unfold beginCharacter at h
  split at h
  · next hb =>
    have hb : b.toNat < 128 := hb
    obtain rfl : c = Char.ofNat b.toNat := by simpa using h
    rw [toNat_ofNat, if_pos (Or.inl (by omega))]
  · repeat' split at h
    all_goals simp at h

/-- A byte that gives an ASCII character is its own. -/
theorem toNat_eq_of_mem_takeByte {state : Option Unfinished}
    (hstate : ∀ u, state = some u → u.BeyondAscii) (hc : IsOneByte c)
    (h : some c ∈ (takeByte state b).1) : c.toNat = b.toNat := by
  cases state with
  | none => exact toNat_eq_of_mem_beginCharacter h
  | some u =>
    have hu := hstate u rfl
    simp only [takeByte] at h
    split at h
    · next hb =>
      split at h
      · next hmissing =>
        have heq : c = Char.ofNat (u.code * 64 + (b.toNat - 0x80)) := by
          rw [List.mem_singleton] at h
          exact Option.some.inj h
        rw [heq] at hc
        exact absurd hc (not_isOneByte_ofNat (hu.last hb.1 hmissing))
      · cases h
    · exact toNat_eq_of_mem_beginCharacter (by simpa using h)

theorem takeByte_beyondAscii {state : Option Unfinished}
    (hstate : ∀ u, state = some u → u.BeyondAscii) (h : (takeByte state b).2 = some u) :
    u.BeyondAscii := by
  cases state with
  | none => exact beginCharacter_beyondAscii h
  | some v =>
    have hv := hstate v rfl
    simp only [takeByte] at h
    split at h
    · next hb =>
      split at h
      · cases h
      · next hmissing =>
        cases h
        exact hv.next hb.1 hmissing
    · exact beginCharacter_beyondAscii h

theorem decodeAfter_cons (state : Option Unfinished) (b : UInt8) (rest : List UInt8) :
    decodeAfter state (b :: rest) =
      (takeByte state b).1 ++ decodeAfter (takeByte state b).2 rest := by
  cases state <;> rfl

/-- The bytes of a text hold those of its ASCII characters. -/
theorem exists_byte_of_mem_decodeAfter {bytes : List UInt8} {state : Option Unfinished}
    (hstate : ∀ u, state = some u → u.BeyondAscii) (hc : IsOneByte c)
    (h : some c ∈ decodeAfter state bytes) : ∃ b ∈ bytes, c.toNat = b.toNat := by
  induction bytes generalizing state with
  | nil => cases state <;> simp [decodeAfter] at h
  | cons b rest ih =>
    have hnext : ∀ u, (takeByte state b).2 = some u → u.BeyondAscii :=
      fun u => takeByte_beyondAscii hstate
    rw [decodeAfter_cons] at h
    rcases List.mem_append.mp h with h | h
    · exact ⟨b, List.mem_cons_self, toNat_eq_of_mem_takeByte hstate hc h⟩
    · obtain ⟨b', hb', heq⟩ := ih hnext h
      exact ⟨b', List.mem_cons_of_mem b hb', heq⟩

/-- Between characters nothing is unfinished. -/
theorem beyondAscii_of_none : ∀ u, (none : Option Unfinished) = some u → u.BeyondAscii :=
  fun _ h => nomatch h

theorem exists_byte_of_mem_decodeLossy {bytes : List UInt8} (hc : IsOneByte c)
    (h : c ∈ decodeLossy bytes) : ∃ b ∈ bytes, c.toNat = b.toNat := by
  obtain ⟨decoded, hmem, heq⟩ := List.mem_map.mp h
  cases decoded with
  | none =>
    have hreplacement : c = replacement := heq.symm
    subst hreplacement
    exact absurd hc (by unfold IsOneByte; decide)
  | some d =>
    obtain rfl : d = c := heq
    exact exists_byte_of_mem_decodeAfter beyondAscii_of_none hc hmem

end Bytes
end Text

namespace Cli

/-! ## Lines -/

/-- The pieces between the places of a value do not hold the value. -/
theorem not_mem_of_mem_splitOn {α : Type} [BEq α] [LawfulBEq α] {a : α} {xs piece : List α}
    (h : piece ∈ xs.splitOn a) : a ∉ piece := by
  induction xs generalizing piece with
  | nil =>
    obtain rfl : piece = [] := by simpa using h
    exact List.not_mem_nil
  | cons x xs ih =>
    rw [List.splitOn_cons_eq_if_modifyHead] at h
    split at h
    · rcases List.mem_cons.mp h with rfl | h
      · exact List.not_mem_nil
      · exact ih h
    · next hx =>
      cases hsplit : xs.splitOn a with
      | nil => simp [hsplit] at h
      | cons first more =>
        rw [hsplit] at h ih
        rcases List.mem_cons.mp h with rfl | h
        · rw [List.mem_cons]
          rintro (rfl | hmem)
          · exact hx (beq_self_eq_true a)
          · exact ih List.mem_cons_self hmem
        · exact ih (List.mem_cons_of_mem first h)

/-- Where no line holds a newline, the text of the lines can be cut into them again. -/
theorem splitOn_flatMap_newline {lines : List (List Char)} (h : ∀ l ∈ lines, '\n' ∉ l) :
    (lines.flatMap (· ++ ['\n'])).splitOn '\n' = lines ++ [[]] := by
  induction lines with
  | nil => rfl
  | cons l rest ih =>
    obtain ⟨hl, hrest⟩ := List.forall_mem_cons.mp h
    rw [List.flatMap_cons, List.append_assoc, List.singleton_append,
      List.splitOn_append_cons_self_of_not_mem hl, ih hrest, List.cons_append]

theorem newline_not_mem_of_mem_cutLines {bytes line : List UInt8} (h : line ∈ cutLines bytes) :
    newline ∉ line := by
  simp only [cutLines] at h
  split at h
  · exact not_mem_of_mem_splitOn (List.dropLast_subset _ h)
  · exact not_mem_of_mem_splitOn h

theorem mem_of_mem_dropCarriageReturn {line : List UInt8} {b : UInt8}
    (h : b ∈ dropCarriageReturn line) : b ∈ line := by
  unfold dropCarriageReturn at h
  split at h
  · exact List.dropLast_subset _ h
  · exact h

theorem newline_not_mem_decodeLossy {line : List UInt8} (h : newline ∉ line) :
    '\n' ∉ Text.decodeLossy line := by
  intro hmem
  obtain ⟨b, hb, heq⟩ := Text.exists_byte_of_mem_decodeLossy (by unfold Text.IsOneByte; decide) hmem
  obtain rfl : b = newline := UInt8.toNat_inj.mp heq.symm
  exact h hb

/-- No candidate holds a newline. -/
theorem newline_not_mem_of_mem_readCandidates {bytes : List UInt8} {text : String}
    (h : text ∈ (readCandidates bytes).value) : '\n' ∉ text.toList := by
  simp only [readCandidates, Candidate.ofBytes, List.mem_map] at h
  obtain ⟨_, ⟨line, hline, rfl⟩, rfl⟩ := h
  have hbytes : newline ∉ dropCarriageReturn line := fun hmem =>
    newline_not_mem_of_mem_cutLines hline (mem_of_mem_dropCarriageReturn hmem)
  simpa [Candidate.ofLine] using newline_not_mem_decodeLossy hbytes

end Cli
end FuzzyRank
