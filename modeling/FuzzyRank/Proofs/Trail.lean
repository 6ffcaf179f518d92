import FuzzyRank.Alignment.Grid
import FuzzyRank.Placement

/-!
Placements read from right to left.

A table is filled row by row, and a row knows of the rows above only where they end. A *trail* is
therefore a placement of the pattern up to a row, given as the column it ends in and the columns
before that one, the last of them first. This module has the trails of a board, their score and the
run that a trail ends in; the order in which equal scores are settled is the lexicographic order of
the columns before. Nothing here mentions the table.
-/

namespace FuzzyRank

open Scoring FuzzyRank.Alignment

/-! ## Boards -/

theorem Scoring.classBonus_le (before current : CharClass) :
    classBonus before current ≤ blankBonus := by
  cases before <;> cases current <;> decide

theorem Scoring.bonusAt_le {α : Type} [Symbol α] (text : Array α) (j : Nat) :
    bonusAt text j ≤ blankBonus := by
  unfold bonusAt
  split
  · exact classBonus_le _ _
  · exact Nat.zero_le _

/-- What an alignment sees of a pattern and a text: which columns hold the symbol of a row, and the
class bonus of each column. -/
@[ext]
structure Board where
  agrees : Nat → Nat → Prop
  bonus : Nat → Nat
  bonus_le : ∀ j, bonus j ≤ blankBonus

namespace Board

/-- The board of a pattern and a text under a case rule. -/
def of {α : Type} [Symbol α] (rule : CaseRule) (pattern : List α) (text : Array α) : Board where
  agrees i j := ∃ p, pattern[i]? = some p ∧ text[j]?.any (Symbol.same rule p)
  bonus := bonusAt text
  bonus_le := bonusAt_le text

/-- What a column earns by itself. -/
def columnScore (B : Board) (j : Nat) : Int :=
  matchPoints + (if j = 0 then B.bonus j * startFactor else B.bonus j : Nat)

/-- What a column earns by following directly in a run with the given head. -/
def followScore (B : Board) (head : Nat) : Int :=
  (max runBonus (B.bonus head) : Nat)

theorem columnScore_succ (B : Board) (j : Nat) :
    B.columnScore (j + 1) = matchPoints + (B.bonus (j + 1) : Nat) := by
  simp [columnScore]

theorem followScore_eq (B : Board) (head : Nat) :
    B.followScore head = slotBonus (slotOf (B.bonus head)) := by
  unfold followScore slotBonus slotOf
  congr 1
  omega

theorem slotOf_lt (B : Board) (j : Nat) : slotOf (B.bonus j) < slotCount := by
  have h := B.bonus_le j
  simp only [slotOf, slotCount, runBonus, blankBonus] at *
  omega

end Board

/-! ## Trails -/

/-- `IsTrail B i j before`: the columns `before`, read from right to left, and then `j` place the
pattern up to row `i`. -/
inductive IsTrail (B : Board) : Nat → Nat → List Nat → Prop
  | first {j : Nat} (agrees : B.agrees 0 j) : IsTrail B 0 j []
  | next {i j k : Nat} {before : List Nat} (agrees : B.agrees (i + 1) j) (lt : k < j)
      (rest : IsTrail B i k before) : IsTrail B (i + 1) j (k :: before)

namespace Trail

/-- How many columns the run that ends in `j` goes on after its head. -/
def runLength : Nat → List Nat → Nat
  | _, [] => 0
  | j, k :: before => if j = k + 1 then runLength k before + 1 else 0

/-- The first column of the run that ends in `j`. -/
def runHead : Nat → List Nat → Nat
  | j, [] => j
  | j, k :: before => if j = k + 1 then runHead k before else j

/-- The score of the trail that ends in `j`. -/
def score (B : Board) : Nat → List Nat → Int
  | j, [] => B.columnScore j
  | j, k :: before =>
    score B k before + B.columnScore j +
      if j = k + 1 then B.followScore (runHead k before) else Placement.gapScore (j - k - 1)

/-- The place among the runs of the run that ends in `j`. -/
def slot (B : Board) (j : Nat) (before : List Nat) : Nat :=
  slotOf (B.bonus (runHead j before))

@[simp]
theorem runLength_nil (j : Nat) : runLength j [] = 0 := rfl

@[simp]
theorem runLength_follow (k : Nat) (before : List Nat) :
    runLength (k + 1) (k :: before) = runLength k before + 1 := by
  simp [runLength]

@[simp]
theorem runHead_follow (k : Nat) (before : List Nat) :
    runHead (k + 1) (k :: before) = runHead k before := by
  simp [runHead]

theorem runLength_skip {j k : Nat} (h : j ≠ k + 1) (before : List Nat) :
    runLength j (k :: before) = 0 := by
  simp [runLength, h]

theorem runHead_add_runLength (j : Nat) (before : List Nat) :
    runHead j before + runLength j before = j := by
  induction before generalizing j with
  | nil => rfl
  | cons k before ih =>
    by_cases h : j = k + 1
    · subst h
      have := ih k
      simp only [runHead_follow, runLength_follow]
      omega
    · simp [runHead, runLength, h]

theorem sub_runLength (j : Nat) (before : List Nat) :
    j - runLength j before = runHead j before := by
  have := runHead_add_runLength j before
  omega

theorem runHead_eq_of_runLength_eq {j : Nat} {a b : List Nat}
    (h : runLength j a = runLength j b) : runHead j a = runHead j b := by
  have ha := runHead_add_runLength j a
  have hb := runHead_add_runLength j b
  omega

theorem runHead_of_runLength_eq_zero {j : Nat} {before : List Nat}
    (h : runLength j before = 0) : runHead j before = j := by
  have := runHead_add_runLength j before
  omega

@[simp]
theorem slot_follow (B : Board) (k : Nat) (before : List Nat) :
    slot B (k + 1) (k :: before) = slot B k before := by
  simp [slot]

theorem slot_lt (B : Board) (j : Nat) (before : List Nat) : slot B j before < slotCount :=
  B.slotOf_lt _

@[simp]
theorem score_nil (B : Board) (j : Nat) : score B j [] = B.columnScore j := rfl

/-- A run that goes on earns the column's own points and the bonus of its slot. -/
theorem score_follow (B : Board) (k : Nat) (before : List Nat) :
    score B (k + 1) (k :: before) =
      score B k before + (matchPoints + (B.bonus (k + 1) : Nat)) + slotBonus (slot B k before) := by
  simp [score, B.columnScore_succ, B.followScore_eq, slot]

theorem score_skip (B : Board) {j k : Nat} (h : k + 2 ≤ j) (before : List Nat) :
    score B j (k :: before) =
      score B k before + B.columnScore j + Placement.gapScore (j - k - 1) := by
  have : j ≠ k + 1 := by omega
  simp [score, this]

/-- Ending one column further right costs one more skipped column. -/
theorem score_skip_succ (B : Board) {j k : Nat} (h : k + 2 ≤ j) (before : List Nat) :
    score B (j + 1) (k :: before) - B.columnScore (j + 1) =
      score B j (k :: before) - B.columnScore j + gapExtension := by
  rw [score_skip B h, score_skip B (by omega : k + 2 ≤ j + 1)]
  have hcast : ((j + 1 - k - 1 : Nat) : Int) = ((j - k - 1 : Nat) : Int) + 1 := by omega
  simp only [Placement.gapScore, hcast, gapExtension]
  omega

/-- The narrowest gap costs the opening alone. -/
theorem score_skip_one (B : Board) (k : Nat) (before : List Nat) :
    score B (k + 2) (k :: before) - B.columnScore (k + 2) = score B k before + gapOpening := by
  rw [score_skip B (Nat.le_refl _)]
  have hcast : ((k + 2 - k - 1 : Nat) : Int) = 1 := by omega
  simp only [Placement.gapScore, hcast, gapExtension]
  omega

end Trail

namespace IsTrail

variable {B : Board} {i j : Nat} {a b : List Nat}

theorem agrees (h : IsTrail B i j a) : B.agrees i j := by
  cases h <;> assumption

theorem length_eq (h : IsTrail B i j a) : a.length = i := by
  induction h with
  | first => rfl
  | next _ _ _ ih => simp [ih]

/-- Where a run goes on, the trail that it goes on from stands one row up and one column back. -/
theorem of_runLength_ne_zero (h : IsTrail B i j a) (hr : Trail.runLength j a ≠ 0) :
    ∃ i' k rest, i = i' + 1 ∧ j = k + 1 ∧ a = k :: rest ∧ IsTrail B i' k rest := by
  cases h with
  | first => simp at hr
  | @next i' _ k rest _ _ t =>
    by_cases hk : j = k + 1
    · exact ⟨i', k, rest, rfl, hk, rfl, t⟩
    · exact absurd (Trail.runLength_skip hk rest) hr

/-- Of two trails that end in one cell, the one with the longer run has the greater columns. -/
theorem lt_of_runLength_lt (ha : IsTrail B i j a) (hb : IsTrail B i j b)
    (h : Trail.runLength j a < Trail.runLength j b) : a < b := by
  induction ha generalizing b with
  | first =>
    obtain ⟨_, _, _, hi, _⟩ := hb.of_runLength_ne_zero (by omega)
    omega
  | @next i j k before _ hkj t ih =>
    obtain ⟨_, k', rest, hi, rfl, rfl, t'⟩ := hb.of_runLength_ne_zero (by omega)
    cases hi
    rcases Nat.lt_or_ge k k' with hlt | hge
    · exact List.cons_lt_cons_iff.mpr (.inl hlt)
    · obtain rfl : k = k' := by omega
      simp only [Trail.runLength_follow, Nat.add_lt_add_iff_right] at h
      exact List.cons_lt_cons_iff.mpr (.inr ⟨rfl, ih t' h⟩)

/-- A trail that reaches its column through a gap does so from at least two columns back. -/
theorem of_runLength_eq_zero (h : IsTrail B (i + 1) j a) (hr : Trail.runLength j a = 0) :
    ∃ k rest, a = k :: rest ∧ k + 2 ≤ j ∧ IsTrail B i k rest := by
  cases h with
  | @next _ _ k rest _ hkj t =>
    rcases Nat.lt_or_ge (k + 1) j with hk | hk
    · exact ⟨k, rest, rfl, hk, t⟩
    · obtain rfl : j = k + 1 := by omega
      simp at hr

end IsTrail
end FuzzyRank
