import FuzzyRank.Proofs.Cell

/-!
How high and how low scores can get.

A column earns at most 36 points: as the first of the text its bonus counts twice, and as the next
of a run it earns the bonus of the run's head besides, but never both. It earns at least 16, and a
gap takes two points more than it has columns. So in every row the score of a trail lies between
15 for each row less one for each column, and 36 for each row. What a cell, a run or a gap records
is the score of a trail and obeys the same bounds.
-/

namespace FuzzyRank

open FuzzyRank.Alignment Scoring Trail

/-- A score that a trail of row `i` that ends in column `j` can have. -/
structure Worth (i j : Nat) (v : Int) : Prop where
  low : 15 * (i + 1) - (j : Int) ≤ v
  high : v ≤ 36 * (i + 1)

/-- A score that can be left of a trail of row `i` after a gap up to column `j`. -/
structure GapWorth (i j : Nat) (v : Int) : Prop where
  low : 15 * (i + 1) - 1 - (j : Int) ≤ v
  high : v ≤ 36 * (i + 1) - 3

namespace Board

variable (B : Board) {i j : Nat}

theorem bonus_le_ten (j : Nat) : B.bonus j ≤ 10 :=
  B.bonus_le j

theorem columnScore_ge (j : Nat) : 16 ≤ B.columnScore j := by
  unfold columnScore matchPoints
  omega

theorem columnScore_le_first (j : Nat) : B.columnScore j ≤ 36 := by
  have := B.bonus_le_ten j
  unfold columnScore matchPoints startFactor
  split <;> omega

theorem columnScore_le_later (h : j ≠ 0) : B.columnScore j ≤ 26 := by
  have := B.bonus_le_ten j
  unfold columnScore matchPoints
  rw [if_neg h]
  omega

theorem followScore_bounds (head : Nat) : 0 ≤ B.followScore head ∧ B.followScore head ≤ 10 := by
  have := B.bonus_le_ten head
  unfold followScore runBonus
  omega

end Board

theorem slotBonus_bounds {s : Nat} (h : s < slotCount) : 4 ≤ slotBonus s ∧ slotBonus s ≤ 10 := by
  have hcount : slotCount = 7 := rfl
  unfold slotBonus runBonus
  omega

/-- A gap of columns costs two points more than it has columns. -/
theorem gapScore_eq {j k : Nat} (h : k < j) :
    Placement.gapScore (j - k - 1) = (k : Int) - j - 1 := by
  unfold Placement.gapScore gapOpening gapExtension
  omega

/-! ## Trails -/

variable {B : Board} {i j : Nat} {before : List Nat}

theorem IsTrail.worth (h : IsTrail B i j before) : Worth i j (score B j before) := by
  induction h with
  | @first j _ =>
    have hge := B.columnScore_ge j
    have hle := B.columnScore_le_first j
    rw [score_nil]
    exact ⟨by omega, by omega⟩
  | @next i j k before _ hkj _ ih =>
    obtain ⟨hlow, hhigh⟩ := ih
    have hge := B.columnScore_ge j
    have hle := B.columnScore_le_later (j := j) (by omega)
    have hfollow := B.followScore_bounds (runHead k before)
    have hgap := gapScore_eq hkj
    unfold score
    split
    · exact ⟨by omega, by omega⟩
    · exact ⟨by omega, by omega⟩

/-- What is left of a trail after a gap. -/
theorem Board.Skips.gapWorth (h : B.Skips i j before) : GapWorth i j (B.gapOf j before).score := by
  obtain ⟨k, rest, rfl, hk, t⟩ := h
  obtain ⟨hlow, hhigh⟩ := t.worth
  have hgap := gapScore_eq (j := j) (k := k) (by omega)
  simp only [gapOf, score_skip B hk]
  exact ⟨by omega, by omega⟩

/-! ## What a table records -/

namespace Board

theorem RightEntry.worth {e : Entry} (h : B.RightEntry i j (some e)) : Worth i j e.score := by
  obtain ⟨a, ha, rfl⟩ := h.of_some
  exact ha.1.1.worth

theorem RightRun.worth {s : Nat} {r : Run} (h : B.RightRun i j s (some r)) :
    Worth i j r.score := by
  obtain ⟨a, ha, rfl⟩ := h.of_some
  exact ha.1.1.1.worth

theorem RightGap.worth {g : Gap} (h : B.RightGap i j (some g)) : GapWorth i j g.score := by
  obtain ⟨a, ha, rfl⟩ := h.of_some
  exact ha.1.gapWorth

theorem RightCell.worth {c : Cell} (h : B.RightCell i j (some c)) : Worth i j c.score := by
  have htrail := h.trail
  obtain ⟨a, ha, hview⟩ := htrail.of_some
  rw [show c.score = score B j a from congrArg Run.score hview]
  exact ha.1.worth

/-- The entry of a cell is worth what its trails are. -/
theorem RightCell.entry_worth {c : Cell} {e : Entry} (h : B.RightCell i j (some c))
    (he : c.entry = some e) : Worth i j e.score := by
  have hentry := h.entry
  rw [Option.bind_some, he] at hentry
  exact hentry.worth

end Board
end FuzzyRank
