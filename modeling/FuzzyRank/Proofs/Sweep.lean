import FuzzyRank.Proofs.Band
import FuzzyRank.Proofs.Step

/-!
A sweep along one row.

`RowInv` says what holds of the table when a sweep has passed the columns left of some column: these
are right, the others of the row are blank, and the rows above are as before. Every step keeps it,
whether its column matches or not, provided that the row above is right as far as the step looks.
-/

namespace FuzzyRank

open FuzzyRank.Alignment Guarded Scoring Trail
open FuzzyRank.Alignment.Band (lo hi Tight)

/-- What holds before every column holds after the last. -/
theorem foldColumns_inv {σ : Type} {visit : σ → Nat → Id σ} (Inv : Nat → σ → Prop)
    (count : Nat) {column : Nat} {s : σ}
    (hstep : ∀ j s, column ≤ j → j < column + count → Inv j s → Inv (j + 1) (visit s j))
    (h : Inv column s) : Inv (column + count) (foldColumns visit count column s : Id σ) := by
  induction count generalizing column s with
  | zero => exact h
  | succ count ih =>
    show Inv (column + (count + 1)) (foldColumns visit count (column + 1) (visit s column) : Id σ)
    rw [show column + (count + 1) = column + 1 + count by omega]
    refine ih (fun j s hj hjc => hstep j s (by omega) (by omega)) ?_
    exact hstep column s (Nat.le_refl _) (by omega) h

/-- The window holds the columns of a tight band. -/
structure Fits (B : Board) (bottom : Nat) (band : Band) (window : Window) : Prop where
  tight : Tight B bottom band
  offset_eq : window.offset = band.lo 0
  end_eq : window.offset + window.width = band.hi bottom + 1

/-- What holds of the table during the sweep of row `i`, when `j` is the next column. -/
structure RowInv (B : Board) (bottom : Nat) (window : Window) (i j : Nat) (old grid : Grid) :
    Prop where
  room : grid.Room window (bottom + 1)
  above : ∀ c, grid.aboveAt window c = old.aboveAt window c
  kept : ∀ r < i, ∀ c < window.offset + window.width,
    grid.cellAt window r c = old.cellAt window r c
  right : ∀ c < j, B.RightCell i c (grid.cellAt window i c)
  runs : ∀ c < j, (grid.cellAt window i c).isSome → B.RightRuns i c (grid.currentAt window c)
  blank : ∀ r c, i < r ∨ (r = i ∧ j ≤ c) → r ≤ bottom → c < window.offset + window.width →
    grid.cellAt window r c = none

/-- What the row above must be for the step at column `j` of row `i + 1`. -/
structure AboveRight (B : Board) (window : Window) (i : Nat) (limit : Nat) (old : Grid) :
    Prop where
  right : ∀ c < limit, B.RightCell i c (old.cellAt window i c)
  runs : ∀ c < limit, (old.cellAt window i c).isSome → B.RightRuns i c (old.aboveAt window c)

namespace Fits

variable {B : Board} {bottom : Nat} {band : Band} {window : Window} {i j : Nat}

theorem contains (h : Fits B bottom band window) (hi : i ≤ bottom) (hlo : band.lo i ≤ j)
    (hhi : j ≤ band.hi i) : window.Contains j := by
  have hstart := h.tight.lo_zero_le hi
  have hstop := h.tight.hi_le_bottom hi
  have hoff := h.offset_eq
  have hend := h.end_eq
  exact ⟨by omega, by omega⟩

end Fits

namespace RowInv

variable {B : Board} {bottom : Nat} {window : Window} {i j : Nat} {old grid : Grid}

/-- A column that no trail ends in is left blank. -/
theorem skip (h : RowInv B bottom window i j old grid) (hi : i ≤ bottom)
    (hj : j < window.offset + window.width) (hno : ∀ before, ¬ IsTrail B i j before) :
    RowInv B bottom window i (j + 1) old grid where
  room := h.room
  above := h.above
  kept := h.kept
  right c hc := by
    rcases Nat.eq_or_lt_of_le (Nat.le_of_lt_succ hc) with rfl | hlt
    · rw [h.blank i c (.inr ⟨rfl, Nat.le_refl _⟩) hi hj]
      exact .none_of hno
    · exact h.right c hlt
  runs c hc hsome := by
    rcases Nat.eq_or_lt_of_le (Nat.le_of_lt_succ hc) with rfl | hlt
    · rw [h.blank i c (.inr ⟨rfl, Nat.le_refl _⟩) hi hj] at hsome
      cases hsome
    · exact h.runs c hlt hsome
  blank r c hrc hr hc := h.blank r c (by omega) hr hc

/-- The runs of the next column may be written before its cell is known. -/
theorem withRuns (h : RowInv B bottom window i j old grid) (hj : window.Contains j)
    (runs : Runs) : RowInv B bottom window i j old (grid.withRuns window j runs) where
  room := h.room.withRuns
  above := h.above
  kept := h.kept
  right := h.right
  runs c hc hsome := by
    have hcw : window.Contains c := ⟨Grid.offset_le_of_isSome hsome, by have := hj.2; omega⟩
    rw [Grid.currentAt_withRuns_ne hj hcw (by omega)]
    exact h.runs c hc hsome
  blank := h.blank

/-- A column gets a right cell with right runs. -/
theorem withCell (h : RowInv B bottom window i j old grid) (hi : i ≤ bottom)
    (hj : window.Contains j) {cell : Option Cell} (hcell : B.RightCell i j cell)
    (hruns : B.RightRuns i j (grid.currentAt window j)) :
    RowInv B bottom window i (j + 1) old (grid.withCell window i j cell) where
  room := h.room.withCell
  above := h.above
  kept r hr c hc := by
    rw [Grid.cellAt_withCell_ne hj hc (by omega)]
    exact h.kept r hr c hc
  right c hc := by
    rcases Nat.eq_or_lt_of_le (Nat.le_of_lt_succ hc) with rfl | hlt
    · rw [Grid.cellAt_withCell_self h.room (by omega) hj]
      exact hcell
    · rw [Grid.cellAt_withCell_ne hj (by have := hj.2; omega) (by omega)]
      exact h.right c hlt
  runs c hc hsome := by
    rw [Grid.currentAt_withCell]
    rcases Nat.eq_or_lt_of_le (Nat.le_of_lt_succ hc) with rfl | hlt
    · exact hruns
    · rw [Grid.cellAt_withCell_ne hj (by have := hj.2; omega) (by omega)] at hsome
      exact h.runs c hlt hsome
  blank r c hrc hr hc := by
    rw [Grid.cellAt_withCell_ne hj hc (by omega)]
    exact h.blank r c (by omega) hr hc

section Above

variable {limit c : Nat}

/-- During the sweep the row above is as right as before it. -/
theorem above_cell (h : RowInv B bottom window (i + 1) j old grid)
    (habove : AboveRight B window i limit old) (hc : c < limit)
    (hend : c < window.offset + window.width) : B.RightCell i c (grid.cellAt window i c) := by
  rw [h.kept i (Nat.lt_succ_self i) c hend]
  exact habove.right c hc

theorem above_runs (h : RowInv B bottom window (i + 1) j old grid)
    (habove : AboveRight B window i limit old) (hc : c < limit)
    (hend : c < window.offset + window.width) (hsome : (grid.cellAt window i c).isSome) :
    B.RightRuns i c (grid.aboveAt window c) := by
  rw [h.kept i (Nat.lt_succ_self i) c hend] at hsome
  rw [h.above]
  exact habove.runs c hc hsome

end Above

end RowInv

/-! ## One column of a later row -/

/-- What holds during the sweep of row `i + 1`: besides the table, the gap is right for the column
just passed. -/
structure SweepInv (B : Board) (bottom : Nat) (window : Window) (i j : Nat) (old : Grid)
    (sweep : Sweep) : Prop where
  gap : B.RightGap i (j - 1) sweep.gap
  row : RowInv B bottom window (i + 1) j old sweep.grid

/-- The table after a matching column: its runs, and its cell if some trail ends there. -/
def putColumn (grid : Grid) (window : Window) (row column : Nat) (runs : Runs) :
    Option Cell → Grid
  | none => grid.withRuns window column runs
  | some cell => (grid.withRuns window column runs).withCell window row column (some cell)

section Steps

variable {α : Type} [Symbol α] {rule : CaseRule} {p : α} {text : Array α} {bonuses : Array Nat}

theorem rowStep_id (window : Window) (above aboveFirst first column : Nat) (gap : Option Gap)
    (grid : Grid) :
    (rowStep rule p text bonuses window above aboveFirst first ⟨gap, grid⟩ column : Id Sweep) =
      let gap' := (advanceGap grid window above aboveFirst column gap : Id (Option Gap))
      let runs := (extendRuns grid window bonuses above column : Id Runs)
      if column < first then ⟨gap', grid⟩
      else if text[column]?.any (Symbol.same rule p) then
        ⟨gap', putColumn grid window (above + 1) column runs (Cell.ofParts
          (enter (above + 1) bonuses column gap' : Id (Option Entry)) (bestRun runs))⟩
      else ⟨gap', grid⟩ := by
  unfold rowStep
  show (if column < first then _ else if !text[column]?.any (Symbol.same rule p) then _ else _) = _
  dsimp only
  split
  · rfl
  · by_cases hm : text[column]?.any (Symbol.same rule p)
    · simp only [hm, Bool.not_true, Bool.false_eq_true, if_false, if_true]
      show (match Cell.ofParts _ _ with
        | none => Sweep.mk _ (grid.withRuns window column _)
        | some cell => Sweep.mk _ ((grid.withRuns window column _).withCell window (above + 1)
            column (some cell))) = _
      cases Cell.ofParts
        (enter (above + 1) bonuses column
          (advanceGap grid window above aboveFirst column gap : Id (Option Gap)) :
          Id (Option Entry))
        (bestRun (extendRuns grid window bonuses above column : Id Runs)) <;> rfl
    · simp only [hm]
      rfl

variable {B : Board} {bottom : Nat} {band : Band} {window : Window} {i j : Nat} {old grid : Grid}

theorem RowInv.putColumn (h : RowInv B bottom window i j old grid) (hi : i ≤ bottom)
    (hj : window.Contains j) {runs : Runs} {cell : Option Cell} (hcell : B.RightCell i j cell)
    (hruns : B.RightRuns i j runs) :
    RowInv B bottom window i (j + 1) old (putColumn grid window i j runs cell) := by
  have hr := h.withRuns hj runs
  cases cell with
  | none => exact hr.skip hi hj.2 (by simpa using hcell.isSome_iff)
  | some c =>
    refine hr.withCell hi hj hcell ?_
    rw [Grid.currentAt_withRuns_self h.room hj]
    exact hruns

/-- The step at a column right of the row above's first column keeps the invariant. -/
theorem rowStep_inv {sweep : Sweep} (hbonus : ∀ j, bonuses.getD j 0 = B.bonus j)
    (hmatch : ∀ j, text[j]?.any (Symbol.same rule p) ↔ B.agrees (i + 1) j)
    (hfits : Fits B bottom band window) (hi : i + 1 ≤ bottom)
    (habove : AboveRight B window i (band.hi (i + 1)) old)
    (hlo : band.lo i < j) (hhi : j ≤ band.hi (i + 1))
    (h : SweepInv B bottom window i j old sweep) :
    SweepInv B bottom window i (j + 1) old
      (rowStep rule p text bonuses window i (band.lo i) (band.lo (i + 1)) sweep j : Id Sweep) := by
  obtain ⟨gap, grid⟩ := sweep
  obtain ⟨hgap, hrow⟩ := h
  obtain ⟨k, rfl⟩ : ∃ k, j = k + 1 := ⟨j - 1, by omega⟩
  have hend : k + 1 < window.offset + window.width := by
    have := hfits.tight.hi_le_bottom hi
    have := hfits.end_eq
    omega
  have hcell : ∀ c ≤ k, B.RightCell i c (grid.cellAt window i c) := fun c hc =>
    hrow.above_cell habove (by omega) (by omega)
  -- the gap moves on in every column, also where the row has no cell yet
  have hgap' := Board.advanceGap_right (fun c _ ht => hfits.tight.lo_le_of_trail (by omega) ht)
    (fun c hc => hcell c (by omega)) hgap
  rw [rowStep_id]
  dsimp only
  split
  · next hfirst =>
    refine ⟨hgap', hrow.skip hi hend fun before ht => ?_⟩
    have := hfits.tight.lo_le_of_trail hi ht
    omega
  split
  · next hfirst hm =>
    have ha := (hmatch _).mp hm
    have hruns := Board.extendRuns_right hbonus ha (hcell k (Nat.le_refl _))
      (hrow.above_runs habove (by omega) (by omega))
    have hentry := Board.enter_right hbonus (i + 1) ha hgap'
    exact ⟨hgap', hrow.putColumn hi (hfits.contains hi (by omega) hhi)
      (Board.rightCell_ofParts hentry hruns.bestRun_records) hruns⟩
  · next hfirst hm =>
    exact ⟨hgap', hrow.skip hi hend fun before ht => hm ((hmatch _).mpr ht.agrees)⟩

/-- The step at a column of the first row keeps the invariant. -/
theorem firstRowStep_inv (hbonus : ∀ j, bonuses.getD j 0 = B.bonus j)
    (hmatch : ∀ j, text[j]?.any (Symbol.same rule p) ↔ B.agrees 0 j)
    (hfits : Fits B bottom band window) (hlo : band.lo 0 ≤ j) (hhi : j ≤ band.hi 0)
    (h : RowInv B bottom window 0 j old grid) :
    RowInv B bottom window 0 (j + 1) old
      (firstRowStep rule p text bonuses window grid j : Id Grid) := by
  have hcol := hfits.contains (Nat.zero_le _) hlo hhi
  show RowInv B bottom window 0 (j + 1) old (if text[j]?.any (Symbol.same rule p) then
    (grid.withCell window 0 j (some ⟨(matchScore 0 bonuses j : Id Int).run, 0,
      some ⟨(matchScore 0 bonuses j : Id Int).run, none⟩⟩)).withRuns window j noRuns
    else grid)
  split
  · next hm =>
    have hscore : (matchScore 0 bonuses j : Id Int).run = B.columnScore j :=
      Board.matchScore_id hbonus 0 j
    rw [hscore]
    have hcell := Board.firstCell_right ((hmatch j).mp hm)
    exact h.putColumn (Nat.zero_le _) hcol hcell Board.firstRuns_right
  · next hm =>
    exact h.skip (Nat.zero_le _) hcol.2 fun before ht => hm ((hmatch j).mpr ht.agrees)

end Steps
end FuzzyRank
