import FuzzyRank.Proofs.Table

/-!
The course of a fill, step by step.

`Course` has the states that a fill passes through after its first row: before each column of each
later row, the sweep along that row. A state follows from the one before by the step at a column or
by going on to the next row, and the last one leaves the table that the fill answers with. What is
said of every state of the course is therefore said of every step that the fill takes.
-/

namespace FuzzyRank

open FuzzyRank.Alignment Guarded Scoring
open FuzzyRank.Alignment.Band (lo hi Tight)

variable {α : Type} [Symbol α]

namespace Alignment

/-- The table when its first row is filled. -/
def firstRow (rule : CaseRule) (p : α) (text : Array α) (bonuses : Array Nat) (band : Band)
    (window : Window) (rows : Nat) (grid : Grid) : Grid :=
  (foldColumns (firstRowStep rule p text bonuses window) (band.hi 0 + 1 - band.lo 0) (band.lo 0)
    (grid.cleared rows window.width) : Id Grid).run.nextRow

/-- `Course … table above column sweep`: the fill that goes on from `table`, which has its first
row, comes to `column` of the row below `above` with this sweep. -/
inductive Course (rule : CaseRule) (pattern : List α) (text : Array α) (bonuses : Array Nat)
    (band : Band) (window : Window) (table : Grid) : Nat → Nat → Sweep → Prop
  | start (more : 1 < pattern.length) :
      Course rule pattern text bonuses band window table 0 (band.lo 0 + 1) ⟨none, table⟩
  | column {above column : Nat} {sweep : Sweep} {p : α}
      (course : Course rule pattern text bonuses band window table above column sweep)
      (symbol : pattern[above + 1]? = some p) (inside : column ≤ band.hi (above + 1)) :
      Course rule pattern text bonuses band window table above (column + 1)
        (rowStep rule p text bonuses window above (band.lo above) (band.lo (above + 1)) sweep
          column : Id Sweep).run
  | row {above column : Nat} {sweep : Sweep}
      (course : Course rule pattern text bonuses band window table above column sweep)
      (passed : band.hi (above + 1) < column) (more : above + 2 < pattern.length) :
      Course rule pattern text bonuses band window table (above + 1) (band.lo (above + 1) + 1)
        ⟨none, sweep.grid.nextRow⟩

/-- The course of the fill of a pattern that is not empty. -/
def FillCourse (rule : CaseRule) (p : α) (rest : List α) (text : Array α) (bonuses : Array Nat)
    (band : Band) (window : Window) (grid : Grid) : Nat → Nat → Sweep → Prop :=
  Course rule (p :: rest) text bonuses band window
    (firstRow rule p text bonuses band window (rest.length + 1) grid)

end Alignment

variable {rule : CaseRule} {p : α} {pattern rest : List α} {text : Array α} {bonuses : Array Nat}
  {bottom : Nat} {band : Band} {window : Window} {first : Grid} {above column : Nat} {sweep : Sweep}

namespace Alignment.Course

/-! ## What holds along the course -/

/-- What holds of every state of the course: the rows above are filled, and the sweep has got as far
as the column. -/
structure Inv (B : Board) (bottom : Nat) (band : Band) (window : Window) (above column : Nat)
    (sweep : Sweep) : Prop where
  row_le : above + 1 ≤ bottom
  lo_lt : band.lo above < column
  le_hi : column ≤ band.hi (above + 1) + 1
  swept : ∃ old, TableInv B bottom band window above old ∧
    SweepInv B bottom window above column old sweep

theorem Inv.start {B : Board} {table : Grid} (hfits : Fits B bottom band window)
    (hrow : above + 1 ≤ bottom) (h : TableInv B bottom band window above table) :
    Inv B bottom band window above (band.lo above + 1) ⟨none, table⟩ where
  row_le := hrow
  lo_lt := Nat.lt_succ_self _
  le_hi := by
    have hlo := hfits.tight.lo_lt above hrow
    have hhi := hfits.tight.lo_le_hi hrow
    omega
  swept := ⟨table, h, h.startSweep hfits hrow⟩

theorem inv (hbonus : ∀ j, bonuses.getD j 0 = bonusAt text j)
    (hfits : Fits (Board.of rule pattern text) bottom band window)
    (hbottom : pattern.length = bottom + 1)
    (hfirst : TableInv (Board.of rule pattern text) bottom band window 0 first)
    (h : Course rule pattern text bonuses band window first above column sweep) :
    Inv (Board.of rule pattern text) bottom band window above column sweep := by
  induction h with
  | start hmore => exact .start hfits (by omega) hfirst
  | @column above column sweep p _ hp hinside ih =>
    obtain ⟨hrow, hlo, -, old, htable, hsweep⟩ := ih
    refine ⟨hrow, by omega, by omega, old, htable, ?_⟩
    exact rowStep_inv hbonus (Board.of_agrees hp) hfits hrow (htable.aboveRight hfits hrow) hlo
      hinside hsweep
  | @row above column sweep _ hpassed hmore ih =>
    obtain ⟨hrow, -, hhi, old, htable, hsweep⟩ := ih
    obtain rfl : column = band.hi (above + 1) + 1 := by omega
    exact .start hfits (by omega) (hsweep.finish hfits hrow htable)

/-! ## The course and the fill -/

/-- Columns passed one after another are passed along the course. -/
theorem fold (count : Nat)
    (h : Course rule pattern text bonuses band window first above column sweep)
    (hp : pattern[above + 1]? = some p) (hcount : column + count ≤ band.hi (above + 1) + 1) :
    Course rule pattern text bonuses band window first above (column + count)
      (foldColumns (rowStep rule p text bonuses window above (band.lo above) (band.lo (above + 1)))
        count column sweep : Id Sweep).run := by
  induction count generalizing column sweep with
  | zero => exact h
  | succ count ih =>
    have hstep := h.column hp (by omega)
    have hrest := ih hstep (by omega)
    rw [show column + 1 + count = column + (count + 1) by omega] at hrest
    exact hrest

/-- From where a row's sweep starts it comes to each of its columns. -/
theorem exists_sweep_of_start {table : Grid}
    (h : Course rule pattern text bonuses band window first above (band.lo above + 1)
      ⟨none, table⟩)
    (hrow : above + 1 < pattern.length) (hlo : band.lo above < column)
    (hhi : column ≤ band.hi (above + 1) + 1) :
    ∃ sweep, Course rule pattern text bonuses band window first above column sweep := by
  have hp : pattern[above + 1]? = some pattern[above + 1] := List.getElem?_eq_getElem hrow
  have hfold := h.fold (column - (band.lo above + 1)) hp (by omega)
  rw [show band.lo above + 1 + (column - (band.lo above + 1)) = column by omega] at hfold
  exact ⟨_, hfold⟩

section Rows

variable (htight : Tight (Board.of rule pattern text) bottom band)
  (hbottom : pattern.length = bottom + 1)

include htight hbottom

/-- Every row after the first is come to, and every column of its sweep. -/
theorem exists_sweep (hrow : above + 1 ≤ bottom) (hlo : band.lo above < column)
    (hhi : column ≤ band.hi (above + 1) + 1) :
    ∃ sweep, Course rule pattern text bonuses band window first above column sweep := by
  induction above generalizing column with
  | zero =>
    have hstart : Course rule pattern text bonuses band window first 0 (band.lo 0 + 1)
        ⟨none, first⟩ := .start (by omega)
    exact hstart.exists_sweep_of_start (by omega) hlo hhi
  | succ above ih =>
    have hlo' := htight.lo_lt above (by omega)
    have hlohi := htight.lo_le_hi (i := above + 1) (by omega)
    obtain ⟨sweep, h⟩ : ∃ sweep, Course rule pattern text bonuses band window first above
        (band.hi (above + 1) + 1) sweep := ih (by omega) (by omega) (Nat.le_refl _)
    have hnext := h.row (Nat.lt_succ_self _) (by omega)
    exact hnext.exists_sweep_of_start (by omega) hlo hhi

/-- Filling the rows that are left ends where the course ends. -/
theorem exists_fillRows {table : Grid}
    (h : Course rule pattern text bonuses band window first above (band.lo above + 1)
      ⟨none, table⟩)
    (hrest : pattern.drop (above + 1) = p :: rest) (hlast : above + rest.length + 1 = bottom) :
    ∃ sweep, Course rule pattern text bonuses band window first (above + rest.length)
        (band.hi bottom + 1) sweep ∧
      (fillRows rule text bonuses band window (p :: rest) above table : Id Grid) =
        sweep.grid.nextRow := by
  induction rest generalizing p above table with
  | nil =>
    obtain rfl : above + 1 = bottom := hlast
    obtain ⟨hp, -⟩ := of_drop_eq_cons hrest
    have hlo := htight.lo_lt above (Nat.lt_succ_self _)
    have hlohi := htight.lo_le_hi (Nat.le_refl (above + 1))
    have hfold := h.fold (band.hi (above + 1) - band.lo above) hp (by omega)
    rw [show band.lo above + 1 + (band.hi (above + 1) - band.lo above) =
      band.hi (above + 1) + 1 by omega] at hfold
    exact ⟨_, hfold, rfl⟩
  | cons q rest ih =>
    rw [List.length_cons] at hlast
    obtain ⟨hp, hnext⟩ := of_drop_eq_cons hrest
    have hlo := htight.lo_lt above (by omega)
    have hlohi := htight.lo_le_hi (i := above + 1) (by omega)
    have hfold := h.fold (band.hi (above + 1) - band.lo above) hp (by omega)
    obtain ⟨sweep, hcourse, hfill⟩ := ih (hfold.row (by omega) (by omega)) hnext (by omega)
    rw [show above + 1 + rest.length = above + (rest.length + 1) by omega] at hcourse
    exact ⟨sweep, hcourse, hfill⟩

end Rows

/-- A fill of more than one row ends with the last state of its course. -/
theorem exists_end (htight : Tight (Board.of rule (p :: rest) text) rest.length band)
    (hmore : rest ≠ []) (grid : Grid) :
    ∃ sweep, FillCourse rule p rest text bonuses band window grid (rest.length - 1)
        (band.hi rest.length + 1) sweep ∧
      (fillRows rule text bonuses band window rest 0
        (firstRow rule p text bonuses band window (rest.length + 1) grid) : Id Grid) =
          sweep.grid.nextRow := by
  cases rest with
  | nil => exact absurd rfl hmore
  | cons q rest =>
    have hstart : FillCourse rule p (q :: rest) text bonuses band window grid 0 (band.lo 0 + 1)
        ⟨none, firstRow rule p text bonuses band window (rest.length + 2) grid⟩ :=
      .start (Nat.succ_lt_succ (Nat.succ_pos _))
    obtain ⟨sweep, hcourse, hfill⟩ := hstart.exists_fillRows htight rfl rfl (by simp)
    rw [Nat.zero_add] at hcourse
    exact ⟨sweep, hcourse, hfill⟩

end Alignment.Course
end FuzzyRank
