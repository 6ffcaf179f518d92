import FuzzyRank.Alignment.Grid

/-!
What the operations of a table do to its contents.

A table is looked at through its cells by row and text column and its runs by text column. The
lemmas say what every operation leaves at every place; they need room for the places, and columns
inside the window. After this module nothing depends on where a cell is stored.
-/

namespace FuzzyRank.Alignment

open Guarded

/-- The column is one of the window's. -/
def Window.Contains (window : Window) (column : Nat) : Prop :=
  window.offset ≤ column ∧ column < window.offset + window.width

theorem Window.Contains.shift_lt {window : Window} {column n : Nat} (h : window.Contains column)
    (hn : window.width ≤ n) : column - window.offset < n := by
  have := h.1
  have := h.2
  omega

namespace Grid

/-- The cell of a row and a text column. -/
def cellAt (grid : Grid) (window : Window) (row column : Nat) : Option Cell :=
  if column < window.offset then none
  else grid.cells.getD (row * window.width + (column - window.offset)) none

/-- The runs that end in a text column of the row above. -/
def aboveAt (grid : Grid) (window : Window) (column : Nat) : Runs :=
  grid.above.getD (column - window.offset) noRuns

/-- The runs that end in a text column of the row being filled. -/
def currentAt (grid : Grid) (window : Window) (column : Nat) : Runs :=
  grid.current.getD (column - window.offset) noRuns

/-- The buffers are large enough for a number of rows of the window. -/
structure Room (grid : Grid) (window : Window) (rows : Nat) : Prop where
  cells : rows * window.width ≤ grid.cells.size
  above : window.width ≤ grid.above.size
  current : window.width ≤ grid.current.size

/-! ## The plain run of each operation -/

@[simp]
theorem cell_id (grid : Grid) (window : Window) (row column : Nat) :
    (grid.cell window row column : Id (Option Cell)) = grid.cellAt window row column := by
  unfold cell cellAt
  split <;> rfl

theorem offset_le_of_isSome {grid : Grid} {window : Window} {row column : Nat}
    (h : (grid.cellAt window row column).isSome) : window.offset ≤ column := by
  rcases Nat.lt_or_ge column window.offset with hlt | hge
  · simp [cellAt, hlt] at h
  · exact hge

@[simp]
theorem runsAbove_id (grid : Grid) (window : Window) (column : Nat) :
    (grid.runsAbove window column : Id Runs) = grid.aboveAt window column := rfl

/-- The table with one cell replaced. -/
def withCell (grid : Grid) (window : Window) (row column : Nat) (cell : Option Cell) : Grid :=
  { grid with
    cells := grid.cells.setIfInBounds (row * window.width + (column - window.offset)) cell }

/-- The table with the runs of one column of the row being filled replaced. -/
def withRuns (grid : Grid) (window : Window) (column : Nat) (runs : Runs) : Grid :=
  { grid with current := grid.current.setIfInBounds (column - window.offset) runs }

@[simp]
theorem setCell_id (grid : Grid) (window : Window) (row column : Nat) (cell : Option Cell) :
    (grid.setCell window row column cell : Id Grid) = grid.withCell window row column cell := rfl

@[simp]
theorem setRuns_id (grid : Grid) (window : Window) (column : Nat) (runs : Runs) :
    (grid.setRuns window column runs : Id Grid) = grid.withRuns window column runs := rfl

/-! ## Clearing -/

theorem size_grow {α : Type} (x : α) (n : Nat) (xs : Array α) : n ≤ (grow x n xs).size := by
  simp only [grow, Array.size_append, Array.size_replicate]
  omega

theorem overwrite_id_succ {α : Type} (x : α) (n : Nat) (xs : Array α) :
    (overwrite x (n + 1) xs : Id (Array α)) = overwrite x n (xs.setIfInBounds n x) := rfl

theorem size_overwrite {α : Type} (x : α) (n : Nat) (xs : Array α) :
    Array.size (overwrite x n xs : Id (Array α)) = xs.size := by
  induction n generalizing xs with
  | zero => rfl
  | succ n ih => rw [overwrite_id_succ, ih, Array.size_setIfInBounds]

/-- An element that has been overwritten stays so. -/
theorem overwrite_getD_of_eq {α : Type} {x : α} {k : Nat} (n : Nat) {xs : Array α}
    (h : xs.getD k x = x) : Array.getD (overwrite x n xs : Id (Array α)) k x = x := by
  induction n generalizing xs with
  | zero => exact h
  | succ n ih =>
    rw [overwrite_id_succ]
    apply ih
    rw [Array.getD_eq_getD_getElem?] at h ⊢
    rw [Array.getElem?_setIfInBounds]
    split
    · split <;> rfl
    · exact h

theorem overwrite_getD {α : Type} {x : α} {k n : Nat} (hk : k < n) (xs : Array α) :
    Array.getD (overwrite x n xs : Id (Array α)) k x = x := by
  induction n generalizing xs with
  | zero => omega
  | succ n ih =>
    rw [overwrite_id_succ]
    rcases Nat.eq_or_lt_of_le (Nat.le_of_lt_succ hk) with rfl | hk
    · apply overwrite_getD_of_eq
      rw [Array.getD_eq_getD_getElem?, Array.getElem?_setIfInBounds]
      split
      · split <;> rfl
      · contradiction
    · exact ih hk _

/-- The cleared table. -/
def cleared (grid : Grid) (rows width : Nat) : Grid :=
  ⟨(overwrite none (rows * width) (grow none (rows * width) grid.cells) : Id _),
    grow noRuns width grid.above, grow noRuns width grid.current⟩

@[simp]
theorem clear_id (grid : Grid) (rows width : Nat) :
    (grid.clear rows width : Id Grid) = grid.cleared rows width := rfl

theorem room_cleared (grid : Grid) (window : Window) (rows : Nat) :
    (grid.cleared rows window.width).Room window rows where
  cells := by
    unfold cleared
    rw [size_overwrite]
    exact size_grow _ _ _
  above := size_grow _ _ _
  current := size_grow _ _ _

theorem place_lt {window : Window} {rows row column : Nat} (hrow : row < rows)
    (hcol : window.Contains column) :
    row * window.width + (column - window.offset) < rows * window.width := by
  have h : (row + 1) * window.width ≤ rows * window.width := Nat.mul_le_mul_right _ hrow
  rw [Nat.succ_mul] at h
  have := hcol.1
  have := hcol.2
  omega

/-- A cleared table has no reachable cell. -/
theorem cellAt_cleared {grid : Grid} {window : Window} {rows row column : Nat} (hrow : row < rows)
    (hcol : column < window.offset + window.width) :
    (grid.cleared rows window.width).cellAt window row column = none := by
  unfold cellAt
  split
  · rfl
  · exact overwrite_getD (place_lt hrow ⟨by omega, hcol⟩) _

/-! ## Writing -/

section Writing

variable {grid : Grid} {window : Window} {rows row column r c : Nat} {cell : Option Cell}
  {runs : Runs}

theorem Room.withCell (h : grid.Room window rows) :
    (grid.withCell window row column cell).Room window rows where
  cells := by
    simp only [Grid.withCell, Array.size_setIfInBounds]
    exact h.cells
  above := h.above
  current := h.current

theorem Room.withRuns (h : grid.Room window rows) :
    (grid.withRuns window column runs).Room window rows where
  cells := h.cells
  above := h.above
  current := by
    simp only [Grid.withRuns, Array.size_setIfInBounds]
    exact h.current

theorem Room.nextRow (h : grid.Room window rows) : grid.nextRow.Room window rows where
  cells := h.cells
  above := h.current
  current := h.above

/-- Different cells have different places. -/
theorem place_inj (hc : window.Contains c) (hcol : window.Contains column)
    (h : r * window.width + (c - window.offset) =
      row * window.width + (column - window.offset)) : r = row ∧ c = column := by
  obtain ⟨hc, hcw⟩ := hc
  obtain ⟨hcol, hcolw⟩ := hcol
  rcases Nat.lt_trichotomy r row with hlt | rfl | hgt
  · have := Nat.mul_le_mul_right window.width (Nat.succ_le_of_lt hlt)
    rw [Nat.succ_mul] at this
    omega
  · exact ⟨rfl, by omega⟩
  · have := Nat.mul_le_mul_right window.width (Nat.succ_le_of_lt hgt)
    rw [Nat.succ_mul] at this
    omega

theorem cellAt_withCell_self (hroom : grid.Room window rows) (hrow : row < rows)
    (hcol : window.Contains column) :
    (grid.withCell window row column cell).cellAt window row column = cell := by
  have hlt := Nat.lt_of_lt_of_le (place_lt hrow hcol) hroom.cells
  have hoff : ¬ column < window.offset := by
    have := hcol.1
    omega
  simp only [cellAt, withCell, hoff, if_false, Array.getD_eq_getD_getElem?,
    Array.getElem?_setIfInBounds, if_true, hlt, Option.getD_some]

theorem cellAt_withCell_ne (hcol : window.Contains column)
    (hc : c < window.offset + window.width) (hne : ¬ (r = row ∧ c = column)) :
    (grid.withCell window row column cell).cellAt window r c = grid.cellAt window r c := by
  unfold cellAt
  split
  · rfl
  · have hplace : row * window.width + (column - window.offset) ≠
        r * window.width + (c - window.offset) := by
      intro h
      exact hne (place_inj ⟨by omega, hc⟩ hcol h.symm)
    simp only [withCell, Array.getD_eq_getD_getElem?, Array.getElem?_setIfInBounds, if_neg hplace]

@[simp]
theorem cellAt_withRuns :
    (grid.withRuns window column runs).cellAt window r c = grid.cellAt window r c := rfl

@[simp]
theorem cellAt_nextRow : grid.nextRow.cellAt window r c = grid.cellAt window r c := rfl

@[simp]
theorem aboveAt_withCell :
    (grid.withCell window row column cell).aboveAt window c = grid.aboveAt window c := rfl

@[simp]
theorem aboveAt_withRuns :
    (grid.withRuns window column runs).aboveAt window c = grid.aboveAt window c := rfl

@[simp]
theorem aboveAt_nextRow : grid.nextRow.aboveAt window c = grid.currentAt window c := rfl

@[simp]
theorem currentAt_withCell :
    (grid.withCell window row column cell).currentAt window c = grid.currentAt window c := rfl

theorem currentAt_withRuns_self (hroom : grid.Room window rows) (hcol : window.Contains column) :
    (grid.withRuns window column runs).currentAt window column = runs := by
  have hlt := hcol.shift_lt hroom.current
  simp only [currentAt, withRuns, Array.getD_eq_getD_getElem?, Array.getElem?_setIfInBounds,
    if_true, hlt, Option.getD_some]

theorem currentAt_withRuns_ne (hcol : window.Contains column) (hc : window.Contains c)
    (hne : c ≠ column) :
    (grid.withRuns window column runs).currentAt window c = grid.currentAt window c := by
  have hplace : column - window.offset ≠ c - window.offset := by
    have := hcol.1
    have := hc.1
    omega
  simp only [currentAt, withRuns, Array.getD_eq_getD_getElem?, Array.getElem?_setIfInBounds,
    if_neg hplace]

end Writing
end Grid
end FuzzyRank.Alignment
