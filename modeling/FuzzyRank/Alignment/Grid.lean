import FuzzyRank.Guard
import FuzzyRank.Scoring

/-!
The table that an alignment fills: cells by pattern row and text column, and the runs of two rows.

A run of consecutive matches is scored by the bonus of its first character. A cell therefore keeps
two scores: that of its *entry*, the best alignment in which its column begins a run, and the best
score of all. The best run for each per-character bonus is needed only by the next row, so runs
live in two rows that take turns.
-/

namespace FuzzyRank.Alignment

open Guarded

/-- The best alignment of the pattern up to a row in which the column begins a run. -/
structure Entry where
  score : Int
  /-- The column of the match before; none in the first row. -/
  source : Option Nat
deriving DecidableEq, Repr

/-- A column that some alignment of the pattern up to a row ends in. -/
structure Cell where
  /-- The best score of these alignments. -/
  score : Int
  /-- With a positive number the score is that of a run whose head is that many rows up and as many
  columns back; with zero it is the score of the entry. -/
  run : Nat
  entry : Option Entry
deriving DecidableEq, Repr

/-- A run of matches that ends in a column. -/
structure Run where
  score : Int
  /-- How many columns the run goes on after its head. -/
  length : Nat
deriving DecidableEq, Repr

/-- The number of different per-character bonuses of a run. -/
def slotCount : Nat := Scoring.blankBonus - Scoring.runBonus + 1

/-- The best run for each per-character bonus, the least bonus first. -/
abbrev Runs := List (Option Run)

/-- No run for any bonus. -/
def noRuns : Runs := List.replicate slotCount none

/-- The place among the runs of a head with the given class bonus. -/
def slotOf (headBonus : Nat) : Nat :=
  max Scoring.runBonus headBonus - Scoring.runBonus

/-- The per-character bonus of the runs at a place. -/
def slotBonus (slot : Nat) : Int :=
  (Scoring.runBonus + slot : Nat)

/-- The better of two runs: the higher score, then the greater length, then the first. -/
def Run.better (a b : Run) : Run :=
  if b.score > a.score ∨ (b.score = a.score ∧ b.length > a.length) then b else a

/-- The best of all runs that end in a column. -/
def bestRun (runs : Runs) : Option Run :=
  runs.foldl (fun
    | none, run => run
    | some a, some b => some (a.better b)
    | some a, none => some a) none

/-- The cell for the best entry and the best run of a column. A run wins over an entry of equal
score. -/
def Cell.ofParts : Option Entry → Option Run → Option Cell
  | none, none => none
  | some entry, none => some ⟨entry.score, 0, some entry⟩
  | none, some run => some ⟨run.score, run.length, none⟩
  | some entry, some run =>
    if run.score ≥ entry.score then some ⟨run.score, run.length, some entry⟩
    else some ⟨entry.score, 0, some entry⟩

/-- The buffers of a table. They only grow, and serve one alignment after another. -/
structure Grid where
  /-- The cells row by row. -/
  cells : Array (Option Cell)
  /-- The runs of the row above the one being filled. -/
  above : Array Runs
  /-- The runs of the row being filled. -/
  current : Array Runs
deriving Inhabited

/-- The columns that one alignment uses. -/
structure Window where
  /-- The text column of the table's first column. -/
  offset : Nat
  width : Nat
deriving DecidableEq, Repr

namespace Grid

/-- The buffer with at least `n` elements. -/
def grow {α : Type} (x : α) (n : Nat) (xs : Array α) : Array α :=
  xs ++ Array.replicate (n - xs.size) x

/-- The row just filled becomes the row above. -/
def nextRow (grid : Grid) : Grid :=
  { grid with above := grid.current, current := grid.above }

variable {m : Type → Type} [Monad m] [Guarded m]

/-- The buffer with the first `n` elements replaced. -/
@[specialize]
def overwrite {α : Type} (x : α) : Nat → Array α → m (Array α)
  | 0, xs => pure xs
  | n + 1, xs => do overwrite x n (← writeAt xs n x)

/-- Makes room for an alignment and marks every cell that it uses unreachable. Runs are read only
behind a reachable cell, which writes its own first, so old ones may stay. Each row of runs grows as
its own length asks. Alignments leave both rows of one length, and then the length of the current
row alone says whether the two have to grow. -/
@[inline]
def clear (grid : Grid) (rows width : Nat) : m Grid := do
  let ⟨cells, above, current⟩ := grid
  let cells ← overwrite none (rows * width) (grow none (rows * width) cells)
  return ⟨cells, grow noRuns width above, grow noRuns width current⟩

/-- The place of a cell among the cells. -/
@[inline]
def place (window : Window) (row column : Nat) : m Nat := do
  let shift ← minus column window.offset
  return row * window.width + shift

/-- The cell of a row and a text column. Columns left of the window are unreachable. -/
@[inline]
def cell (grid : Grid) (window : Window) (row column : Nat) : m (Option Cell) := do
  if column < window.offset then
    return none
  readAt grid.cells (← place window row column) none

@[inline]
def setCell (grid : Grid) (window : Window) (row column : Nat) (cell : Option Cell) : m Grid := do
  let ⟨cells, above, current⟩ := grid
  let cells ← writeAt cells (← place window row column) cell
  return ⟨cells, above, current⟩

/-- The runs that end in a text column of the row above. -/
@[inline]
def runsAbove (grid : Grid) (window : Window) (column : Nat) : m Runs := do
  readAt grid.above (← minus column window.offset) noRuns

@[inline]
def setRuns (grid : Grid) (window : Window) (column : Nat) (runs : Runs) : m Grid := do
  let ⟨cells, above, current⟩ := grid
  let current ← writeAt current (← minus column window.offset) runs
  return ⟨cells, above, current⟩

end Grid
end FuzzyRank.Alignment
