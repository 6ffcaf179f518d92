import FuzzyRank.Alignment.Grid

/-!
Following a filled table back from its best cell: the matched columns, from right to left.
-/

namespace FuzzyRank.Alignment

open Guarded

/-- How many rows up and columns back the head of the run lies that a cell's score belongs to. -/
def runOf (cell : Option Cell) : Nat :=
  cell.elim 0 (·.run)

/-- The column of the match before the run that begins in a cell. -/
def sourceOf (cell : Option Cell) : Option Nat :=
  cell.bind (·.entry) |>.bind (·.source)

/-- Visits `count` columns to the left of `column`, this one not included. -/
def visitBack {β : Type} (visit : Nat → β → β) : (count column : Nat) → β → β
  | 0, _, state => state
  | count + 1, column, state => visitBack visit count (column - 1) (visit (column - 1) state)

variable {m : Type → Type} [Monad m] [Guarded m]

/-- Visits the matched columns of the best alignment that ends in a cell, from right to left: the
columns of the run that the cell's score belongs to, its head included, and then the alignment that
the head was entered from. The head's cell is read also in the first row, where it has no source. -/
@[specialize]
def trace {β : Type} (visit : Nat → β → β) (grid : Grid) (window : Window) (row column : Nat)
    (state : β) : m β := do
  let run := runOf (← grid.cell window row column)
  Guarded.demand (.difference row run)
  let head ← minus column run
  let state := visitBack visit run column (visit column state)
  let headCell ← grid.cell window (row - run) head
  match _h : row - run with
  | 0 => return state
  | above + 1 =>
    let source ← follow (sourceOf headCell)
    trace visit grid window above source state
termination_by row
decreasing_by omega

end FuzzyRank.Alignment
