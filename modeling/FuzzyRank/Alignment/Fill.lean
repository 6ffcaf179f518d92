import FuzzyRank.Alignment.Band
import FuzzyRank.Alignment.Grid

/-!
Filling the table: the best alignment of the pattern up to each row that ends in each column.

A row is swept from left to right inside its band. The sweep carries the best alignment of the row
above that leaves at least one column unmatched, already charged for the gap, so that an entry costs
constant time; the runs of the row above make the extension of a run constant time as well.
-/

namespace FuzzyRank.Alignment

open Guarded Scoring

/-- Passes `count` columns, from `column` on, from left to right. -/
@[specialize]
def foldColumns {m : Type → Type} [Monad m] {σ : Type} (visit : σ → Nat → m σ) :
    (count column : Nat) → σ → m σ
  | 0, _, state => pure state
  | count + 1, column, state => do
    foldColumns visit count (column + 1) (← visit state column)

/-- The best alignment of the row above that ends at least two columns back, less the cost of the
gap so far. -/
structure Gap where
  score : Int
  source : Nat
deriving DecidableEq, Repr

/-- The state of a sweep along a row. -/
structure Sweep where
  gap : Option Gap
  grid : Grid

section Steps

variable {m : Type → Type} [Monad m] [Guarded m]

/-- What a match at a column earns, before any bonus of a run. -/
@[inline]
def matchScore (row : Nat) (bonuses : Array Nat) (column : Nat) : m Int := do
  let bonus ← readAt bonuses column 0
  plus row matchPoints (if column = 0 then bonus * startFactor else bonus : Nat)

/-- The best run at one place among the runs: the one carried over from the diagonal, grown by one
column, unless a run that begins at the diagonal cell does better. -/
@[inline]
def extendSlot (row : Nat) (step : Int) (slot : Nat) (carried : Option Run)
    (fresh : Option Entry) : m (Option Run) := do
  let grown ← match carried with
    | none => pure none
    | some run => do
      let score ← plus row (← plus row run.score step) (slotBonus slot)
      pure (some ⟨score, run.length + 1⟩)
  match fresh with
  | none => return grown
  | some head =>
    let score ← plus row (← plus row head.score step) (slotBonus slot)
    match grown with
    | none => return some ⟨score, 1⟩
    | some run => return if score > run.score then some ⟨score, 1⟩ else some run

/-- The runs that extend those of the diagonal cell, from one place on. Only at the place of the
diagonal column's own bonus can a run begin there. -/
@[specialize]
def extendSlots (row : Nat) (step : Int) (headSlot : Nat) (head : Option Entry) :
    Nat → Runs → m Runs
  | _, [] => pure []
  | slot, carried :: rest => do
    let run ← extendSlot row step slot carried (if slot = headSlot then head else none)
    return run :: (← extendSlots row step headSlot head (slot + 1) rest)

/-- The runs that end in a column of a row after the first, given that the symbols there match. The
row is named by the one above it. -/
@[specialize]
def extendRuns (grid : Grid) (window : Window) (bonuses : Array Nat) (above column : Nat) :
    m Runs := do
  let back ← minus column 1
  match ← grid.cell window above back with
  | none => return noRuns
  | some diagonal =>
    let runs ← grid.runsAbove window back
    let headSlot := slotOf (← readAt bonuses back 0)
    Guarded.demand (.index headSlot slotCount)
    let step ← plus (above + 1) matchPoints (← readAt bonuses column 0 : Nat)
    extendSlots (above + 1) step headSlot diagonal.entry 0 runs

/-- The gap for a column, given the gap for the column before it: everything costs one more column,
and the cell two columns back opens a new gap. The nearest source wins ties. -/
@[specialize]
def advanceGap (grid : Grid) (window : Window) (above aboveFirst column : Nat)
    (gap : Option Gap) : m (Option Gap) := do
  let charged ← match gap with
    | none => pure none
    | some g => do
      let score ← plus (above + 1) g.score gapExtension
      pure (some { g with score })
  if column < aboveFirst + 2 then
    return charged
  let source ← minus column 2
  match ← grid.cell window above source with
  | none => return charged
  | some cell =>
    let opened ← plus (above + 1) cell.score gapOpening
    match charged with
    | none => return some ⟨opened, source⟩
    | some g => return if opened ≥ g.score then some ⟨opened, source⟩ else some g

/-- The entry of a matching column after a gap. -/
@[inline]
def enter (row : Nat) (bonuses : Array Nat) (column : Nat) (gap : Option Gap) :
    m (Option Entry) := do
  match gap with
  | none => return none
  | some g =>
    let score ← plus row g.score (← matchScore row bonuses column)
    return some ⟨score, some g.source⟩

end Steps

section Rows

variable {m : Type → Type} [Monad m] [Guarded m] {α : Type} [Symbol α]

/-- The symbol of a column is the pattern symbol under the case rule. -/
@[inline]
def matchesAt (rule : CaseRule) (p : α) (text : Array α) (column : Nat) : m Bool := do
  Guarded.demand (.index column text.size)
  return text[column]?.any (Symbol.same rule p)

/-- One column of the first row, in which every match begins a run. -/
@[specialize]
def firstRowStep (rule : CaseRule) (p : α) (text : Array α) (bonuses : Array Nat)
    (window : Window) (grid : Grid) (column : Nat) : m Grid := do
  if ← matchesAt rule p text column then
    let score ← matchScore 0 bonuses column
    let grid ← grid.setCell window 0 column (some ⟨score, 0, some ⟨score, none⟩⟩)
    grid.setRuns window column noRuns
  else
    return grid

/-- One column of a later row, named by the row above it. -/
@[specialize]
def rowStep (rule : CaseRule) (p : α) (text : Array α) (bonuses : Array Nat) (window : Window)
    (above aboveFirst first : Nat) (sweep : Sweep) (column : Nat) : m Sweep := do
  let ⟨gap, grid⟩ := sweep
  let gap ← advanceGap grid window above aboveFirst column gap
  if column < first then
    return ⟨gap, grid⟩
  if !(← matchesAt rule p text column) then
    return ⟨gap, grid⟩
  let entry ← enter (above + 1) bonuses column gap
  let runs ← extendRuns grid window bonuses above column
  let grid ← grid.setRuns window column runs
  match Cell.ofParts entry (bestRun runs) with
  | none => return ⟨gap, grid⟩
  | some cell => return ⟨gap, ← grid.setCell window (above + 1) column (some cell)⟩

/-- Fills the rows of the remaining pattern symbols, each below the row `above`. -/
@[specialize]
def fillRows (rule : CaseRule) (text : Array α) (bonuses : Array Nat) (band : Band)
    (window : Window) : List α → Nat → Grid → m Grid
  | [], _, grid => pure grid
  | p :: rest, above, grid => do
    let (aboveFirst, _) ← band.row above
    let (first, last) ← band.row (above + 1)
    let sweep ← foldColumns (rowStep rule p text bonuses window above aboveFirst first)
      (last - aboveFirst) (aboveFirst + 1) ⟨none, grid⟩
    fillRows rule text bonuses band window rest (above + 1) sweep.grid.nextRow

/-- One column of the search for the best cell of a row; the leftmost wins ties. -/
@[specialize]
def bestStep (grid : Grid) (window : Window) (row : Nat) (best : Option (Int × Nat))
    (column : Nat) : m (Option (Int × Nat)) := do
  match ← grid.cell window row column, best with
  | none, _ => return best
  | some cell, none => return some (cell.score, column)
  | some cell, some (score, _) => return if cell.score > score then some (cell.score, column)
      else best

/-- The columns of an alignment: from the first column of the first row to the last of the last. -/
@[inline]
def windowOf (band : Band) (rows : Nat) : m Window := do
  let offset ← readAt band.first 0 0
  let last ← readAt band.last (rows - 1) 0
  return ⟨offset, (← minus last offset) + 1⟩

/-- Fills the table for a pattern inside its band. Gives the best score of the last row with its
column, the window used, and the table. -/
@[specialize]
def fill (rule : CaseRule) (pattern : List α) (text : Array α) (bonuses : Array Nat)
    (band : Band) (grid : Grid) : m (Option (Int × Nat) × Window × Grid) := do
  match pattern with
  | [] => return (none, ⟨0, 0⟩, grid)
  | p :: rest =>
    let window ← windowOf band pattern.length
    let grid ← grid.clear pattern.length window.width
    let (first, last) ← band.row 0
    let grid ← foldColumns (firstRowStep rule p text bonuses window) (last + 1 - first) first grid
    let grid ← fillRows rule text bonuses band window rest 0 grid.nextRow
    let bottom := rest.length
    let (first, last) ← band.row bottom
    let best ← foldColumns (bestStep grid window bottom) (last + 1 - first) first none
    return (best, window, grid)

end Rows
end FuzzyRank.Alignment
