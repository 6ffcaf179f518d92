import FuzzyRank.Alignment.Fill
import FuzzyRank.Alignment.Trace

/-!
One alignment from start to end, in buffers that serve many alignments.
-/

namespace FuzzyRank.Alignment

/-- How much of an alignment is asked for. -/
inductive Detail where
  /-- The score alone. -/
  | score
  /-- The score, the first matched column and the one after the last. -/
  | span
  /-- The score and every matched column. -/
  | positions
deriving DecidableEq, Repr

/-- What an alignment gives, in columns of the text. -/
inductive Outcome where
  | score (score : Int)
  | span (score : Int) (start stop : Nat)
  | positions (score : Int) (columns : List Nat)
deriving DecidableEq, Repr

/-- The buffers of alignments. What an earlier alignment left in them has no influence on a later
one. -/
structure Workspace where
  grid : Grid
  bonuses : Array Nat
  band : Band
deriving Inhabited

/-- Buffers that no alignment has used. -/
def Workspace.empty : Workspace := ⟨⟨#[], #[], #[]⟩, #[], ⟨#[], #[]⟩⟩

variable {m : Type → Type} [Monad m] [Guarded m] {α : Type} [Symbol α]

/-- The part of a filled table that was asked for. -/
@[specialize]
def describe (detail : Detail) (grid : Grid) (window : Window) (bottom column : Nat)
    (score : Int) : m Outcome := do
  match detail with
  | .score => return .score score
  | .span =>
    let start ← trace (fun j _ => j) grid window bottom column column
    return .span score start (column + 1)
  | .positions => return .positions score (← trace List.cons grid window bottom column [])

/-- Fills the table for a pattern that the band has been computed for, and reads off what was
asked for. -/
@[specialize]
def alignInBand (rule : CaseRule) (pattern : List α) (text : Array α) (bonuses : Array Nat)
    (band : Band) (grid : Grid) (detail : Detail) : m (Option Outcome × Grid) := do
  let (best, window, grid) ← fill rule pattern text bonuses band grid
  match best with
  | none => return (none, grid)
  | some (score, column) =>
    let outcome ← describe detail grid window (pattern.length - 1) column score
    return (some outcome, grid)

/-- The best alignment of a pattern in a text, or nothing if the text does not hold the pattern's
symbols in order. The pattern is not empty and the text at least as long. -/
@[specialize]
def align (rule : CaseRule) (pattern : List α) (text : Array α) (detail : Detail)
    (workspace : Workspace) : m (Option Outcome × Workspace) := do
  let ⟨grid, bonuses, band⟩ := workspace
  let (found, band) := band.fillFirst rule pattern text
  if !found then
    return (none, ⟨grid, bonuses, band⟩)
  let (found, band) := band.fillLast rule pattern text
  if !found then
    return (none, ⟨grid, bonuses, band⟩)
  let bonuses := Scoring.bonusTable text bonuses
  let (outcome, grid) ← alignInBand rule pattern text bonuses band grid detail
  return (outcome, ⟨grid, bonuses, band⟩)

end FuzzyRank.Alignment
