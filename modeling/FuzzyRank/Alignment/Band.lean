import FuzzyRank.Guard
import FuzzyRank.Symbol

/-!
The band of an alignment: for each pattern symbol the first and the last column it can take.

A greedy scan from the left finds the first columns and decides acceptance; a greedy scan from the
right finds the last columns. Outside the band no cell can be part of a complete alignment.
-/

namespace FuzzyRank.Alignment

/-- First and last columns by pattern row. -/
structure Band where
  first : Array Nat
  last : Array Nat
deriving Inhabited, DecidableEq, Repr

namespace Band

/-- The first and the last column of a row. -/
@[inline]
def row {m : Type → Type} [Monad m] [Guarded m] (band : Band) (i : Nat) : m (Nat × Nat) := do
  let first ← Guarded.readAt band.first i 0
  let last ← Guarded.readAt band.last i 0
  return (first, last)

variable {α : Type} [Symbol α]

/-- Looks for each pattern symbol as far left as possible, from column `start` on, and adds the
columns found. Tells whether all symbols were found. -/
def scanForward (rule : CaseRule) (text : Array α) :
    List α → Nat → Array Nat → Bool × Array Nat
  | [], _, found => (true, found)
  | p :: rest, start, found =>
    match Symbol.firstFrom rule p text start with
    | some j => scanForward rule text rest (j + 1) (found.push j)
    | none => (false, found)

/-- Looks for each symbol of a reversed pattern as far right as possible, below column `stop`, and
adds the columns found. Tells whether all symbols were found. -/
def scanBackward (rule : CaseRule) (text : Array α) :
    List α → Nat → Array Nat → Bool × Array Nat
  | [], _, found => (true, found)
  | p :: rest, stop, found =>
    match findBefore (Symbol.same rule p) text stop with
    | some j => scanBackward rule text rest j (found.push j)
    | none => (false, found)

/-- Writes the first columns over those of an earlier alignment. -/
def fillFirst (band : Band) (rule : CaseRule) (pattern : List α) (text : Array α) : Bool × Band :=
  let (found, first) := scanForward rule text pattern 0 (band.first.shrink 0)
  (found, { band with first })

/-- Writes the last columns over those of an earlier alignment. -/
def fillLast (band : Band) (rule : CaseRule) (pattern : List α) (text : Array α) : Bool × Band :=
  let (found, last) := scanBackward rule text pattern.reverse text.size (band.last.shrink 0)
  (found, { band with last := last.reverse })

end Band
end FuzzyRank.Alignment
