import FuzzyRank.Alignment.Workspace

/-!
Matching a pattern against a text: score, span and matched positions.

Every function takes and returns the matcher's buffers through `StateM Workspace`. Columns count
characters, never bytes.
-/

namespace FuzzyRank

open FuzzyRank.Alignment

/-- A match of a pattern in a text: its score and the half-open span from the first to the last
matched character. The positions, if they were asked for, are one column for each character of the
pattern, in increasing order. -/
structure Match where
  score : Int
  start : Nat
  stop : Nat
  positions : Option (List Nat)
deriving DecidableEq, Repr

/-- The width of the matched span. -/
def Match.span (m : Match) : Nat :=
  m.stop - m.start

namespace Matcher

/-- The text has ASCII characters only. -/
def isAscii (text : String) : Bool :=
  text.toList.all (·.toNat < 128)

/-- The bytes of an ASCII text. -/
def asciiBytes (text : String) : List UInt8 :=
  text.toList.map (·.toNat.toUInt8)

/-- What an empty pattern gives: it matches everywhere and earns nothing. -/
def emptyOutcome : Detail → Outcome
  | .score => .score 0
  | .span => .span 0 0 0
  | .positions => .positions 0 []

/-- An alignment where the pattern fits into the text at all. -/
def alignIfFits {α : Type} [Symbol α] (rule : CaseRule) (pattern : List α) (text : Array α)
    (detail : Detail) : StateM Workspace (Option Outcome) := fun workspace =>
  if pattern.length > text.size then (none, workspace)
  else Id.run (align rule pattern text detail workspace)

/-- The best alignment of a pattern in a text. Two ASCII texts are compared by bytes, all others by
characters. -/
def run (rule : CaseRule) (text pattern : String) (detail : Detail) :
    StateM Workspace (Option Outcome) :=
  if pattern.isEmpty then
    pure (some (emptyOutcome detail))
  else if isAscii text && isAscii pattern then
    alignIfFits rule (asciiBytes pattern) (asciiBytes text).toArray detail
  else
    alignIfFits rule pattern.toList text.toList.toArray detail

/-- The score of a pattern in a text, if it matches. -/
def score? (rule : CaseRule) (text pattern : String) : StateM Workspace (Option Int) := do
  match ← run rule text pattern .score with
  | some (.score s) | some (.span s ..) | some (.positions s _) => return some s
  | none => return none

/-- The score and the half-open matched span. -/
def span? (rule : CaseRule) (text pattern : String) :
    StateM Workspace (Option (Int × Nat × Nat)) := do
  match ← run rule text pattern .span with
  | some (.span s start stop) => return some (s, start, stop)
  | _ => return none

/-- The score and every matched position. -/
def positions? (rule : CaseRule) (text pattern : String) :
    StateM Workspace (Option (Int × List Nat)) := do
  match ← run rule text pattern .positions with
  | some (.positions s columns) => return some (s, columns)
  | _ => return none

/-- The whole match, with or without its positions. -/
def find? (rule : CaseRule) (text pattern : String) (withPositions : Bool) :
    StateM Workspace (Option Match) := do
  if withPositions then
    match ← positions? rule text pattern with
    | none => return none
    | some (score, columns) =>
      let start := columns.head?.getD 0
      let stop := columns.getLast?.elim 0 (· + 1)
      return some ⟨score, start, stop, some columns⟩
  else
    match ← span? rule text pattern with
    | none => return none
    | some (score, start, stop) => return some ⟨score, start, stop, none⟩

end Matcher

/-- The match of a pattern in a text, or nothing if the text does not hold the pattern's characters
in order. -/
def findMatch? (pattern text : String) (withPositions : Bool) (rule : CaseRule) : Option Match :=
  (Matcher.find? rule text pattern withPositions Workspace.empty).1

end FuzzyRank
