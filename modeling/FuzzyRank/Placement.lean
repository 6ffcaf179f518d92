import FuzzyRank.Scoring

/-!
What a match is, said without any table: the placements of a pattern in a text, the score of a
placement, and which of two placements of equal score is shown.
-/

namespace FuzzyRank

variable {α : Type} [Symbol α]

/-- Each column holds the pattern's symbol under the case rule, one column for each symbol. -/
def Spells (rule : CaseRule) (text : Array α) : (pattern : List α) → (columns : List Nat) → Prop
  | [], [] => True
  | p :: rest, j :: more => text[j]?.any (Symbol.same rule p) ∧ Spells rule text rest more
  | [], _ :: _ | _ :: _, [] => False

/-- The columns are a placement of the pattern in the text: in increasing order they spell it. -/
structure IsPlacement (rule : CaseRule) (pattern : List α) (text : Array α)
    (columns : List Nat) : Prop where
  increasing : columns.Pairwise (· < ·)
  spells : Spells rule text pattern columns

namespace Placement

open Scoring

/-- What a column earns by itself. The bonus of the text's first column counts twice. -/
def columnScore (text : Array α) (j : Nat) : Int :=
  matchPoints + (if j = 0 then bonusAt text j * startFactor else bonusAt text j : Nat)

/-- What a column earns by following directly in a run with the given head. -/
def followScore (text : Array α) (head : Nat) : Int :=
  (max runBonus (bonusAt text head) : Nat)

/-- The price of a gap of `skipped` characters, at least one. -/
def gapScore (skipped : Nat) : Int :=
  gapOpening + gapExtension * ((skipped : Int) - 1)

/-- The score of columns that come after column `last` of a run with the given head. -/
def scoreAfter (text : Array α) (last head : Nat) : List Nat → Int
  | [] => 0
  | j :: rest =>
    if j = last + 1 then
      columnScore text j + followScore text head + scoreAfter text j head rest
    else columnScore text j + gapScore (j - last - 1) + scoreAfter text j j rest

/-- The score of a placement. -/
def score (text : Array α) : List Nat → Int
  | [] => 0
  | j :: rest => columnScore text j + scoreAfter text j j rest

/-- Of two placements of equal score the first is shown: it ends earlier, or it ends in the same
column and, read from right to left, is further to the right where they first differ. -/
def Preferred (a b : List Nat) : Prop :=
  match a.reverse, b.reverse with
  | j :: front, k :: other => j < k ∨ (j = k ∧ other < front)
  | _, _ => False

instance (a b : List Nat) : Decidable (Preferred a b) := by
  unfold Preferred
  split <;> infer_instance

end Placement
end FuzzyRank
