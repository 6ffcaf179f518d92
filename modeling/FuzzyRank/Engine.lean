import FuzzyRank.Log
import FuzzyRank.Matcher
import FuzzyRank.Rank

/-!
The engine: one query against many candidates, best match first.

Nothing of an earlier query or list is remembered apart from buffers, and what is left in those has
no influence. The candidates may therefore be shared out among workers in any way.
-/

namespace FuzzyRank

open FuzzyRank.Alignment

/-- A candidate that matched, with its rank and its match. -/
structure RankedMatch where
  text : String
  rank : Rank
  result : Match
deriving DecidableEq, Repr

/-- A query with the rules by which candidates are matched and ordered. -/
structure Engine where
  query : String
  rule : CaseRule
  order : Tiebreak
  /-- Only the matched spans are computed, not every position. -/
  spansOnly : Bool
deriving DecidableEq, Repr

namespace Engine

/-- The engine as messages show it. -/
def description (e : Engine) : String :=
  "(Fuzzy: " ++ e.query ++ ")"

/-- The match of the query in one text. -/
def matchText (e : Engine) (text : String) : StateM Workspace (Option Match) :=
  Matcher.find? e.rule text e.query !e.spansOnly

/-- The ranked match of one candidate, which is given with its place in the input. -/
def rankCandidate (e : Engine) (candidate : String × Nat) :
    StateM Workspace (Option RankedMatch) := do
  let (text, index) := candidate
  match ← e.matchText text with
  | none => return none
  | some result =>
    let rank := e.order.rank result.score result.start result.stop text.length index
    return some ⟨text, rank, result⟩

/-- The matches of a worker's share of the candidates, which it works through in order. -/
def rankShare (e : Engine) (share : List (String × Nat)) : StateM Workspace (List RankedMatch) :=
  share.filterMapM e.rankCandidate

/-- Matches in the order of their ranks. -/
def sortByRank (matched : List RankedMatch) : List RankedMatch :=
  matched.mergeSort fun a b => a.rank.le b.rank

/-- The matches among the candidates, best first. -/
def rank (e : Engine) (candidates : List String) : List RankedMatch :=
  sortByRank (e.rankShare candidates.zipIdx Workspace.empty).1

/-- A list in pieces of `size + 1` elements and a rest. -/
def pieces {α : Type} (size : Nat) (xs : List α) : List (List α) :=
  match xs with
  | [] => []
  | x :: rest => (x :: rest.take size) :: pieces size (rest.drop size)
termination_by xs.length
decreasing_by
  exact Nat.lt_succ_of_le (by rw [List.length_drop]; exact Nat.sub_le _ _)

/-- The same list as `rank` gives, with the candidates shared out among workers, each of which has
buffers of its own. No number of workers is the same as one. -/
def rankShared (e : Engine) (workers : Nat) (candidates : List String) : List RankedMatch :=
  let size := (candidates.length - 1) / max workers 1
  let shares := pieces size candidates.zipIdx
  sortByRank (shares.flatMap fun share => (e.rankShare share Workspace.empty).1)

/-- How many candidates matched, as messages show it. -/
def tally (e : Engine) (matched candidates : Nat) : String :=
  s!"{e.description}: {matched} of {candidates} candidates matched"

/-- The list of criteria as messages show it. -/
def criteriaText (order : Tiebreak) : String :=
  "[" ++ ", ".intercalate (order.criteria.map Criterion.title) ++ "]"

/-- An engine, with a record of its rules. -/
def start (query : String) (rule : CaseRule) (order : Tiebreak) (spansOnly : Bool) :
    Logged Engine := do
  Logged.note .debug
    ("Initialized fuzzy engine (case: " ++ rule.name ++ ", tiebreak: " ++ criteriaText order ++
      ", filter_mode: " ++ (if spansOnly then "true" else "false") ++ ")")
  return { query, rule, order, spansOnly }

/-- Ranked matches of some candidates, with a record of how many there are. -/
def noteTally (e : Engine) (candidates : List String) (matched : List RankedMatch) :
    Logged (List RankedMatch) := do
  Logged.note .trace (e.tally matched.length candidates.length)
  return matched

end Engine

/-- The order for the user's criteria, with a warning if some had to be left out. -/
def Tiebreak.choose (criteria : List Criterion) : Logged Tiebreak := do
  if overflows criteria then
    Logged.note .warn s!"ignoring tiebreak criteria beyond the first {keySlots}"
  return ofCriteria criteria

/-- The matches of a query among candidates, best first: by score, then by span, then in input
order. -/
def rank (query : String) (candidates : List String) (rule : CaseRule) : List RankedMatch :=
  Engine.rank { query, rule, order := default, spansOnly := false } candidates

end FuzzyRank
