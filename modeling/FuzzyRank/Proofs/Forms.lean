import FuzzyRank.Proofs.Ranking

/-!
The forms of an answer.

A matcher can be asked for the score alone, for the span or for every position. The span is found on
a way of its own, from the last row and by a walk that keeps the last column it saw. It is all the
same the span of the positions, so an engine that only computes spans ranks as one that computes
everything.
-/

namespace FuzzyRank

namespace Matcher

/-- However it is asked and whatever its buffers hold, the matcher tells of no match. -/
structure Declines (rule : CaseRule) (text pattern : String) : Prop where
  score : ∀ workspace, (score? rule text pattern workspace).1 = none
  span : ∀ workspace, (span? rule text pattern workspace).1 = none
  positions : ∀ workspace, (positions? rule text pattern workspace).1 = none
  whole : ∀ withPositions workspace, (find? rule text pattern withPositions workspace).1 = none

/-- However it is asked and whatever its buffers hold, the matcher tells of this match. -/
structure Tells (rule : CaseRule) (text pattern : String) (s : Int) (start stop : Nat)
    (columns : List Nat) : Prop where
  score : ∀ workspace, (score? rule text pattern workspace).1 = some s
  span : ∀ workspace, (span? rule text pattern workspace).1 = some (s, start, stop)
  positions : ∀ workspace, (positions? rule text pattern workspace).1 = some (s, columns)
  whole : ∀ workspace,
    (find? rule text pattern true workspace).1 = some ⟨s, start, stop, some columns⟩
  spanOnly : ∀ workspace, (find? rule text pattern false workspace).1 = some ⟨s, start, stop, none⟩

/-- The span from the first column to the one after the last. An empty pattern has no columns and
spans nothing. -/
def Spans (pattern : String) (start stop : Nat) (columns : List Nat) : Prop :=
  if pattern = "" then columns = [] ∧ start = 0 ∧ stop = 0
  else columns.head? = some start ∧ columns.getLast?.map (· + 1) = some stop

section Answered

variable {rule : CaseRule} {text pattern : String} {s : Int} {columns : List Nat}

theorem Answers.declines (h : Answers rule text pattern none) : Declines rule text pattern where
  score := h.score_eq
  span := h.span_eq
  positions := h.positions_eq
  whole := h.find_eq

theorem Answers.tells (h : Answers rule text pattern (some (s, columns))) :
    Tells rule text pattern s (columns.head?.getD 0) (columns.getLast?.elim 0 (· + 1))
      columns where
  score := h.score_eq
  span := h.span_eq
  positions := h.positions_eq
  whole := h.find_eq true
  spanOnly := h.find_eq false

theorem spans_columns (h : Spells rule text.toList.toArray pattern.toList columns) :
    Spans pattern (columns.head?.getD 0) (columns.getLast?.elim 0 (· + 1)) columns := by
  have hlen : columns.length = pattern.toList.length := h.length_eq
  unfold Spans
  split
  · next hempty =>
    obtain rfl : columns = [] := List.eq_nil_of_length_eq_zero (by rw [hlen, hempty]; rfl)
    exact ⟨rfl, rfl, rfl⟩
  · next hne =>
    have hcolumns : columns ≠ [] := by
      rintro rfl
      exact hne (String.toList_eq_nil_iff.mp (List.eq_nil_of_length_eq_zero hlen.symm))
    rw [List.head?_eq_some_head hcolumns, List.getLast?_eq_some_getLast hcolumns]
    exact ⟨rfl, rfl⟩

/-- The forms of an answer agree. -/
theorem declines_or_tells (rule : CaseRule) (text pattern : String) :
    Declines rule text pattern ∨ ∃ s start stop columns,
      Tells rule text pattern s start stop columns ∧ Spans pattern start stop columns := by
  rcases answers_cases rule text pattern with ⟨columns, hshown, h⟩ | ⟨_, h⟩
  · exact .inr ⟨_, _, _, columns, h.tells, spans_columns hshown.placement.spells⟩
  · exact .inl h.declines

end Answered

end Matcher

/-! ## Ranking by spans -/

/-- The match without its positions. -/
def Match.withoutPositions (m : Match) : Match :=
  { m with positions := none }

def RankedMatch.withoutPositions (r : RankedMatch) : RankedMatch :=
  { r with result := r.result.withoutPositions }

namespace Engine

section SpansOnly

variable (query : String) (rule : CaseRule) (order : Tiebreak)

theorem result?_spansOnly (text : String) : result? ⟨query, rule, order, true⟩ text =
    (result? ⟨query, rule, order, false⟩ text).map Match.withoutPositions := by
  obtain ⟨answer, h⟩ := Matcher.exists_answers rule text query
  unfold result? matchText
  rw [h.find_eq, h.find_eq, Option.map_map]
  rfl

theorem matched_spansOnly (candidates : List (String × Nat)) :
    matched ⟨query, rule, order, true⟩ candidates =
      (matched ⟨query, rule, order, false⟩ candidates).map RankedMatch.withoutPositions := by
  unfold matched
  rw [List.map_filterMap]
  congr 1
  funext candidate
  unfold entry?
  rw [result?_spansOnly, Option.map_map, Option.map_map]
  rfl

/-- An engine that only computes spans ranks as one that computes everything. -/
theorem rank_spansOnly (candidates : List String) :
    rank ⟨query, rule, order, true⟩ candidates =
      (rank ⟨query, rule, order, false⟩ candidates).map RankedMatch.withoutPositions := by
  rw [rank_eq, rank_eq, matched_spansOnly, sortByRank, sortByRank]
  symm
  apply List.map_mergeSort
  -- the positions take no part in the comparison
  intro a _ b _
  rfl

theorem isSome_positions {candidates : List String} {r : RankedMatch}
    (hr : r ∈ rank ⟨query, rule, order, false⟩ candidates) : r.result.positions.isSome := by
  obtain ⟨columns, hpositions, -⟩ := exists_located rfl hr
  rw [hpositions]
  rfl

end SpansOnly

end Engine

/-- All forms of an answer tell of no match, or all tell of the same one, and the span goes from the
first position to the last. So engines that differ in what they compute rank alike: their rankings
are the same but for the positions. -/
theorem forms_agree (rule : CaseRule) (text pattern : String) :
    (Matcher.Declines rule text pattern ∨ ∃ s start stop columns,
        Matcher.Tells rule text pattern s start stop columns ∧
          Matcher.Spans pattern start stop columns) ∧
      ∀ order candidates,
        Engine.rank ⟨pattern, rule, order, true⟩ candidates =
            (Engine.rank ⟨pattern, rule, order, false⟩ candidates).map
              RankedMatch.withoutPositions ∧
          ∀ r ∈ Engine.rank ⟨pattern, rule, order, false⟩ candidates,
            r.result.positions.isSome := by
  refine ⟨Matcher.declines_or_tells rule text pattern, fun order candidates => ⟨?_, ?_⟩⟩
  · exact Engine.rank_spansOnly pattern rule order candidates
  · intro r hr
    exact Engine.isSome_positions pattern rule order hr

end FuzzyRank
