import FuzzyRank.Proofs.Ranking

/-!
Queries that go on.

What a longer query matches its beginning matches too. So the candidates may be narrowed by what has
been typed so far before they are ranked for the whole query: a match's key depends on its own text
only, and matches of equal keys keep their order whatever their places in the input are.
-/

namespace FuzzyRank

open FuzzyRank.Alignment

/-! ## The beginning of a query -/

namespace Matcher

/-- A text that holds some characters in order holds the first of them in order. -/
theorem InOrder.of_append {rule : CaseRule} {text pattern more : String}
    (h : InOrder rule text (pattern ++ more)) : InOrder rule text pattern := by
  unfold InOrder at *
  rw [String.toList_append, List.sublistForall₂_iff] at h
  obtain ⟨held, hsame, hsub⟩ := h
  rw [List.sublistForall₂_iff]
  refine ⟨held.take pattern.toList.length, ?_, (List.take_sublist _ _).trans hsub⟩
  have htake := List.forall₂_take pattern.toList.length hsame
  rwa [List.take_left'] at htake
  rfl

end Matcher

/-- The match as it would be if the candidate stood first in the input. -/
def RankedMatch.withoutIndex (r : RankedMatch) : RankedMatch :=
  { r with rank := { r.rank with index := 0 } }

namespace Engine

/-- The engine for a query that goes on. -/
def extend (e : Engine) (more : String) : Engine :=
  { e with query := e.query ++ more }

section Narrowing

variable (e : Engine)

theorem isSome_matchText_iff (text : String) (workspace : Workspace) :
    (e.matchText text workspace).1.isSome ↔ Matcher.InOrder e.rule text e.query := by
  obtain ⟨answer, h⟩ := Matcher.exists_answers e.rule text e.query
  unfold matchText
  rw [h.find_eq, Option.isSome_map, h.isSome_iff]

theorem isSome_of_extend {more text : String} {workspace : Workspace} (workspace' : Workspace)
    (h : ((e.extend more).matchText text workspace).1.isSome) :
    (e.matchText text workspace').1.isSome := by
  rw [isSome_matchText_iff] at h ⊢
  exact Matcher.InOrder.of_append h

/-! ## Rankings without places -/

/-- The matches are those of the texts, one by one. -/
theorem matched_withoutIndex (candidates : List String) :
    (e.matched candidates.zipIdx).map RankedMatch.withoutIndex =
      candidates.filterMap fun text => e.entry? (text, 0) := by
  have hentry : ∀ candidate, (e.entry? candidate).map RankedMatch.withoutIndex =
      e.entry? (candidate.1, 0) := by
    intro candidate
    unfold entry?
    rw [Option.map_map]
    rfl
  unfold matched
  simp only [List.map_filterMap, hentry]
  conv_rhs => rw [← List.zipIdx_map_fst 0 candidates, List.filterMap_map]
  rfl

/-- Apart from places, a ranking is a stable sort of the texts' matches by their keys. -/
theorem rank_withoutIndex (candidates : List String) :
    (e.rank candidates).map RankedMatch.withoutIndex =
      (candidates.filterMap fun text => e.entry? (text, 0)).mergeSort fun a b =>
        (compareOn (fun r : RankedMatch => r.rank.key) a b).isLE := by
  rw [rank_eq, sortByRank_eq_mergeSort (e.matched_pairwise_index candidates),
    ← matched_withoutIndex]
  apply List.map_mergeSort
  -- the place takes no part in the comparison of keys
  intro a _ b _
  rfl

/-- Where the beginning of a query finds nothing, the query finds nothing. -/
theorem entry?_extend_eq_none {more text : String} (h : ¬ (e.result? text).isSome) (index : Nat) :
    Engine.entry? (e.extend more) (text, index) = none := by
  have hnone : (e.extend more).result? text = none := by
    rw [← Option.not_isSome_iff_eq_none]
    exact fun hlonger => h (e.isSome_of_extend Workspace.empty hlonger)
  unfold entry?
  rw [hnone, Option.map_none]

/-- What a query matches that goes on, its beginning matches. So it makes no difference to a ranking
whether the candidates have been narrowed by the beginning first, apart from their places. -/
theorem rank_narrowed (more : String) (candidates : List String) :
    (∀ text workspace workspace', ((e.extend more).matchText text workspace).1.isSome →
        (e.matchText text workspace').1.isSome) ∧
      ((e.extend more).rank (candidates.filter fun text => (e.result? text).isSome)).map
          RankedMatch.withoutIndex =
        ((e.extend more).rank candidates).map RankedMatch.withoutIndex := by
  refine ⟨fun text _ workspace' h => e.isSome_of_extend workspace' h, ?_⟩
  have hkept : ∀ text, (if (e.result? text).isSome then Engine.entry? (e.extend more) (text, 0)
      else none) = Engine.entry? (e.extend more) (text, 0) := by
    intro text
    split
    · rfl
    · next hno => exact (e.entry?_extend_eq_none hno 0).symm
  rw [rank_withoutIndex, rank_withoutIndex, List.filterMap_filter]
  simp only [hkept]

/-- The query goes on in a character that is not ASCII. The second of two candidates of one text
moves up when the one between them, which the beginning does not match, is left out. -/
theorem rank_narrowed_cafe :
    (matchText ⟨"ca" ++ "é", .ignore, default, false⟩ "café" Workspace.empty).1.isSome ∧
      (matchText ⟨"ca", .ignore, default, false⟩ "café" Workspace.empty).1.isSome ∧
      (["café", "xyz", "café", "cab"].filter fun text =>
        (result? ⟨"ca", .ignore, default, false⟩ text).isSome) = ["café", "café", "cab"] ∧
      (matched ⟨"ca" ++ "é", .ignore, default, false⟩
        ["café", "xyz", "café", "cab"].zipIdx).map (·.rank.index) = [0, 2] ∧
      (rank ⟨"ca" ++ "é", .ignore, default, false⟩
          (["café", "xyz", "café", "cab"].filter fun text =>
            (result? ⟨"ca", .ignore, default, false⟩ text).isSome)).map
          RankedMatch.withoutIndex =
        (rank ⟨"ca" ++ "é", .ignore, default, false⟩ ["café", "xyz", "café", "cab"]).map
          RankedMatch.withoutIndex := by
  obtain ⟨hmatches, hranks⟩ := rank_narrowed ⟨"ca", .ignore, default, false⟩ "é"
    ["café", "xyz", "café", "cab"]
  have hlonger : (matchText ⟨"ca" ++ "é", .ignore, default, false⟩ "café"
      Workspace.empty).1.isSome := by decide +kernel
  exact ⟨hlonger, hmatches "café" Workspace.empty Workspace.empty hlonger, by decide +kernel,
    by decide +kernel, hranks⟩

end Narrowing

end Engine
end FuzzyRank
