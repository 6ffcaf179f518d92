import FuzzyRank.Proofs.Independence
import FuzzyRank.Proofs.Schedule

/-!
What letter case does to matches.

Two characters that are the same when case counts are the same when it does not. So every placement
remains one when case is ignored, and it keeps its score, which comes from the text alone: a text
that matched still matches, and its best score can only rise.

When case is ignored, a query is seen through its small letters only. Queries that differ in nothing
else have the same board with every text, and what has the same board gets the same answer.
-/

namespace FuzzyRank

open FuzzyRank.Alignment

/-! ## Ignoring case loses nothing -/

section Relaxed

variable {pattern : List Char} {text : Array Char} {columns : List Nat}

theorem Symbol.sameChar_ignore_of_respect {a b : Char} (h : Symbol.sameChar .respect a b = true) :
    Symbol.sameChar .ignore a b = true := by
  have hab : a = b := beq_iff_eq.mp h
  show (a.toLower == b.toLower) = true
  rw [hab, beq_self_eq_true]

theorem any_same_ignore_of_respect {p : Char} {j : Nat}
    (h : text[j]?.any (Symbol.same .respect p)) : text[j]?.any (Symbol.same .ignore p) := by
  cases hj : text[j]? with
  | none => simp [hj] at h
  | some c =>
    rw [hj] at h
    exact Symbol.sameChar_ignore_of_respect h

theorem Spells.ignoringCase (h : Spells .respect text pattern columns) :
    Spells .ignore text pattern columns := by
  induction pattern generalizing columns with
  | nil => cases columns <;> exact h
  | cons p rest ih =>
    cases columns with
    | nil => exact h
    | cons j more => exact ⟨any_same_ignore_of_respect h.1, ih h.2⟩

/-- A placement that minds case is a placement when case is ignored. -/
theorem IsPlacement.ignoringCase (h : IsPlacement .respect pattern text columns) :
    IsPlacement .ignore pattern text columns :=
  ⟨h.increasing, h.spells.ignoringCase⟩

end Relaxed

namespace Matcher

/-- The score that a reply tells of, if it tells of a match. -/
def Reply.score? : Reply → Option Int
  | .score found => found
  | .span found => found.map (·.1)
  | .positions found => found.map (·.1)
  | .whole found => found.map (·.score)

/-- However it is asked, the matcher tells the score of its answer. -/
theorem Answers.reply_score {rule : CaseRule} {text pattern : String}
    {answer : Option (Int × List Nat)} (h : Answers rule text pattern answer)
    (question : Question) (workspace : Workspace) :
    ((Call.mk question rule text pattern).reply workspace).1.score? = answer.map Prod.fst := by
  unfold Call.reply
  cases question with
  | score => exact h.score_eq workspace
  | span =>
    rw [Call.map_fst, h.span_eq, Reply.score?, Option.map_map]
    rfl
  | positions => rw [Call.map_fst, h.positions_eq, Reply.score?]
  | whole withPositions =>
    rw [Call.map_fst, h.find_eq, Reply.score?, Option.map_map]
    rfl

/-- What matches with case respected matches with case ignored, with no lower score. It does not
matter how either is asked, nor what the buffers hold. -/
theorem score_ignoringCase (text pattern : String) (question question' : Question)
    (workspace workspace' : Workspace) {s : Int}
    (h : ((Call.mk question .respect text pattern).reply workspace).1.score? = some s) :
    ∃ s', ((Call.mk question' .ignore text pattern).reply workspace').1.score? = some s' ∧
      s ≤ s' := by
  rcases answers_cases .respect text pattern with ⟨columns, hshown, hanswers⟩ | ⟨_, hanswers⟩
  · rw [hanswers.reply_score] at h
    cases h
    have hplace := hshown.placement.ignoringCase
    rcases answers_cases .ignore text pattern with ⟨other, hshown', hanswers'⟩ | ⟨hno, _⟩
    · exact ⟨_, hanswers'.reply_score question' workspace', hshown'.highest columns hplace⟩
    · exact absurd hplace (hno columns)
  · rw [hanswers.reply_score] at h
    cases h

/-- The capital at the start of the text is worth more than the small letter at its end. -/
theorem score_ignoringCase_bob :
    ((Call.mk .span .respect "Bob" "b").reply Workspace.empty).1.score? = some 16 ∧
      ∃ s', ((Call.mk (.whole true) .ignore "Bob" "b").reply loaded).1.score? = some s' ∧
        16 ≤ s' := by
  have h : ((Call.mk .span .respect "Bob" "b").reply Workspace.empty).1.score? = some 16 := by
    decide +kernel
  exact ⟨h, score_ignoringCase "Bob" "b" .span (.whole true) Workspace.empty loaded h⟩

end Matcher

/-! ## Queries in other letter case -/

/-- When case is ignored, a column agrees with the small form of a row's symbol. -/
theorem Board.agrees_ignore_iff {pattern : List Char} {text : Array Char} {i j : Nat} :
    (Board.of .ignore pattern text).agrees i j ↔
      ∃ q, (pattern.map Char.toLower)[i]? = some q ∧ text[j]?.any (q == ·.toLower) := by
  rw [List.getElem?_map]
  constructor
  · rintro ⟨p, hp, hagrees⟩
    exact ⟨p.toLower, by rw [hp, Option.map_some], hagrees⟩
  · rintro ⟨q, hq, hagrees⟩
    obtain ⟨p, hp, rfl⟩ := Option.map_eq_some_iff.mp hq
    exact ⟨p, hp, hagrees⟩

/-- Patterns with the same small form have the same board. -/
theorem Board.of_ignore_congr {pattern pattern' : List Char}
    (h : pattern.map Char.toLower = pattern'.map Char.toLower) (text : Array Char) :
    Board.of .ignore pattern text = Board.of .ignore pattern' text := by
  ext i j
  · rw [agrees_ignore_iff, agrees_ignore_iff, h]
  · rfl

namespace Matcher

/-- The matcher answers alike for patterns of one length that have the same board. -/
theorem run_congr {rule rule' : CaseRule} {text pattern pattern' : String}
    (hlength : pattern.toList.length = pattern'.toList.length)
    (hboard : Board.of rule pattern.toList text.toList.toArray =
      Board.of rule' pattern'.toList text.toList.toArray) (detail : Detail)
    (workspace workspace' : Workspace) :
    (run rule text pattern detail workspace).1 = (run rule' text pattern' detail workspace').1 := by
  by_cases hne : pattern.toList = []
  · have hne' : pattern'.toList = [] := List.eq_nil_of_length_eq_zero (by rw [← hlength, hne]; rfl)
    obtain rfl : pattern = "" := String.toList_eq_nil_iff.mp hne
    obtain rfl : pattern' = "" := String.toList_eq_nil_iff.mp hne'
    rw [run_empty, run_empty]
  · have hne' : pattern'.toList ≠ [] := by
      intro h
      rw [h] at hlength
      exact hne (List.eq_nil_of_length_eq_zero hlength)
    by_cases h : ∃ j before, IsTrail (Board.of rule pattern.toList text.toList.toArray)
        (pattern.toList.length - 1) j before
    · obtain ⟨j, before, t⟩ := h
      obtain ⟨k, shown, hs⟩ := exists_shown hne t
      rw [run_of_shown hne hs]
      rw [hboard, hlength] at hs
      rw [run_of_shown hne' hs]
    · have hno : ∀ j before, ¬ IsTrail (Board.of rule pattern.toList text.toList.toArray)
          (pattern.toList.length - 1) j before := fun j before t => h ⟨j, before, t⟩
      rw [run_of_no_trail hne hno]
      rw [hboard, hlength] at hno
      rw [run_of_no_trail hne' hno]

end Matcher

namespace Engine

section SmallForm

variable {query query' : String}

theorem toList_toLower (text : String) : text.toLower.toList = text.toList.map Char.toLower :=
  String.toList_map

/-- A text's match is the same for queries with the same small form. -/
theorem result?_of_toLower_eq (h : query.toLower = query'.toLower) (order : Tiebreak)
    (spansOnly : Bool) (text : String) :
    result? ⟨query, .ignore, order, spansOnly⟩ text =
      result? ⟨query', .ignore, order, spansOnly⟩ text := by
  have hsmall : query.toList.map Char.toLower = query'.toList.map Char.toLower := by
    rw [← toList_toLower, ← toList_toLower, h]
  have hlength : query.toList.length = query'.toList.length := by
    simpa using congrArg List.length hsmall
  have hboard := Board.of_ignore_congr hsmall text.toList.toArray
  obtain ⟨answer, hanswer⟩ := Matcher.exists_answers .ignore text query
  have hanswer' : Matcher.Answers .ignore text query' answer := by
    intro detail workspace
    rw [← hanswer detail workspace]
    exact (Matcher.run_congr hlength hboard detail workspace workspace).symm
  unfold result? matchText
  rw [hanswer.find_eq, hanswer'.find_eq]

/-- When case is ignored, queries that are equal in small letters give the same ranking, whatever
the order of matches, whether or not positions are computed, and however many workers share the
candidates. -/
theorem rank_of_toLower_eq (h : query.toLower = query'.toLower) (order : Tiebreak)
    (spansOnly : Bool) (candidates : List String) :
    rank ⟨query, .ignore, order, spansOnly⟩ candidates =
        rank ⟨query', .ignore, order, spansOnly⟩ candidates ∧
      ∀ workers, rankShared ⟨query, .ignore, order, spansOnly⟩ workers candidates =
        rankShared ⟨query', .ignore, order, spansOnly⟩ workers candidates := by
  have hentry : entry? ⟨query, .ignore, order, spansOnly⟩ =
      entry? ⟨query', .ignore, order, spansOnly⟩ := by
    funext candidate
    unfold entry?
    rw [result?_of_toLower_eq h]
  have hrank : rank ⟨query, .ignore, order, spansOnly⟩ candidates =
      rank ⟨query', .ignore, order, spansOnly⟩ candidates := by
    rw [rank_eq, rank_eq]
    unfold matched
    rw [hentry]
  refine ⟨hrank, fun workers => ?_⟩
  rw [rankShared_eq_rank, rankShared_eq_rank, hrank]

/-- Only ASCII letters have a second spelling, so the candidate in capitals does not match. -/
theorem rank_of_toLower_eq_cafe :
    "CAFé".toLower = "cAfé".toLower ∧
      (matched ⟨"CAFé", .ignore, default, false⟩ ["CAFÉ", "a café", "Café"].zipIdx).map
          (fun r => (r.text, r.result.score)) = [("a café", 104), ("Café", 114)] ∧
      rank ⟨"CAFé", .ignore, default, false⟩ ["CAFÉ", "a café", "Café"] =
        rank ⟨"cAfé", .ignore, default, false⟩ ["CAFÉ", "a café", "Café"] ∧
      rankShared ⟨"CAFé", .ignore, default, false⟩ 2 ["CAFÉ", "a café", "Café"] =
        rankShared ⟨"cAfé", .ignore, default, false⟩ 2 ["CAFÉ", "a café", "Café"] := by
  have h : "CAFé".toLower = "cAfé".toLower := by
    rw [← String.toList_inj, toList_toLower, toList_toLower]
    decide +kernel
  obtain ⟨hrank, hshared⟩ := rank_of_toLower_eq h default false ["CAFÉ", "a café", "Café"]
  exact ⟨h, by decide +kernel, hrank, hshared 2⟩

end SmallForm

end Engine
end FuzzyRank
