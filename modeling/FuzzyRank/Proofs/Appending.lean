import FuzzyRank.Proofs.Matching

/-!
Texts that go on.

What a column is worth depends on the columns before it only. So a text that goes on keeps all
placements of a pattern with their scores, and may have further ones, all of which end behind the
old end. The score can only rise. Where it does not, the placement that is shown stays the same one,
since among placements of one score the one that ends furthest left is shown.
-/

namespace FuzzyRank

open FuzzyRank.Alignment Scoring

section GoesOn

variable {α : Type} [Symbol α] {rule : CaseRule} {pattern : List α} {text longer : Array α}
  {columns other : List Nat}

/-- The second text begins with the first. -/
def GoesOn (text longer : Array α) : Prop :=
  ∀ j < text.size, longer[j]? = text[j]?

/-! ## Scores look back only -/

theorem GoesOn.classBefore_eq (h : GoesOn text longer) {j : Nat} (hj : j < text.size) :
    classBefore longer j = classBefore text j := by
  cases j with
  | zero => rfl
  | succ j => rw [classBefore, classBefore, h j (by omega)]

theorem GoesOn.bonusAt_eq (h : GoesOn text longer) {j : Nat} (hj : j < text.size) :
    bonusAt longer j = bonusAt text j := by
  unfold bonusAt
  rw [h j hj, h.classBefore_eq hj]

theorem GoesOn.columnScore_eq (h : GoesOn text longer) {j : Nat} (hj : j < text.size) :
    Placement.columnScore longer j = Placement.columnScore text j := by
  unfold Placement.columnScore
  rw [h.bonusAt_eq hj]

theorem GoesOn.scoreAfter_eq (h : GoesOn text longer) {last head : Nat} (hhead : head < text.size)
    (hcolumns : ∀ j ∈ columns, j < text.size) :
    Placement.scoreAfter longer last head columns =
      Placement.scoreAfter text last head columns := by
  induction columns generalizing last head with
  | nil => rfl
  | cons j rest ih =>
    have hj : j < text.size := hcolumns j List.mem_cons_self
    have hrest : ∀ k ∈ rest, k < text.size := fun k hk => hcolumns k (List.mem_cons_of_mem j hk)
    unfold Placement.scoreAfter
    rw [h.columnScore_eq hj, ih hhead hrest, ih hj hrest]
    unfold Placement.followScore
    rw [h.bonusAt_eq hhead]

/-- Columns of the shorter text are worth the same in both. -/
theorem GoesOn.score_eq (h : GoesOn text longer) (hcolumns : ∀ j ∈ columns, j < text.size) :
    Placement.score longer columns = Placement.score text columns := by
  cases columns with
  | nil => rfl
  | cons j rest =>
    have hj : j < text.size := hcolumns j List.mem_cons_self
    have hrest : ∀ k ∈ rest, k < text.size := fun k hk => hcolumns k (List.mem_cons_of_mem j hk)
    rw [Placement.score, Placement.score, h.columnScore_eq hj, h.scoreAfter_eq hj hrest]

/-! ## Placements of the shorter text -/

theorem GoesOn.spells_iff (h : GoesOn text longer) (hcolumns : ∀ j ∈ columns, j < text.size) :
    Spells rule longer pattern columns ↔ Spells rule text pattern columns := by
  induction pattern generalizing columns with
  | nil => cases columns <;> exact Iff.rfl
  | cons p pattern ih =>
    cases columns with
    | nil => exact Iff.rfl
    | cons j rest =>
      unfold Spells
      rw [h j (hcolumns j List.mem_cons_self),
        ih fun k hk => hcolumns k (List.mem_cons_of_mem j hk)]

theorem GoesOn.isPlacement_iff (h : GoesOn text longer) (hcolumns : ∀ j ∈ columns, j < text.size) :
    IsPlacement rule pattern longer columns ↔ IsPlacement rule pattern text columns :=
  ⟨fun hp => ⟨hp.increasing, (h.spells_iff hcolumns).mp hp.spells⟩,
    fun hp => ⟨hp.increasing, (h.spells_iff hcolumns).mpr hp.spells⟩⟩

/-! ## Preferred placements -/

theorem Placement.Preferred.exists_last (h : Placement.Preferred columns other) :
    ∃ j before k before', columns = columnsOf j before ∧ other = columnsOf k before' ∧
      (j < k ∨ (j = k ∧ before' < before)) := by
  have hne : columns ≠ [] ∧ other ≠ [] := by
    constructor <;> rintro rfl <;> simp [Placement.Preferred] at h
  obtain ⟨j, before, rfl⟩ := eq_columnsOf hne.1
  obtain ⟨k, before', rfl⟩ := eq_columnsOf hne.2
  exact ⟨j, before, k, before', rfl, rfl, preferred_columnsOf.mp h⟩

theorem Placement.Preferred.asymm (h : Placement.Preferred columns other) :
    ¬ Placement.Preferred other columns := by
  obtain ⟨j, before, k, before', rfl, rfl, hends⟩ := h.exists_last
  rw [preferred_columnsOf]
  rintro (hlt | ⟨rfl, hlt⟩)
  · omega
  · rcases hends with hends | ⟨_, hends⟩
    · exact Nat.lt_irrefl _ hends
    · exact List.lt_asymm hends hlt

/-- Where the other columns lie to the left of a column, so do the preferred ones. -/
theorem Placement.Preferred.lt_of_lt {n : Nat} (h : Placement.Preferred columns other)
    (hinc : columns.Pairwise (· < ·)) (hother : ∀ c ∈ other, c < n) : ∀ c ∈ columns, c < n := by
  obtain ⟨j, before, k, before', rfl, rfl, hends⟩ := h.exists_last
  rw [pairwise_columnsOf, List.pairwise_cons] at hinc
  have hk : k < n := hother k (by simp [columnsOf])
  intro c hc
  rw [columnsOf, List.mem_append, List.mem_reverse, List.mem_singleton] at hc
  rcases hc with hc | rfl
  · have := hinc.1 c hc
    omega
  · omega

/-! ## The placement that is shown -/

/-- A text that goes on shows a placement of no lower score, and the same one if the score stays. -/
theorem GoesOn.shown (h : GoesOn text longer) (hs : IsShown rule pattern text columns)
    (hs' : IsShown rule pattern longer other) :
    Placement.score text columns ≤ Placement.score longer other ∧
      (Placement.score longer other = Placement.score text columns → other = columns) := by
  have hcolumns : ∀ j ∈ columns, j < text.size := hs.placement.spells.lt_size
  have hp : IsPlacement rule pattern longer columns := (h.isPlacement_iff hcolumns).mpr hs.placement
  have hscore : Placement.score longer columns = Placement.score text columns :=
    h.score_eq hcolumns
  refine ⟨hscore ▸ hs'.highest columns hp, fun heq => ?_⟩
  rcases hs'.preferred columns hp (hscore.trans heq.symm) with hsame | hpreferred
  · exact hsame.symm
  · -- what is preferred ends no further right, and was there before the text went on
    have hother := hpreferred.lt_of_lt hs'.placement.increasing hcolumns
    have hp' : IsPlacement rule pattern text other := (h.isPlacement_iff hother).mp hs'.placement
    rcases hs.preferred other hp' ((h.score_eq hother).symm.trans heq) with hsame | hpreferred'
    · exact hsame
    · exact absurd hpreferred' hpreferred.asymm

end GoesOn

/-! ## The matches -/

namespace Matcher

theorem goesOn_append (text suffix : String) :
    GoesOn text.toList.toArray (text ++ suffix).toList.toArray := by
  intro j hj
  rw [List.size_toArray] at hj
  rw [String.toList_append, List.getElem?_toArray, List.getElem?_toArray,
    List.getElem?_append_left hj]

/-- A pattern that a text holds it holds also when the text goes on, in whatever characters, and the
score is no lower. Where the score stays the same, so does the whole match. -/
theorem find_append (rule : CaseRule) (text suffix pattern : String) (withPositions : Bool)
    (workspace workspace' : Workspace) {m : Match}
    (h : (find? rule text pattern withPositions workspace).1 = some m) :
    ∃ m', (find? rule (text ++ suffix) pattern withPositions workspace').1 = some m' ∧
      m.score ≤ m'.score ∧ (m'.score = m.score → m' = m) := by
  have hon := goesOn_append text suffix
  rcases answers_cases rule text pattern with ⟨columns, hshown, hanswers⟩ | ⟨_, hanswers⟩
  · rw [hanswers.find_eq] at h
    cases h
    rcases answers_cases rule (text ++ suffix) pattern with
      ⟨other, hshown', hanswers'⟩ | ⟨hno, _⟩
    · obtain ⟨hle, hsame⟩ := hon.shown hshown hshown'
      refine ⟨_, hanswers'.find_eq withPositions workspace', hle, fun heq => ?_⟩
      have heq : Placement.score (text ++ suffix).toList.toArray other =
          Placement.score text.toList.toArray columns := heq
      obtain rfl := hsame heq
      exact congrArg (matchOf withPositions · other) heq
    · have hcolumns := hshown.placement.spells.lt_size
      exact absurd ((hon.isPlacement_iff hcolumns).mpr hshown.placement) (hno columns)
  · rw [hanswers.find_eq] at h
    cases h

/-- Characters that are not ASCII give the text another place of the same score. -/
theorem find_append_banana :
    ∃ m', (find? .ignore "banana" "aa" true Workspace.empty).1 = some ⟨29, 1, 4, some [1, 3]⟩ ∧
      (find? .ignore ("banana" ++ "éana") "aa" true Workspace.empty).1 = some m' ∧
      29 ≤ m'.score ∧ (m'.score = 29 → m' = ⟨29, 1, 4, some [1, 3]⟩) := by
  have h : (find? .ignore "banana" "aa" true Workspace.empty).1 =
      some ⟨29, 1, 4, some [1, 3]⟩ := by
    decide +kernel
  obtain ⟨m', hfind, hle, hsame⟩ := find_append .ignore "banana" "éana" "aa" true Workspace.empty
    Workspace.empty h
  exact ⟨m', h, hfind, hle, hsame⟩

end Matcher
end FuzzyRank
