import FuzzyRank.Proofs.Search
import FuzzyRank.Proofs.Trail
import Mathlib.Data.List.Pairwise

/-!
Trails and placements are the same thing.

A placement is read from left to right and a trail from right to left. Both are taken apart here at
the last column, where the placement's run ends: the columns spell the pattern if and only if they
form a trail, with the same score, and of two placements the preferred one is the one whose trail
ends further left or has the greater columns.
-/

namespace FuzzyRank

open Scoring Trail

variable {α : Type} [Symbol α] {rule : CaseRule} {pattern : List α} {text : Array α}

/-- The columns of a trail, from left to right. -/
def columnsOf (j : Nat) (before : List Nat) : List Nat :=
  before.reverse ++ [j]

theorem columnsOf_cons (j k : Nat) (before : List Nat) :
    columnsOf j (k :: before) = columnsOf k before ++ [j] := by
  simp [columnsOf]

/-- Every placement of at least one symbol has a last column. -/
theorem eq_columnsOf {columns : List Nat} (h : columns ≠ []) :
    ∃ j before, columns = columnsOf j before := by
  refine ⟨columns.getLast h, columns.dropLast.reverse, ?_⟩
  rw [columnsOf, List.reverse_reverse, List.dropLast_concat_getLast]

/-- Columns increase if and only if they decrease when read from right to left. -/
theorem pairwise_columnsOf {j : Nat} {before : List Nat} :
    (columnsOf j before).Pairwise (· < ·) ↔ (j :: before).Pairwise (· > ·) := by
  rw [columnsOf, ← List.reverse_cons, List.pairwise_reverse]

theorem pairwise_columnsOf_cons {j k : Nat} {before : List Nat} :
    (columnsOf j (k :: before)).Pairwise (· < ·) ↔
      k < j ∧ (columnsOf k before).Pairwise (· < ·) := by
  rw [pairwise_columnsOf, pairwise_columnsOf, List.pairwise_cons_cons_iff_of_trans]

/-! ## Spelling -/

theorem Spells.length_eq {columns : List Nat} (h : Spells rule text pattern columns) :
    columns.length = pattern.length := by
  induction pattern generalizing columns with
  | nil =>
    cases columns with
    | nil => rfl
    | cons => exact h.elim
  | cons p rest ih =>
    cases columns with
    | nil => exact h.elim
    | cons j more => rw [List.length_cons, List.length_cons, ih h.2]

/-- Columns that hold something lie in the text. -/
theorem Spells.lt_size {columns : List Nat} (h : Spells rule text pattern columns) :
    ∀ j ∈ columns, j < text.size := by
  induction pattern generalizing columns with
  | nil =>
    cases columns with
    | nil => simp
    | cons => exact h.elim
  | cons p rest ih =>
    cases columns with
    | nil => simp
    | cons j more =>
      intro k hk
      rcases List.mem_cons.mp hk with rfl | hk
      · exact lt_size_of_any h.1
      · exact ih h.2 k hk

/-- The last column holds the last symbol, and the others spell the rest. -/
theorem spells_concat {ps : List α} {p : α} {columns : List Nat} {j : Nat} :
    Spells rule text (ps ++ [p]) (columns ++ [j]) ↔
      Spells rule text ps columns ∧ text[j]?.any (Symbol.same rule p) := by
  induction ps generalizing columns with
  | nil =>
    cases columns with
    | nil => simp [Spells]
    | cons c more =>
      cases more <;> simp [Spells]
  | cons q ps ih =>
    cases columns with
    | nil => cases ps <;> simp [Spells]
    | cons c more => simp [Spells, ih, and_assoc]

/-- The last symbol can be taken from a placement, and put back behind it. -/
theorem isPlacement_concat {ps : List α} {p : α} {j k : Nat} {before : List Nat} :
    IsPlacement rule (ps ++ [p]) text (columnsOf j (k :: before)) ↔
      text[j]?.any (Symbol.same rule p) ∧ k < j ∧
        IsPlacement rule ps text (columnsOf k before) := by
  constructor
  · rintro ⟨hinc, hspells⟩
    rw [pairwise_columnsOf_cons] at hinc
    rw [columnsOf_cons, spells_concat] at hspells
    exact ⟨hspells.2, hinc.1, hinc.2, hspells.1⟩
  · rintro ⟨hp, hlt, hinc, hspells⟩
    refine ⟨pairwise_columnsOf_cons.mpr ⟨hlt, hinc⟩, ?_⟩
    rw [columnsOf_cons, spells_concat]
    exact ⟨hspells, hp⟩

theorem IsPlacement.length_before {j : Nat} {before : List Nat}
    (h : IsPlacement rule pattern text (columnsOf j before)) :
    before.length + 1 = pattern.length := by
  have hlen := h.spells.length_eq
  simpa [columnsOf] using hlen

/-- The trails of a row are the placements of the pattern up to that row. -/
theorem isTrail_iff_take {i j : Nat} {before : List Nat} (hi : i < pattern.length) :
    IsTrail (Board.of rule pattern text) i j before ↔
      IsPlacement rule (pattern.take (i + 1)) text (columnsOf j before) := by
  have hagrees : ∀ r (hr : r < pattern.length) k, (Board.of rule pattern text).agrees r k ↔
      text[k]?.any (Symbol.same rule pattern[r]) := by
    intro r hr k
    simp [Board.of, List.getElem?_eq_getElem hr]
  induction i generalizing j before with
  | zero =>
    have htake : pattern.take (0 + 1) = [pattern[0]] := by
      rw [List.take_succ_eq_append_getElem hi, List.take_zero, List.nil_append]
    rw [htake]
    constructor
    · intro h
      cases h with
      | first ha => exact ⟨List.pairwise_singleton _ _, (hagrees 0 hi j).mp ha, trivial⟩
    · intro h
      have hnil := List.eq_nil_of_length_eq_zero (Nat.succ.inj h.length_before)
      subst hnil
      exact .first ((hagrees 0 hi j).mpr h.spells.1)
  | succ i ih =>
    rw [List.take_succ_eq_append_getElem hi]
    constructor
    · intro h
      cases h with
      | next ha hkj t =>
        exact isPlacement_concat.mpr ⟨(hagrees _ hi j).mp ha, hkj, (ih (by omega)).mp t⟩
    · intro h
      have hlen := h.length_before
      rw [List.length_append, List.length_take_of_le (by omega)] at hlen
      cases before with
      | nil => simp at hlen
      | cons k before =>
        obtain ⟨ha, hkj, t⟩ := isPlacement_concat.mp h
        exact .next ((hagrees _ hi j).mpr ha) hkj ((ih (by omega)).mpr t)

/-- The complete trails are the placements of the pattern. -/
theorem isTrail_iff {j : Nat} {before : List Nat} (hne : pattern ≠ []) :
    IsTrail (Board.of rule pattern text) (pattern.length - 1) j before ↔
      IsPlacement rule pattern text (columnsOf j before) := by
  have hpos := List.length_pos_iff.mpr hne
  rw [isTrail_iff_take (by omega), Nat.sub_add_cancel hpos, List.take_length]

/-! ## Scores -/

/-- The last column and the head of the run that it stands in, for columns that come after column
`last` of a run with the given head. -/
def runAfter (last head : Nat) : List Nat → Nat × Nat
  | [] => (last, head)
  | j :: rest => runAfter j (if j = last + 1 then head else j) rest

theorem runAfter_concat (last head j : Nat) (columns : List Nat) :
    runAfter last head (columns ++ [j]) =
      (j, if j = (runAfter last head columns).1 + 1 then (runAfter last head columns).2
        else j) := by
  induction columns generalizing last head with
  | nil => rfl
  | cons c columns ih => exact ih c _

/-- What one more column earns after all others. -/
theorem scoreAfter_concat (last head j : Nat) (columns : List Nat) :
    Placement.scoreAfter text last head (columns ++ [j]) =
      Placement.scoreAfter text last head columns + Placement.columnScore text j +
        if j = (runAfter last head columns).1 + 1 then
          Placement.followScore text (runAfter last head columns).2
        else Placement.gapScore (j - (runAfter last head columns).1 - 1) := by
  induction columns generalizing last head with
  | nil =>
    simp only [List.nil_append, Placement.scoreAfter, runAfter]
    split <;> omega
  | cons c columns ih =>
    simp only [List.cons_append, Placement.scoreAfter, runAfter]
    split
    · rw [ih]
      omega
    · rw [ih]
      omega

/-- From its first column on, a placement ends in the run that its trail ends in and earns the same
score. -/
theorem columnsOf_eq_cons (rule : CaseRule) (pattern : List α) (text : Array α) (j : Nat)
    (before : List Nat) : ∃ c more, columnsOf j before = c :: more ∧
      runAfter c c more = (j, runHead j before) ∧
      Placement.score text (c :: more) = score (Board.of rule pattern text) j before := by
  induction before generalizing j with
  | nil =>
    refine ⟨j, [], rfl, rfl, ?_⟩
    simp only [Placement.score, Placement.scoreAfter, score_nil]
    exact Int.add_zero _
  | cons k before ih =>
    obtain ⟨c, more, hcols, hrun, hscore⟩ := ih k
    refine ⟨c, more ++ [j], by rw [columnsOf_cons, hcols, List.cons_append], ?_, ?_⟩
    · rw [runAfter_concat, hrun]
      rfl
    · rw [Placement.score, scoreAfter_concat, hrun, ← Int.add_assoc, ← Int.add_assoc,
        ← Placement.score, hscore]
      rfl

/-- A placement and its trail have the same score. -/
theorem score_columnsOf (rule : CaseRule) (pattern : List α) (text : Array α) (j : Nat)
    (before : List Nat) :
    Placement.score text (columnsOf j before) = score (Board.of rule pattern text) j before := by
  obtain ⟨c, more, hcols, -, hscore⟩ := columnsOf_eq_cons rule pattern text j before
  rw [hcols, hscore]

/-! ## Preference -/

/-- The preferred placement is the one whose trail ends further left or has the greater columns. -/
theorem preferred_columnsOf {j k : Nat} {before other : List Nat} :
    Placement.Preferred (columnsOf j before) (columnsOf k other) ↔
      j < k ∨ (j = k ∧ other < before) := by
  simp [Placement.Preferred, columnsOf]

end FuzzyRank
