import FuzzyRank.Alignment.Trace
import FuzzyRank.Proofs.Table

/-!
Following a filled table back.

A cell does not say where its best trail came from; it says how long the trail's last run is, and
its entry says where a trail came from that begins a run there. The trace therefore reads the cell
that it starts in for its run, and the cell of the run's head for its entry. That is right because
what comes before the head of a best trail is itself best among what could come before it: any other
trail that begins a run at the head could be continued by the same run.
-/

namespace FuzzyRank

open FuzzyRank.Alignment Guarded Scoring Trail
open FuzzyRank.Alignment.Band (lo hi Tight)

variable {B : Board} {bottom : Nat} {band : Band} {window : Window} {grid : Grid} {i j : Nat}
  {before : List Nat}

/-! ## The run that a trail ends in -/

theorem Trail.runLength_le_length (j : Nat) (before : List Nat) :
    runLength j before ≤ before.length := by
  induction before generalizing j with
  | nil => exact Nat.le_refl 0
  | cons k before ih =>
    have := ih k
    by_cases h : j = k + 1
    · subst h
      simp only [runLength_follow, List.length_cons]
      omega
    · simp [runLength_skip h]

theorem IsTrail.runLength_le (h : IsTrail B i j before) : runLength j before ≤ i := by
  rw [← h.length_eq]
  exact runLength_le_length j before

/-- The columns of the run, its last one excluded, are those directly left of the last one. -/
theorem visitBack_run {β : Type} (visit : Nat → β → β) (j : Nat) (before : List Nat) (state : β) :
    visitBack visit (runLength j before) j state =
      (before.take (runLength j before)).foldl (fun s c => visit c s) state := by
  induction before generalizing j state with
  | nil => rfl
  | cons k before ih =>
    by_cases h : j = k + 1
    · subst h
      rw [runLength_follow, List.take_succ_cons, List.foldl_cons, ← ih]
      rfl
    · rw [runLength_skip h]
      rfl

/-- The head of a run stays inside the band. -/
theorem IsTrail.runHead_le_hi (h : IsTrail B i j before) (htight : Tight B bottom band)
    (hi : i ≤ bottom) (hj : j ≤ band.hi i) :
    runHead j before ≤ band.hi (i - runLength j before) := by
  induction h with
  | first => exact hj
  | @next i j k before ha hkj t ih =>
    by_cases h : j = k + 1
    · subst h
      rw [runHead_follow, runLength_follow, Nat.add_sub_add_right]
      exact ih (by omega) (htight.le_hi_of_lt i hi k (by omega) t.agrees)
    · rw [runHead_of_runLength_eq_zero (runLength_skip h before), runLength_skip h]
      exact hj

/-! ## Parts of a best trail -/

/-- The trails whose last run has the given head. -/
def HeadedAt (B : Board) (i j head : Nat) (before : List Nat) : Prop :=
  IsTrail B i j before ∧ runHead j before = head

theorem headedAt_self {before : List Nat} : HeadedAt B i j j before ↔ B.Begins i j before := by
  have := runHead_add_runLength j before
  unfold HeadedAt Board.Begins
  constructor
  · rintro ⟨t, h⟩
    exact ⟨t, by omega⟩
  · rintro ⟨t, h⟩
    exact ⟨t, by omega⟩

/-- What comes before the run of the best trail with a given head is the best that can come before
it. -/
theorem best_before_run {head : Nat}
    (h : IsBest (HeadedAt B i j head) (score B j) (some before)) :
    IsBest (B.Begins (i - runLength j before) head) (score B head)
      (some (before.drop (runLength j before))) := by
  obtain ⟨t, hhead⟩ := h.1
  induction t with
  | first =>
    subst hhead
    exact h.congr fun _ => headedAt_self
  | @next i j k before ha hkj t ih =>
    by_cases hk : j = k + 1
    · subst hk
      rw [runHead_follow] at hhead
      rw [runLength_follow, Nat.add_sub_add_right, List.drop_succ_cons]
      refine ih (h.of_cons (d := matchPoints + (B.bonus (k + 1) : Nat) +
        slotBonus (slotOf (B.bonus head))) ⟨t, hhead⟩ ?_ ?_) hhead
      · rintro b ⟨tb, hb⟩
        exact ⟨.next ha hkj tb, by rw [runHead_follow, hb]⟩
      · rintro b ⟨tb, hb⟩
        rw [score_follow, slot, hb, Int.add_assoc]
    · have hzero := runLength_skip hk before
      rw [hzero]
      rw [runHead_of_runLength_eq_zero hzero] at hhead
      subst hhead
      exact h.congr fun _ => headedAt_self

/-- What comes before the gap of the best trail that begins a run is the best that ends there. -/
theorem best_before_gap {k : Nat} {rest : List Nat}
    (h : IsBest (B.Begins (i + 1) j) (score B j) (some (k :: rest))) :
    k + 2 ≤ j ∧ IsBest (IsTrail B i k) (score B k) (some rest) := by
  obtain ⟨k', rest', heq, hk, t⟩ := h.1.1.of_runLength_eq_zero h.1.2
  cases heq
  refine ⟨hk, h.of_cons (d := B.columnScore j + Placement.gapScore (j - k - 1)) t
    (fun b tb => ?_) fun b tb => ?_⟩
  · exact ⟨.next h.1.1.agrees (by omega) tb, runLength_skip (by omega) b⟩
  · rw [score_skip B hk, Int.add_assoc]

/-! ## The trace -/

section Stretches

variable {β : Type} {visit : Nat → β → β} {state : β} {above : Nat}

/-- A run that reaches the first row ends the trace. -/
theorem trace_top (h : i - Alignment.runOf (grid.cellAt window i j) = 0) :
    (trace visit grid window i j state : Id β) =
      visitBack visit (Alignment.runOf (grid.cellAt window i j)) j (visit j state) := by
  rw [trace, Grid.cell_id]
  dsimp only [bind]
  split
  · rfl
  · next heq =>
    rw [h] at heq
    cases heq

/-- Any other run is followed by the trace from where its head was entered. -/
theorem trace_next (h : i - Alignment.runOf (grid.cellAt window i j) = above + 1) :
    (trace visit grid window i j state : Id β) =
      (trace visit grid window above
        ((sourceOf (grid.cellAt window (above + 1)
          (j - Alignment.runOf (grid.cellAt window i j)))).getD 0)
        (visitBack visit (Alignment.runOf (grid.cellAt window i j)) j (visit j state)) : Id β) := by
  rw [trace, Grid.cell_id]
  dsimp only [bind]
  split
  · next heq =>
    rw [h] at heq
    cases heq
  · next heq =>
    rw [h] at heq
    cases heq
    rw [Grid.cell_id, h]
    rfl

end Stretches

/-- What a right cell says about the run of its best trail. -/
theorem Board.RightCell.runOf_eq {cell : Option Cell} (h : B.RightCell i j cell)
    (hb : IsBest (IsTrail B i j) (score B j) (some before)) :
    Alignment.runOf cell = runLength j before := by
  obtain ⟨best, hbest, heq⟩ := h.trail
  cases best with
  | none => exact absurd hb.1 (hbest before)
  | some a =>
    obtain rfl := hbest.unique hb
    cases cell with
    | none => cases heq
    | some c => exact congrArg Run.length (Option.some.inj heq)

/-- What a right cell says about the column before a best trail that begins a run there. -/
theorem Board.RightCell.sourceOf_eq {cell : Option Cell} {k : Nat} {rest : List Nat}
    (h : B.RightCell i j cell)
    (hb : IsBest (B.Begins i j) (score B j) (some (k :: rest))) : sourceOf cell = some k := by
  obtain ⟨best, hbest, heq⟩ := h.entry
  cases best with
  | none => exact absurd hb.1 (hbest _)
  | some a =>
    obtain rfl := hbest.unique hb
    unfold sourceOf
    rw [heq]
    rfl

/-- Where the run of a best trail does not reach the first row, the entry of its head leads to where
a best trail ends. -/
theorem TableInv.source_of_head {above : Nat} (h : TableInv B bottom band window bottom grid)
    (htight : Tight B bottom band) (hi : i ≤ bottom)
    (hb : IsBest (IsTrail B i j) (score B j) (some before)) (hj : j ≤ band.hi i)
    (hrow : i - runLength j before = above + 1) :
    ∃ k rest, before.drop (runLength j before) = k :: rest ∧
      sourceOf (grid.cellAt window (above + 1) (runHead j before)) = some k ∧
      k ≤ band.hi above ∧ IsBest (IsTrail B above k) (score B k) (some rest) := by
  have hbegins := best_before_run
    (hb.subset (S := HeadedAt B i j (runHead j before)) ⟨hb.1, rfl⟩ fun b ht => ht.1)
  have hin := hb.1.runHead_le_hi htight hi hj
  rw [hrow] at hbegins hin
  obtain ⟨k, rest, hdrop, -, -⟩ := hbegins.1.1.of_runLength_eq_zero hbegins.1.2
  rw [hdrop] at hbegins
  obtain ⟨hk, hrest⟩ := best_before_gap hbegins
  have hkhi := htight.le_hi_of_lt above (by omega) k (by omega) hrest.1.agrees
  exact ⟨k, rest, hdrop, (h.right (above + 1) (by omega) _ hin).sourceOf_eq hbegins, hkhi, hrest⟩

/-- The trace visits the columns of the best trail that ends where it starts. -/
theorem TableInv.trace_eq {β : Type} (visit : Nat → β → β)
    (h : TableInv B bottom band window bottom grid) (htight : Tight B bottom band)
    (hi : i ≤ bottom) (hb : IsBest (IsTrail B i j) (score B j) (some before))
    (hj : j ≤ band.hi i) (state : β) :
    (trace visit grid window i j state : Id β) =
      (j :: before).foldl (fun s c => visit c s) state := by
  -- the trace goes up by whole runs, so the induction is on the row and not step by step
  induction i using Nat.strongRecOn generalizing j before state with
  | ind i ih =>
    have hrun := (h.right i hi j hj).runOf_eq hb
    conv_rhs => rw [List.foldl_cons, ← List.take_append_drop (runLength j before) before,
      List.foldl_append, ← visitBack_run]
    cases hrow : i - runLength j before with
    | zero =>
      have hlength := hb.1.length_eq
      have hnil : before.drop (runLength j before) = [] := List.drop_of_length_le (by omega)
      rw [trace_top (by rw [hrun, hrow]), hrun, hnil]
      rfl
    | succ above =>
      obtain ⟨k, rest, hdrop, hsource, hkhi, hrest⟩ := h.source_of_head htight hi hb hj hrow
      rw [hdrop, trace_next (by rw [hrun, hrow]), hrun, sub_runLength, hsource,
        Option.getD_some]
      exact ih above (by omega) (by omega) hrest hkhi _

end FuzzyRank
