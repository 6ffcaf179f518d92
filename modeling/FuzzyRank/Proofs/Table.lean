import FuzzyRank.Proofs.Sweep

/-!
The filled table.

`TableInv` says what holds when the rows down to some row are filled: inside the band every cell is
right, right of the band all are blank, and the runs of the last row are right. A whole sweep takes
it from one row to the next, and the choice at the end finds the best trail of the last row: no
complete trail has a higher score, and none of equal score ends further left.
-/

namespace FuzzyRank

open FuzzyRank.Alignment Guarded Scoring Trail
open FuzzyRank.Alignment.Band (lo hi Tight)

/-- What holds of the table when the rows down to row `i` are filled. -/
structure TableInv (B : Board) (bottom : Nat) (band : Band) (window : Window) (i : Nat)
    (grid : Grid) : Prop where
  room : grid.Room window (bottom + 1)
  right : ∀ r ≤ i, ∀ c ≤ band.hi r, B.RightCell r c (grid.cellAt window r c)
  beyond : ∀ r ≤ i, ∀ c, band.hi r < c → c < window.offset + window.width →
    grid.cellAt window r c = none
  runs : ∀ c ≤ band.hi i, (grid.cellAt window i c).isSome →
    B.RightRuns i c (grid.aboveAt window c)
  blank : ∀ r c, i < r → r ≤ bottom → c < window.offset + window.width →
    grid.cellAt window r c = none

/-- The window from the first column of the first row to the last column of the last row. -/
def span (band : Band) (bottom : Nat) : Window :=
  ⟨band.lo 0, band.hi bottom - band.lo 0 + 1⟩

variable {B : Board} {bottom : Nat} {band : Band} {window : Window} {i j : Nat} {old grid : Grid}

namespace Fits

theorem hi_lt_end (h : Fits B bottom band window) (hi : i ≤ bottom) :
    band.hi i < window.offset + window.width := by
  have := h.tight.hi_le_bottom hi
  have := h.end_eq
  omega

theorem lo_lt_end (h : Fits B bottom band window) (hi : i ≤ bottom) :
    band.lo i < window.offset + window.width :=
  Nat.lt_of_le_of_lt (h.tight.lo_le_hi hi) (h.hi_lt_end hi)

theorem of_tight (h : Tight B bottom band) : Fits B bottom band (span band bottom) where
  tight := h
  offset_eq := rfl
  end_eq := by
    have := h.lo_zero_le (Nat.le_refl bottom)
    have := h.lo_le_hi (Nat.le_refl bottom)
    show band.lo 0 + (band.hi bottom - band.lo 0 + 1) = band.hi bottom + 1
    omega

end Fits

/-! ## From row to row -/

/-- No trail of the next row ends at or before the first column of this one. -/
theorem no_trail_of_le_lo (htight : Tight B bottom band) (hi : i ≤ bottom) (hj : j ≤ band.lo i)
    (before : List Nat) : ¬ IsTrail B (i + 1) j before := by
  intro ht
  cases ht with
  | next _ hkj t =>
    have := htight.lo_le_of_trail hi t
    omega

namespace TableInv

/-- Before the next row's last column this row is right, also right of its own band. -/
theorem aboveRight (h : TableInv B bottom band window i grid) (hfits : Fits B bottom band window)
    (hi : i + 1 ≤ bottom) : AboveRight B window i (band.hi (i + 1)) grid where
  right c hc := by
    rcases Nat.lt_or_ge (band.hi i) c with hlt | hge
    · rw [h.beyond i (Nat.le_refl _) c hlt (Nat.lt_trans hc (hfits.hi_lt_end hi))]
      refine .none_of fun before ht => ?_
      have := hfits.tight.le_hi_of_lt i hi c hc ht.agrees
      omega
    · exact h.right i (Nat.le_refl _) c hge
  runs c hc hsome := by
    rcases Nat.lt_or_ge (band.hi i) c with hlt | hge
    · rw [h.beyond i (Nat.le_refl _) c hlt (Nat.lt_trans hc (hfits.hi_lt_end hi))] at hsome
      cases hsome
    · exact h.runs c hge hsome

/-- A sweep starts where the first trail of its row can end. -/
theorem start (h : TableInv B bottom band window i grid) (hfits : Fits B bottom band window)
    (hi : i + 1 ≤ bottom) : RowInv B bottom window (i + 1) (band.lo i + 1) grid grid where
  room := h.room
  above _ := rfl
  kept _ _ _ _ := rfl
  right c hc := by
    have hend := hfits.lo_lt_end (Nat.le_of_succ_le hi)
    rw [h.blank (i + 1) c (Nat.lt_succ_self i) hi (by omega)]
    exact .none_of (no_trail_of_le_lo hfits.tight (Nat.le_of_succ_le hi) (Nat.le_of_lt_succ hc))
  runs c hc hsome := by
    have hend := hfits.lo_lt_end (Nat.le_of_succ_le hi)
    rw [h.blank (i + 1) c (Nat.lt_succ_self i) hi (by omega)] at hsome
    cases hsome
  blank r c hrc hr hc := h.blank r c (by omega) hr hc

/-- There is no gap yet where a sweep starts. It starts left of its own band, where the row above
begins, to pick up every gap. -/
theorem startSweep (h : TableInv B bottom band window i grid) (hfits : Fits B bottom band window)
    (hi : i + 1 ≤ bottom) :
    SweepInv B bottom window i (band.lo i + 1) grid ⟨none, grid⟩ where
  gap := by
    refine Records.none_of ?_
    rintro _ ⟨k, before, rfl, hk, ht⟩
    have := hfits.tight.lo_le_of_trail (Nat.le_of_succ_le hi) ht
    omega
  row := h.start hfits hi

end TableInv

/-- The first row of a cleared table starts blank. -/
theorem RowInv.cleared (hfits : Fits B bottom band window) (grid : Grid) :
    RowInv B bottom window 0 (band.lo 0) (grid.cleared (bottom + 1) window.width)
      (grid.cleared (bottom + 1) window.width) := by
  have hblank : ∀ r c, r ≤ bottom → c < window.offset + window.width →
      (grid.cleared (bottom + 1) window.width).cellAt window r c = none :=
    fun r c hr hc => Grid.cellAt_cleared (Nat.lt_succ_of_le hr) hc
  have hlo : band.lo 0 < window.offset + window.width := hfits.lo_lt_end (Nat.zero_le _)
  refine ⟨Grid.room_cleared _ _ _, fun _ => rfl, fun _ _ _ _ => rfl, ?_, ?_, ?_⟩
  · intro c hc
    rw [hblank 0 c (Nat.zero_le _) (by omega)]
    refine .none_of fun before ht => ?_
    have := hfits.tight.lo_le_of_trail (Nat.zero_le _) ht
    omega
  · intro c hc hsome
    rw [hblank 0 c (Nat.zero_le _) (by omega)] at hsome
    cases hsome
  · exact fun r c _ hr hc => hblank r c hr hc

/-- A sweep that has passed its row's last column leaves the table filled down to that row. -/
theorem RowInv.finish (h : RowInv B bottom window i (band.hi i + 1) old grid)
    (hfits : Fits B bottom band window) (hi : i ≤ bottom)
    (hright : ∀ r < i, ∀ c ≤ band.hi r, B.RightCell r c (old.cellAt window r c))
    (hbeyond : ∀ r < i, ∀ c, band.hi r < c → c < window.offset + window.width →
      old.cellAt window r c = none) :
    TableInv B bottom band window i grid.nextRow where
  room := h.room.nextRow
  right r hr c hc := by
    rw [Grid.cellAt_nextRow]
    rcases Nat.eq_or_lt_of_le hr with rfl | hlt
    · exact h.right c (by omega)
    · rw [h.kept r hlt c (Nat.lt_of_le_of_lt hc (hfits.hi_lt_end (by omega)))]
      exact hright r hlt c hc
  beyond r hr c hc hend := by
    rw [Grid.cellAt_nextRow]
    rcases Nat.eq_or_lt_of_le hr with rfl | hlt
    · exact h.blank r c (.inr ⟨rfl, hc⟩) hi hend
    · rw [h.kept r hlt c hend]
      exact hbeyond r hlt c hc hend
  runs c hc hsome := h.runs c (by omega) hsome
  blank r c hr hb hc := h.blank r c (.inl hr) hb hc

/-- A sweep of the next row leaves the table filled down to that row. -/
theorem SweepInv.finish {sweep : Sweep}
    (h : SweepInv B bottom window i (band.hi (i + 1) + 1) old sweep)
    (hfits : Fits B bottom band window) (hi : i + 1 ≤ bottom)
    (hold : TableInv B bottom band window i old) :
    TableInv B bottom band window (i + 1) sweep.grid.nextRow :=
  h.row.finish hfits hi (fun r hr => hold.right r (Nat.le_of_lt_succ hr))
    (fun r hr => hold.beyond r (Nat.le_of_lt_succ hr))

section Fill

variable {α : Type} [Symbol α] {rule : CaseRule} {p : α} {pattern rest : List α} {text : Array α}
  {bonuses : Array Nat}

theorem Board.of_agrees (hp : pattern[i]? = some p) (j : Nat) :
    text[j]?.any (Symbol.same rule p) ↔ (Board.of rule pattern text).agrees i j := by
  simp [Board.of, hp]

/-- A whole sweep fills the next row. -/
theorem sweep_inv (hbonus : ∀ j, bonuses.getD j 0 = B.bonus j)
    (hmatch : ∀ j, text[j]?.any (Symbol.same rule p) ↔ B.agrees (i + 1) j)
    (hfits : Fits B bottom band window) (hi : i + 1 ≤ bottom)
    (h : TableInv B bottom band window i grid) :
    TableInv B bottom band window (i + 1) (foldColumns
      (rowStep rule p text bonuses window i (band.lo i) (band.lo (i + 1)))
      (band.hi (i + 1) - band.lo i) (band.lo i + 1) ⟨none, grid⟩ : Id Sweep).run.grid.nextRow := by
  have hlohi : band.lo i ≤ band.hi (i + 1) := by
    have := hfits.tight.lo_lt i hi
    have := hfits.tight.lo_le_hi hi
    omega
  have hend := foldColumns_inv (fun j => SweepInv B bottom window i j grid)
    (band.hi (i + 1) - band.lo i) (fun j s hj hjc hs =>
      rowStep_inv hbonus hmatch hfits hi (h.aboveRight hfits hi) hj (by omega) hs)
    (h.startSweep hfits hi)
  rw [show band.lo i + 1 + (band.hi (i + 1) - band.lo i) = band.hi (i + 1) + 1 by omega] at hend
  exact hend.finish hfits hi h

/-- What a suffix that is not empty says about its list. -/
theorem of_drop_eq_cons {β : Type} {l rest : List β} {n : Nat} {x : β}
    (h : l.drop n = x :: rest) : l[n]? = some x ∧ l.drop (n + 1) = rest := by
  constructor
  · rw [← List.head?_drop, h]
    rfl
  · rw [← List.drop_drop, h]
    rfl

/-- Sweeps fill all rows that are left. -/
theorem fillRows_inv (hbonus : ∀ j, bonuses.getD j 0 = bonusAt text j)
    (hfits : Fits (Board.of rule pattern text) bottom band window)
    (hrest : pattern.drop (i + 1) = rest) (hbottom : i + rest.length = bottom)
    (h : TableInv (Board.of rule pattern text) bottom band window i grid) :
    TableInv (Board.of rule pattern text) bottom band window bottom
      (fillRows rule text bonuses band window rest i grid : Id Grid) := by
  induction rest generalizing i grid with
  | nil =>
    obtain rfl : i = bottom := by simpa using hbottom
    exact h
  | cons p rest ih =>
    obtain ⟨hp, hnext⟩ := of_drop_eq_cons hrest
    rw [List.length_cons] at hbottom
    exact ih hnext (by omega) (sweep_inv hbonus (Board.of_agrees hp) hfits (by omega) h)

/-- The first row of a cleared table. -/
theorem firstRow_inv (grid : Grid) (hbonus : ∀ j, bonuses.getD j 0 = B.bonus j)
    (hmatch : ∀ j, text[j]?.any (Symbol.same rule p) ↔ B.agrees 0 j)
    (hfits : Fits B bottom band window) :
    TableInv B bottom band window 0 (foldColumns (firstRowStep rule p text bonuses window)
      (band.hi 0 + 1 - band.lo 0) (band.lo 0)
      (grid.cleared (bottom + 1) window.width) : Id Grid).run.nextRow := by
  have hlohi := hfits.tight.lo_le_hi (Nat.zero_le _)
  have hend := foldColumns_inv
    (fun j => RowInv B bottom window 0 j (grid.cleared (bottom + 1) window.width))
    (band.hi 0 + 1 - band.lo 0) (fun j s hj hjc hs =>
      firstRowStep_inv hbonus hmatch hfits hj (by omega) hs) (.cleared hfits grid)
  rw [show band.lo 0 + (band.hi 0 + 1 - band.lo 0) = band.hi 0 + 1 by omega] at hend
  exact hend.finish hfits (Nat.zero_le _) (fun r hr => by omega) (fun r hr => by omega)

end Fill

/-! ## The choice in the last row -/

/-- What is chosen among the cells of a row before column `j`: the highest score, with the leftmost
column that has it. -/
def Chosen (B : Board) (i j : Nat) : Option (Int × Nat) → Prop
  | none => ∀ k < j, ∀ other, ¬ IsTrail B i k other
  | some (s, c) => c < j ∧ (∃ before, IsTrail B i c before ∧ score B c before = s) ∧
      ∀ k < j, ∀ other, IsTrail B i k other →
        score B k other < s ∨ (score B k other = s ∧ c ≤ k)

/-- The trail that is shown for a pattern: none has a higher score, none of equal score ends further
left, and none of equal score that ends in the same column has greater columns. -/
structure Shown (B : Board) (bottom j : Nat) (before : List Nat) : Prop where
  best : IsBest (IsTrail B bottom j) (score B j) (some before)
  leftmost : ∀ k other, IsTrail B bottom k other →
    score B k other < score B j before ∨ (score B k other = score B j before ∧ j ≤ k)

/-- The choice between what has been chosen so far and a cell. -/
def pickBest (best : Option (Int × Nat)) (j : Nat) : Option Cell → Option (Int × Nat)
  | none => best
  | some cell =>
    match best with
    | none => some (cell.score, j)
    | some (s, c) => if cell.score > s then some (cell.score, j) else some (s, c)

theorem bestStep_id (grid : Grid) (window : Window) (i : Nat) (best : Option (Int × Nat))
    (j : Nat) : (bestStep grid window i best j : Id (Option (Int × Nat))) =
      pickBest best j (grid.cellAt window i j) := by
  unfold bestStep
  rw [Grid.cell_id]
  cases grid.cellAt window i j <;> cases best <;> rfl

theorem Chosen.step {best : Option (Int × Nat)} {cell : Option Cell} (h : Chosen B i j best)
    (hcell : B.RightCell i j cell) : Chosen B i (j + 1) (pickBest best j cell) := by
  cases cell with
  | none =>
    have hno := hcell.trail.none_iff.mp rfl
    cases best with
    | none => exact Nat.forall_lt_succ_right.mpr ⟨h, hno⟩
    | some b =>
      obtain ⟨hc, hfront, hmost⟩ := h
      refine ⟨Nat.lt_succ_of_lt hc, hfront, Nat.forall_lt_succ_right.mpr ⟨hmost, ?_⟩⟩
      intro other ht
      exact absurd ht (hno other)
  | some x =>
    obtain ⟨before, hbest, hx⟩ := hcell.trail.of_some
    have hscore : score B j before = x.score := (congrArg Run.score hx).symm
    have hle : ∀ other, IsTrail B i j other → score B j other ≤ x.score := by
      intro other ht
      rw [← hscore]
      exact hbest.score_le ht
    cases best with
    | none =>
      refine ⟨Nat.lt_succ_self j, ⟨before, hbest.1, hscore⟩, ?_⟩
      refine Nat.forall_lt_succ_right.mpr ⟨?_, ?_⟩
      · intro k hk other ht
        exact absurd ht (h k hk other)
      · intro other ht
        have := hle other ht
        omega
    | some b =>
      obtain ⟨s, c⟩ := b
      obtain ⟨hc, hfront, hmost⟩ := h
      -- the new column wins only with a higher score, so ties stay with the columns on its left
      by_cases hgt : x.score > s
      · simp only [pickBest, if_pos hgt]
        refine ⟨Nat.lt_succ_self j, ⟨before, hbest.1, hscore⟩, ?_⟩
        refine Nat.forall_lt_succ_right.mpr ⟨?_, ?_⟩
        · intro k hk other ht
          have := hmost k hk other ht
          omega
        · intro other ht
          have := hle other ht
          omega
      · simp only [pickBest, if_neg hgt]
        refine ⟨Nat.lt_succ_of_lt hc, hfront, Nat.forall_lt_succ_right.mpr ⟨hmost, ?_⟩⟩
        intro other ht
        have := hle other ht
        omega

namespace TableInv

/-- The search along the last row of a filled table finds the trail that is shown. -/
theorem choice (h : TableInv B bottom band window bottom grid)
    (htight : Tight B bottom band) : ∃ j before, Shown B bottom j before ∧
      (foldColumns (bestStep grid window bottom) (band.hi bottom + 1 - band.lo bottom)
        (band.lo bottom) none : Id (Option (Int × Nat))) = some (score B j before, j) := by
  have hlohi := htight.lo_le_hi (Nat.le_refl bottom)
  have hstart : Chosen B bottom (band.lo bottom) none := by
    intro k hk other ht
    have := htight.lo_le_of_trail (Nat.le_refl bottom) ht
    omega
  have hend : Chosen B bottom (band.hi bottom + 1) (foldColumns (bestStep grid window bottom)
      (band.hi bottom + 1 - band.lo bottom) (band.lo bottom) none : Id (Option (Int × Nat))) := by
    rw [show band.hi bottom + 1 =
      band.lo bottom + (band.hi bottom + 1 - band.lo bottom) by omega, Nat.add_sub_cancel_left]
    refine foldColumns_inv (Chosen B bottom) _ (fun j best hj hjc hbest => ?_) hstart
    rw [bestStep_id]
    exact hbest.step (h.right bottom (Nat.le_refl _) j (by omega))
  have hin : ∀ k other, IsTrail B bottom k other → k < band.hi bottom + 1 := fun k _ ht =>
    Nat.lt_succ_of_le (htight.le_hi k ht.agrees)
  cases hbest : (foldColumns (bestStep grid window bottom)
      (band.hi bottom + 1 - band.lo bottom) (band.lo bottom) none : Id (Option (Int × Nat))) with
  | none =>
    rw [hbest] at hend
    obtain ⟨front, ht⟩ := htight.exists_trail (Nat.le_refl bottom)
    exact absurd ht (hend _ (hin _ _ ht) front)
  | some b =>
    rw [hbest] at hend
    obtain ⟨s, j⟩ := b
    obtain ⟨hj, ⟨front, hfront, hs⟩, hmost⟩ := hend
    have hcell := h.right bottom (Nat.le_refl _) j (by omega)
    obtain ⟨cell, hcell'⟩ := Option.isSome_iff_exists.mp (hcell.isSome_iff.mpr ⟨front, hfront⟩)
    rw [hcell'] at hcell
    obtain ⟨before, hb, -⟩ := hcell.trail.of_some
    have hscore : score B j before = s := by
      have := hb.score_le hfront
      have := hmost j hj before hb.1
      omega
    rw [← hscore] at hmost ⊢
    exact ⟨j, before, ⟨hb, fun k other ht => hmost k (hin k other ht) other ht⟩, rfl⟩

end TableInv

/-- Filling a table leaves every row right and finds the trail that is shown. -/
theorem fill_shown {α : Type} [Symbol α] {rule : CaseRule} {p : α} {rest : List α}
    {text : Array α} {bonuses : Array Nat} (hbonus : ∀ j, bonuses.getD j 0 = bonusAt text j)
    (htight : Tight (Board.of rule (p :: rest) text) rest.length band) (grid : Grid) :
    ∃ j before grid', Shown (Board.of rule (p :: rest) text) rest.length j before ∧
      TableInv (Board.of rule (p :: rest) text) rest.length band (span band rest.length)
        rest.length grid' ∧
      (fill rule (p :: rest) text bonuses band grid : Id (Option (Int × Nat) × Window × Grid)) =
        (some (score (Board.of rule (p :: rest) text) j before, j), span band rest.length,
          grid') := by
  have hfits := Fits.of_tight htight
  have hfirst := firstRow_inv grid hbonus (fun _ => Board.of_cons_zero.symm) hfits
  have htable := fillRows_inv hbonus hfits rfl (Nat.zero_add _) hfirst
  obtain ⟨j, before, hshown, hbest⟩ := htable.choice htight
  refine ⟨j, before, _, hshown, htable, ?_⟩
  rw [← hbest]
  rfl

end FuzzyRank
