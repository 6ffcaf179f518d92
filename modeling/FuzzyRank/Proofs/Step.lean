import FuzzyRank.Proofs.Cell

/-!
What one column of a sweep computes.

From right cells and runs of the row above come the right runs, the right gap and the right entry of
the next column. Each of the three is an equation between trails: those that go on with a run grow
out of the trails of the diagonal cell, those that leave a gap out of the cells further back.
-/

namespace FuzzyRank

open FuzzyRank.Alignment Guarded Scoring Trail

namespace Board

variable {B : Board} {i j k : Nat}

/-! ## Runs -/

/-- The trails of the diagonal cell that a run of the slot can go on from. -/
def Extensible (B : Board) (i k s : Nat) (before : List Nat) : Prop :=
  B.GoesOnIn i k s before ∨ (B.Begins i k before ∧ slot B k before = s)

theorem goesOnIn_succ_iff {s : Nat} (ha : B.agrees (i + 1) (k + 1)) (t : List Nat) :
    B.GoesOnIn (i + 1) (k + 1) s t ↔ ∃ before, t = k :: before ∧ B.Extensible i k s before := by
  constructor
  · rintro ⟨⟨ht, hr⟩, hs⟩
    obtain ⟨i', k', before, hi, hk, rfl, htrail⟩ := ht.of_runLength_ne_zero hr
    cases hi
    cases hk
    rw [slot_follow] at hs
    refine ⟨before, rfl, ?_⟩
    by_cases h0 : runLength k before = 0
    · exact .inr ⟨⟨htrail, h0⟩, hs⟩
    · exact .inl ⟨⟨htrail, h0⟩, hs⟩
  · rintro ⟨before, rfl, ⟨⟨ht, _⟩, hs⟩ | ⟨⟨ht, _⟩, hs⟩⟩
    all_goals exact ⟨⟨.next ha (Nat.lt_succ_self k) ht, by simp⟩, by rw [slot_follow]; exact hs⟩

/-- A run extended by one column is right if it comes from the best trail of the diagonal cell. -/
theorem rightRun_of_extensible {s : Nat} {best : Option (List Nat)} {run : Option Run}
    (ha : B.agrees (i + 1) (k + 1)) (hbest : IsBest (B.Extensible i k s) (score B k) best)
    (hrun : run = best.map fun a =>
      ⟨score B k a + (matchPoints + (B.bonus (k + 1) : Nat)) + slotBonus s, runLength k a + 1⟩) :
    B.RightRun (i + 1) (k + 1) s run := by
  have hslot : ∀ a, B.Extensible i k s a → slot B k a = s := by
    rintro a (h | h)
    · exact h.2
    · exact h.2
  have hscore : ∀ a, B.Extensible i k s a → score B (k + 1) (k :: a) =
      score B k a + (matchPoints + (B.bonus (k + 1) : Nat)) + slotBonus s := by
    intro a h
    rw [score_follow, hslot a h]
  have hcons := hbest.cons (goesOnIn_succ_iff ha) fun a h =>
    (hscore a h).trans (Int.add_assoc _ _ _)
  refine ⟨_, hcons, ?_⟩
  cases best with
  | none => exact hrun
  | some a => simp [hrun, runOf, hscore a hbest.1]

/-- A run that begins at the diagonal cell has gone on by one column. -/
theorem rightRun_of_fresh {s : Nat} {b : List Nat} (ha : B.agrees (i + 1) (k + 1))
    (hzero : runLength k b = 0) (hbest : IsBest (B.Extensible i k s) (score B k) (some b)) :
    B.RightRun (i + 1) (k + 1) s
      (some ⟨score B k b + (matchPoints + (B.bonus (k + 1) : Nat)) + slotBonus s, 1⟩) := by
  refine rightRun_of_extensible ha hbest ?_
  rw [Option.map_some, hzero]

/-- The choice between the run carried over and one that begins at the diagonal cell is right. -/
theorem extendSlot_right {row s : Nat} {carried : Option Run} {fresh : Option Entry}
    (ha : B.agrees (i + 1) (k + 1)) (hc : B.RightRun i k s carried)
    (hf : Records (fun a => B.Begins i k a ∧ slot B k a = s) (score B k) (B.entryOf k) fresh) :
    B.RightRun (i + 1) (k + 1) s
      (extendSlot row (matchPoints + (B.bonus (k + 1) : Nat)) s carried fresh :
        Id (Option Run)) := by
  -- the grown run and the fresh one come from trails of the same cell; only a higher score lets the
  -- fresh one win, since the grown one is longer
  cases carried with
  | none =>
    have hnc := hc.none_iff.mp rfl
    cases fresh with
    | none =>
      have hnf := hf.none_iff.mp rfl
      have hnone : IsBest (B.Extensible i k s) (score B k) none := fun a h =>
        h.elim (hnc a) (hnf a)
      exact rightRun_of_extensible ha hnone rfl
    | some e =>
      obtain ⟨b, hb, rfl⟩ := hf.of_some
      exact rightRun_of_fresh ha hb.1.1.2 (hb.or_right fun a h => absurd h (hnc a))
  | some r =>
    obtain ⟨a, hbest, rfl⟩ := hc.of_some
    cases fresh with
    | none =>
      have hnf := hf.none_iff.mp rfl
      exact rightRun_of_extensible ha (hbest.or_left fun b h => absurd h (hnf b)) rfl
    | some e =>
      obtain ⟨b, hb, rfl⟩ := hf.of_some
      show B.RightRun (i + 1) (k + 1) s (if score B k b + _ + slotBonus s >
        score B k a + _ + slotBonus s then some (Run.mk _ 1) else some (Run.mk _ _))
      split
      · next h =>
        have hlt : score B k a < score B k b := by omega
        exact rightRun_of_fresh ha hb.1.1.2 (hb.or_right (hbest.better_of_better (.inl hlt)))
      · next h =>
        have hle : score B k b ≤ score B k a := by omega
        exact rightRun_of_extensible ha
          (hbest.or_left (hb.better_of_better (hbest.1.1.better hb.1.1 hle))) rfl

theorem length_extendSlots (row headSlot s : Nat) (step : Int) (head : Option Entry)
    (runs : Runs) : (extendSlots row step headSlot head s runs : Id Runs).run.length =
      runs.length := by
  induction runs generalizing s with
  | nil => rfl
  | cons carried runs ih => exact congrArg (· + 1) (ih (s + 1))

theorem extendSlots_getElem? {row headSlot s t : Nat} {step : Int} {head : Option Entry}
    {runs : Runs} {run : Option Run}
    (h : (extendSlots row step headSlot head s runs : Id Runs).run[t]? = some run) :
    ∃ carried, runs[t]? = some carried ∧ run = (extendSlot row step (s + t) carried
      (if s + t = headSlot then head else none) : Id (Option Run)) := by
  induction runs generalizing s t with
  | nil => cases h
  | cons carried runs ih =>
    cases t with
    | zero =>
      cases h
      exact ⟨carried, rfl, rfl⟩
    | succ t =>
      obtain ⟨carried', hget, hrun⟩ := ih (s := s + 1) h
      refine ⟨carried', hget, ?_⟩
      rw [hrun, show s + 1 + t = s + (t + 1) by omega]

/-- Only at the place of the diagonal column's own bonus can a run begin there. -/
theorem fresh_records {s : Nat} {head : Option Entry} (h : B.RightEntry i k head) :
    Records (fun a => B.Begins i k a ∧ slot B k a = s) (score B k) (B.entryOf k)
      (if s = slotOf (B.bonus k) then head else none) := by
  have hslot : ∀ a, B.Begins i k a → slot B k a = slotOf (B.bonus k) := by
    intro a ha
    rw [slot, runHead_of_runLength_eq_zero ha.2]
  split
  · next hs => exact h.congr fun a => ⟨fun ha => ⟨ha, (hslot a ha).trans hs.symm⟩, fun ha => ha.1⟩
  · next hs => exact .none_of fun a ha => hs (ha.2.symm.trans (hslot a ha.1))

theorem noRuns_right (h : ∀ before, ¬ B.GoesOn i j before) : B.RightRuns i j noRuns where
  length_eq := List.length_replicate
  right s run hs := by
    rw [noRuns, List.getElem?_replicate] at hs
    split at hs
    · cases hs
      exact .none_of fun a ha => h a ha.1
    · cases hs

/-- The runs that extend right runs are right. -/
theorem extendRuns_right {grid : Grid} {window : Window} {bonuses : Array Nat}
    (hbonus : ∀ j, bonuses.getD j 0 = B.bonus j) (ha : B.agrees (i + 1) (k + 1))
    (hcell : B.RightCell i k (grid.cellAt window i k))
    (hruns : (grid.cellAt window i k).isSome → B.RightRuns i k (grid.aboveAt window k)) :
    B.RightRuns (i + 1) (k + 1) (extendRuns grid window bonuses i (k + 1) : Id Runs) := by
  show B.RightRuns (i + 1) (k + 1) (match (grid.cell window i k : Id (Option Cell)) with
    | none => noRuns
    | some diagonal => (extendSlots (i + 1) (matchPoints + (bonuses.getD (k + 1) 0 : Nat))
        (slotOf (bonuses.getD k 0)) diagonal.entry 0 (grid.aboveAt window k) : Id Runs).run)
  rw [Grid.cell_id]
  cases hget : grid.cellAt window i k with
  | none =>
    -- old runs behind an unreachable cell are not looked at
    have hno : ∀ before, ¬ IsTrail B i k before := by
      have h := hcell.isSome_iff
      rw [hget] at h
      simpa using h
    refine noRuns_right fun t ht => ?_
    obtain ⟨_, k', rest, hi, hk, _, htrail⟩ := ht.1.of_runLength_ne_zero ht.2
    cases hi
    cases hk
    exact hno rest htrail
  | some diagonal =>
    have hright := hruns (by simp [hget])
    have hentry := hcell.entry
    rw [hget] at hentry
    constructor
    case length_eq => rw [length_extendSlots, hright.length_eq]
    case right =>
      intro s run hs
      obtain ⟨carried, hc, rfl⟩ := extendSlots_getElem? hs
      rw [Nat.zero_add, hbonus, hbonus]
      exact extendSlot_right ha (hright.right s carried hc) (fresh_records hentry)

/-! ## Gaps -/

theorem skips_succ_iff (t : List Nat) :
    (∃ k rest, t = k :: rest ∧ k + 1 = j ∧ IsTrail B i k rest) ∨ B.Skips i j t ↔
      B.Skips i (j + 1) t := by
  constructor
  · rintro (⟨k, rest, rfl, hk, ht⟩ | ⟨k, rest, rfl, hk, ht⟩)
    · exact ⟨k, rest, rfl, by omega, ht⟩
    · exact ⟨k, rest, rfl, by omega, ht⟩
  · rintro ⟨k, rest, rfl, hk, ht⟩
    rcases Nat.lt_or_ge j (k + 2) with hlt | hge
    · exact .inl ⟨k, rest, rfl, by omega, ht⟩
    · exact .inr ⟨k, rest, rfl, hge, ht⟩

/-- A gap kept for one more column costs one more column. -/
theorem gap_shift {best : Option (List Nat)} (h : IsBest (B.Skips i j) (score B j) best) :
    IsBest (B.Skips i j) (score B (j + 1)) best ∧
      best.map (B.gapOf (j + 1)) =
        (best.map (B.gapOf j)).map fun g => { g with score := g.score + gapExtension } := by
  constructor
  · refine h.shift (d := B.columnScore (j + 1) - B.columnScore j + gapExtension) ?_
    rintro _ ⟨k, rest, rfl, hk, _⟩
    have := score_skip_succ B hk rest
    omega
  · cases best with
    | none => rfl
    | some a =>
      obtain ⟨k, rest, rfl, hk, _⟩ := h.1
      simp [gapOf, score_skip_succ B hk rest]

/-- The gap before a column, charged for that column. -/
def chargeGap (gap : Option Gap) : Option Gap :=
  gap.map fun g => { g with score := g.score + gapExtension }

/-- The better of the gap that a cell opens and the gap so far. -/
def pickGap (opened : Gap) : Option Gap → Gap
  | none => opened
  | some g => if opened.score ≥ g.score then opened else g

theorem advanceGap_id (grid : Grid) (window : Window) (above aboveFirst column : Nat)
    (gap : Option Gap) :
    (advanceGap grid window above aboveFirst column gap : Id (Option Gap)) =
      if column < aboveFirst + 2 then chargeGap gap
      else match grid.cellAt window above (column - 2) with
        | none => chargeGap gap
        | some cell => some (pickGap ⟨cell.score + gapOpening, column - 2⟩ (chargeGap gap)) := by
  rw [← Grid.cell_id]
  unfold advanceGap
  split
  · cases gap <;> rfl
  · cases gap with
    | none =>
      show (match (grid.cell window above (column - 2) : Id (Option Cell)) with
        | none => none
        | some cell => some (Gap.mk (cell.score + gapOpening) (column - 2))) = _
      cases (grid.cell window above (column - 2) : Id (Option Cell)) <;> rfl
    | some g =>
      show (match (grid.cell window above (column - 2) : Id (Option Cell)) with
        | none => some { g with score := g.score + gapExtension }
        | some cell =>
          if cell.score + gapOpening ≥ g.score + gapExtension then
            some ⟨cell.score + gapOpening, column - 2⟩
          else some { g with score := g.score + gapExtension }) = _
      cases (grid.cell window above (column - 2) : Id (Option Cell)) with
      | none => rfl
      | some cell =>
        show (if _ then _ else _) = some (if _ then _ else _)
        split <;> rfl

/-- The best trail of the cell two columns back, with the narrowest gap after it. -/
theorem opened_isBest {a : List Nat} (h : IsBest (IsTrail B i k) (score B k) (some a)) :
    IsBest (fun t => ∃ k' rest, t = k' :: rest ∧ k' + 1 = k + 1 ∧ IsTrail B i k' rest)
      (score B (k + 2)) (some (k :: a)) := by
  refine h.cons (d := B.columnScore (k + 2) + gapOpening) (fun t => ?_) fun b _ => ?_
  · constructor
    · rintro ⟨k', rest, rfl, hk, ht⟩
      cases hk
      exact ⟨rest, rfl, ht⟩
    · rintro ⟨rest, rfl, ht⟩
      exact ⟨k, rest, rfl, rfl, ht⟩
  · have := score_skip_one B k b
    omega

/-- The nearest source wins ties. -/
theorem better_of_source {k k' : Nat} {a b : List Nat} {f : List Nat → Int} (hk : k' < k)
    (hs : f (k' :: b) ≤ f (k :: a)) : Better f (k :: a) (k' :: b) := by
  rcases Int.lt_or_eq_of_le hs with hlt | heq
  · exact .inl hlt
  · exact .inr ⟨heq, List.cons_lt_cons_iff.mpr (.inl hk)⟩

theorem pickGap_right {a : List Nat} {gap : Option Gap}
    (ha : IsBest (IsTrail B i k) (score B k) (some a)) (hg : B.RightGap i (k + 1) gap) :
    B.RightGap i (k + 2) (some (pickGap ⟨score B k a + gapOpening, k⟩ (chargeGap gap))) := by
  have hopen := opened_isBest ha
  have hview : B.gapOf (k + 2) (k :: a) = ⟨score B k a + gapOpening, k⟩ := by
    simp [gapOf, score_skip_one]
  obtain ⟨best, hbest, rfl⟩ := hg
  obtain ⟨hshift, hcharge⟩ := gap_shift hbest
  cases best with
  | none =>
    exact .some_of ((hopen.or_left fun t ht => absurd ht (hbest t)).congr skips_succ_iff) hview.symm
  | some b =>
    obtain ⟨k', rest, rfl, hk, _⟩ := hbest.1
    have hcost : (B.gapOf (k + 2) (k' :: rest)).score =
        (B.gapOf (k + 1) (k' :: rest)).score + gapExtension := by
      simpa using congrArg (Option.map Gap.score) hcharge
    simp only [Option.map_some, chargeGap, pickGap]
    split
    · next h =>
      have hle : score B (k + 2) (k' :: rest) ≤ score B (k + 2) (k :: a) := by
        have hv := congrArg Gap.score hview
        simp only [gapOf] at hv hcost h
        omega
      exact .some_of ((hopen.or_left (hshift.better_of_better
        (better_of_source (by omega) hle))).congr skips_succ_iff) hview.symm
    · next h =>
      have hlt : score B (k + 2) (k :: a) < score B (k + 2) (k' :: rest) := by
        have hv := congrArg Gap.score hview
        simp only [gapOf] at hv hcost h
        omega
      refine .some_of ((hshift.or_right (hopen.better_of_better (.inl hlt))).congr
        skips_succ_iff) ?_
      simpa using hcharge.symm

/-- The gap for a column is right if the gap for the column before it is, and the cell two columns
back. -/
theorem advanceGap_right {grid : Grid} {window : Window} {aboveFirst : Nat} {gap : Option Gap}
    (hfirst : ∀ k before, IsTrail B i k before → aboveFirst ≤ k)
    (hcell : ∀ k, k + 1 = j → B.RightCell i k (grid.cellAt window i k))
    (hg : B.RightGap i j gap) :
    B.RightGap i (j + 1) (advanceGap grid window i aboveFirst (j + 1) gap : Id (Option Gap)) := by
  -- where no trail ends two columns back, the old gap is only charged
  have hkept : (∀ k rest, k + 1 = j → ¬ IsTrail B i k rest) →
      B.RightGap i (j + 1) (chargeGap gap) := by
    intro hnone
    obtain ⟨best, hbest, rfl⟩ := hg
    obtain ⟨hshift, hcharge⟩ := gap_shift hbest
    refine ⟨best, hshift.congr fun t => ?_, hcharge.symm⟩
    rw [← skips_succ_iff]
    exact ⟨.inr, fun h => h.resolve_left fun ⟨k, rest, _, hk, ht⟩ => hnone k rest hk ht⟩
  rw [advanceGap_id]
  split
  · next hnear =>
    refine hkept fun k rest hk ht => ?_
    have := hfirst k rest ht
    omega
  · next hfar =>
    obtain ⟨k, rfl⟩ : ∃ k, j = k + 1 := ⟨j - 1, by omega⟩
    rw [show k + 1 + 1 - 2 = k by omega]
    have hk := hcell k rfl
    cases hget : grid.cellAt window i k with
    | none =>
      refine hkept fun k' rest hk' ht => ?_
      cases hk'
      have := hk.isSome_iff.mpr ⟨rest, ht⟩
      simp [hget] at this
    | some cell =>
      have htrail := hk.trail
      rw [hget] at htrail
      obtain ⟨a, ha, hview⟩ := htrail.of_some
      have hscore : cell.score = score B k a := congrArg Run.score hview
      simp only [hscore]
      exact pickGap_right ha hg

/-! ## Entries -/

theorem matchScore_id {bonuses : Array Nat} (hbonus : ∀ j, bonuses.getD j 0 = B.bonus j)
    (row j : Nat) : (matchScore row bonuses j : Id Int) = B.columnScore j := by
  show matchPoints + ((if j = 0 then bonuses.getD j 0 * startFactor else bonuses.getD j 0 : Nat) :
    Int) = _
  rw [hbonus]
  rfl

theorem begins_succ_iff (ha : B.agrees (i + 1) j) (t : List Nat) :
    B.Skips i j t ↔ B.Begins (i + 1) j t := by
  constructor
  · rintro ⟨k, rest, rfl, hk, ht⟩
    exact ⟨.next ha (by omega) ht, runLength_skip (by omega) rest⟩
  · rintro ⟨ht, hr⟩
    exact ht.of_runLength_eq_zero hr

/-- The entry after a right gap is right. -/
theorem enter_right {bonuses : Array Nat} {gap : Option Gap}
    (hbonus : ∀ j, bonuses.getD j 0 = B.bonus j) (row : Nat) (ha : B.agrees (i + 1) j)
    (hg : B.RightGap i j gap) :
    B.RightEntry (i + 1) j (enter row bonuses j gap : Id (Option Entry)) := by
  obtain ⟨best, hbest, rfl⟩ := hg
  refine ⟨best, hbest.congr (begins_succ_iff ha), ?_⟩
  cases best with
  | none => rfl
  | some a =>
    obtain ⟨k, rest, rfl, _, _⟩ := hbest.1
    have hmatch : (matchScore row bonuses j : Id Int).run = B.columnScore j :=
      matchScore_id hbonus row j
    show some (Entry.mk (score B j (k :: rest) - B.columnScore j +
      (matchScore row bonuses j : Id Int).run) (some k)) = some (B.entryOf j (k :: rest))
    rw [hmatch, Int.sub_add_cancel]
    rfl

/-- In the first row every match begins a run. -/
theorem firstCell_right (ha : B.agrees 0 j) :
    B.RightCell 0 j (some ⟨B.columnScore j, 0, some ⟨B.columnScore j, none⟩⟩) := by
  have htrail : ∀ t, IsTrail B 0 j t → t = [] := by
    intro t ht
    cases ht
    rfl
  constructor
  case trail =>
    exact .some_of (a := []) ⟨.first ha, fun t ht => .inl (htrail t ht)⟩ rfl
  case entry =>
    exact .some_of (a := []) ⟨⟨.first ha, rfl⟩, fun t ht => .inl (htrail t ht.1)⟩ rfl

theorem firstRuns_right : B.RightRuns 0 j noRuns := by
  refine noRuns_right fun t ht => ?_
  obtain ⟨_, _, _, hi, _⟩ := ht.1.of_runLength_ne_zero ht.2
  omega

end Board
end FuzzyRank
