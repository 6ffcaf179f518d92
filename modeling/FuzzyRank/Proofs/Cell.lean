import FuzzyRank.Alignment.Fill
import FuzzyRank.Proofs.Best
import FuzzyRank.Proofs.Grid

/-!
What a right cell is, and how it is put together.

A cell records the best trail that ends in it, its entry the best of those that begin a run there,
and a slot of runs the best of those that go on with a run of that slot. The choices of a cell's
parts only ever compare a run with an entry, or runs of different slots; they compare scores and
lengths, and this module shows that nothing more is needed to settle ties by columns.
-/

namespace FuzzyRank

open FuzzyRank.Alignment Scoring Trail

namespace Board

variable (B : Board) (i j : Nat)

/-- The trails in which the last column begins a run. -/
def Begins (before : List Nat) : Prop :=
  IsTrail B i j before ∧ runLength j before = 0

/-- The trails in which the last column goes on with a run. -/
def GoesOn (before : List Nat) : Prop :=
  IsTrail B i j before ∧ runLength j before ≠ 0

/-- The trails in which the last column goes on with a run of the given slot. -/
def GoesOnIn (s : Nat) (before : List Nat) : Prop :=
  B.GoesOn i j before ∧ slot B j before = s

/-- The columns before column `j` of the next row, where at least one column is left out. -/
def Skips (before : List Nat) : Prop :=
  ∃ k rest, before = k :: rest ∧ k + 2 ≤ j ∧ IsTrail B i k rest

/-- The entry that keeps the numbers of a trail. -/
def entryOf (before : List Nat) : Entry :=
  ⟨score B j before, before.head?⟩

/-- The run that keeps the numbers of a trail. -/
def runOf (before : List Nat) : Run :=
  ⟨score B j before, runLength j before⟩

/-- The gap that keeps the numbers of a trail, without what its last column earns. -/
def gapOf (before : List Nat) : Gap :=
  ⟨score B j before - B.columnScore j, before.headD 0⟩

/-- The entry is that of the best trail that begins a run in the cell. -/
def RightEntry (entry : Option Entry) : Prop :=
  Records (B.Begins i j) (score B j) (B.entryOf j) entry

/-- The run is that of the best trail that goes on with a run of the slot. -/
def RightRun (s : Nat) (run : Option Run) : Prop :=
  Records (B.GoesOnIn i j s) (score B j) (B.runOf j) run

/-- The gap is that of the best trail that a gap can be left after. -/
def RightGap (gap : Option Gap) : Prop :=
  Records (B.Skips i j) (score B j) (B.gapOf j) gap

/-- Every slot holds the run of its best trail. -/
structure RightRuns (runs : Runs) : Prop where
  length_eq : runs.length = slotCount
  right : ∀ s run, runs[s]? = some run → B.RightRun i j s run

/-- The cell holds the score and the run of the best trail that ends in it, and the entry of the
best one that begins a run there. -/
structure RightCell (cell : Option Cell) : Prop where
  trail : Records (IsTrail B i j) (score B j) (B.runOf j)
    (cell.map fun c => ⟨c.score, c.run⟩)
  entry : B.RightEntry i j (cell.bind (·.entry))

variable {B i j}

theorem trail_iff (before : List Nat) :
    B.GoesOn i j before ∨ B.Begins i j before ↔ IsTrail B i j before := by
  unfold GoesOn Begins
  by_cases h : runLength j before = 0 <;> simp [h]

theorem RightCell.none_of (h : ∀ before, ¬ IsTrail B i j before) : B.RightCell i j none where
  trail := Records.none_of h
  entry := Records.none_of fun before hb => h before hb.1

theorem RightCell.isSome_iff {cell : Option Cell} (h : B.RightCell i j cell) :
    cell.isSome ↔ ∃ before, IsTrail B i j before := by
  have hn := h.trail.none_iff
  cases cell with
  | none => simpa using hn
  | some c => simpa using hn

/-! ## Choosing between the parts of a cell -/

/-- At equal score the trail with the longer run is better. -/
theorem better_of_runLength_lt {a b : List Nat} (ha : IsTrail B i j a) (hb : IsTrail B i j b)
    (hs : score B j b ≤ score B j a) (hr : runLength j b < runLength j a) :
    Better (score B j) a b := by
  rcases Int.lt_or_eq_of_le hs with hlt | heq
  · exact .inl hlt
  · exact .inr ⟨heq, hb.lt_of_runLength_lt ha hr⟩

/-- A run wins over an entry of equal score. -/
theorem GoesOn.better {a b : List Nat} (ha : B.GoesOn i j a) (hb : B.Begins i j b)
    (hs : score B j b ≤ score B j a) : Better (score B j) a b :=
  better_of_runLength_lt ha.1 hb.1 hs (by
    have := ha.2
    have := hb.2
    omega)

theorem isBest_of_goesOn {a b : List Nat} (ha : IsBest (B.GoesOn i j) (score B j) (some a))
    (hb : IsBest (B.Begins i j) (score B j) (some b)) (hs : score B j b ≤ score B j a) :
    IsBest (IsTrail B i j) (score B j) (some a) :=
  (ha.or_left (hb.better_of_better (ha.1.better hb.1 hs))).congr trail_iff

theorem isBest_of_begins {a b : List Nat} (ha : IsBest (B.GoesOn i j) (score B j) (some a))
    (hb : IsBest (B.Begins i j) (score B j) (some b)) (hs : score B j a < score B j b) :
    IsBest (IsTrail B i j) (score B j) (some b) :=
  (hb.or_right (ha.better_of_better (.inl hs))).congr trail_iff

/-- The cell made of a right entry and the best run is right. -/
theorem rightCell_ofParts {entry : Option Entry} {run : Option Run}
    (he : B.RightEntry i j entry) (hr : Records (B.GoesOn i j) (score B j) (B.runOf j) run) :
    B.RightCell i j (Cell.ofParts entry run) := by
  cases entry with
  | none =>
    have hne := he.none_iff.mp rfl
    cases run with
    | none =>
      have hnr := hr.none_iff.mp rfl
      exact .none_of fun b hb => ((trail_iff b).mpr hb).elim (hnr b) (hne b)
    | some r =>
      obtain ⟨a, ha, rfl⟩ := hr.of_some
      have hbest := (ha.or_left fun b hb => absurd hb (hne b)).congr trail_iff
      exact ⟨.some_of hbest rfl, he⟩
  | some e =>
    obtain ⟨b, hb, rfl⟩ := he.of_some
    cases run with
    | none =>
      have hnr := hr.none_iff.mp rfl
      have hbest := (hb.or_right fun a ha => absurd ha (hnr a)).congr trail_iff
      exact ⟨.some_of hbest (by simp [runOf, entryOf, hb.1.2]), he⟩
    | some r =>
      obtain ⟨a, ha, rfl⟩ := hr.of_some
      simp only [Cell.ofParts]
      split
      · next hs => exact ⟨.some_of (isBest_of_goesOn ha hb hs) rfl, he⟩
      · next hs =>
        have hlt : score B j a < score B j b := Int.not_le.mp hs
        exact ⟨.some_of (isBest_of_begins ha hb hlt) (by simp [runOf, entryOf, hb.1.2]), he⟩

/-! ## Choosing between the slots -/

/-- The choice between the best run so far and that of the next slot. -/
def pickRun : Option Run → Option Run → Option Run
  | none, run => run
  | some a, some b => some (a.better b)
  | some a, none => some a

theorem bestRun_eq (runs : Runs) : bestRun runs = runs.foldl pickRun none := rfl

/-- The trails that go on with a run of one of the first slots. -/
def GoesOnBelow (B : Board) (i j s : Nat) (before : List Nat) : Prop :=
  B.GoesOn i j before ∧ slot B j before < s

theorem goesOnBelow_succ {s : Nat} (before : List Nat) :
    B.GoesOnBelow i j s before ∨ B.GoesOnIn i j s before ↔ B.GoesOnBelow i j (s + 1) before := by
  unfold GoesOnBelow GoesOnIn
  constructor
  · rintro (⟨h, hs⟩ | ⟨h, hs⟩)
    · exact ⟨h, by omega⟩
    · exact ⟨h, by omega⟩
  · rintro ⟨h, hs⟩
    rcases Nat.lt_or_ge (slot B j before) s with hlt | hge
    · exact .inl ⟨h, hlt⟩
    · exact .inr ⟨h, by omega⟩

/-- Runs of different slots have different heads and so different lengths. -/
theorem runLength_ne_of_slot_ne {a b : List Nat} (h : slot B j a ≠ slot B j b) :
    runLength j a ≠ runLength j b := by
  intro heq
  exact h (congrArg (fun c => slotOf (B.bonus c)) (runHead_eq_of_runLength_eq heq))

theorem pickRun_records {s : Nat} {best run : Option Run}
    (hb : Records (B.GoesOnBelow i j s) (score B j) (B.runOf j) best)
    (hr : B.RightRun i j s run) :
    Records (B.GoesOnBelow i j (s + 1)) (score B j) (B.runOf j) (pickRun best run) := by
  cases best with
  | none =>
    have hnone := hb.none_iff.mp rfl
    exact hr.congr fun t => Iff.trans ⟨.inr, fun h => h.resolve_left (hnone t)⟩
      (goesOnBelow_succ t)
  | some x =>
    obtain ⟨a, ha, rfl⟩ := hb.of_some
    cases run with
    | none =>
      have hnone := hr.none_iff.mp rfl
      exact .some_of ((ha.or_left fun t ht => absurd ht (hnone t)).congr goesOnBelow_succ) rfl
    | some y =>
      obtain ⟨b, hb, rfl⟩ := hr.of_some
      have hslot : slot B j a ≠ slot B j b := by
        have := ha.1.2
        have := hb.1.2
        omega
      -- so runs of equal score and length cannot meet here, and the order of the slots is of no
      -- consequence
      have hne := runLength_ne_of_slot_ne hslot
      simp only [pickRun, Run.better]
      split
      · next h =>
        refine .some_of ((hb.or_right (ha.better_of_better ?_)).congr goesOnBelow_succ) rfl
        rcases h with h | ⟨h, hlen⟩
        · exact .inl h
        · exact better_of_runLength_lt hb.1.1.1 ha.1.1.1 (Int.le_of_eq h.symm) hlen
      · next h =>
        refine .some_of ((ha.or_left (hb.better_of_better ?_)).congr goesOnBelow_succ) rfl
        simp only [runOf, not_or, not_and] at h
        rcases Int.lt_or_eq_of_le (Int.not_lt.mp h.1) with hlt | heq
        · exact .inl hlt
        · have := h.2 heq
          exact better_of_runLength_lt ha.1.1.1 hb.1.1.1 (Int.le_of_eq heq) (by omega)

theorem foldl_pickRun_records {runs : List (Option Run)} {s : Nat} {best : Option Run}
    (hb : Records (B.GoesOnBelow i j s) (score B j) (B.runOf j) best)
    (hr : ∀ t run, runs[t]? = some run → B.RightRun i j (s + t) run) :
    Records (B.GoesOnBelow i j (s + runs.length)) (score B j) (B.runOf j)
      (runs.foldl pickRun best) := by
  induction runs generalizing s best with
  | nil => exact hb
  | cons run runs ih =>
    rw [List.foldl_cons, List.length_cons,
      show s + (runs.length + 1) = s + 1 + runs.length by omega]
    refine ih (pickRun_records hb (hr 0 run rfl)) fun t run' ht => ?_
    rw [show s + 1 + t = s + (t + 1) by omega]
    exact hr (t + 1) run' ht

/-- The best of right runs is the run of the best trail that goes on with one. -/
theorem RightRuns.bestRun_records {runs : Runs} (h : B.RightRuns i j runs) :
    Records (B.GoesOn i j) (score B j) (B.runOf j) (bestRun runs) := by
  rw [bestRun_eq]
  have hnone : Records (B.GoesOnBelow i j 0) (score B j) (B.runOf j) none :=
    Records.none_of fun t ht => Nat.not_lt_zero _ ht.2
  refine (foldl_pickRun_records hnone fun t run ht => ?_).congr fun t => ?_
  · rw [Nat.zero_add]
    exact h.right t run ht
  · rw [Nat.zero_add, h.length_eq]
    exact ⟨fun ht => ht.1, fun ht => ⟨ht, slot_lt B j t⟩⟩

end Board
end FuzzyRank
