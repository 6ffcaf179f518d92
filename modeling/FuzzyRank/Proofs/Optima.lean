import FuzzyRank.Proofs.AuditedAlign
import Mathlib.Data.Set.Image
import Mathlib.Order.Bounds.Defs

/-!
What the cells of the filled table stand for.

A cell is reachable if some placement of the pattern up to its row ends in its column. It then holds
the highest score of these placements, its entry the highest score of those that begin a run in the
column, and the source of the entry the greatest column that one of the best of those comes from.
The placements are those of the whole text: that a row is filled inside its band only, and that a
gap is carried along instead of being looked up, makes no difference.
-/

namespace FuzzyRank

open FuzzyRank.Alignment Scoring Trail
open FuzzyRank.Alignment.Band (lo hi Tight)

variable {α : Type} [Symbol α] {rule : CaseRule} {pattern : List α} {text : Array α} {i j : Nat}

/-! ## Placements by their last column -/

/-- The placements of the pattern up to a row that end in a column. -/
def placementsTo (rule : CaseRule) (pattern : List α) (text : Array α) (row column : Nat) :
    Set (List Nat) :=
  {columns | IsPlacement rule (pattern.take (row + 1)) text columns ∧
    columns.getLast? = some column}

/-- Those of them in which the column begins a run: it is the first column of all, or the one before
it is not the next to the left. -/
def runsBegunAt (rule : CaseRule) (pattern : List α) (text : Array α) (row column : Nat) :
    Set (List Nat) :=
  {columns | columns ∈ placementsTo rule pattern text row column ∧
    (row = 0 ∨ ∃ k, columns[row - 1]? = some k ∧ k + 2 ≤ column)}

/-- The columns from which the best of those that begin a run come to it. -/
def sourcesOf (rule : CaseRule) (pattern : List α) (text : Array α) (row column : Nat)
    (score : Int) : Set Nat :=
  {k | ∃ columns ∈ runsBegunAt rule pattern text row column,
    Placement.score text columns = score ∧ columns[row - 1]? = some k}

/-- The cell holds the optima over the placements that end in its column. -/
structure HoldsOptima (rule : CaseRule) (pattern : List α) (text : Array α) (row column : Nat)
    (cell : Option Cell) : Prop where
  reachable : cell.isSome ↔ (placementsTo rule pattern text row column).Nonempty
  score : ∀ c, cell = some c →
    IsGreatest (Placement.score text '' placementsTo rule pattern text row column) c.score
  unset : cell.bind (·.entry) = none ↔ ¬ (runsBegunAt rule pattern text row column).Nonempty
  start : ∀ e, cell.bind (·.entry) = some e →
    IsGreatest (Placement.score text '' runsBegunAt rule pattern text row column) e.score
  noSource : ∀ e, cell.bind (·.entry) = some e → row = 0 → e.source = none
  source : ∀ e, cell.bind (·.entry) = some e → row ≠ 0 →
    ∃ k, e.source = some k ∧ IsGreatest (sourcesOf rule pattern text row column e.score) k

theorem placementsTo_eq (hi : i < pattern.length) : placementsTo rule pattern text i j =
    columnsOf j '' {before | IsTrail (Board.of rule pattern text) i j before} := by
  ext columns
  constructor
  · rintro ⟨hp, hlast⟩
    obtain ⟨front, rfl⟩ := List.getLast?_eq_some_iff.mp hlast
    have hcols : columnsOf j front.reverse = front ++ [j] := by simp [columnsOf]
    refine ⟨front.reverse, ?_, hcols⟩
    rw [Set.mem_ofPred_eq, isTrail_iff_take hi, hcols]
    exact hp
  · rintro ⟨before, t, rfl⟩
    exact ⟨(isTrail_iff_take hi).mp t, by simp [columnsOf]⟩

theorem getElem?_columnsOf (j k : Nat) (rest : List Nat) :
    (columnsOf j (k :: rest))[rest.length]? = some k := by
  simp [columnsOf]

/-- A trail begins a run in its last column if and only if its placement does. -/
theorem runLength_eq_zero_iff {B : Board} {before : List Nat} (t : IsTrail B i j before) :
    runLength j before = 0 ↔
      i = 0 ∨ ∃ k, (columnsOf j before)[i - 1]? = some k ∧ k + 2 ≤ j := by
  cases t with
  | first => simp
  | @next i j k rest _ hkj t =>
    have hlast : (columnsOf j (k :: rest))[i + 1 - 1]? = some k := by
      rw [Nat.add_sub_cancel, ← t.length_eq]
      exact getElem?_columnsOf j k rest
    rw [hlast]
    by_cases h : j = k + 1
    · subst h
      simp
    · have hfar : k + 2 ≤ j := by omega
      simp [runLength_skip h, hfar]

theorem runsBegunAt_eq (hi : i < pattern.length) : runsBegunAt rule pattern text i j =
    columnsOf j '' {before | (Board.of rule pattern text).Begins i j before} := by
  ext columns
  rw [runsBegunAt, Set.mem_ofPred_eq, placementsTo_eq hi]
  constructor
  · rintro ⟨⟨before, t, rfl⟩, hbegins⟩
    exact ⟨before, ⟨t, (runLength_eq_zero_iff t).mpr hbegins⟩, rfl⟩
  · rintro ⟨before, ⟨t, hzero⟩, rfl⟩
    exact ⟨⟨before, t, rfl⟩, (runLength_eq_zero_iff t).mp hzero⟩

/-- The scores of placements are those of their trails. -/
theorem image_score_columnsOf (rule : CaseRule) (pattern : List α) (text : Array α) (j : Nat)
    (S : Set (List Nat)) : Placement.score text '' (columnsOf j '' S) =
      score (Board.of rule pattern text) j '' S := by
  rw [Set.image_image]
  exact Set.image_congr fun before _ => score_columnsOf rule pattern text j before

/-! ## Best trails -/

theorem IsBest.isGreatest {S : List Nat → Prop} {score : List Nat → Int} {a : List Nat}
    (h : IsBest S score (some a)) : IsGreatest (score '' {b | S b}) (score a) := by
  refine ⟨⟨a, h.1, rfl⟩, ?_⟩
  rintro _ ⟨b, hb, rfl⟩
  exact h.score_le hb

/-- Of the trails with the highest score none comes from further right than the best one. -/
theorem IsBest.head_le {S : List Nat → Prop} {score : List Nat → Int} {k k' : Nat}
    {rest rest' : List Nat} (h : IsBest S score (some (k :: rest))) (hS : S (k' :: rest'))
    (hscore : score (k' :: rest') = score (k :: rest)) : k' ≤ k := by
  rcases h.2 _ hS with heq | hlt | ⟨-, hlt⟩
  · exact Nat.le_of_eq (List.cons.inj heq).1
  · omega
  · rcases List.cons_lt_cons_iff.mp hlt with hk | ⟨rfl, -⟩
    · exact Nat.le_of_lt hk
    · exact Nat.le_refl k'

section Entries

variable {e : Entry}

theorem Board.RightEntry.isGreatest (hi : i < pattern.length)
    (h : (Board.of rule pattern text).RightEntry i j (some e)) :
    IsGreatest (Placement.score text '' runsBegunAt rule pattern text i j) e.score := by
  obtain ⟨a, ha, rfl⟩ := h.of_some
  rw [runsBegunAt_eq hi, image_score_columnsOf rule pattern]
  exact ha.isGreatest

theorem Board.RightEntry.source_zero {B : Board} (h : B.RightEntry 0 j (some e)) :
    e.source = none := by
  obtain ⟨a, ha, rfl⟩ := h.of_some
  have hlen := ha.1.1.length_eq
  rw [List.length_eq_zero_iff] at hlen
  subst hlen
  rfl

theorem Board.RightEntry.source_succ (hi : i + 1 < pattern.length)
    (h : (Board.of rule pattern text).RightEntry (i + 1) j (some e)) :
    ∃ k, e.source = some k ∧
      IsGreatest (sourcesOf rule pattern text (i + 1) j e.score) k := by
  obtain ⟨a, ha, rfl⟩ := h.of_some
  obtain ⟨k, rest, rfl, -, t⟩ := ha.1.1.of_runLength_eq_zero ha.1.2
  have hlen := t.length_eq
  refine ⟨k, rfl, ?_, ?_⟩
  · refine ⟨columnsOf j (k :: rest), ?_, score_columnsOf rule pattern text j _, ?_⟩
    · rw [runsBegunAt_eq hi]
      exact ⟨_, ha.1, rfl⟩
    · rw [Nat.add_sub_cancel, ← hlen]
      exact getElem?_columnsOf j k rest
  · rintro k' ⟨columns, hbegun, hscore, hk'⟩
    rw [runsBegunAt_eq hi] at hbegun
    obtain ⟨before, hb, rfl⟩ := hbegun
    obtain ⟨c, rest', rfl, -, t'⟩ := hb.1.of_runLength_eq_zero hb.2
    rw [Nat.add_sub_cancel, ← t'.length_eq, getElem?_columnsOf] at hk'
    cases hk'
    rw [score_columnsOf rule pattern] at hscore
    exact ha.head_le hb hscore

end Entries

/-- A right cell holds the optima. -/
theorem Board.RightCell.holdsOptima {cell : Option Cell} (hi : i < pattern.length)
    (h : (Board.of rule pattern text).RightCell i j cell) :
    HoldsOptima rule pattern text i j cell where
  reachable := by
    rw [h.isSome_iff, placementsTo_eq hi, Set.image_nonempty]
    rfl
  score c hc := by
    subst hc
    have htrail := h.trail
    obtain ⟨a, ha, hview⟩ := htrail.of_some
    have hscore : c.score = Trail.score (Board.of rule pattern text) j a :=
      congrArg Run.score hview
    rw [hscore, placementsTo_eq hi, image_score_columnsOf rule pattern]
    exact ha.isGreatest
  unset := by
    rw [h.entry.none_iff, runsBegunAt_eq hi, Set.image_nonempty, Set.not_nonempty_iff_eq_empty,
      Set.eq_empty_iff_forall_notMem]
    rfl
  start e he := by
    have hentry := h.entry
    rw [he] at hentry
    exact hentry.isGreatest hi
  noSource e he hzero := by
    subst hzero
    have hentry := h.entry
    rw [he] at hentry
    exact hentry.source_zero
  source e he hrow := by
    obtain ⟨above, rfl⟩ := Nat.exists_eq_succ_of_ne_zero hrow
    have hentry := h.entry
    rw [he] at hentry
    exact hentry.source_succ hi

/-! ## The filled table -/

/-- Filling the table leaves in every cell of the band the optima over the placements that end
there, and every other cell of the window unreachable. -/
theorem Alignment.fill_holdsOptima [LawfulSymbol α] {start half band : Band} {found : Bool}
    (hne : pattern ≠ []) (hfirst : start.fillFirst rule pattern text = (true, half))
    (hlast : half.fillLast rule pattern text = (found, band)) (buffer : Array Nat) (grid : Grid) :
    ∃ best window table,
      (fill rule pattern text (bonusTable text buffer) band grid :
          Id (Option (Int × Nat) × Window × Grid)) = (best, window, table) ∧
        window.offset = band.lo 0 ∧
        window.offset + window.width = band.hi (pattern.length - 1) + 1 ∧
        ∀ i < pattern.length, ∀ j,
          (band.lo i ≤ j → j ≤ band.hi i →
            HoldsOptima rule pattern text i j (table.cellAt window i j)) ∧
          (j < band.lo i ∨ band.hi i < j → j < window.offset + window.width →
            table.cellAt window i j = none) := by
  obtain ⟨p, rest, rfl⟩ := List.exists_cons_of_ne_nil hne
  obtain ⟨-, h⟩ := LaidOut.of_scans hfirst hlast buffer
  have hfits := Fits.of_tight h.tight
  obtain ⟨k, before, table, -, htable, hfill⟩ := fill_shown h.bonus_eq h.tight grid
  refine ⟨_, _, table, hfill, hfits.offset_eq, hfits.end_eq, fun i hi j => ⟨fun _ hj => ?_, ?_⟩⟩
  · exact (htable.right i (Nat.le_of_lt_succ hi) j hj).holdsOptima hi
  · rintro (hj | hj) hend
    · -- no placement gets left of the band, so that a right cell is unreachable there
      have hlohi := h.tight.lo_le_hi (Nat.le_of_lt_succ hi)
      have hright := htable.right i (Nat.le_of_lt_succ hi) j (by omega)
      refine Option.not_isSome_iff_eq_none.mp fun hsome => ?_
      obtain ⟨other, t⟩ := hright.isSome_iff.mp hsome
      have := h.tight.lo_le_of_trail (Nat.le_of_lt_succ hi) t
      omega
    · exact htable.beyond i (Nat.le_of_lt_succ hi) j hj hend

/-- The last cell is best reached in one run, and behind a gap only from the third column. -/
theorem Alignment.fill_holdsOptima_banana :
    ['a', 'n', 'a'] ≠ [] ∧
      Band.fillFirst ⟨#[], #[]⟩ .respect ['a', 'n', 'a'] banana = (true, ⟨#[1, 2, 3], #[]⟩) ∧
      Band.fillLast ⟨#[1, 2, 3], #[]⟩ .respect ['a', 'n', 'a'] banana =
        (true, ⟨#[1, 2, 3], #[3, 4, 5]⟩) ∧
      ∃ best window table,
        (fill .respect ['a', 'n', 'a'] banana (bonusTable banana #[])
            ⟨#[1, 2, 3], #[3, 4, 5]⟩ ⟨#[], #[], #[]⟩ :
          Id (Option (Int × Nat) × Window × Grid)) = (best, window, table) ∧
        table.cellAt window 2 5 = some ⟨56, 2, some ⟨48, some 2⟩⟩ ∧
        HoldsOptima .respect ['a', 'n', 'a'] banana 2 5 (some ⟨56, 2, some ⟨48, some 2⟩⟩) ∧
        table.cellAt window 0 4 = none := by
  have hne : ['a', 'n', 'a'] ≠ [] := by decide
  have hfirst : Band.fillFirst ⟨#[], #[]⟩ .respect ['a', 'n', 'a'] banana =
      (true, ⟨#[1, 2, 3], #[]⟩) := by decide +kernel
  have hlast : Band.fillLast ⟨#[1, 2, 3], #[]⟩ .respect ['a', 'n', 'a'] banana =
      (true, ⟨#[1, 2, 3], #[3, 4, 5]⟩) := by decide +kernel
  have hcell : (fill .respect ['a', 'n', 'a'] banana (bonusTable banana #[])
      ⟨#[1, 2, 3], #[3, 4, 5]⟩ ⟨#[], #[], #[]⟩ :
        Id (Option (Int × Nat) × Window × Grid)).run.2.2.cellAt ⟨1, 5⟩ 2 5 =
      some ⟨56, 2, some ⟨48, some 2⟩⟩ := by decide +kernel
  obtain ⟨best, window, table, hfill, hoffset, hend, hcells⟩ :=
    fill_holdsOptima hne hfirst hlast #[] ⟨#[], #[], #[]⟩
  obtain ⟨offset, width⟩ := window
  have hwidth : offset + width = 6 := hend
  obtain rfl : offset = 1 := hoffset
  obtain rfl : width = 5 := by omega
  rw [hfill] at hcell
  have hcell : table.cellAt ⟨1, 5⟩ 2 5 = some ⟨56, 2, some ⟨48, some 2⟩⟩ := hcell
  have hinside := (hcells 2 (by decide) 5).1 (by decide) (by decide)
  rw [hcell] at hinside
  have houtside := (hcells 0 (by decide) 4).2 (.inr (by decide)) (by decide)
  exact ⟨hne, hfirst, hlast, best, _, table, hfill, hcell, hinside, houtside⟩

end FuzzyRank
