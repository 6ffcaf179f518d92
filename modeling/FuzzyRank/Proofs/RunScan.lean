import FuzzyRank.Proofs.AuditedAlign
import FuzzyRank.Proofs.Course
import Mathlib.Algebra.BigOperators.Group.Finset.Basic
import Mathlib.Data.Set.Image
import Mathlib.Order.Bounds.Defs

/-!
The runs of a cell, against a scan over all lengths.

A run that ends in a cell has its head on the diagonal, at any number of rows up. A scan would try
every length, look up the entry of the head and add what the columns after it earn. The fill only
grows the seven runs of the diagonal cell by one column and lets one new run compete; here the two
come to the same runs. That what once lost within a slot is never needed again shows in the trails:
each run of the scan is that of a trail, and each trail is outdone by a run of its own length.
-/

namespace FuzzyRank

open FuzzyRank.Alignment Scoring Trail
open FuzzyRank.Alignment.Band (lo hi Tight)

/-! ## The scan -/

namespace Board

/-- What the columns of a run earn after its head. -/
def earnedAfter (B : Board) (head column length : Nat) : Int :=
  ∑ t ∈ Finset.range length, (matchPoints + (B.bonus (column - t) : Nat) + B.followScore head)

/-- The run ends in the cell: its head, as many rows up and columns back as the run is long, has an
entry, all columns after the head agree with their rows, and the score is that of the entry with
what these columns earn. -/
structure EndsRun (B : Board) (cells : Nat → Nat → Option Cell) (row column : Nat) (run : Run) :
    Prop where
  goesOn : 1 ≤ run.length
  row_le : run.length ≤ row
  column_le : run.length ≤ column
  agrees : ∀ t < run.length, B.agrees (row - t) (column - t)
  score : ∃ entry, (cells (row - run.length) (column - run.length)).bind (·.entry) = some entry ∧
    run.score = entry.score + B.earnedAfter (column - run.length) column run.length

end Board

/-- The run has the highest score of all, and of those with that score it is the longest; there is
none if there are none at all. -/
def IsLongestBest (runs : Set Run) : Option Run → Prop
  | none => ¬ runs.Nonempty
  | some run => IsGreatest (Run.score '' runs) run.score ∧
      IsGreatest (Run.length '' {other | other ∈ runs ∧ other.score = run.score}) run.length

/-- The runs of a cell are those that the scan finds: in each slot the longest of the best runs
whose head has the bonus of the slot, and over all slots the longest of the best. -/
structure ScansRuns (B : Board) (cells : Nat → Nat → Option Cell) (row column : Nat)
    (runs : Runs) : Prop where
  length_eq : runs.length = slotCount
  slot : ∀ s run, runs[s]? = some run →
    IsLongestBest {r | B.EndsRun cells row column r ∧ slotOf (B.bonus (column - r.length)) = s} run
  best : IsLongestBest {r | B.EndsRun cells row column r} (bestRun runs)

/-! ## The last run of a trail -/

variable {B : Board} {i j head n : Nat} {before front : List Nat}

theorem Board.earnedAfter_succ (B : Board) (head column length : Nat) :
    B.earnedAfter head (column + 1) (length + 1) = B.earnedAfter head column length +
      (matchPoints + (B.bonus (column + 1) : Nat) + B.followScore head) := by
  simp [earnedAfter, Finset.sum_range_succ']

/-- The score of a trail is that of what ends in the head of its last run, with what the run earns
after the head. -/
theorem Trail.score_eq_head_add (B : Board) (j : Nat) (before : List Nat) :
    score B j before = score B (runHead j before) (before.drop (runLength j before)) +
      B.earnedAfter (runHead j before) j (runLength j before) := by
  induction before generalizing j with
  | nil => simp [runHead, Board.earnedAfter]
  | cons k before ih =>
    by_cases hk : j = k + 1
    · subst hk
      rw [score_follow, ih k, runHead_follow, runLength_follow, List.drop_succ_cons,
        B.earnedAfter_succ, slot, ← B.followScore_eq]
      omega
    · have hzero := runLength_skip hk before
      rw [runHead_of_runLength_eq_zero hzero, hzero]
      simp [Board.earnedAfter]

namespace IsTrail

/-- What is left of a trail before its last run begins a run in the head. -/
theorem begins_at_head (t : IsTrail B i j before) :
    B.Begins (i - runLength j before) (runHead j before)
      (before.drop (runLength j before)) := by
  induction t with
  | first ha => exact ⟨.first ha, rfl⟩
  | @next i j k before ha hkj t ih =>
    by_cases hk : j = k + 1
    · subst hk
      rw [runHead_follow, runLength_follow, Nat.add_sub_add_right, List.drop_succ_cons]
      exact ih
    · have hzero := runLength_skip hk before
      rw [runHead_of_runLength_eq_zero hzero, hzero]
      exact ⟨.next ha hkj t, hzero⟩

/-- The columns of the last run lie on the diagonal. -/
theorem agrees_run (t : IsTrail B i j before) :
    ∀ s < runLength j before, B.agrees (i - s) (j - s) := by
  induction t with
  | first =>
    intro s hs
    cases hs
  | @next i j k before ha hkj t ih =>
    intro s hs
    by_cases hk : j = k + 1
    · subst hk
      cases s with
      | zero => exact ha
      | succ s =>
        rw [runLength_follow] at hs
        rw [Nat.add_sub_add_right, Nat.add_sub_add_right]
        exact ih s (by omega)
    · rw [runLength_skip hk] at hs
      cases hs

end IsTrail

/-- A trail that begins a run goes on along a diagonal that agrees. -/
theorem Board.Begins.exists_run (h : B.Begins i head front)
    (ha : ∀ s < n, B.agrees (i + n - s) (head + n - s)) :
    ∃ before, IsTrail B (i + n) (head + n) before ∧ runLength (head + n) before = n ∧
      before.drop n = front := by
  induction n with
  | zero => exact ⟨front, h.1, h.2, rfl⟩
  | succ n ih =>
    have hup : ∀ s < n, B.agrees (i + n - s) (head + n - s) := by
      intro s hs
      have hs' := ha (s + 1) (by omega)
      rwa [← Nat.add_assoc, ← Nat.add_assoc, Nat.add_sub_add_right, Nat.add_sub_add_right] at hs'
    obtain ⟨before, t, hlength, hdrop⟩ := ih hup
    have htop : B.agrees (i + n + 1) (head + n + 1) := ha 0 (Nat.succ_pos n)
    refine ⟨(head + n) :: before, .next htop (Nat.lt_succ_self _) t, ?_, hdrop⟩
    rw [← Nat.add_assoc, runLength_follow, hlength]

/-! ## Runs of the scan and trails -/

/-- What the rows above are for a cell: right inside the band, and unreachable outside of it as far
as the cell's diagonal goes. -/
structure CellsAbove (B : Board) (band : Band) (row column : Nat)
    (cells : Nat → Nat → Option Cell) : Prop where
  right : ∀ r < row, ∀ c ≤ band.hi r, B.RightCell r c (cells r c)
  inside : ∀ r < row, ∀ c < column, (cells r c).isSome → c ≤ band.hi r

variable {bottom : Nat} {band : Band} {cells : Nat → Nat → Option Cell} {run : Run}

/-- Each run of the scan is that of a trail. -/
theorem Board.EndsRun.exists_trail (h : B.EndsRun cells i j run)
    (hcells : CellsAbove B band i j cells) :
    ∃ before, B.GoesOn i j before ∧ B.runOf j before = run := by
  obtain ⟨hone, hrow, hcolumn, hagrees, entry, hentry, hscore⟩ := h
  obtain ⟨r, rfl⟩ := Nat.exists_eq_add_of_le' hrow
  obtain ⟨c, rfl⟩ := Nat.exists_eq_add_of_le' hcolumn
  rw [Nat.add_sub_cancel, Nat.add_sub_cancel] at hentry
  rw [Nat.add_sub_cancel] at hscore
  have hsome : (cells r c).isSome := by
    cases hcell : cells r c with
    | none => simp [hcell] at hentry
    | some cell => rfl
  have hright := hcells.right r (by omega) c (hcells.inside r (by omega) c (by omega) hsome)
  have hrecords := hright.entry
  rw [hentry] at hrecords
  obtain ⟨front, hfront, rfl⟩ := hrecords.of_some
  obtain ⟨before, t, hlength, hdrop⟩ := hfront.1.exists_run hagrees
  have hhead : runHead (c + run.length) before = c := by
    rw [← sub_runLength, hlength, Nat.add_sub_cancel]
  have hsplit := score_eq_head_add B (c + run.length) before
  rw [hhead, hlength, hdrop] at hsplit
  exact ⟨before, ⟨t, by omega⟩, congrArg₂ Run.mk (hsplit.trans hscore.symm) hlength⟩

/-- Each trail that goes on with a run is outdone by a run of the scan that is as long. -/
theorem Board.GoesOn.exists_endsRun (h : B.GoesOn i j before)
    (hcells : CellsAbove B band i j cells) (htight : Tight B bottom band) (hi : i ≤ bottom)
    (hj : j ≤ band.hi i) :
    ∃ run, B.EndsRun cells i j run ∧ run.length = runLength j before ∧
      score B j before ≤ run.score := by
  obtain ⟨t, hgoes⟩ := h
  have hhead := runHead_add_runLength j before
  have hrow := t.runLength_le
  have hright := hcells.right (i - runLength j before) (by omega) _ (t.runHead_le_hi htight hi hj)
  have hbegins := t.begins_at_head
  obtain ⟨best, hbest, hentry⟩ := hright.entry
  cases best with
  | none => exact absurd hbegins (hbest _)
  | some front =>
    rw [← sub_runLength j before] at hentry
    refine ⟨⟨score B (runHead j before) front +
      B.earnedAfter (runHead j before) j (runLength j before), runLength j before⟩, ?_, rfl, ?_⟩
    · constructor
      case goesOn => exact Nat.pos_of_ne_zero hgoes
      case row_le => exact hrow
      case column_le => exact Nat.le.intro ((Nat.add_comm _ _).trans hhead)
      case agrees => exact t.agrees_run
      case score =>
        refine ⟨_, hentry, ?_⟩
        rw [sub_runLength]
        rfl
    · have hle := hbest.score_le hbegins
      rw [score_eq_head_add]
      exact Int.add_le_add_right hle _

/-! ## The longest of the best -/

/-- Trails that stand for the runs of a set, each outdone by a run of its own length, leave in their
best one the longest of the best runs: of two trails of equal score the one with the longer run has
the greater columns. -/
theorem isLongestBest_of_records {T : List Nat → Prop} {runs : Set Run} {kept : Option Run}
    (hT : ∀ t, T t → IsTrail B i j t) (hstands : ∀ run ∈ runs, ∃ t, T t ∧ B.runOf j t = run)
    (houtdone : ∀ t, T t → ∃ run ∈ runs, run.length = runLength j t ∧ score B j t ≤ run.score)
    (h : Records T (score B j) (B.runOf j) kept) : IsLongestBest runs kept := by
  obtain ⟨best, hbest, rfl⟩ := h
  cases best with
  | none =>
    intro hsome
    obtain ⟨run, hrun⟩ := hsome
    obtain ⟨t, ht, -⟩ := hstands run hrun
    exact hbest t ht
  | some a =>
    have hmem : B.runOf j a ∈ runs := by
      obtain ⟨run, hrun, hlength, hle⟩ := houtdone a hbest.1
      obtain ⟨b, hb, rfl⟩ := hstands run hrun
      have hge := hbest.score_le hb
      have hscore : score B j b = score B j a := Int.le_antisymm hge hle
      have hview : B.runOf j a = B.runOf j b := congrArg₂ Run.mk hscore.symm hlength.symm
      rwa [hview]
    constructor
    · refine ⟨⟨_, hmem, rfl⟩, ?_⟩
      rintro _ ⟨run, hrun, rfl⟩
      obtain ⟨b, hb, rfl⟩ := hstands run hrun
      exact hbest.score_le hb
    · refine ⟨⟨_, ⟨hmem, rfl⟩, rfl⟩, ?_⟩
      rintro _ ⟨run, ⟨hrun, hscore⟩, rfl⟩
      obtain ⟨b, hb, rfl⟩ := hstands run hrun
      have hscore : score B j b = score B j a := hscore
      have hnot : ¬ runLength j a < runLength j b := by
        intro hlt
        have hba := Board.better_of_runLength_lt (hT b hb) (hT a hbest.1)
          (Int.le_of_eq hscore.symm) hlt
        rcases hbest.2 b hb with rfl | hab
        · exact Nat.lt_irrefl _ hlt
        · exact Better.irrefl _ _ (hab.trans hba)
      exact Nat.not_lt.mp hnot

/-- Right runs are those that the scan finds. -/
theorem Board.RightRuns.scansRuns {runs : Runs} (h : B.RightRuns i j runs)
    (hcells : CellsAbove B band i j cells) (htight : Tight B bottom band) (hi : i ≤ bottom)
    (hj : j ≤ band.hi i) : ScansRuns B cells i j runs where
  length_eq := h.length_eq
  best := by
    apply isLongestBest_of_records (fun t ht => ht.1) ?_ ?_ h.bestRun_records
    · intro run hrun
      exact hrun.exists_trail hcells
    · intro t ht
      exact ht.exists_endsRun hcells htight hi hj
  slot s run hs := by
    apply isLongestBest_of_records (fun t ht => ht.1.1) ?_ ?_ (h.right s run hs)
    · intro run hrun
      obtain ⟨t, ht, rfl⟩ := hrun.1.exists_trail hcells
      have hslot : slotOf (B.bonus (j - runLength j t)) = s := hrun.2
      rw [sub_runLength] at hslot
      exact ⟨t, ⟨ht, hslot⟩, rfl⟩
    · intro t ht
      obtain ⟨run, hrun, hlength, hle⟩ := ht.1.exists_endsRun hcells htight hi hj
      refine ⟨run, ⟨hrun, ?_⟩, hlength, hle⟩
      rw [hlength, sub_runLength]
      exact ht.2

/-! ## The runs of a fill -/

/-- At every step of the course the rows above are what the scan may look at. -/
theorem Alignment.Course.Inv.cellsAbove {window : Window} {above column : Nat} {sweep : Sweep}
    (h : Course.Inv B bottom band window above column sweep) (hfits : Fits B bottom band window)
    (hcolumn : column ≤ band.hi (above + 1)) :
    CellsAbove B band (above + 1) column (sweep.grid.cellAt window) := by
  obtain ⟨hrow, -, -, old, htable, hsweep⟩ := h
  have hend := hfits.hi_lt_end hrow
  constructor
  case right =>
    intro r hr c hc
    have hcend := hfits.hi_lt_end (i := r) (by omega)
    rw [hsweep.row.kept r hr c (by omega)]
    exact htable.right r (Nat.le_of_lt_succ hr) c hc
  case inside =>
    intro r hr c hc hsome
    rw [hsweep.row.kept r hr c (by omega)] at hsome
    by_contra hbeyond
    rw [htable.beyond r (Nat.le_of_lt_succ hr) c (by omega) (by omega)] at hsome
    cases hsome

variable {α : Type} [Symbol α] {rule : CaseRule} {p : α} {pattern rest : List α} {text : Array α}
  {bonuses : Array Nat}

/-- The runs of a matching column are those that the scan finds, wherever the fill comes to it. -/
theorem Alignment.Course.scansRuns {window : Window} {first : Grid} {above column : Nat}
    {sweep : Sweep} (hbonus : ∀ j, bonuses.getD j 0 = bonusAt text j)
    (hfits : Fits (Board.of rule pattern text) bottom band window)
    (hbottom : pattern.length = bottom + 1)
    (hfirst : TableInv (Board.of rule pattern text) bottom band window 0 first)
    (h : Course rule pattern text bonuses band window first above column sweep)
    (hcolumn : column ≤ band.hi (above + 1))
    (ha : (Board.of rule pattern text).agrees (above + 1) column) :
    ScansRuns (Board.of rule pattern text) (sweep.grid.cellAt window) (above + 1) column
      (extendRuns sweep.grid window bonuses above column : Id Runs).run := by
  have hinv := h.inv hbonus hfits hbottom hfirst
  have hcells := hinv.cellsAbove hfits hcolumn
  obtain ⟨hrow, hlo, -, old, htable, hsweep⟩ := hinv
  obtain ⟨back, rfl⟩ : ∃ back, column = back + 1 := ⟨column - 1, by omega⟩
  have hend := hfits.hi_lt_end hrow
  have habove := htable.aboveRight hfits hrow
  have hruns := Board.extendRuns_right hbonus ha
    (hsweep.row.above_cell habove (by omega) (by omega))
    (hsweep.row.above_runs habove (by omega) (by omega))
  exact hruns.scansRuns hcells hfits.tight hrow hcolumn

/-- Filling the table goes through a course of steps, and wherever it comes to a reachable cell of
the band, the runs that it extends there are those that a scan over all lengths finds. -/
theorem Alignment.fill_scansRuns [LawfulSymbol α] {start half band : Band} {found : Bool}
    (hfirst : start.fillFirst rule (p :: rest) text = (true, half))
    (hlast : half.fillLast rule (p :: rest) text = (found, band)) (buffer : Array Nat)
    (grid : Grid) :
    ∃ best window table,
      (fill rule (p :: rest) text (bonusTable text buffer) band grid :
          Id (Option (Int × Nat) × Window × Grid)) = (best, window, table) ∧
        (rest ≠ [] → ∃ sweep, FillCourse rule p rest text (bonusTable text buffer) band window grid
            (rest.length - 1) (band.hi rest.length + 1) sweep ∧ table = sweep.grid.nextRow) ∧
        ∀ above column, above < rest.length → band.lo (above + 1) ≤ column →
          column ≤ band.hi (above + 1) →
            (∃ sweep, FillCourse rule p rest text (bonusTable text buffer) band window grid above
              column sweep) ∧
            ∀ sweep, FillCourse rule p rest text (bonusTable text buffer) band window grid above
              column sweep → (table.cellAt window (above + 1) column).isSome →
                ScansRuns (Board.of rule (p :: rest) text) (sweep.grid.cellAt window) (above + 1)
                  column (extendRuns sweep.grid window (bonusTable text buffer) above column :
                    Id Runs).run := by
  obtain ⟨-, h⟩ := LaidOut.of_scans hfirst hlast buffer
  have hfits := Fits.of_tight h.tight
  have htop := firstRow_inv grid h.bonus_eq (fun _ => Board.of_cons_zero.symm) hfits
  have htable := fillRows_inv h.bonus_eq hfits rfl (Nat.zero_add _) htop
  refine ⟨_, span band rest.length, _, rfl, ?_, ?_⟩
  · intro hmore
    exact Course.exists_end h.tight hmore grid
  · intro above column habove hlo hhi
    have hleft := h.tight.lo_lt above (by omega)
    constructor
    · exact Course.exists_sweep h.tight rfl (by omega) (by omega) (by omega)
    · intro sweep hcourse hsome
      have hcell := htable.right (above + 1) (by omega) column hhi
      obtain ⟨before, t⟩ := hcell.isSome_iff.mp hsome
      exact hcourse.scansRuns h.bonus_eq hfits rfl htop hhi t.agrees

/-- Two runs end in the last cell: one of all three columns, and one of two behind a gap. They have
one slot, in which the longer one does better. -/
theorem Alignment.fill_scansRuns_banana :
    Band.fillFirst ⟨#[], #[]⟩ .respect ['a', 'n', 'a'] banana = (true, ⟨#[1, 2, 3], #[]⟩) ∧
      Band.fillLast ⟨#[1, 2, 3], #[]⟩ .respect ['a', 'n', 'a'] banana =
        (true, ⟨#[1, 2, 3], #[3, 4, 5]⟩) ∧
      ∃ best window table sweep,
        (fill .respect ['a', 'n', 'a'] banana (bonusTable banana #[])
            ⟨#[1, 2, 3], #[3, 4, 5]⟩ ⟨#[], #[], #[]⟩ :
          Id (Option (Int × Nat) × Window × Grid)) = (best, window, table) ∧
        FillCourse .respect 'a' ['n', 'a'] banana (bonusTable banana #[])
          ⟨#[1, 2, 3], #[3, 4, 5]⟩ window ⟨#[], #[], #[]⟩ 1 5 sweep ∧
        (table.cellAt window 2 5).isSome ∧
        (extendRuns sweep.grid window (bonusTable banana #[]) 1 5 : Id Runs).run =
          [some ⟨56, 2⟩, none, none, none, none, none, none] ∧
        ScansRuns (Board.of .respect ['a', 'n', 'a'] banana) (sweep.grid.cellAt window) 2 5
          (extendRuns sweep.grid window (bonusTable banana #[]) 1 5 : Id Runs).run := by
  have hfirst : Band.fillFirst ⟨#[], #[]⟩ .respect ['a', 'n', 'a'] banana =
      (true, ⟨#[1, 2, 3], #[]⟩) := by decide +kernel
  have hlast : Band.fillLast ⟨#[1, 2, 3], #[]⟩ .respect ['a', 'n', 'a'] banana =
      (true, ⟨#[1, 2, 3], #[3, 4, 5]⟩) := by decide +kernel
  obtain ⟨best, window, table, hfill, -, hcells⟩ :=
    fill_scansRuns hfirst hlast #[] ⟨#[], #[], #[]⟩
  have hsome : (((fill .respect ['a', 'n', 'a'] banana (bonusTable banana #[])
      ⟨#[1, 2, 3], #[3, 4, 5]⟩ ⟨#[], #[], #[]⟩ :
        Id (Option (Int × Nat) × Window × Grid)).run.2.2.cellAt ⟨1, 5⟩ 2 5).isSome ∧
      (fill .respect ['a', 'n', 'a'] banana (bonusTable banana #[])
        ⟨#[1, 2, 3], #[3, 4, 5]⟩ ⟨#[], #[], #[]⟩ :
          Id (Option (Int × Nat) × Window × Grid)).run.2.1 = ⟨1, 5⟩) := by decide +kernel
  rw [hfill] at hsome
  obtain ⟨hsome, rfl⟩ : (table.cellAt ⟨1, 5⟩ 2 5).isSome ∧ window = ⟨1, 5⟩ := hsome
  have hstart : FillCourse .respect 'a' ['n', 'a'] banana (bonusTable banana #[])
      ⟨#[1, 2, 3], #[3, 4, 5]⟩ ⟨1, 5⟩ ⟨#[], #[], #[]⟩ 0 2 _ := .start (by decide)
  have hlower := (hstart.fold 3 rfl (by decide)).row (by decide) (by decide)
  have hcourse := hlower.fold 2 rfl (by decide)
  have hscans := (hcells 1 5 (by decide) (by decide) (by decide)).2 _ hcourse hsome
  exact ⟨hfirst, hlast, best, ⟨1, 5⟩, table, _, hfill, hcourse, hsome, by decide +kernel, hscans⟩

end FuzzyRank
