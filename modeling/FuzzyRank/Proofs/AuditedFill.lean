import FuzzyRank.Proofs.Align
import FuzzyRank.Proofs.Audit
import FuzzyRank.Proofs.ScoreRange

/-!
Filling a table without a refusal.

A demand of the sweep is met because of what the sweep has already filled: the table has room for
the columns of the window, the band stays inside it, and what a cell, a run or a gap records is the
score of a trail, which has its bounds. So every step passes where it keeps the invariant of the
sweep, and the whole sweep passes by induction over the steps.
-/

namespace FuzzyRank

open FuzzyRank.Alignment Scoring
open FuzzyRank.Alignment.Band (lo hi Tight)

/-- The range admits every sum that the table for a text of the given size can form: in each row
above the negated size, and at most 36 for each row. -/
def Covers (range : Nat → Int → Bool) (size : Nat) : Prop :=
  ∀ row value, row < size → -(size : Int) < value → value ≤ 36 * (row + 1) → range row value

/-- What is laid out before a table is filled: a tight band inside the text, and a bonus for every
column of the text. -/
structure LaidOut (B : Board) (bottom size : Nat) (band : Band) (bonuses : Array Nat) : Prop where
  tight : Tight B bottom band
  first_size : bottom < band.first.size
  last_size : bottom < band.last.size
  hi_lt : band.hi bottom < size
  bonus_eq : ∀ j, bonuses.getD j 0 = B.bonus j
  bonus_size : size ≤ bonuses.size

variable {range : Nat → Int → Bool} {B : Board} {bottom size : Nat} {band : Band}
  {bonuses : Array Nat} {grid old : Grid} {window : Window} {rows i j k : Nat}

namespace LaidOut

/-- A pattern that has a trail is no longer than the text. -/
theorem row_lt (h : LaidOut B bottom size band bonuses) (hi : i ≤ bottom) : i < size := by
  obtain ⟨before, t⟩ := h.tight.exists_trail (Nat.le_refl bottom)
  have hle := t.le
  have hlohi := h.tight.lo_le_hi (Nat.le_refl bottom)
  have hlt := h.hi_lt
  omega

theorem column_lt (h : LaidOut B bottom size band bonuses) (hi : i ≤ bottom)
    (hj : j ≤ band.hi i) : j < size := by
  have hbottom := h.tight.hi_le_bottom hi
  have hlt := h.hi_lt
  omega

end LaidOut

namespace Passes

/-! ## The parts of a column -/

theorem matchScore (hcovers : Covers range size) (h : LaidOut B bottom size band bonuses)
    (hi : i ≤ bottom) (hj : j < size) :
    Passes range (Alignment.matchScore i bonuses j) (Alignment.matchScore i bonuses j) := by
  have hsize := h.bonus_size
  have hge := B.columnScore_ge j
  have hle := B.columnScore_le_first j
  have hsum : range i (B.columnScore j) := hcovers i _ (h.row_lt hi) (by omega) (by omega)
  exact .bind_of_eq (.readAt (by omega) 0) (h.bonus_eq j) (.plus hsum)

theorem enter (hcovers : Covers range size) (h : LaidOut B bottom size band bonuses)
    (hi : i + 1 ≤ bottom) (hj : j < size) {gap : Option Gap} (hgap : B.RightGap i j gap) :
    Passes range (Alignment.enter (i + 1) bonuses j gap)
      (Alignment.enter (i + 1) bonuses j gap) := by
  cases gap with
  | none => exact .pure none
  | some g =>
    obtain ⟨hlow, hhigh⟩ := hgap.worth
    have hge := B.columnScore_ge j
    have hle := B.columnScore_le_first j
    have hsum : range (i + 1) (g.score + B.columnScore j) :=
      hcovers (i + 1) _ (h.row_lt hi) (by omega) (by omega)
    exact .bind_of_eq (.matchScore hcovers h hi hj) (Board.matchScore_id h.bonus_eq (i + 1) j)
      (.bind (.plus hsum) fun _ _ => .pure _)

theorem advanceGap (hcovers : Covers range size) (hroom : grid.Room window rows) (hrow : i < rows)
    (hi : i + 1 < size) (hj : j + 1 < size) (hend : j ≤ window.offset + window.width)
    (hcell : ∀ k, k + 1 = j → B.RightCell i k (grid.cellAt window i k)) {gap : Option Gap}
    (hgap : B.RightGap i j gap) (aboveFirst : Nat) :
    Passes range (Alignment.advanceGap grid window i aboveFirst (j + 1) gap)
      (Alignment.advanceGap grid window i aboveFirst (j + 1) gap) := by
  unfold Alignment.advanceGap
  extract_lets advance plainAdvance
  -- what is done with the gap so far, charged for the column
  have hadvance : ∀ charged, Passes range (advance charged) (plainAdvance charged) := by
    intro charged
    dsimp only [advance, plainAdvance]
    split
    · exact .pure charged
    · next hfar =>
      obtain ⟨k, rfl⟩ : ∃ k, j = k + 1 := ⟨j - 1, by omega⟩
      have hright := hcell k rfl
      refine .bind_of_eq (a := k) (.minus (by omega)) rfl
        (.bind_of_eq (.cell hroom hrow (by omega)) (Grid.cell_id _ _ _ _) ?_)
      cases hget : grid.cellAt window i k with
      | none => exact .pure charged
      | some cell =>
        rw [hget] at hright
        obtain ⟨hlow, hhigh⟩ := hright.worth
        refine .bind (.plus ?_) fun opened _ => ?_
        · unfold gapOpening
          exact hcovers (i + 1) _ hi (by omega) (by omega)
        · cases charged <;> exact .pure _
  cases gap with
  | none => exact .bind (.pure none) fun charged _ => hadvance charged
  | some g =>
    obtain ⟨hlow, hhigh⟩ := hgap.worth
    refine .bind (.plus ?_) fun score _ => .bind (.pure _) fun charged _ => hadvance charged
    unfold gapExtension
    exact hcovers (i + 1) _ hi (by omega) (by omega)

section Runs

variable {step : Int} {s headSlot : Nat}

/-- A run that grows by one column. -/
theorem grow (hcovers : Covers range size) (hi : i + 1 < size) (hk : k < size)
    (hlow : 16 ≤ step) (hhigh : step ≤ 26) (hs : s < slotCount) {v : Int} (hv : Worth i k v)
    {f : Int → Audit (Demand.Met range) (Option Run)} {g : Int → Id (Option Run)}
    (hf : ∀ score, Passes range (f score) (g score)) :
    Passes range (Guarded.plus (i + 1) v step >>= fun sum =>
        Guarded.plus (i + 1) sum (slotBonus s) >>= f)
      (Guarded.plus (i + 1) v step >>= fun sum =>
        Guarded.plus (i + 1) sum (slotBonus s) >>= g) := by
  obtain ⟨hvlow, hvhigh⟩ := hv
  obtain ⟨hbonus, hbonus'⟩ := slotBonus_bounds hs
  have hsum : range (i + 1) (v + step) := hcovers (i + 1) _ hi (by omega) (by omega)
  have hscore : range (i + 1) (v + step + slotBonus s) :=
    hcovers (i + 1) _ hi (by omega) (by omega)
  exact .bind_of_eq (.plus hsum) (Guarded.plus_id _ _ _) (.bind (.plus hscore) fun score _ =>
    hf score)

theorem extendSlot (hcovers : Covers range size) (hi : i + 1 < size) (hk : k < size)
    (hlow : 16 ≤ step) (hhigh : step ≤ 26) (hs : s < slotCount) {carried : Option Run}
    {fresh : Option Entry} (hcarried : ∀ run, carried = some run → Worth i k run.score)
    (hfresh : ∀ head, fresh = some head → Worth i k head.score) :
    Passes range (Alignment.extendSlot (i + 1) step s carried fresh)
      (Alignment.extendSlot (i + 1) step s carried fresh) := by
  unfold Alignment.extendSlot
  extract_lets choose plainChoose
  -- what is done with the grown run
  have hchoose : ∀ grown, Passes range (choose grown) (plainChoose grown) := by
    intro grown
    cases fresh with
    | none => exact .pure grown
    | some head =>
      refine .grow hcovers hi hk hlow hhigh hs (hfresh head rfl) fun score => ?_
      cases grown <;> exact .pure _
  cases carried with
  | none => exact .bind (.pure none) fun grown _ => hchoose grown
  | some run =>
    exact .grow hcovers hi hk hlow hhigh hs (hcarried run rfl) fun score =>
      .bind (.pure _) fun grown _ => hchoose grown

theorem extendSlots (hcovers : Covers range size) (hi : i + 1 < size) (hk : k < size)
    (hlow : 16 ≤ step) (hhigh : step ≤ 26) {head : Option Entry}
    (hhead : ∀ e, head = some e → Worth i k e.score) {runs : Runs}
    (hs : s + runs.length ≤ slotCount)
    (hruns : ∀ (t : Nat) (run : Run), runs[t]? = some (some run) → Worth i k run.score) :
    Passes range (Alignment.extendSlots (i + 1) step headSlot head s runs)
      (Alignment.extendSlots (i + 1) step headSlot head s runs) := by
  induction runs generalizing s with
  | nil => exact .pure []
  | cons carried rest ih =>
    rw [List.length_cons] at hs
    refine .bind (.extendSlot hcovers hi hk hlow hhigh (by omega) ?_ ?_) fun run _ =>
      .bind (ih (by omega) fun t run ht => hruns (t + 1) run ht) fun _ _ => .pure _
    · rintro run rfl
      exact hruns 0 run rfl
    · intro e he
      split at he
      · exact hhead e he
      · cases he

theorem extendRuns (hcovers : Covers range size) (h : LaidOut B bottom size band bonuses)
    (hroom : grid.Room window rows) (hrow : i < rows) (hi : i + 1 ≤ bottom) (hk : k + 1 < size)
    (hend : k < window.offset + window.width)
    (hcell : B.RightCell i k (grid.cellAt window i k))
    (hruns : (grid.cellAt window i k).isSome → B.RightRuns i k (grid.aboveAt window k)) :
    Passes range (Alignment.extendRuns grid window bonuses i (k + 1))
      (Alignment.extendRuns grid window bonuses i (k + 1)) := by
  have hsize := h.bonus_size
  refine .bind_of_eq (a := k) (.minus (by omega)) rfl
    (.bind_of_eq (.cell hroom hrow hend) (Grid.cell_id _ _ _ _) ?_)
  cases hget : grid.cellAt window i k with
  | none => exact .pure noRuns
  | some diagonal =>
    have hsome : (grid.cellAt window i k).isSome := by rw [hget]; rfl
    have hright := hruns hsome
    have hcol : window.Contains k := ⟨Grid.offset_le_of_isSome hsome, hend⟩
    rw [hget] at hcell
    have hge := B.columnScore_ge (k + 1)
    have hle := B.columnScore_le_later (Nat.succ_ne_zero k)
    rw [B.columnScore_succ] at hge hle
    have hstep : range (i + 1) (matchPoints + (B.bonus (k + 1) : Nat)) :=
      hcovers (i + 1) _ (h.row_lt hi) (by omega) (by omega)
    refine .bind_of_eq (.runsAbove hroom hcol) (Grid.runsAbove_id _ _ _) <|
      .bind_of_eq (.readAt (by omega) 0) (h.bonus_eq k) <|
      .bind (.demand (decide_eq_true (B.slotOf_lt k))) fun _ _ =>
      .bind_of_eq (.readAt (by omega) 0) (h.bonus_eq (k + 1)) <|
      .bind_of_eq (.plus hstep) (Guarded.plus_id _ _ _) ?_
    refine .extendSlots hcovers (h.row_lt hi) (by omega) hge hle
      (fun e he => hcell.entry_worth he) ?_ fun t run ht => (hright.right t _ ht).worth
    have hlength := hright.length_eq
    omega

end Runs

/-! ## Columns and rows -/

/-- A sweep passes whose every step passes where it keeps the invariant. -/
theorem foldColumns {σ : Type} {visit : σ → Nat → Audit (Demand.Met range) σ}
    {plainVisit : σ → Nat → Id σ} (Inv : Nat → σ → Prop) (count : Nat) {column : Nat} {s : σ}
    (hpass : ∀ j s, column ≤ j → j < column + count → Inv j s →
      Passes range (visit s j) (plainVisit s j))
    (hstep : ∀ j s, column ≤ j → j < column + count → Inv j s → Inv (j + 1) (plainVisit s j))
    (h : Inv column s) :
    Passes range (Alignment.foldColumns visit count column s)
      (Alignment.foldColumns plainVisit count column s) := by
  induction count generalizing column s with
  | zero => exact .pure s
  | succ count ih =>
    refine .bind (hpass column s (Nat.le_refl _) (by omega) h) fun s' heq => ih ?_ ?_ ?_
    · exact fun j s hj hjc => hpass j s (by omega) (by omega)
    · exact fun j s hj hjc => hstep j s (by omega) (by omega)
    · obtain rfl : (plainVisit s column).run = s' := heq
      exact hstep column s (Nat.le_refl _) (by omega) h

section Rows

variable {α : Type} [Symbol α] {rule : CaseRule} {p : α} {pattern rest : List α} {text : Array α}

theorem matchesAt (hj : j < text.size) :
    Passes range (Alignment.matchesAt rule p text j) (Alignment.matchesAt rule p text j) :=
  .bind (.demand (decide_eq_true hj)) fun _ _ => .pure _

theorem firstRowStep (hcovers : Covers range text.size)
    (h : LaidOut B bottom text.size band bonuses) (hfits : Fits B bottom band window)
    (hlo : band.lo 0 ≤ j) (hhi : j ≤ band.hi 0) (hroom : grid.Room window (bottom + 1)) :
    Passes range (Alignment.firstRowStep rule p text bonuses window grid j)
      (Alignment.firstRowStep rule p text bonuses window grid j) := by
  have hj := h.column_lt (Nat.zero_le _) hhi
  have hcol := hfits.contains (Nat.zero_le _) hlo hhi
  refine .bind (.matchesAt hj) fun found _ => ?_
  cases found with
  | false => exact .pure grid
  | true =>
    exact .bind (.matchScore hcovers h (Nat.zero_le _) hj) fun score _ =>
      .bind_of_eq (.setCell hroom (Nat.succ_pos _) hcol _) (Grid.setCell_id _ _ _ _ _)
        (.setRuns hroom.withCell hcol noRuns)

/-- The step at a column of a later row passes where it keeps the invariant of the sweep. -/
theorem rowStep {sweep : Sweep} (hcovers : Covers range text.size)
    (h : LaidOut B bottom text.size band bonuses) (hfits : Fits B bottom band window)
    (hi : i + 1 ≤ bottom) (habove : AboveRight B window i (band.hi (i + 1)) old)
    (hlo : band.lo i < j) (hhi : j ≤ band.hi (i + 1))
    (hinv : SweepInv B bottom window i j old sweep) :
    Passes range
      (Alignment.rowStep rule p text bonuses window i (band.lo i) (band.lo (i + 1)) sweep j)
      (Alignment.rowStep rule p text bonuses window i (band.lo i) (band.lo (i + 1)) sweep j) := by
  obtain ⟨gap, grid⟩ := sweep
  obtain ⟨hgap, hrow⟩ := hinv
  obtain ⟨k, rfl⟩ : ∃ k, j = k + 1 := ⟨j - 1, by omega⟩
  have hend : k + 1 < window.offset + window.width := by
    have := hfits.hi_lt_end hi
    omega
  have hj := h.column_lt hi hhi
  have hcell : ∀ c ≤ k, B.RightCell i c (grid.cellAt window i c) := fun c hc =>
    hrow.above_cell habove (by omega) (by omega)
  have hbelow : ∀ c, c + 1 = k → B.RightCell i c (grid.cellAt window i c) := fun c hc =>
    hcell c (by omega)
  -- the gap moves on in every column, and what it is then decides whether an entry passes
  refine .bind (.advanceGap hcovers hrow.room (by omega) (h.row_lt hi) hj (by omega) hbelow hgap
    (band.lo i)) fun gap' hgap' => ?_
  have hright : B.RightGap i (k + 1) gap' := by
    rw [← hgap']
    exact Board.advanceGap_right (fun c _ ht => hfits.tight.lo_le_of_trail (by omega) ht) hbelow
      hgap
  split
  · exact .pure _
  · next hfirst =>
    refine .bind (.matchesAt hj) fun found _ => ?_
    have hcol := hfits.contains hi (Nat.not_lt.mp hfirst) hhi
    cases found with
    | false => exact .pure _
    | true =>
      have hruns : (grid.cellAt window i k).isSome → B.RightRuns i k (grid.aboveAt window k) :=
        hrow.above_runs habove (by omega) (by omega)
      refine .bind (.enter hcovers h hi hj hright) fun entry _ =>
        .bind (.extendRuns hcovers h hrow.room (by omega) hi hj (by omega)
          (hcell k (Nat.le_refl _)) hruns) fun runs _ =>
        .bind_of_eq (.setRuns hrow.room hcol runs) (Grid.setRuns_id _ _ _ _) ?_
      split
      · exact .pure _
      · exact .bind (.setCell hrow.room.withRuns (by omega) hcol _) fun _ _ => .pure _

/-! ## The whole table -/

/-- The sweeps of the rows that are left pass. -/
theorem fillRows (hcovers : Covers range text.size)
    (h : LaidOut (Board.of rule pattern text) bottom text.size band bonuses)
    (hfits : Fits (Board.of rule pattern text) bottom band window)
    (hrest : pattern.drop (i + 1) = rest) (hbottom : i + rest.length = bottom)
    (hinv : TableInv (Board.of rule pattern text) bottom band window i grid) :
    Passes range (Alignment.fillRows rule text bonuses band window rest i grid)
      (Alignment.fillRows rule text bonuses band window rest i grid) := by
  induction rest generalizing i grid with
  | nil => exact .pure grid
  | cons p rest ih =>
    obtain ⟨hp, hnext⟩ := of_drop_eq_cons hrest
    rw [List.length_cons] at hbottom
    have hi : i + 1 ≤ bottom := by omega
    have hmatch : ∀ j, text[j]?.any (Symbol.same rule p) ↔
        (Board.of rule pattern text).agrees (i + 1) j := Board.of_agrees hp
    have hfirst := h.first_size
    have hlast := h.last_size
    have habove := hinv.aboveRight hfits hi
    refine .bind_of_eq (.row (by omega) (by omega)) (band.row_id i) <|
      .bind_of_eq (.row (by omega) (by omega)) (band.row_id (i + 1)) <|
      .bind_of_eq (.foldColumns (SweepInv (Board.of rule pattern text) bottom window i · grid) _
        ?_ ?_ (hinv.startSweep hfits hi)) rfl ?_
    · exact fun j s hj hjc hs => .rowStep hcovers h hfits hi habove hj (by omega) hs
    · exact fun j s hj hjc hs => rowStep_inv h.bonus_eq hmatch hfits hi habove hj (by omega) hs
    · exact ih hnext (by omega) (sweep_inv h.bonus_eq hmatch hfits hi hinv)

theorem windowOf (h : LaidOut B bottom size band bonuses) :
    Passes range (Alignment.windowOf band (bottom + 1)) (Alignment.windowOf band (bottom + 1)) := by
  have hfirst := h.first_size
  have hlast := h.last_size
  have hlo := h.tight.lo_zero_le (Nat.le_refl bottom)
  have hhi := h.tight.lo_le_hi (Nat.le_refl bottom)
  exact .bind_of_eq (a := band.lo 0) (.readAt (by omega) 0) rfl <|
    .bind_of_eq (a := band.hi bottom) (.readAt (by omega) 0) rfl <|
    .bind (.minus (by omega)) fun _ _ => .pure _

theorem bestStep (hroom : grid.Room window rows) (hrow : i < rows)
    (hend : j < window.offset + window.width) (best : Option (Int × Nat)) :
    Passes range (Alignment.bestStep grid window i best j)
      (Alignment.bestStep grid window i best j) := by
  refine .bind (.cell hroom hrow hend) fun cell _ => ?_
  cases cell <;> cases best <;> exact .pure _

/-- A table that is laid out is filled without a refusal. -/
theorem fill (hcovers : Covers range text.size)
    (h : LaidOut (Board.of rule (p :: rest) text) rest.length text.size band bonuses)
    (grid : Grid) :
    Passes range (Alignment.fill rule (p :: rest) text bonuses band grid)
      (Alignment.fill rule (p :: rest) text bonuses band grid) := by
  have hfits := Fits.of_tight h.tight
  have hmatch : ∀ j, text[j]?.any (Symbol.same rule p) ↔
      (Board.of rule (p :: rest) text).agrees 0 j := fun _ => Board.of_cons_zero.symm
  have hfirst := h.first_size
  have hlast := h.last_size
  have hinv := firstRow_inv grid h.bonus_eq hmatch hfits
  have hroom := (fillRows_inv h.bonus_eq hfits rfl (Nat.zero_add _) hinv).room
  have hend := hfits.hi_lt_end (Nat.le_refl rest.length)
  -- the demands in the order in which they are made; the sweeps are left for the end
  refine .bind_of_eq (a := span band rest.length) (.windowOf h) rfl <|
    .bind_of_eq (.clear _ _ _) (Grid.clear_id _ _ _) <|
    .bind_of_eq (.row (by omega) (by omega)) (band.row_id 0) <|
    .bind_of_eq (.foldColumns (RowInv _ rest.length (span band rest.length) 0 · _) _ ?_ ?_
      (.cleared hfits grid)) rfl <|
    .bind_of_eq (.fillRows hcovers h hfits rfl (Nat.zero_add _) hinv) rfl <|
    .bind_of_eq (.row (by omega) (by omega)) (band.row_id rest.length) <|
    .bind (.foldColumns (fun _ _ => True) _ ?_ (fun _ _ _ _ _ => trivial) trivial)
      fun _ _ => .pure _
  · exact fun j s hj hjc hs => .firstRowStep hcovers h hfits hj (by omega) hs.room
  · exact fun j s hj hjc hs => firstRowStep_inv h.bonus_eq hmatch hfits hj (by omega) hs
  · exact fun j best hj hjc _ => .bestStep hroom (Nat.lt_succ_self _) (by omega) best

end Rows
end Passes
end FuzzyRank
