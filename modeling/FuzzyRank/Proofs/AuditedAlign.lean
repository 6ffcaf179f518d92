import FuzzyRank.Proofs.AuditedFill

/-!
Aligning without a refusal.

The trace goes where the best trail goes: what a cell says of its run never leads out of the table,
and where the run does not reach the first row, its head has been entered from somewhere. With the
scans before and the table between, a whole alignment has no demand refused, its sums stay in range,
and its trace ends after one column for each symbol of the pattern.
-/

namespace FuzzyRank

open FuzzyRank.Alignment Scoring Trail
open FuzzyRank.Alignment.Band (lo hi Tight)

variable {range : Nat → Int → Bool} {α β : Type} [Symbol α]

namespace Passes

section Trace

variable {B : Board} {bottom i j : Nat} {band : Band} {window : Window} {grid : Grid}
  {before : List Nat}

/-- The trace passes from where a best trail ends. -/
theorem trace (visit : Nat → β → β) (h : TableInv B bottom band window bottom grid)
    (hfits : Fits B bottom band window) (hi : i ≤ bottom)
    (hb : IsBest (IsTrail B i j) (score B j) (some before)) (hj : j ≤ band.hi i) (state : β) :
    Passes range (Alignment.trace visit grid window i j state)
      (Alignment.trace visit grid window i j state) := by
  -- the trace goes up by whole runs, so the induction is on the row
  induction i using Nat.strongRecOn generalizing j before state with
  | ind i ih =>
    have hrun := (h.right i hi j hj).runOf_eq hb
    have hle := hb.1.runLength_le
    have hhead := runHead_add_runLength j before
    have hend := hfits.hi_lt_end hi
    unfold Alignment.trace
    refine .bind_of_eq (.cell h.room (by omega) (by omega)) (Grid.cell_id _ _ _ _) ?_
    rw [hrun]
    refine .bind (.demand (decide_eq_true hle)) fun _ _ =>
      .bind_of_eq (.minus (by omega)) (Nat.sub_eq_of_eq_add hhead.symm) <|
      .bind_of_eq (.cell h.room (by omega) (by omega)) (Grid.cell_id _ _ _ _) ?_
    split
    · exact .pure _
    · next above hrow =>
      obtain ⟨k, rest, -, hsource, hkhi, hrest⟩ := h.source_of_head hfits.tight hi hb hj hrow
      rw [hrow, hsource]
      exact .bind_of_eq (.follow k) rfl (ih above (by omega) (by omega) hrest hkhi _)

theorem describe (h : TableInv B bottom band window bottom grid) (hfits : Fits B bottom band window)
    (hs : Shown B bottom j before) (s : Int) (detail : Detail) :
    Passes range (Alignment.describe detail grid window bottom j s)
      (Alignment.describe detail grid window bottom j s) := by
  have htrace : ∀ {β : Type} (visit : Nat → β → β) (state : β), Passes range
      (Alignment.trace visit grid window bottom j state)
      (Alignment.trace visit grid window bottom j state) := fun visit state =>
    .trace visit h hfits (Nat.le_refl _) hs.best (hfits.tight.le_hi j hs.best.1.agrees) state
  cases detail with
  | score => exact .pure _
  | span => exact .bind (htrace _ _) fun _ _ => .pure _
  | positions => exact .bind (htrace _ _) fun _ _ => .pure _

end Trace

section Align

variable {rule : CaseRule} {p : α} {rest : List α} {text : Array α}

theorem alignInBand {bonuses : Array Nat} {band : Band} (hcovers : Covers range text.size)
    (h : LaidOut (Board.of rule (p :: rest) text) rest.length text.size band bonuses)
    (grid : Grid) (detail : Detail) :
    Passes range
      (Alignment.alignInBand rule (p :: rest) text bonuses band grid detail)
      (Alignment.alignInBand rule (p :: rest) text bonuses band grid detail) := by
  obtain ⟨j, before, table, hshown, htable, hfill⟩ := fill_shown h.bonus_eq h.tight grid
  exact .bind_of_eq (.fill hcovers h grid) hfill
    (.bind (.describe htable (Fits.of_tight h.tight) hshown _ detail) fun _ _ => .pure _)

end Align
end Passes

/-! ## A whole alignment -/

section Align

variable [LawfulSymbol α] {rule : CaseRule} {p : α} {rest pattern : List α} {text : Array α}
  {start half band : Band} {found : Bool}

/-- Where the first scan succeeds, the second does, and both lay out what a table needs. -/
theorem LaidOut.of_scans (hfirst : start.fillFirst rule (p :: rest) text = (true, half))
    (hlast : half.fillLast rule (p :: rest) text = (found, band)) (buffer : Array Nat) :
    found = true ∧ LaidOut (Board.of rule (p :: rest) text) rest.length text.size band
      (bonusTable text buffer) := by
  have hshrink : ∀ xs : Array Nat, xs.shrink 0 = #[] := by simp
  simp only [Band.fillFirst, hshrink] at hfirst
  obtain ⟨hforward, rfl⟩ := Prod.mk.inj hfirst
  have hscan : Band.scanForward rule text (p :: rest) 0 #[] = (true, _) := Prod.ext hforward rfl
  have hbackward := scanBackward_of_scanForward hscan #[]
  have hscan' : Band.scanBackward rule text (p :: rest).reverse text.size #[] = (true, _) :=
    Prod.ext hbackward rfl
  simp only [Band.fillLast, hshrink] at hlast
  obtain ⟨rfl, rfl⟩ := Prod.mk.inj hlast
  have htight := tight_of_scans (Nat.le_refl _) hscan hscan'
  have hfirstSize := size_of_scanForward hscan
  have hlastSize := size_of_scanBackward hscan'
  rw [List.length_reverse] at hlastSize
  rw [List.length_cons] at hfirstSize hlastSize
  refine ⟨hbackward, htight, Nat.lt_of_lt_of_eq (Nat.lt_succ_self _) hfirstSize.symm, ?_,
    Board.of_lt_size (htight.hi_agrees _ (Nat.le_refl _)), bonusTable_getD text buffer,
    Nat.le_of_eq (size_bonusTable text buffer).symm⟩
  rw [Array.size_reverse]
  exact Nat.lt_of_lt_of_eq (Nat.lt_succ_self _) hlastSize.symm

/-- Whatever the buffers held, an alignment of a pattern that is not empty has no demand refused. -/
theorem Passes.align (hcovers : Covers range text.size) (hne : pattern ≠ []) (detail : Detail)
    (workspace : Workspace) :
    Passes range (Alignment.align rule pattern text detail workspace)
      (Alignment.align rule pattern text detail workspace) := by
  obtain ⟨p, rest, rfl⟩ := List.exists_cons_of_ne_nil hne
  obtain ⟨grid, bonuses, band⟩ := workspace
  unfold Alignment.align
  dsimp only
  cases hfirst : band.fillFirst rule (p :: rest) text with
  | mk found half =>
    cases found with
    | false => exact .pure _
    | true =>
      cases hlast : half.fillLast rule (p :: rest) text with
      | mk found both =>
        obtain ⟨rfl, h⟩ := LaidOut.of_scans hfirst hlast bonuses
        exact .bind (.alignInBand hcovers h grid detail) fun _ _ => .pure _

/-! ## Safety -/

/-- An alignment has no demand refused: no index lies outside its array, no difference goes below
zero and no link is missing. Where the scan from the left succeeds, the trace ends after visiting
one column for each symbol of the pattern, from right to left. -/
theorem Alignment.align_unrefused (workspace : Workspace) (hne : pattern ≠ [])
    (hfirst : workspace.band.fillFirst rule pattern text = (true, half))
    (hlast : half.fillLast rule pattern text = (found, band)) :
    found = true ∧
      (∀ detail, (align rule pattern text detail workspace :
          Audit (Demand.Met fun _ _ => true) (Option Outcome × Workspace)) =
        pure (align rule pattern text detail workspace : Id (Option Outcome × Workspace)).run) ∧
      ∃ score column window table, ∃ columns : List Nat,
        (fill rule pattern text (bonusTable text workspace.bonuses) band workspace.grid :
            Audit (Demand.Met fun _ _ => true) (Option (Int × Nat) × Window × Grid)) =
          pure (some (score, column), window, table) ∧
        columns.length = pattern.length ∧ columns.Pairwise (· > ·) ∧
        ∀ {β : Type} (visit : Nat → β → β) (state : β),
          (trace visit table window (pattern.length - 1) column state :
              Audit (Demand.Met fun _ _ => true) β) =
            pure (columns.foldl (fun state c => visit c state) state) := by
  have hcovers : Covers (fun _ _ => true) text.size := fun _ _ _ _ _ => rfl
  have halign : ∀ detail, Passes (fun _ _ => true)
      (align rule pattern text detail workspace) (align rule pattern text detail workspace) :=
    fun detail => .align hcovers hne detail workspace
  obtain ⟨p, rest, rfl⟩ := List.exists_cons_of_ne_nil hne
  obtain ⟨hfound, h⟩ := LaidOut.of_scans hfirst hlast workspace.bonuses
  obtain ⟨j, before, table, hshown, htable, hfill⟩ :=
    fill_shown h.bonus_eq h.tight workspace.grid
  have hfilled := (Passes.fill hcovers h workspace.grid).eq_pure hfill
  refine ⟨hfound, halign, _, _, _, _, j :: before, hfilled, ?_, ?_, fun visit state => ?_⟩
  · rw [List.length_cons, hshown.best.1.length_eq, List.length_cons]
  · exact pairwise_columnsOf.mp ((isTrail_iff hne).mp hshown.best.1).increasing
  · have hhi := h.tight.le_hi j hshown.best.1.agrees
    exact (Passes.trace visit htable (Fits.of_tight h.tight) (Nat.le_refl _) hshown.best hhi
      state).eq_pure (htable.trace_eq visit h.tight (Nat.le_refl _) hshown.best hhi state)

/-- The buffers that an alignment of `a` in `/a` leaves, after a search for three symbols that found
only two. -/
def worn : Workspace :=
  ⟨⟨#[some ⟨25, 0, some ⟨25, none⟩⟩], #[noRuns], #[noRuns]⟩, #[8, 9], ⟨#[7, 8], #[1]⟩⟩

/-- A text with room for two runs and a gap between them. -/
def banana : Array Char := #['b', 'a', 'n', 'a', 'n', 'a']

theorem Alignment.align_unrefused_banana :
    worn.band.fillFirst .respect ['a', 'n', 'n', 'a'] banana = (true, ⟨#[1, 2, 4, 5], #[1]⟩) ∧
      Band.fillLast ⟨#[1, 2, 4, 5], #[1]⟩ .respect ['a', 'n', 'n', 'a'] banana =
        (true, ⟨#[1, 2, 4, 5], #[1, 2, 4, 5]⟩) ∧
      (align .respect ['a', 'n', 'n', 'a'] banana .positions worn :
        Id (Option Outcome × Workspace)).run.1 = some (.positions 69 [1, 2, 4, 5]) ∧
      (∀ detail, (align .respect ['a', 'n', 'n', 'a'] banana detail worn :
          Audit (Demand.Met fun _ _ => true) (Option Outcome × Workspace)) =
        pure (align .respect ['a', 'n', 'n', 'a'] banana detail worn :
          Id (Option Outcome × Workspace)).run) ∧
      ∃ column window table, ∃ columns : List Nat,
        columns.length = 4 ∧ columns.Pairwise (· > ·) ∧
        (trace List.cons table window 3 column [] :
          Audit (Demand.Met fun _ _ => true) (List Nat)) = pure columns.reverse := by
  have hfirst : worn.band.fillFirst .respect ['a', 'n', 'n', 'a'] banana =
      (true, ⟨#[1, 2, 4, 5], #[1]⟩) := by decide +kernel
  have hlast : Band.fillLast ⟨#[1, 2, 4, 5], #[1]⟩ .respect ['a', 'n', 'n', 'a'] banana =
      (true, ⟨#[1, 2, 4, 5], #[1, 2, 4, 5]⟩) := by decide +kernel
  obtain ⟨-, halign, _, column, window, table, columns, -, hlength, hdown, htrace⟩ :=
    align_unrefused worn (by decide) hfirst hlast
  have hreverse := htrace List.cons []
  rw [List.foldl_flip_cons_eq_append', List.append_nil] at hreverse
  exact ⟨hfirst, hlast, by decide +kernel, halign, column, window, table, columns, hlength, hdown,
    hreverse⟩

/-! ## Score arithmetic -/

/-- The sums that may be formed in a row of the table for a text of the given size: more than the
negated size, and at most 36 for each row; moreover words of 32 bits, which end before `2 ^ 31`, and
more than half the least of them, which is `-2 ^ 30`. -/
def admissible (size row : Nat) (value : Int) : Bool :=
  -(size : Int) < value ∧ value ≤ 36 * (row + 1) ∧ -1073741824 < value ∧ value < 2147483648

/-- Up to this size of the text 36 for each row stay a word of 32 bits. -/
theorem covers_admissible {size : Nat} (hsize : size ≤ 59652323) :
    Covers (admissible size) size := by
  intro row value hrow hlow hhigh
  simp only [admissible, decide_eq_true_eq]
  omega

theorem Worth.admissible {size i j : Nat} {v : Int} (h : Worth i j v) (hsize : size ≤ 59652323)
    (hi : i < size) (hj : j < size) : admissible size i v := by
  obtain ⟨hlow, hhigh⟩ := h
  exact covers_admissible hsize i v hi (by omega) hhigh

/-- Up to that size of the text, filling the table forms admissible sums only. The scores of gaps,
runs, entries and cells are such sums; those that stay in the filled table are named besides. -/
theorem Alignment.fill_admissible (hne : pattern ≠ []) (hsize : text.size ≤ 59652323)
    (hfirst : start.fillFirst rule pattern text = (true, half))
    (hlast : half.fillLast rule pattern text = (found, band)) (buffer : Array Nat) (grid : Grid) :
    ∃ score column window table,
      (fill rule pattern text (bonusTable text buffer) band grid :
          Audit (Demand.Met (admissible text.size)) (Option (Int × Nat) × Window × Grid)) =
        pure (some (score, column), window, table) ∧
      (fill rule pattern text (bonusTable text buffer) band grid :
          Id (Option (Int × Nat) × Window × Grid)) = (some (score, column), window, table) ∧
      admissible text.size (pattern.length - 1) score ∧
      ∀ row < pattern.length,
        (∀ slot < slotCount, admissible text.size row (slotBonus slot)) ∧
        ∀ j cell, window.Contains j → table.cellAt window row j = some cell →
          admissible text.size row cell.score ∧
            ∀ entry, cell.entry = some entry → admissible text.size row entry.score := by
  obtain ⟨p, rest, rfl⟩ := List.exists_cons_of_ne_nil hne
  obtain ⟨-, h⟩ := LaidOut.of_scans hfirst hlast buffer
  obtain ⟨j, before, table, hshown, htable, hfill⟩ := fill_shown h.bonus_eq h.tight grid
  have hfilled := (Passes.fill (covers_admissible hsize) h grid).eq_pure hfill
  have hbottom := h.row_lt (Nat.le_refl rest.length)
  have hj := Board.of_lt_size hshown.best.1.agrees
  refine ⟨_, _, _, _, hfilled, hfill, hshown.best.1.worth.admissible hsize hbottom hj,
    fun row hrow => ⟨fun slot hslot => ?_, fun c cell hc hcell => ?_⟩⟩
  all_goals
    have hrow' : row ≤ rest.length := Nat.le_of_lt_succ hrow
    have hlt := h.row_lt hrow'
  · have hbonus := slotBonus_bounds hslot
    exact covers_admissible hsize row _ hlt (by omega) (by omega)
  · rcases Nat.lt_or_ge (band.hi row) c with hbeyond | hinside
    · rw [htable.beyond row hrow' c hbeyond hc.2] at hcell
      cases hcell
    · have hright := htable.right row hrow' c hinside
      rw [hcell] at hright
      have hcs := h.column_lt hrow' hinside
      exact ⟨hright.worth.admissible hsize hlt hcs, fun entry he =>
        (hright.entry_worth he).admissible hsize hlt hcs⟩

/-- Two letters far apart. -/
def farApart : Array Char := ('a' :: List.replicate 60 '-' ++ ['b']).toArray

/-- A gap can cost more than the symbols on its sides earn. -/
theorem Alignment.fill_admissible_farApart :
    farApart.size ≤ 59652323 ∧
      Band.fillFirst ⟨#[], #[]⟩ .respect ['a', 'b'] farApart = (true, ⟨#[0, 61], #[]⟩) ∧
      Band.fillLast ⟨#[0, 61], #[]⟩ .respect ['a', 'b'] farApart =
        (true, ⟨#[0, 61], #[0, 61]⟩) ∧
      (fill .respect ['a', 'b'] farApart (bonusTable farApart #[]) ⟨#[0, 61], #[0, 61]⟩
        ⟨#[], #[], #[]⟩ : Id (Option (Int × Nat) × Window × Grid)).run.1 = some (-2, 61) ∧
      admissible farApart.size 1 (-2) ∧
      (fill .respect ['a', 'b'] farApart (bonusTable farApart #[]) ⟨#[0, 61], #[0, 61]⟩
          ⟨#[], #[], #[]⟩ :
        Audit (Demand.Met (admissible farApart.size)) (Option (Int × Nat) × Window × Grid)) =
          pure (fill .respect ['a', 'b'] farApart (bonusTable farApart #[])
              ⟨#[0, 61], #[0, 61]⟩ ⟨#[], #[], #[]⟩ :
            Id (Option (Int × Nat) × Window × Grid)).run := by
  have hsize : farApart.size ≤ 59652323 := by decide +kernel
  have hfirst : Band.fillFirst ⟨#[], #[]⟩ .respect ['a', 'b'] farApart =
      (true, ⟨#[0, 61], #[]⟩) := by decide +kernel
  have hlast : Band.fillLast ⟨#[0, 61], #[]⟩ .respect ['a', 'b'] farApart =
      (true, ⟨#[0, 61], #[0, 61]⟩) := by decide +kernel
  have hbest : (fill .respect ['a', 'b'] farApart (bonusTable farApart #[])
      ⟨#[0, 61], #[0, 61]⟩ ⟨#[], #[], #[]⟩ : Id (Option (Int × Nat) × Window × Grid)).run.1 =
        some (-2, 61) := by decide +kernel
  obtain ⟨score, column, window, table, haudit, hplain, hadmissible, -⟩ :=
    fill_admissible (by decide) hsize hfirst hlast #[] ⟨#[], #[], #[]⟩
  have hscore : some (score, column) = some ((-2 : Int), 61) :=
    (congrArg Prod.fst hplain).symm.trans hbest
  obtain ⟨rfl, rfl⟩ := Prod.mk.inj (Option.some.inj hscore)
  exact ⟨hsize, hfirst, hlast, hbest, hadmissible, haudit.trans (congrArg pure hplain).symm⟩

end Align
end FuzzyRank
