import FuzzyRank.Proofs.Band
import FuzzyRank.Proofs.Placed
import Mathlib.Data.List.Range
import Mathlib.Order.Bounds.Defs

/-!
The band brackets every placement, and no narrower band does.

Whatever placement of a pattern is looked at, the symbol of a row stands between the row's first and
last column. Both ends are taken: the first columns of all rows are a placement themselves, and so
are the last ones. The two scans are greedy, yet between them nothing is left out and nothing is
added.
-/

namespace FuzzyRank

open FuzzyRank.Alignment
open FuzzyRank.Alignment.Band (lo hi Tight)

variable {α : Type} [Symbol α] {rule : CaseRule} {pattern : List α} {text : Array α}
  {columns : List Nat} {band : Band}

/-- The columns that the symbol of a row takes over all placements of the pattern. -/
def columnsTaken (rule : CaseRule) (pattern : List α) (text : Array α) (row : Nat) : Set Nat :=
  {j | ∃ columns, IsPlacement rule pattern text columns ∧ columns[row]? = some j}

/-- The band has for every row the least and the greatest column that the row's symbol takes. -/
structure Brackets (rule : CaseRule) (pattern : List α) (text : Array α) (band : Band) :
    Prop where
  first_size : band.first.size = pattern.length
  last_size : band.last.size = pattern.length
  least : ∀ i < pattern.length, IsLeast (columnsTaken rule pattern text i) (band.lo i)
  greatest : ∀ i < pattern.length, IsGreatest (columnsTaken rule pattern text i) (band.hi i)
  lo_lt : ∀ i, i + 1 < pattern.length → band.lo i < band.lo (i + 1)
  hi_lt : ∀ i, i + 1 < pattern.length → band.hi i < band.hi (i + 1)
  lo_le_hi : ∀ i < pattern.length, band.lo i ≤ band.hi i

/-! ## Placements by rows -/

theorem spells_iff_agrees : Spells rule text pattern columns ↔ columns.length = pattern.length ∧
    ∀ i j, columns[i]? = some j → (Board.of rule pattern text).agrees i j := by
  induction pattern generalizing columns with
  | nil => cases columns <;> simp [Spells]
  | cons p ps ih =>
    cases columns with
    | nil => simp [Spells]
    | cons c more =>
      simp only [Spells, ih, List.length_cons, Nat.add_right_cancel_iff]
      constructor
      · rintro ⟨hp, hlen, hrest⟩
        refine ⟨hlen, fun i j hj => ?_⟩
        cases i with
        | zero =>
          cases hj
          exact Board.of_cons_zero.mpr hp
        | succ i => exact Board.of_cons_succ.mpr (hrest i j hj)
      · rintro ⟨hlen, hall⟩
        refine ⟨Board.of_cons_zero.mp (hall 0 c rfl), hlen, fun i j hj => ?_⟩
        exact Board.of_cons_succ.mp (hall (i + 1) j hj)

namespace IsPlacement

variable {i j k : Nat}

theorem agrees (h : IsPlacement rule pattern text columns) (hj : columns[i]? = some j) :
    (Board.of rule pattern text).agrees i j :=
  (spells_iff_agrees.mp h.spells).2 i j hj

theorem lt_length (h : IsPlacement rule pattern text columns) (hj : columns[i]? = some j) :
    i < pattern.length := by
  rw [← h.spells.length_eq]
  exact (List.getElem?_eq_some_iff.mp hj).1

/-- A row takes a column right of that of the row above. -/
theorem lt_of_getElem? (h : IsPlacement rule pattern text columns) (hj : columns[i]? = some j)
    (hk : columns[i + 1]? = some k) : j < k := by
  obtain ⟨hi, rfl⟩ := List.getElem?_eq_some_iff.mp hj
  obtain ⟨hi', rfl⟩ := List.getElem?_eq_some_iff.mp hk
  exact List.pairwise_iff_getElem.mp h.increasing i (i + 1) hi hi' (Nat.lt_succ_self i)

/-- Columns given row by row are a placement if they agree and increase from row to row. -/
theorem of_rows {f : Nat → Nat}
    (hagrees : ∀ i < pattern.length, (Board.of rule pattern text).agrees i (f i))
    (hlt : ∀ i, i + 1 < pattern.length → f i < f (i + 1)) :
    IsPlacement rule pattern text ((List.range pattern.length).map f) := by
  constructor
  · rw [← List.isChain_iff_pairwise, List.isChain_map, List.isChain_range]
    intro i hi
    exact hlt i (by omega)
  · rw [spells_iff_agrees]
    refine ⟨by simp, fun i j hj => ?_⟩
    simp only [List.getElem?_map, Option.map_eq_some_iff] at hj
    obtain ⟨r, hr, rfl⟩ := hj
    obtain ⟨hlen, rfl⟩ := List.getElem?_eq_some_iff.mp hr
    rw [List.getElem_range]
    exact hagrees i (by simpa using hlen)

end IsPlacement

/-! ## Both ends of a tight band -/

namespace Alignment.Band.Tight

variable {bottom i j : Nat}

section Bounds

variable (h : Tight (Board.of rule pattern text) bottom band)
  (hbottom : pattern.length = bottom + 1)

include h hbottom

/-- No placement runs left of the first columns. -/
theorem lo_le_of_placement (hp : IsPlacement rule pattern text columns)
    (hj : columns[i]? = some j) : band.lo i ≤ j := by
  induction i generalizing j with
  | zero => exact h.lo_le j (hp.agrees hj)
  | succ i ih =>
    have hi := hp.lt_length hj
    have hlen := hp.spells.length_eq
    have hk : columns[i]? = some columns[i] := List.getElem?_eq_getElem (by omega)
    have hlo := ih hk
    have hlt := hp.lt_of_getElem? hk hj
    exact h.lo_le_of_lt i (by omega) j (by omega) (hp.agrees hj)

/-- No placement runs right of the last columns. -/
theorem le_hi_of_placement (hp : IsPlacement rule pattern text columns)
    (hj : columns[i]? = some j) : j ≤ band.hi i := by
  -- what keeps a row from running right is the row below it, so the induction is on the rows below
  induction hd : bottom - i generalizing i j with
  | zero =>
    have hi := hp.lt_length hj
    obtain rfl : i = bottom := by omega
    exact h.le_hi j (hp.agrees hj)
  | succ d ih =>
    have hlen := hp.spells.length_eq
    have hk : columns[i + 1]? = some columns[i + 1] := List.getElem?_eq_getElem (by omega)
    have hhi := ih hk (by omega)
    have hlt := hp.lt_of_getElem? hj hk
    exact h.le_hi_of_lt i (by omega) j (by omega) (hp.agrees hj)

/-- The first columns are a placement. -/
theorem isPlacement_lo :
    IsPlacement rule pattern text ((List.range pattern.length).map band.lo) :=
  .of_rows (fun i hi => h.lo_agrees i (by omega)) fun i hi => h.lo_lt i (by omega)

/-- The last columns are a placement. -/
theorem isPlacement_hi :
    IsPlacement rule pattern text ((List.range pattern.length).map band.hi) :=
  .of_rows (fun i hi => h.hi_agrees i (by omega)) fun i hi => h.hi_lt i (by omega)

theorem isLeast_lo (hi : i < pattern.length) :
    IsLeast (columnsTaken rule pattern text i) (band.lo i) := by
  constructor
  · exact ⟨_, h.isPlacement_lo hbottom, by simp [List.getElem?_range hi]⟩
  · rintro j ⟨columns, hp, hj⟩
    exact h.lo_le_of_placement hbottom hp hj

theorem isGreatest_hi (hi : i < pattern.length) :
    IsGreatest (columnsTaken rule pattern text i) (band.hi i) := by
  constructor
  · exact ⟨_, h.isPlacement_hi hbottom, by simp [List.getElem?_range hi]⟩
  · rintro j ⟨columns, hp, hj⟩
    exact h.le_hi_of_placement hbottom hp hj

/-- A tight band brackets the placements of its pattern. -/
theorem brackets (hfirst : band.first.size = pattern.length)
    (hlast : band.last.size = pattern.length) : Brackets rule pattern text band where
  first_size := hfirst
  last_size := hlast
  least i hi := h.isLeast_lo hbottom hi
  greatest i hi := h.isGreatest_hi hbottom hi
  lo_lt i hi := h.lo_lt i (by omega)
  hi_lt i hi := h.hi_lt i (by omega)
  lo_le_hi i hi := h.lo_le_hi (by omega)

end Bounds

end Alignment.Band.Tight

/-! ## The scans -/

namespace Alignment.Band

theorem fillFirst_eq (start : Band) (rule : CaseRule) (pattern : List α) (text : Array α) :
    start.fillFirst rule pattern text = ((scanForward rule text pattern 0 #[]).1,
      { start with first := (scanForward rule text pattern 0 #[]).2 }) := by
  simp [fillFirst]

theorem fillLast_eq (start : Band) (rule : CaseRule) (pattern : List α) (text : Array α) :
    start.fillLast rule pattern text = ((scanBackward rule text pattern.reverse text.size #[]).1,
      { start with
        last := (scanBackward rule text pattern.reverse text.size #[]).2.reverse }) := by
  simp [fillLast]

/-- The scan from the left succeeds exactly where the pattern has a placement. The scan from the
right then succeeds too, and together they find the band that brackets all placements. -/
theorem fill_brackets [LawfulSymbol α] (start : Band) (rule : CaseRule) (text : Array α)
    (hne : pattern ≠ []) :
    ((start.fillFirst rule pattern text).1 = true ↔
        ∃ columns, IsPlacement rule pattern text columns) ∧
      ((start.fillFirst rule pattern text).1 = true →
        ((start.fillFirst rule pattern text).2.fillLast rule pattern text).1 = true ∧
          Brackets rule pattern text
            ((start.fillFirst rule pattern text).2.fillLast rule pattern text).2) := by
  rw [fillFirst_eq, fillLast_eq]
  dsimp only
  have hscans : (scanForward rule text pattern 0 #[]).1 = true →
      (scanBackward rule text pattern.reverse text.size #[]).1 = true ∧
        Brackets rule pattern text ⟨(scanForward rule text pattern 0 #[]).2,
          (scanBackward rule text pattern.reverse text.size #[]).2.reverse⟩ := by
    intro hforward
    have hfirst : scanForward rule text pattern 0 #[] = (true, _) := Prod.ext hforward rfl
    have hbackward := scanBackward_of_scanForward hfirst #[]
    have hlast : scanBackward rule text pattern.reverse text.size #[] = (true, _) :=
      Prod.ext hbackward rfl
    obtain ⟨p, rest, rfl⟩ := List.exists_cons_of_ne_nil hne
    have htight := tight_of_scans (Nat.le_refl _) hfirst hlast
    refine ⟨hbackward, htight.brackets List.length_cons (size_of_scanForward hfirst) ?_⟩
    rw [Array.size_reverse, size_of_scanBackward hlast, List.length_reverse]
  refine ⟨⟨fun hforward => ?_, ?_⟩, hscans⟩
  · have hpos := List.length_pos_iff.mpr hne
    obtain ⟨columns, hp, -⟩ := ((hscans hforward).2.least 0 hpos).1
    exact ⟨columns, hp⟩
  · rintro ⟨columns, hp⟩
    exact scanForward_of_spells hp.spells hp.increasing (fun _ _ => Nat.zero_le _) #[]

/-- Three columns hold the letter, of which two are taken; the buffers were used before. -/
theorem fill_brackets_banana :
    ['a', 'a'] ≠ [] ∧
      fillFirst ⟨#[4], #[0, 1, 2]⟩ .respect ['a', 'a'] "banana".toList.toArray =
        (true, ⟨#[1, 3], #[0, 1, 2]⟩) ∧
      fillLast ⟨#[1, 3], #[0, 1, 2]⟩ .respect ['a', 'a'] "banana".toList.toArray =
        (true, ⟨#[1, 3], #[3, 5]⟩) ∧
      (∃ columns, IsPlacement .respect ['a', 'a'] "banana".toList.toArray columns) ∧
      Brackets .respect ['a', 'a'] "banana".toList.toArray ⟨#[1, 3], #[3, 5]⟩ := by
  have hne : ['a', 'a'] ≠ [] := by decide
  have hfirst : fillFirst ⟨#[4], #[0, 1, 2]⟩ .respect ['a', 'a'] "banana".toList.toArray =
      (true, ⟨#[1, 3], #[0, 1, 2]⟩) := by decide +kernel
  have hlast : fillLast ⟨#[1, 3], #[0, 1, 2]⟩ .respect ['a', 'a'] "banana".toList.toArray =
      (true, ⟨#[1, 3], #[3, 5]⟩) := by decide +kernel
  obtain ⟨hiff, hbrackets⟩ :=
    fill_brackets ⟨#[4], #[0, 1, 2]⟩ .respect "banana".toList.toArray hne
  rw [hfirst] at hiff hbrackets
  dsimp only at hbrackets
  rw [hlast] at hbrackets
  exact ⟨hne, hfirst, hlast, hiff.mp rfl, (hbrackets rfl).2⟩

end Alignment.Band
end FuzzyRank
