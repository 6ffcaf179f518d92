import FuzzyRank.Matcher
import FuzzyRank.Proofs.Placed
import FuzzyRank.Proofs.Trace

/-!
One alignment from start to end.

Whatever the buffers held before, an alignment answers with the trail that is shown for the pattern,
or with nothing if the pattern has no trail. How much of the trail it tells is all that the detail
decides.
-/

namespace FuzzyRank

open FuzzyRank.Alignment Scoring Trail
open FuzzyRank.Alignment.Band (lo hi Tight)

variable {α : Type} [Symbol α] {rule : CaseRule} {text : Array α}

/-! ## The table of class bonuses -/

/-- What holds of the table when the first `n` columns have been classified. -/
structure BonusInv (text : Array α) (n : Nat) (state : CharClass × Array Nat) : Prop where
  before_eq : state.1 = classBefore text n
  size_eq : state.2.size = n
  right : ∀ k < n, state.2.getD k 0 = bonusAt text k

theorem BonusInv.step {n : Nat} {before : CharClass} {table : Array Nat}
    (h : BonusInv text n (before, table)) (hn : n < text.size) :
    BonusInv text (n + 1) (Symbol.charClass text[n],
      table.push (classBonus before (Symbol.charClass text[n]))) where
  before_eq := by simp [classBefore, hn]
  size_eq := by
    have := h.size_eq
    simpa using this
  right k hk := by
    obtain ⟨rfl, hsize, hright⟩ := h
    rw [Array.getD_eq_getD_getElem?, Array.getElem?_push, show table.size = n from hsize]
    split
    · next heq =>
      subst heq
      simp [bonusAt, hn]
    · have := hright k (by omega)
      rwa [Array.getD_eq_getD_getElem?] at this

theorem BonusInv.bonusTable (text : Array α) (buffer : Array Nat) :
    ∃ before, BonusInv text text.size (before, bonusTable text buffer) := by
  refine ⟨_, Array.foldl_induction (BonusInv text) ?_ ?_⟩
  · exact ⟨rfl, by simp, fun k hk => by omega⟩
  · intro n state h
    exact h.step n.2

/-- The table has one bonus for each column. -/
theorem Scoring.size_bonusTable (text : Array α) (buffer : Array Nat) :
    (bonusTable text buffer).size = text.size := by
  obtain ⟨_, hinv⟩ := BonusInv.bonusTable text buffer
  exact hinv.size_eq

/-- The table holds the class bonus of every column. -/
theorem Scoring.bonusTable_getD (text : Array α) (buffer : Array Nat) (j : Nat) :
    (bonusTable text buffer).getD j 0 = bonusAt text j := by
  rcases Nat.lt_or_ge j text.size with hj | hj
  · obtain ⟨_, hinv⟩ := BonusInv.bonusTable text buffer
    exact hinv.right j hj
  · have hnone : text[j]? = none := Array.getElem?_eq_none hj
    have hsize := size_bonusTable text buffer
    rw [Array.getD_eq_getD_getElem?, Array.getElem?_eq_none (by omega)]
    simp [bonusAt, hnone]

/-! ## Trails of a text -/

theorem IsTrail.le {B : Board} {i j : Nat} {before : List Nat} (h : IsTrail B i j before) :
    i ≤ j := by
  induction h with
  | first => exact Nat.zero_le _
  | next _ hkj _ ih => omega

/-- Only a pattern that fits into the text has a trail. -/
theorem IsTrail.length_le {pattern : List α} {j : Nat} {before : List Nat}
    (h : IsTrail (Board.of rule pattern text) (pattern.length - 1) j before) :
    pattern.length ≤ text.size := by
  have hle := h.le
  have hj := Board.of_lt_size h.agrees
  omega

/-- At most one trail is shown. -/
theorem Shown.unique {B : Board} {bottom j k : Nat} {before other : List Nat}
    (h : Shown B bottom j before) (h' : Shown B bottom k other) : j = k ∧ before = other := by
  have hk := h.leftmost k other h'.best.1
  have hj := h'.leftmost j before h.best.1
  obtain rfl : j = k := by omega
  exact ⟨rfl, h.best.unique h'.best⟩

/-! ## The answer -/

/-- What is told of a placement. -/
def outcomeOf (score : Int) (columns : List Nat) : Detail → Outcome
  | .score => .score score
  | .span => .span score (columns.head?.getD 0) (columns.getLast?.elim 0 (· + 1))
  | .positions => .positions score columns

/-- An alignment leaves the table only after both scans have succeeded. -/
theorem align_outcome (pattern : List α) (detail : Detail) (grid : Grid) (bonuses : Array Nat)
    (band : Band) :
    (align rule pattern text detail ⟨grid, bonuses, band⟩ : Id (Option Outcome × Workspace)).run.1 =
      if (Band.scanForward rule text pattern 0 #[]).1 then
        if (Band.scanBackward rule text pattern.reverse text.size #[]).1 then
          (alignInBand rule pattern text (bonusTable text bonuses)
            ⟨(Band.scanForward rule text pattern 0 #[]).2,
              (Band.scanBackward rule text pattern.reverse text.size #[]).2.reverse⟩
            grid detail : Id (Option Outcome × Grid)).run.1
        else none
      else none := by
  have hshrink : ∀ xs : Array Nat, xs.shrink 0 = #[] := by simp
  unfold align
  simp only [Band.fillFirst, Band.fillLast, hshrink]
  cases (Band.scanForward rule text pattern 0 #[]).1 <;>
    cases (Band.scanBackward rule text pattern.reverse text.size #[]).1 <;> rfl

/-- A fold that forgets keeps the last element. -/
theorem foldl_last (l : List Nat) (s : Nat) :
    l.foldl (fun _ c => c) s = l.reverse.headD s := by
  induction l generalizing s with
  | nil => rfl
  | cons c l ih =>
    rw [List.foldl_cons, ih, List.reverse_cons]
    cases l.reverse <;> rfl

/-- What the trace tells of a best trail. -/
theorem describe_id {B : Board} {bottom : Nat} {band : Band} {window : Window} {grid : Grid}
    {j : Nat} {before : List Nat} (h : TableInv B bottom band window bottom grid)
    (htight : Tight B bottom band) (hs : Shown B bottom j before) (s : Int) (detail : Detail) :
    (describe detail grid window bottom j s : Id Outcome) =
      outcomeOf s (columnsOf j before) detail := by
  have htrace : ∀ {β : Type} (visit : Nat → β → β) (state : β),
      (trace visit grid window bottom j state : Id β) =
        (j :: before).foldl (fun s c => visit c s) state := fun visit state =>
    h.trace_eq visit htight (Nat.le_refl _) hs.best (htight.le_hi j hs.best.1.agrees) state
  cases detail with
  | score => rfl
  | span =>
    show Outcome.span s (trace (fun j _ => j) grid window bottom j j : Id Nat) (j + 1) = _
    rw [htrace, foldl_last, List.reverse_cons]
    simp only [outcomeOf, columnsOf, List.getLast?_concat]
    cases before.reverse <;> rfl
  | positions =>
    show Outcome.positions s (trace List.cons grid window bottom j [] : Id (List Nat)) = _
    rw [htrace, List.foldl_flip_cons_eq_append', List.reverse_cons, List.append_nil]
    rfl

section Lawful

variable [LawfulSymbol α] {pattern : List α} {j : Nat} {before : List Nat}

/-- Behind a successful scan an alignment answers with the trail that is shown. -/
theorem align_of_scan (hne : pattern ≠ [])
    (h : (Band.scanForward rule text pattern 0 #[]).1 = true) (detail : Detail)
    (workspace : Workspace) :
    ∃ j before, Shown (Board.of rule pattern text) (pattern.length - 1) j before ∧
      (align rule pattern text detail workspace : Id (Option Outcome × Workspace)).run.1 =
        some (outcomeOf (score (Board.of rule pattern text) j before) (columnsOf j before)
          detail) := by
  obtain ⟨p, rest, rfl⟩ := List.exists_cons_of_ne_nil hne
  obtain ⟨grid, bonuses, band⟩ := workspace
  have hfirst : Band.scanForward rule text (p :: rest) 0 #[] = (true, _) := Prod.ext h rfl
  have hback := scanBackward_of_scanForward hfirst #[]
  have hlast : Band.scanBackward rule text (p :: rest).reverse text.size #[] = (true, _) :=
    Prod.ext hback rfl
  have htight := tight_of_scans (Nat.le_refl _) hfirst hlast
  obtain ⟨j, before, grid', hshown, htable, hfill⟩ :=
    fill_shown (bonusTable_getD text bonuses) htight grid
  refine ⟨j, before, hshown, ?_⟩
  rw [align_outcome, if_pos h, if_pos hback]
  unfold alignInBand
  rw [hfill]
  exact congrArg some (describe_id htable htight hshown _ detail)

/-- The scan from the left succeeds exactly where there is a trail. -/
theorem scan_iff_trail (hne : pattern ≠ []) :
    (Band.scanForward rule text pattern 0 #[]).1 = true ↔
      ∃ j before, IsTrail (Board.of rule pattern text) (pattern.length - 1) j before := by
  constructor
  · intro h
    obtain ⟨j, before, hs, -⟩ := align_of_scan hne h .score Workspace.empty
    exact ⟨j, before, hs.best.1⟩
  · rintro ⟨j, before, t⟩
    have hplace := (isTrail_iff hne).mp t
    exact scanForward_of_spells hplace.spells hplace.increasing (fun _ _ => Nat.zero_le _) #[]

/-- Where there is a trail, there is one that is shown. -/
theorem exists_shown (hne : pattern ≠ [])
    (t : IsTrail (Board.of rule pattern text) (pattern.length - 1) j before) :
    ∃ k other, Shown (Board.of rule pattern text) (pattern.length - 1) k other := by
  have hscan := (scan_iff_trail hne).mpr ⟨j, before, t⟩
  obtain ⟨k, other, hs, -⟩ := align_of_scan hne hscan .score Workspace.empty
  exact ⟨k, other, hs⟩

/-- The answer is that for the trail that is shown, whatever was asked for and whatever the buffers
held. -/
theorem align_of_shown (hne : pattern ≠ [])
    (hs : Shown (Board.of rule pattern text) (pattern.length - 1) j before) (detail : Detail)
    (workspace : Workspace) :
    (align rule pattern text detail workspace : Id (Option Outcome × Workspace)).run.1 =
      some (outcomeOf (score (Board.of rule pattern text) j before) (columnsOf j before)
        detail) := by
  have hscan := (scan_iff_trail hne).mpr ⟨j, before, hs.best.1⟩
  obtain ⟨k, other, hs', heq⟩ := align_of_scan hne hscan detail workspace
  obtain ⟨rfl, rfl⟩ := hs.unique hs'
  exact heq

/-- Without a trail there is no answer. -/
theorem align_of_no_trail (hne : pattern ≠ [])
    (h : ∀ j before, ¬ IsTrail (Board.of rule pattern text) (pattern.length - 1) j before)
    (detail : Detail) (workspace : Workspace) :
    (align rule pattern text detail workspace : Id (Option Outcome × Workspace)).run.1 = none := by
  obtain ⟨grid, bonuses, band⟩ := workspace
  have hscan : ¬ (Band.scanForward rule text pattern 0 #[]).1 = true := by
    rw [scan_iff_trail hne]
    rintro ⟨j, before, t⟩
    exact h j before t
  rw [align_outcome, if_neg hscan]

/-- A pattern that does not fit into the text has no trail, so that the early refusal of such
patterns changes no answer. -/
theorem alignIfFits_eq (hne : pattern ≠ []) (detail : Detail) (workspace : Workspace) :
    (Matcher.alignIfFits rule pattern text detail workspace).1 =
      (align rule pattern text detail workspace : Id (Option Outcome × Workspace)).run.1 := by
  unfold Matcher.alignIfFits
  split
  · next hlong =>
    refine (align_of_no_trail hne (fun j before t => ?_) detail workspace).symm
    have := t.length_le
    omega
  · rfl

end Lawful
end FuzzyRank
