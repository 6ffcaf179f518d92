import FuzzyRank.Proofs.Matching

/-!
What an answer does not depend on.

An alignment answers for its board alone. So it does not matter what earlier alignments left in the
buffers, which only grow and are never wiped between calls, and it does not matter whether two ASCII
texts are read by their bytes or by their characters. A matcher that is called again and again
answers every call as if it were the first.
-/

namespace FuzzyRank

open FuzzyRank.Alignment Guarded

/-! ## The board settles the answer -/

/-- Two alignments with the same board and equally long patterns give the same answer, in whatever
units they read their texts and whatever their buffers hold. -/
theorem align_congr {α β : Type} [Symbol α] [LawfulSymbol α] [Symbol β] [LawfulSymbol β]
    {rule : CaseRule} {pattern : List α} {text : Array α} {pattern' : List β} {text' : Array β}
    (hne : pattern ≠ []) (hlength : pattern'.length = pattern.length)
    (hboard : Board.of rule pattern' text' = Board.of rule pattern text) (detail : Detail)
    (workspace workspace' : Workspace) :
    (align rule pattern' text' detail workspace' : Id (Option Outcome × Workspace)).run.1 =
      (align rule pattern text detail workspace : Id (Option Outcome × Workspace)).run.1 := by
  have hne' : pattern' ≠ [] := by
    rintro rfl
    exact hne (List.eq_nil_of_length_eq_zero hlength.symm)
  by_cases h : ∃ j before, IsTrail (Board.of rule pattern text) (pattern.length - 1) j before
  · obtain ⟨j, before, t⟩ := h
    obtain ⟨k, shown, hs⟩ := exists_shown hne t
    have hs' : Shown (Board.of rule pattern' text') (pattern'.length - 1) k shown := by
      rw [hboard, hlength]
      exact hs
    rw [align_of_shown hne hs, align_of_shown hne' hs', hboard]
  · have hno : ∀ j before, ¬ IsTrail (Board.of rule pattern text) (pattern.length - 1) j before :=
      fun j before t => h ⟨j, before, t⟩
    have hno' : ∀ j before,
        ¬ IsTrail (Board.of rule pattern' text') (pattern'.length - 1) j before := by
      rw [hboard, hlength]
      exact hno
    rw [align_of_no_trail hne hno, align_of_no_trail hne' hno']

/-! ## Bytes and characters -/

/-- The UTF-8 form of ASCII characters has one byte for each. -/
theorem flatMap_utf8EncodeChar {cs : List Char} (h : AllAscii cs) :
    cs.flatMap String.utf8EncodeChar = cs.map Symbol.byteOf := by
  induction cs with
  | nil => rfl
  | cons c cs ih =>
    have hc : c.toNat < 128 := h c (by simp)
    have hsize : c.utf8Size = 1 := by
      rw [Char.utf8Size_eq_one_iff, UInt32.le_iff_toNat_le]
      exact Nat.le_of_lt_succ hc
    rw [List.flatMap_cons, String.utf8EncodeChar_eq_singleton hsize, List.map_cons,
      ih fun d hd => h d (by simp [hd])]
    rfl

/-- What a matcher reads of an ASCII text are the bytes of its UTF-8 form. -/
theorem Matcher.toUTF8_data {text : String} (h : isAscii text = true) :
    text.toUTF8.data = (asciiBytes text).toArray := by
  rw [isAscii_iff] at h
  rw [String.toUTF8_eq_toByteArray, ← String.utf8Encode_toList, List.utf8Encode,
    List.data_toByteArray, flatMap_utf8EncodeChar h, asciiBytes_eq]

/-- An alignment of the bytes of two ASCII texts and one of their characters give the same answer,
whatever the buffers of either hold. -/
theorem align_bytes_eq_align_chars (rule : CaseRule) {pattern text : String} (detail : Detail)
    (workspace workspace' : Workspace) (hpattern : Matcher.isAscii pattern = true)
    (htext : Matcher.isAscii text = true) (hne : pattern ≠ "") :
    (align rule pattern.toUTF8.data.toList text.toUTF8.data detail workspace' :
        Id (Option Outcome × Workspace)).run.1 =
      (align rule pattern.toList text.toList.toArray detail workspace :
        Id (Option Outcome × Workspace)).run.1 := by
  have hne' : pattern.toList ≠ [] := fun h => hne (String.toList_eq_nil_iff.mp h)
  rw [Matcher.toUTF8_data hpattern, Matcher.toUTF8_data htext, Matcher.asciiBytes_eq,
    Matcher.asciiBytes_eq]
  rw [Matcher.isAscii_iff] at hpattern htext
  have hboard := Board.of_bytes rule hpattern htext
  exact align_congr hne' (by simp) hboard detail workspace workspace'

/-- The two ways to read a path, in which the pattern takes a capital and a small letter. -/
theorem align_bytes_eq_align_chars_path :
    Matcher.isAscii "rm" = true ∧ Matcher.isAscii "doc/ReadMe" = true ∧ "rm" ≠ "" ∧
      (align .ignore "rm".toUTF8.data.toList "doc/ReadMe".toUTF8.data .positions Workspace.empty :
          Id (Option Outcome × Workspace)).run.1 =
        (align .ignore "rm".toList "doc/ReadMe".toList.toArray .positions Workspace.empty :
          Id (Option Outcome × Workspace)).run.1 := by
  have hpattern : Matcher.isAscii "rm" = true := by decide
  have htext : Matcher.isAscii "doc/ReadMe" = true := by decide
  have hne : "rm" ≠ "" := by decide
  exact ⟨hpattern, htext, hne, align_bytes_eq_align_chars .ignore .positions Workspace.empty
    Workspace.empty hpattern htext hne⟩

/-! ## Rows of runs -/

namespace Alignment.Grid

/-- Both rows of runs have the same number of places. -/
def Even (grid : Grid) : Prop :=
  grid.above.size = grid.current.size

variable {grid : Grid} {window : Window} {row column : Nat}

theorem Even.withCell (h : grid.Even) (cell : Option Cell) :
    (grid.withCell window row column cell).Even := h

theorem Even.withRuns (h : grid.Even) (runs : Runs) : (grid.withRuns window column runs).Even := by
  unfold Even Grid.withRuns
  rw [Array.size_setIfInBounds]
  exact h

theorem Even.nextRow (h : grid.Even) : grid.nextRow.Even :=
  h.symm

/-- Rows of one length grow to one length. -/
theorem Even.cleared (h : grid.Even) (rows width : Nat) : (grid.cleared rows width).Even := by
  unfold Even at *
  simp only [Grid.cleared, grow, Array.size_append, Array.size_replicate, h]

/-- Where the rows of runs have one length, a test of the current row's length serves for both: if
it is too short, both get the new width, and if not, both stay as they are. -/
theorem Even.cleared_rows (h : grid.Even) (rows width : Nat) :
    ((grid.cleared rows width).above, (grid.cleared rows width).current) =
      if width > grid.current.size then
        (grid.above ++ Array.replicate (width - grid.current.size) noRuns,
          grid.current ++ Array.replicate (width - grid.current.size) noRuns)
      else (grid.above, grid.current) := by
  unfold Even at h
  simp only [Grid.cleared, grow, h]
  split
  · rfl
  · next hwide =>
    have hzero : width - grid.current.size = 0 := by omega
    simp [hzero]

end Alignment.Grid

section Rows

variable {α : Type} [Symbol α] {rule : CaseRule} {p : α} {text : Array α} {bonuses : Array Nat}
  {window : Window} {grid : Grid}

theorem firstRowStep_even (h : grid.Even) (column : Nat) :
    (firstRowStep rule p text bonuses window grid column : Id Grid).run.Even := by
  show Grid.Even (if text[column]?.any (Symbol.same rule p) then
    (grid.withCell window 0 column _).withRuns window column noRuns else grid)
  split
  · exact (h.withCell _).withRuns _
  · exact h

theorem putColumn_even (h : grid.Even) (row column : Nat) (runs : Runs) (cell : Option Cell) :
    (putColumn grid window row column runs cell).Even := by
  cases cell with
  | none => exact h.withRuns runs
  | some c => exact (h.withRuns runs).withCell (some c)

theorem rowStep_even {sweep : Sweep} (h : sweep.grid.Even)
    (above aboveFirst first column : Nat) :
    (rowStep rule p text bonuses window above aboveFirst first sweep column :
      Id Sweep).run.grid.Even := by
  obtain ⟨gap, grid⟩ := sweep
  show Grid.Even (Sweep.grid (rowStep rule p text bonuses window above aboveFirst first
    ⟨gap, grid⟩ column : Id Sweep))
  rw [rowStep_id]
  dsimp only
  split
  · exact h
  split
  · exact putColumn_even h _ _ _ _
  · exact h

theorem fillRows_even {band : Band} (rest : List α) (above : Nat) (h : grid.Even) :
    (fillRows rule text bonuses band window rest above grid : Id Grid).run.Even := by
  induction rest generalizing above grid with
  | nil => exact h
  | cons p rest ih =>
    refine ih (above + 1) (Grid.Even.nextRow ?_)
    exact foldColumns_inv (fun _ (sweep : Sweep) => sweep.grid.Even) _
      (fun j sweep _ _ hs => rowStep_even hs _ _ _ j) h

theorem fill_even {band : Band} (pattern : List α) (h : grid.Even) :
    (fill rule pattern text bonuses band grid :
      Id (Option (Int × Nat) × Window × Grid)).run.2.2.Even := by
  cases pattern with
  | nil => exact h
  | cons p rest =>
    refine fillRows_even rest 0 (Grid.Even.nextRow ?_)
    exact foldColumns_inv (fun _ (grid : Grid) => grid.Even) _
      (fun j grid _ _ hg => firstRowStep_even hg j) (h.cleared _ _)

theorem alignInBand_even {band : Band} (h : grid.Even) (pattern : List α) (detail : Detail) :
    (alignInBand rule pattern text bonuses band grid detail :
      Id (Option Outcome × Grid)).run.2.Even := by
  have hfill : (fill rule pattern text bonuses band grid :
      Id (Option (Int × Nat) × Window × Grid)).run.2.2.Even := fill_even pattern h
  unfold alignInBand
  generalize (fill rule pattern text bonuses band grid :
    Id (Option (Int × Nat) × Window × Grid)) = filled at hfill ⊢
  obtain ⟨best, window, grid'⟩ := filled
  cases best with
  | none => exact hfill
  | some _ => exact hfill

/-- An alignment touches the table only after both scans have succeeded. -/
theorem align_grid (pattern : List α) (detail : Detail) (grid : Grid) (bonuses : Array Nat)
    (band : Band) : (align rule pattern text detail ⟨grid, bonuses, band⟩ :
      Id (Option Outcome × Workspace)).run.2.grid =
      if (Band.scanForward rule text pattern 0 #[]).1 then
        if (Band.scanBackward rule text pattern.reverse text.size #[]).1 then
          (alignInBand rule pattern text (Scoring.bonusTable text bonuses)
            ⟨(Band.scanForward rule text pattern 0 #[]).2,
              (Band.scanBackward rule text pattern.reverse text.size #[]).2.reverse⟩
            grid detail : Id (Option Outcome × Grid)).run.2
        else grid
      else grid := by
  have hshrink : ∀ xs : Array Nat, xs.shrink 0 = #[] := by simp
  unfold align
  simp only [Band.fillFirst, Band.fillLast, hshrink]
  cases (Band.scanForward rule text pattern 0 #[]).1 <;>
    cases (Band.scanBackward rule text pattern.reverse text.size #[]).1 <;> rfl

/-- An alignment leaves rows of one length, also where a scan gives up halfway. -/
theorem align_even {workspace : Workspace} (h : workspace.grid.Even) (pattern : List α)
    (detail : Detail) :
    (align rule pattern text detail workspace :
      Id (Option Outcome × Workspace)).run.2.grid.Even := by
  obtain ⟨grid, bonuses, band⟩ := workspace
  rw [align_grid]
  split
  · split
    · exact alignInBand_even h pattern detail
    · exact h
  · exact h

end Rows

/-! ## Many calls -/

namespace Matcher

/-- What is made of an outcome leaves the buffers alone. -/
theorem bind_snd {σ β γ : Type} (x : StateM σ β) (f : β → StateM σ γ) (state : σ)
    (hf : ∀ b s, (f b s).2 = s) : ((x >>= f) state).2 = (x state).2 :=
  hf _ _

section Buffers

variable (rule : CaseRule) (text pattern : String) (workspace : Workspace)

theorem score_snd :
    (score? rule text pattern workspace).2 = (run rule text pattern .score workspace).2 := by
  refine bind_snd _ _ workspace fun found s => ?_
  rcases found with _ | ⟨_⟩ | ⟨_⟩ | ⟨_⟩ <;> rfl

theorem span_snd :
    (span? rule text pattern workspace).2 = (run rule text pattern .span workspace).2 := by
  refine bind_snd _ _ workspace fun found s => ?_
  rcases found with _ | ⟨_⟩ | ⟨_⟩ | ⟨_⟩ <;> rfl

theorem positions_snd : (positions? rule text pattern workspace).2 =
    (run rule text pattern .positions workspace).2 := by
  refine bind_snd _ _ workspace fun found s => ?_
  rcases found with _ | ⟨_⟩ | ⟨_⟩ | ⟨_⟩ <;> rfl

theorem find_snd (withPositions : Bool) : (find? rule text pattern withPositions workspace).2 =
    (run rule text pattern (if withPositions then .positions else .span) workspace).2 := by
  unfold find?
  cases withPositions with
  | true =>
    refine Eq.trans (bind_snd _ _ workspace fun found s => ?_) (positions_snd ..)
    cases found <;> rfl
  | false =>
    refine Eq.trans (bind_snd _ _ workspace fun found s => ?_) (span_snd ..)
    cases found <;> rfl

end Buffers

/-- The ways to ask a matcher about a text. -/
inductive Question where
  | score
  | span
  | positions
  | whole (withPositions : Bool)
deriving DecidableEq, Repr

/-- What a matcher replies, in the form that was asked for. -/
inductive Reply where
  | score (found : Option Int)
  | span (found : Option (Int × Nat × Nat))
  | positions (found : Option (Int × List Nat))
  | whole (found : Option Match)
deriving DecidableEq, Repr

/-- One call of a matcher. The case rule may change from call to call. -/
structure Call where
  question : Question
  rule : CaseRule
  text : String
  pattern : String
deriving DecidableEq, Repr

namespace Call

/-- The reply to a call. -/
def reply (c : Call) : StateM Workspace Reply :=
  match c.question with
  | .score => Reply.score <$> score? c.rule c.text c.pattern
  | .span => Reply.span <$> span? c.rule c.text c.pattern
  | .positions => Reply.positions <$> positions? c.rule c.text c.pattern
  | .whole withPositions => Reply.whole <$> find? c.rule c.text c.pattern withPositions

/-- How much of an alignment a call asks for. -/
def detail (c : Call) : Detail :=
  match c.question with
  | .score => .score
  | .span => .span
  | .positions => .positions
  | .whole withPositions => if withPositions then .positions else .span

theorem map_fst {σ β γ : Type} (f : β → γ) (x : StateM σ β) (state : σ) :
    ((f <$> x) state).1 = f (x state).1 := rfl

/-- A call is replied to in the same way whatever earlier calls have left behind. -/
theorem reply_fst (c : Call) (workspace workspace' : Workspace) :
    (c.reply workspace).1 = (c.reply workspace').1 := by
  obtain ⟨answer, h⟩ := exists_answers c.rule c.text c.pattern
  unfold reply
  cases c.question with
  | score => rw [map_fst, map_fst, h.score_eq, h.score_eq]
  | span => rw [map_fst, map_fst, h.span_eq, h.span_eq]
  | positions => rw [map_fst, map_fst, h.positions_eq, h.positions_eq]
  | whole withPositions => rw [map_fst, map_fst, h.find_eq, h.find_eq]

/-- A call leaves the buffers as its alignment does. -/
theorem reply_snd (c : Call) (workspace : Workspace) :
    (c.reply workspace).2 = (run c.rule c.text c.pattern c.detail workspace).2 := by
  unfold reply detail
  cases c.question with
  | score => exact score_snd ..
  | span => exact span_snd ..
  | positions => exact positions_snd ..
  | whole withPositions => exact find_snd ..

end Call

theorem alignIfFits_even {α : Type} [Symbol α] (rule : CaseRule) (pattern : List α)
    (text : Array α) (detail : Detail) {workspace : Workspace} (h : workspace.grid.Even) :
    (alignIfFits rule pattern text detail workspace).2.grid.Even := by
  unfold alignIfFits
  split
  · exact h
  · exact align_even h pattern detail

theorem run_even (rule : CaseRule) (text pattern : String) (detail : Detail)
    {workspace : Workspace} (h : workspace.grid.Even) :
    (run rule text pattern detail workspace).2.grid.Even := by
  unfold run
  split
  · exact h
  · split
    · exact alignIfFits_even _ _ _ _ h
    · exact alignIfFits_even _ _ _ _ h

/-- The replies to the calls of one matcher, which keeps its buffers from call to call. -/
def replies : List Call → StateM Workspace (List Reply)
  | [] => return []
  | c :: rest => do
    let reply ← c.reply
    return reply :: (← replies rest)

/-- Every call is replied to as the first call of a matcher would be. -/
theorem replies_fst (calls : List Call) (workspace : Workspace) :
    (replies calls workspace).1 = calls.map fun c => (c.reply Workspace.empty).1 := by
  induction calls generalizing workspace with
  | nil => rfl
  | cons c rest ih =>
    show (c.reply workspace).1 :: (replies rest (c.reply workspace).2).1 = _
    rw [ih, c.reply_fst workspace Workspace.empty, List.map_cons]

theorem replies_even (calls : List Call) {workspace : Workspace} (h : workspace.grid.Even) :
    (replies calls workspace).2.grid.Even := by
  induction calls generalizing workspace with
  | nil => exact h
  | cons c rest ih =>
    have hreply : (c.reply workspace).2.grid.Even := by
      rw [c.reply_snd]
      exact run_even _ _ _ _ h
    exact ih hreply

/-- An alignment answers from any buffers as it does from unused ones, and so do the calls of one
matcher, one after the other. The two rows of runs stay of one length. -/
theorem any_workspace_eq_empty {α : Type} [Symbol α] [LawfulSymbol α] (rule : CaseRule)
    {pattern : List α} (text : Array α) (detail : Detail) (workspace : Workspace)
    (hne : pattern ≠ []) :
    (align rule pattern text detail workspace : Id (Option Outcome × Workspace)).run.1 =
        (align rule pattern text detail Workspace.empty : Id (Option Outcome × Workspace)).run.1 ∧
      (workspace.grid.Even → (align rule pattern text detail workspace :
        Id (Option Outcome × Workspace)).run.2.grid.Even) ∧
      ∀ calls, (replies calls workspace).1 =
          calls.map (fun c => (c.reply Workspace.empty).1) ∧
        (workspace.grid.Even → (replies calls workspace).2.grid.Even) := by
  refine ⟨align_congr hne rfl rfl detail Workspace.empty workspace, fun h => ?_,
    fun calls => ⟨replies_fst calls workspace, fun h => ?_⟩⟩
  · exact align_even h pattern detail
  · exact replies_even calls h

/-- Buffers with a cell and runs of their own that would win every comparison. -/
def loaded : Workspace :=
  ⟨⟨#[some ⟨900, 2, some ⟨900, some 4⟩⟩, none, some ⟨800, 0, none⟩], #[[some ⟨700, 3⟩]],
    #[[none, some ⟨500, 1⟩]]⟩, #[8, 8], ⟨#[5], #[0, 1]⟩⟩

/-- What is left in the buffers does not make a second place look better. -/
theorem any_workspace_eq_empty_banana :
    "aa".toList ≠ [] ∧ loaded.grid.Even ∧
      (align .ignore "aa".toList "banana".toList.toArray .positions loaded :
          Id (Option Outcome × Workspace)).run.1 =
        (align .ignore "aa".toList "banana".toList.toArray .positions Workspace.empty :
          Id (Option Outcome × Workspace)).run.1 ∧
      (align .ignore "aa".toList "banana".toList.toArray .positions loaded :
        Id (Option Outcome × Workspace)).run.2.grid.Even ∧
      (replies [⟨.positions, .ignore, "banana", "aa"⟩, ⟨.score, .respect, "Ba", "a"⟩] loaded).1 =
        [⟨.positions, .ignore, "banana", "aa"⟩, ⟨.score, .respect, "Ba", "a"⟩].map
          (fun c : Call => (c.reply Workspace.empty).1) := by
  have hne : "aa".toList ≠ [] := by decide
  have heven : loaded.grid.Even := rfl
  obtain ⟨halign, hrows, hcalls⟩ := any_workspace_eq_empty .ignore "banana".toList.toArray
    .positions loaded hne
  exact ⟨hne, heven, halign, hrows heven, (hcalls _).1⟩

end Matcher
end FuzzyRank
