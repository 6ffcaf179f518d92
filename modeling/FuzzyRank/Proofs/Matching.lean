import FuzzyRank.Proofs.Align
import FuzzyRank.Proofs.Ascii

/-!
What the matcher answers.

A pattern matches a text if and only if its characters occur there in order, whatever the match is
worth. The positions of a match are a placement of the pattern with the highest score of all, the
score told with them is the placement's own, and among the placements of that score they are the one
that is preferred. None of this depends on the buffers that the matcher was used with before.
-/

namespace FuzzyRank

open FuzzyRank.Alignment Scoring Trail

/-! ## The placement that is shown -/

section Placements

variable {α : Type} [Symbol α] {rule : CaseRule} {pattern : List α} {text : Array α}

/-- The placement has the highest score, and of those with that score it is the preferred one. -/
structure IsShown (rule : CaseRule) (pattern : List α) (text : Array α) (columns : List Nat) :
    Prop where
  placement : IsPlacement rule pattern text columns
  highest : ∀ other, IsPlacement rule pattern text other →
    Placement.score text other ≤ Placement.score text columns
  preferred : ∀ other, IsPlacement rule pattern text other →
    Placement.score text other = Placement.score text columns →
      other = columns ∨ Placement.Preferred columns other

theorem IsPlacement.ne_nil {columns : List Nat} (h : IsPlacement rule pattern text columns)
    (hne : pattern ≠ []) : columns ≠ [] := by
  rintro rfl
  exact hne (List.eq_nil_of_length_eq_zero h.spells.length_eq.symm)

/-- The trail that is shown, read from left to right, is the placement that is shown. -/
theorem Shown.isShown {j : Nat} {before : List Nat} (hne : pattern ≠ [])
    (h : Shown (Board.of rule pattern text) (pattern.length - 1) j before) :
    IsShown rule pattern text (columnsOf j before) := by
  have hsplit : ∀ other, IsPlacement rule pattern text other → ∃ k rest,
      other = columnsOf k rest ∧
        IsTrail (Board.of rule pattern text) (pattern.length - 1) k rest := by
    intro other hp
    obtain ⟨k, rest, rfl⟩ := eq_columnsOf (hp.ne_nil hne)
    exact ⟨k, rest, rfl, (isTrail_iff hne).mpr hp⟩
  refine ⟨(isTrail_iff hne).mp h.best.1, fun other hp => ?_, fun other hp hs => ?_⟩
  · obtain ⟨k, rest, rfl, t⟩ := hsplit other hp
    rw [score_columnsOf rule pattern, score_columnsOf rule pattern]
    have := h.leftmost k rest t
    omega
  · obtain ⟨k, rest, rfl, t⟩ := hsplit other hp
    rw [score_columnsOf rule pattern, score_columnsOf rule pattern] at hs
    rw [preferred_columnsOf]
    have hmost := h.leftmost k rest t
    rcases Nat.lt_or_ge j k with hlt | hge
    · exact .inr (.inl hlt)
    · obtain rfl : j = k := by omega
      rcases h.best.2 rest t with rfl | hbetter | ⟨-, hlt⟩
      · exact .inl rfl
      · omega
      · exact .inr (.inr ⟨rfl, hlt⟩)

end Placements

/-! ## From texts to boards -/

namespace Matcher

variable {rule : CaseRule} {text pattern : String} {j : Nat} {before : List Nat}

theorem asciiBytes_eq (text : String) : asciiBytes text = text.toList.map Symbol.byteOf := rfl

theorem isEmpty_eq_false (h : pattern.toList ≠ []) : pattern.isEmpty = false := by
  rw [Bool.eq_false_iff]
  intro hempty
  exact h (by rw [String.isEmpty_iff.mp hempty]; rfl)

theorem run_empty (rule : CaseRule) (text : String) (detail : Detail) (workspace : Workspace) :
    (run rule text "" detail workspace).1 = some (emptyOutcome detail) := rfl

/-- Whether it reads bytes or characters, the matcher answers for the board of the characters. -/
theorem run_of_shown (hne : pattern.toList ≠ [])
    (h : Shown (Board.of rule pattern.toList text.toList.toArray) (pattern.toList.length - 1) j
      before) (detail : Detail) (workspace : Workspace) :
    (run rule text pattern detail workspace).1 =
      some (outcomeOf (Placement.score text.toList.toArray (columnsOf j before))
        (columnsOf j before) detail) := by
  rw [score_columnsOf rule pattern.toList]
  unfold run
  rw [if_neg (by rw [isEmpty_eq_false hne]; exact Bool.false_ne_true)]
  split
  · next hascii =>
    rw [Bool.and_eq_true, isAscii_iff, isAscii_iff] at hascii
    have hne' : asciiBytes pattern ≠ [] := by simpa [asciiBytes_eq] using hne
    have hboard := Board.of_bytes rule hascii.2 hascii.1
    rw [alignIfFits_eq hne', asciiBytes_eq, asciiBytes_eq, ← hboard]
    refine align_of_shown hne' ?_ detail workspace
    rw [asciiBytes_eq, hboard, List.length_map]
    exact h
  · rw [alignIfFits_eq hne]
    exact align_of_shown hne h detail workspace

/-- Where the characters have no trail, there is no answer. -/
theorem run_of_no_trail (hne : pattern.toList ≠ [])
    (h : ∀ j before, ¬ IsTrail (Board.of rule pattern.toList text.toList.toArray)
      (pattern.toList.length - 1) j before) (detail : Detail) (workspace : Workspace) :
    (run rule text pattern detail workspace).1 = none := by
  unfold run
  rw [if_neg (by rw [isEmpty_eq_false hne]; exact Bool.false_ne_true)]
  split
  · next hascii =>
    rw [Bool.and_eq_true, isAscii_iff, isAscii_iff] at hascii
    have hne' : asciiBytes pattern ≠ [] := by simpa [asciiBytes_eq] using hne
    rw [alignIfFits_eq hne']
    refine align_of_no_trail hne' (fun j before => ?_) detail workspace
    rw [asciiBytes_eq, asciiBytes_eq, Board.of_bytes rule hascii.2 hascii.1, List.length_map]
    exact h j before
  · rw [alignIfFits_eq hne]
    exact align_of_no_trail hne h detail workspace

/-! ## The answers -/

/-- The matcher answers so for the two texts, whatever was asked for and whatever the buffers hold:
with a score and the matched columns, or with nothing. -/
def Answers (rule : CaseRule) (text pattern : String) (answer : Option (Int × List Nat)) : Prop :=
  ∀ detail workspace, (run rule text pattern detail workspace).1 =
    answer.map fun (s, columns) => outcomeOf s columns detail

/-- The matcher answers with the placement that is shown and its score, or with nothing if there is
no placement. -/
theorem answers_cases (rule : CaseRule) (text pattern : String) :
    (∃ columns, IsShown rule pattern.toList text.toList.toArray columns ∧
      Answers rule text pattern (some (Placement.score text.toList.toArray columns, columns))) ∨
    ((∀ columns, ¬ IsPlacement rule pattern.toList text.toList.toArray columns) ∧
      Answers rule text pattern none) := by
  by_cases hne : pattern.toList = []
  · -- the empty pattern has the empty placement only
    obtain rfl : pattern = "" := String.toList_eq_nil_iff.mp hne
    have hother : ∀ other, IsPlacement rule [] text.toList.toArray other → other = [] :=
      fun other hp => List.eq_nil_of_length_eq_zero hp.spells.length_eq
    refine .inl ⟨[], ⟨⟨List.Pairwise.nil, trivial⟩, fun other hp => ?_, fun other hp _ => ?_⟩, ?_⟩
    · obtain rfl := hother other hp
      exact Int.le_refl _
    · exact .inl (hother other hp)
    · intro detail workspace
      rw [run_empty]
      cases detail <;> rfl
  · by_cases h : ∃ j before, IsTrail (Board.of rule pattern.toList text.toList.toArray)
        (pattern.toList.length - 1) j before
    · obtain ⟨j, before, t⟩ := h
      obtain ⟨k, other, hs⟩ := exists_shown hne t
      exact .inl ⟨columnsOf k other, hs.isShown hne, fun detail workspace =>
        run_of_shown hne hs detail workspace⟩
    · have hno : ∀ j before, ¬ IsTrail (Board.of rule pattern.toList text.toList.toArray)
          (pattern.toList.length - 1) j before := fun j before t => h ⟨j, before, t⟩
      refine .inr ⟨fun columns hp => ?_, fun detail workspace => run_of_no_trail hne hno detail
        workspace⟩
      obtain ⟨j, before, rfl⟩ := eq_columnsOf (hp.ne_nil hne)
      exact hno j before ((isTrail_iff hne).mpr hp)

/-- Every pair of texts has an answer. -/
theorem exists_answers (rule : CaseRule) (text pattern : String) :
    ∃ answer, Answers rule text pattern answer := by
  rcases answers_cases rule text pattern with ⟨_, _, h⟩ | ⟨_, h⟩
  · exact ⟨_, h⟩
  · exact ⟨_, h⟩

section Answered

variable {answer : Option (Int × List Nat)}

/-- A step that is taken on the result of another one sees that result. -/
theorem bind_fst {σ β γ : Type} (x : StateM σ β) (f : β → StateM σ γ) (state : σ) :
    ((x >>= f) state).1 = (f (x state).1 (x state).2).1 := rfl

theorem Answers.score_eq (h : Answers rule text pattern answer) (workspace : Workspace) :
    (score? rule text pattern workspace).1 = answer.map Prod.fst := by
  unfold score?
  rw [bind_fst, h]
  cases answer <;> rfl

theorem Answers.span_eq (h : Answers rule text pattern answer) (workspace : Workspace) :
    (span? rule text pattern workspace).1 = answer.map fun (s, columns) =>
      (s, columns.head?.getD 0, columns.getLast?.elim 0 (· + 1)) := by
  unfold span?
  rw [bind_fst, h]
  cases answer <;> rfl

theorem Answers.positions_eq (h : Answers rule text pattern answer) (workspace : Workspace) :
    (positions? rule text pattern workspace).1 = answer := by
  unfold positions?
  rw [bind_fst, h]
  cases answer <;> rfl

/-- The match that tells of a placement. -/
def matchOf (withPositions : Bool) (s : Int) (columns : List Nat) : Match :=
  ⟨s, columns.head?.getD 0, columns.getLast?.elim 0 (· + 1),
    if withPositions then some columns else none⟩

theorem Answers.find_eq (h : Answers rule text pattern answer) (withPositions : Bool)
    (workspace : Workspace) :
    (find? rule text pattern withPositions workspace).1 =
      answer.map fun (s, columns) => matchOf withPositions s columns := by
  unfold find?
  cases withPositions with
  | true =>
    rw [if_pos rfl, bind_fst, h.positions_eq]
    cases answer <;> rfl
  | false =>
    rw [if_neg Bool.false_ne_true, bind_fst, h.span_eq]
    cases answer <;> rfl

end Answered

/-- A pattern has a placement in a text if and only if its symbols occur there in order. -/
theorem exists_placement_iff {α : Type} [Symbol α] [LawfulSymbol α] {ps : List α}
    {cs : Array α} : (∃ columns, IsPlacement rule ps cs columns) ↔
      List.SublistForall₂ (fun p c => Symbol.same rule p c = true) ps cs.toList := by
  rw [← List.drop_zero (l := cs.toList), ← scanForward_iff ps 0 #[]]
  by_cases hne : ps = []
  · subst hne
    exact ⟨fun _ => rfl, fun _ => ⟨[], List.Pairwise.nil, trivial⟩⟩
  · rw [scan_iff_trail hne]
    constructor
    · rintro ⟨columns, hp⟩
      obtain ⟨j, before, rfl⟩ := eq_columnsOf (hp.ne_nil hne)
      exact ⟨j, before, (isTrail_iff hne).mpr hp⟩
    · rintro ⟨j, before, t⟩
      exact ⟨columnsOf j before, (isTrail_iff hne).mp t⟩

/-! ## What an answer says -/

/-- The positions of a match are a placement of the pattern, its score is the one that is told, and
no placement has a higher score. -/
theorem positions_optimal (rule : CaseRule) (text pattern : String) (workspace : Workspace)
    {s : Int} {columns : List Nat}
    (h : (positions? rule text pattern workspace).1 = some (s, columns)) :
    IsPlacement rule pattern.toList text.toList.toArray columns ∧
      Placement.score text.toList.toArray columns = s ∧
      ∀ other, IsPlacement rule pattern.toList text.toList.toArray other →
        Placement.score text.toList.toArray other ≤ s := by
  rcases answers_cases rule text pattern with ⟨shown, hshown, hanswers⟩ | ⟨_, hanswers⟩
  · rw [hanswers.positions_eq] at h
    cases h
    exact ⟨hshown.placement, rfl, hshown.highest⟩
  · rw [hanswers.positions_eq] at h
    cases h

/-- A pattern that a text holds more than once gets the best of its places. -/
theorem positions_optimal_banana :
    (positions? .ignore "banana" "aa" Workspace.empty).1 = some (29, [1, 3]) ∧
      IsPlacement .ignore "aa".toList "banana".toList.toArray [1, 3] ∧
      Placement.score "banana".toList.toArray [1, 3] = 29 ∧
      ∀ other, IsPlacement .ignore "aa".toList "banana".toList.toArray other →
        Placement.score "banana".toList.toArray other ≤ 29 := by
  have h : (positions? .ignore "banana" "aa" Workspace.empty).1 = some (29, [1, 3]) := by
    decide +kernel
  exact ⟨h, positions_optimal .ignore "banana" "aa" Workspace.empty h⟩

/-- Where there is a placement, the positions are told. They are the placement of the highest score
that ends furthest left and, of those that end there, is the greatest from right to left. -/
theorem positions_preferred (rule : CaseRule) (text pattern : String) (workspace : Workspace)
    {place : List Nat} (h : IsPlacement rule pattern.toList text.toList.toArray place) :
    ∃ s columns, (positions? rule text pattern workspace).1 = some (s, columns) ∧
      IsPlacement rule pattern.toList text.toList.toArray columns ∧
      (∀ other, IsPlacement rule pattern.toList text.toList.toArray other →
        Placement.score text.toList.toArray other ≤ Placement.score text.toList.toArray columns) ∧
      ∀ other, IsPlacement rule pattern.toList text.toList.toArray other →
        Placement.score text.toList.toArray other = Placement.score text.toList.toArray columns →
          other = columns ∨ Placement.Preferred columns other := by
  rcases answers_cases rule text pattern with ⟨shown, hshown, hanswers⟩ | ⟨hno, _⟩
  · exact ⟨_, shown, hanswers.positions_eq workspace, hshown.placement, hshown.highest,
      hshown.preferred⟩
  · exact absurd h (hno place)

/-- The text's second and fourth characters are as good a place as its fourth and sixth. -/
theorem positions_preferred_banana :
    IsPlacement .ignore "aa".toList "banana".toList.toArray [3, 5] ∧
      ∃ s columns, (positions? .ignore "banana" "aa" Workspace.empty).1 = some (s, columns) ∧
        IsPlacement .ignore "aa".toList "banana".toList.toArray columns ∧
        (∀ other, IsPlacement .ignore "aa".toList "banana".toList.toArray other →
          Placement.score "banana".toList.toArray other ≤
            Placement.score "banana".toList.toArray columns) ∧
        ∀ other, IsPlacement .ignore "aa".toList "banana".toList.toArray other →
          Placement.score "banana".toList.toArray other =
              Placement.score "banana".toList.toArray columns →
            other = columns ∨ Placement.Preferred columns other := by
  have h : IsPlacement .ignore "aa".toList "banana".toList.toArray [3, 5] :=
    ⟨by decide, by decide +kernel, by decide +kernel, trivial⟩
  exact ⟨h, positions_preferred .ignore "banana" "aa" Workspace.empty h⟩

/-- The text holds the pattern's characters in order. -/
def InOrder (rule : CaseRule) (text pattern : String) : Prop :=
  List.SublistForall₂ (fun p c => Symbol.same rule p c = true) pattern.toList text.toList

/-- What the scan from the left says of two texts, which it reads as the matcher does. -/
def scans (rule : CaseRule) (text pattern : String) : Bool :=
  if isAscii text && isAscii pattern then
    (Band.scanForward rule (asciiBytes text).toArray (asciiBytes pattern) 0 #[]).1
  else (Band.scanForward rule text.toList.toArray pattern.toList 0 #[]).1

theorem exists_placement_iff_inOrder (rule : CaseRule) (text pattern : String) :
    (∃ columns, IsPlacement rule pattern.toList text.toList.toArray columns) ↔
      InOrder rule text pattern :=
  exists_placement_iff

theorem scans_iff (rule : CaseRule) (text pattern : String) :
    scans rule text pattern = true ↔ InOrder rule text pattern := by
  unfold scans
  split
  · next hascii =>
    rw [Bool.and_eq_true, isAscii_iff, isAscii_iff] at hascii
    rw [← exists_placement_iff_inOrder]
    by_cases hne : pattern.toList = []
    · rw [asciiBytes_eq, asciiBytes_eq, hne]
      exact ⟨fun _ => ⟨[], List.Pairwise.nil, trivial⟩, fun _ => rfl⟩
    · have hne' : asciiBytes pattern ≠ [] := by simpa [asciiBytes_eq] using hne
      rw [scan_iff_trail hne', asciiBytes_eq, asciiBytes_eq, Board.of_bytes rule hascii.2 hascii.1,
        List.length_map, ← scan_iff_trail hne, scanForward_iff]
      exact exists_placement_iff.symm
  · exact scanForward_iff _ _ _

/-- An answer tells of a match if and only if the text holds the pattern's characters in order. -/
theorem Answers.isSome_iff {answer : Option (Int × List Nat)}
    (h : Answers rule text pattern answer) : answer.isSome ↔ InOrder rule text pattern := by
  rw [← exists_placement_iff_inOrder]
  rcases answers_cases rule text pattern with ⟨shown, hshown, hanswers⟩ | ⟨hno, hanswers⟩
  · have heq := h.positions_eq Workspace.empty
    rw [hanswers.positions_eq] at heq
    subst heq
    exact ⟨fun _ => ⟨shown, hshown.placement⟩, fun _ => rfl⟩
  · have heq := h.positions_eq Workspace.empty
    rw [hanswers.positions_eq] at heq
    subst heq
    constructor
    · intro hsome
      exact (Bool.false_ne_true hsome).elim
    · rintro ⟨columns, hp⟩
      exact absurd hp (hno columns)

/-- Every way to ask tells of a match if and only if the text holds the pattern's characters in
order. The scan from the left says the same, so nothing that comes after it can refuse a text. -/
theorem accepts_iff_inOrder (rule : CaseRule) (text pattern : String) (workspace : Workspace) :
    ((score? rule text pattern workspace).1.isSome ↔ InOrder rule text pattern) ∧
      ((span? rule text pattern workspace).1.isSome ↔ InOrder rule text pattern) ∧
      ((positions? rule text pattern workspace).1.isSome ↔ InOrder rule text pattern) ∧
      (∀ withPositions, (find? rule text pattern withPositions workspace).1.isSome ↔
        InOrder rule text pattern) ∧
      (scans rule text pattern = true ↔ InOrder rule text pattern) := by
  obtain ⟨answer, h⟩ : ∃ answer, Answers rule text pattern answer := by
    rcases answers_cases rule text pattern with ⟨_, _, h⟩ | ⟨_, h⟩
    · exact ⟨_, h⟩
    · exact ⟨_, h⟩
  have hsome := h.isSome_iff
  refine ⟨?_, ?_, ?_, fun withPositions => ?_, scans_iff rule text pattern⟩
  · rw [h.score_eq, Option.isSome_map, hsome]
  · rw [h.span_eq, Option.isSome_map, hsome]
  · rw [h.positions_eq, hsome]
  · rw [h.find_eq, Option.isSome_map, hsome]

end Matcher
end FuzzyRank
