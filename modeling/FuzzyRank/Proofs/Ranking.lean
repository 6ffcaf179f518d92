import FuzzyRank.Engine
import FuzzyRank.Proofs.Lexicographic
import FuzzyRank.Proofs.Matching

/-!
What the engine ranks, and in which order.

The candidates that match are taken in input order and sorted stably by the criteria of the order,
compared one after the other. The engine itself sorts by keys and does not ask for a stable sort:
every key ends in the candidate's place in the input, which settles all ties as a stable sort would.
-/

namespace FuzzyRank

open FuzzyRank.Alignment

/-! ## Stable sorting -/

/-- The second list has the elements of the first in the order of a comparison. Elements that it
does not tell apart are in the order they had. -/
structure IsStableSort {α : Type} (cmp : α → α → Ordering) (list sorted : List α) : Prop where
  perm : sorted.Perm list
  ordered : sorted.Pairwise fun a b => (cmp a b).isLE
  stable : ∀ a b, [a, b].Sublist list → cmp a b = .eq → [a, b].Sublist sorted

section StableSort

variable {α : Type} {cmp : α → α → Ordering} {list sorted other : List α} {a b : α}

/-- Of two different elements of a list one stands before the other. -/
theorem pair_sublist_or (ha : a ∈ list) (hb : b ∈ list) (hne : a ≠ b) :
    [a, b].Sublist list ∨ [b, a].Sublist list := by
  induction list with
  | nil => cases ha
  | cons x rest ih =>
    rcases List.mem_cons.mp ha with rfl | ha'
    · rcases List.mem_cons.mp hb with rfl | hb'
      · exact absurd rfl hne
      · exact .inl ((List.singleton_sublist.mpr hb').cons_cons a)
    · rcases List.mem_cons.mp hb with rfl | hb'
      · exact .inr ((List.singleton_sublist.mpr ha').cons_cons b)
      · exact (ih ha' hb').imp (·.cons x) (·.cons x)

/-- In a list without repetition no two elements stand before each other. -/
theorem not_pair_sublist (hnodup : list.Nodup) (hab : [a, b].Sublist list) :
    ¬ [b, a].Sublist list := by
  induction list with
  | nil => cases hab
  | cons x rest ih =>
    intro hba
    rw [List.nodup_cons] at hnodup
    obtain ⟨hx, hrest⟩ := hnodup
    cases hab with
    | cons _ hab =>
      cases hba with
      | cons _ hba => exact ih hrest hab hba
      | cons_cons _ _ => exact hx (hab.subset (by simp))
    | cons_cons _ hb =>
      cases hba with
      | cons _ hba => exact hx (hba.subset (by simp))
      | cons_cons _ _ => exact hx (hb.subset (by simp))

/-- What a stable sort puts first comes first in the order, or is not told apart by it and came
first before. -/
theorem IsStableSort.pairwise [Std.OrientedCmp cmp] (h : IsStableSort cmp list sorted)
    (hnodup : list.Nodup) :
    sorted.Pairwise fun a b => cmp a b = .lt ∨ (cmp a b = .eq ∧ [a, b].Sublist list) := by
  have hsorted : sorted.Nodup := h.perm.nodup_iff.mpr hnodup
  rw [List.pairwise_iff_forall_sublist]
  intro a b hab
  have hle := List.pairwise_iff_forall_sublist.mp h.ordered hab
  cases hcmp : cmp a b with
  | lt => exact .inl rfl
  | gt => simp [hcmp] at hle
  | eq =>
    refine .inr ⟨rfl, ?_⟩
    have hne : a ≠ b := by
      rintro rfl
      exact not_pair_sublist hsorted hab hab
    have ha : a ∈ list := h.perm.mem_iff.mp (hab.subset (by simp))
    have hb : b ∈ list := h.perm.mem_iff.mp (hab.subset (by simp))
    rcases pair_sublist_or ha hb hne with hlist | hlist
    · exact hlist
    · -- the sort would have kept the other order, and would now hold both
      have hswap : cmp b a = (cmp a b).swap := Std.OrientedCmp.eq_swap
      rw [hcmp] at hswap
      exact absurd hab (not_pair_sublist hsorted (h.stable b a hlist hswap))

/-- A list without repetition has one stable sort. -/
theorem IsStableSort.unique [Std.OrientedCmp cmp] (hnodup : list.Nodup)
    (h : IsStableSort cmp list sorted) (h' : IsStableSort cmp list other) : sorted = other := by
  refine List.Perm.eq_of_pairwise ?_ (h.pairwise hnodup) (h'.pairwise hnodup)
    (h.perm.trans h'.perm.symm)
  intro a b _ _ hab hba
  have hswap : cmp a b = (cmp b a).swap := Std.OrientedCmp.eq_swap
  rcases hab with hab | ⟨hab, hlist⟩
  · rcases hba with hba | ⟨hba, _⟩ <;> simp [hab, hba] at hswap
  · rcases hba with hba | ⟨_, hlist'⟩
    · simp [hab, hba] at hswap
    · exact absurd hlist' (not_pair_sublist hnodup hlist)

/-- A merge sort by a comparison is stable. -/
theorem isStableSort_mergeSort [Std.TransCmp cmp] (list : List α) :
    IsStableSort cmp list (list.mergeSort fun a b => (cmp a b).isLE) := by
  have htrans : ∀ a b c : α, (cmp a b).isLE → (cmp b c).isLE → (cmp a c).isLE :=
    fun _ _ _ => Std.TransCmp.isLE_trans
  have htotal : ∀ a b : α, ((cmp a b).isLE || (cmp b a).isLE) = true := by
    intro a b
    have hswap : cmp b a = (cmp a b).swap := Std.OrientedCmp.eq_swap
    rw [hswap]
    cases cmp a b <;> rfl
  refine ⟨List.mergeSort_perm list _, List.pairwise_mergeSort htrans htotal list, ?_⟩
  intro a b hab heq
  exact List.pair_sublist_mergeSort htrans htotal (by rw [heq]; rfl) hab

end StableSort

/-! ## Matches lie in their texts -/

namespace Matcher

/-- The span of a placement lies within the text. -/
theorem matchOf_le_size {α : Type} [Symbol α] {rule : CaseRule} {pattern : List α} {text : Array α}
    {columns : List Nat} (h : Spells rule text pattern columns) (withPositions : Bool) (s : Int) :
    (matchOf withPositions s columns).start ≤ text.size ∧
      (matchOf withPositions s columns).stop ≤ text.size := by
  constructor
  · show columns.head?.getD 0 ≤ text.size
    cases hhead : columns.head? with
    | none => exact Nat.zero_le _
    | some j => exact Nat.le_of_lt (h.lt_size j (List.mem_of_head? hhead))
  · show columns.getLast?.elim 0 (· + 1) ≤ text.size
    cases hlast : columns.getLast? with
    | none => exact Nat.zero_le _
    | some j => exact h.lt_size j (List.mem_of_getLast? hlast)

theorem find_le_length {rule : CaseRule} {text pattern : String} {withPositions : Bool}
    {workspace : Workspace} {result : Match}
    (h : (find? rule text pattern withPositions workspace).1 = some result) :
    result.start ≤ text.length ∧ result.stop ≤ text.length := by
  rcases answers_cases rule text pattern with ⟨columns, hshown, hanswers⟩ | ⟨_, hanswers⟩
  · rw [hanswers.find_eq] at h
    cases h
    rw [← String.length_toList, ← List.size_toArray]
    exact matchOf_le_size hshown.placement.spells withPositions _
  · rw [hanswers.find_eq] at h
    cases h

end Matcher

/-! ## The candidates that match -/

namespace Engine

/-- The match of the query in a text, found with unused buffers. -/
def result? (e : Engine) (text : String) : Option Match :=
  (e.matchText text Workspace.empty).1

/-- The ranked match of a candidate, which is given with its place in the input. -/
def entry? (e : Engine) (candidate : String × Nat) : Option RankedMatch :=
  (e.result? candidate.1).map fun result =>
    ⟨candidate.1, e.order.rank result.score result.start result.stop candidate.1.length candidate.2,
      result⟩

/-- The ranked matches among candidates, in the order of the candidates. -/
def matched (e : Engine) (candidates : List (String × Nat)) : List RankedMatch :=
  candidates.filterMap e.entry?

section Matched

variable (e : Engine)

theorem matchText_fst (text : String) (workspace : Workspace) :
    (e.matchText text workspace).1 = e.result? text := by
  obtain ⟨answer, h⟩ := Matcher.exists_answers e.rule text e.query
  unfold result? matchText
  rw [h.find_eq, h.find_eq]

theorem rankCandidate_fst (candidate : String × Nat) (workspace : Workspace) :
    (e.rankCandidate candidate workspace).1 = e.entry? candidate := by
  unfold rankCandidate entry?
  rw [Matcher.bind_fst, matchText_fst]
  cases e.result? candidate.1 <;> rfl

/-- A worker finds the matches of its share, whatever its buffers hold. -/
theorem rankShare_fst (share : List (String × Nat)) (workspace : Workspace) :
    (e.rankShare share workspace).1 = e.matched share := by
  unfold rankShare matched
  induction share generalizing workspace with
  | nil => rfl
  | cons candidate rest ih =>
    rw [List.filterMapM_cons, Matcher.bind_fst, rankCandidate_fst, List.filterMap_cons]
    -- the rest is matched with the buffers that the first candidate leaves
    cases e.entry? candidate with
    | none => exact ih _
    | some found => exact congrArg (found :: ·) (ih _)

theorem rank_eq (candidates : List String) :
    e.rank candidates = sortByRank (e.matched candidates.zipIdx) := by
  unfold rank
  rw [rankShare_fst]

/-- Matches in the order of their places in the input are all different. -/
theorem nodup_of_places {list : List RankedMatch}
    (hplaces : list.Pairwise fun a b => a.rank.index < b.rank.index) : list.Nodup := by
  rw [List.nodup_iff_pairwise_ne]
  refine hplaces.imp ?_
  rintro a b hlt rfl
  exact Nat.lt_irrefl _ hlt

/-- The matches are in the order of their places in the input. -/
theorem matched_pairwise_index (candidates : List String) :
    (e.matched candidates.zipIdx).Pairwise fun a b => a.rank.index < b.rank.index := by
  have hplaces : candidates.zipIdx.Pairwise fun c d => c.2 < d.2 := by
    rw [← List.pairwise_map, List.zipIdx_map_snd]
    exact List.pairwise_lt_range'
  refine List.Pairwise.filterMap _ ?_ hplaces
  intro c d hlt a ha b hb
  obtain ⟨_, _, rfl⟩ := Option.map_eq_some_iff.mp ha
  obtain ⟨_, _, rfl⟩ := Option.map_eq_some_iff.mp hb
  exact hlt

theorem matched_nodup (candidates : List String) : (e.matched candidates.zipIdx).Nodup :=
  nodup_of_places (e.matched_pairwise_index candidates)

/-- The ranked match is that of the candidate at a place in the input: it holds the candidate's text
and match, and its rank the numbers of both with the place. -/
structure RanksAt (candidates : List String) (index : Nat) (r : RankedMatch) : Prop where
  text_at : candidates[index]? = some r.text
  found : e.result? r.text = some r.result
  carries : r.rank.Carries r.result.score r.result.start r.result.stop r.text.length index
  keyed : r.rank.KeyedBy e.order

/-- Every match in the list is that of one of the candidates. -/
theorem ranksAt_of_mem {candidates : List String} {r : RankedMatch}
    (hr : r ∈ e.matched candidates.zipIdx) : ∃ index, e.RanksAt candidates index r := by
  obtain ⟨⟨text, index⟩, hmem, hentry⟩ := List.mem_filterMap.mp hr
  obtain ⟨result, hresult, rfl⟩ := Option.map_eq_some_iff.mp hentry
  exact ⟨index, List.mem_zipIdx_iff_getElem?.mp hmem, hresult, e.order.rank_carries _ _ _ _ _,
    e.order.rank_keyedBy _ _ _ _ _⟩

/-- Every candidate that matches is in the list. -/
theorem exists_ranksAt {candidates : List String} {index : Nat} {text : String}
    (htext : candidates[index]? = some text) (hmatch : (e.result? text).isSome) :
    ∃ r ∈ e.matched candidates.zipIdx, e.RanksAt candidates index r := by
  obtain ⟨result, hresult⟩ := Option.isSome_iff_exists.mp hmatch
  have hmem : (text, index) ∈ candidates.zipIdx := List.mem_zipIdx_iff_getElem?.mpr htext
  have hentry : e.entry? (text, index) = some ⟨text, e.order.rank result.score result.start
      result.stop text.length index, result⟩ := Option.map_eq_some_iff.mpr ⟨result, hresult, rfl⟩
  exact ⟨_, List.mem_filterMap.mpr ⟨_, hmem, hentry⟩, htext, hresult,
    e.order.rank_carries _ _ _ _ _, e.order.rank_keyedBy _ _ _ _ _⟩

/-- The list has the ranked matches of the candidates in input order, each once, and no others. -/
structure Collects (candidates : List String) (list : List RankedMatch) : Prop where
  ranksAt : ∀ r ∈ list, ∃ index, e.RanksAt candidates index r
  complete : ∀ index text, candidates[index]? = some text → (e.result? text).isSome →
    ∃ r ∈ list, e.RanksAt candidates index r
  inOrder : list.Pairwise fun a b => a.rank.index < b.rank.index

theorem collects_matched (candidates : List String) :
    e.Collects candidates (e.matched candidates.zipIdx) where
  ranksAt _ := e.ranksAt_of_mem
  complete _ _ := e.exists_ranksAt
  inOrder := e.matched_pairwise_index candidates

theorem mem_rank_iff {candidates : List String} {r : RankedMatch} :
    r ∈ e.rank candidates ↔ r ∈ e.matched candidates.zipIdx := by
  rw [rank_eq, sortByRank, List.mem_mergeSort]

/-- A ranked match is the match of a candidate. -/
theorem mem_rank {candidates : List String} {r : RankedMatch} (hr : r ∈ e.rank candidates) :
    r.text ∈ candidates ∧ e.result? r.text = some r.result := by
  obtain ⟨index, h⟩ := e.ranksAt_of_mem (e.mem_rank_iff.mp hr)
  exact ⟨List.mem_of_getElem? h.text_at, h.found⟩

end Matched

end Engine

/-- The positions are known: in increasing order, and within the text. -/
def RankedMatch.Located (r : RankedMatch) (columns : List Nat) : Prop :=
  r.result.positions = some columns ∧ columns.Pairwise (· < ·) ∧ ∀ j ∈ columns, j < r.text.length

/-- With positions, a ranked match tells where its text holds the query. -/
theorem Engine.exists_placement {e : Engine} (he : e.spansOnly = false) {candidates : List String}
    {r : RankedMatch} (hr : r ∈ e.rank candidates) : ∃ columns,
      r.result.positions = some columns ∧
        IsPlacement e.rule e.query.toList r.text.toList.toArray columns := by
  obtain ⟨-, hresult⟩ := e.mem_rank hr
  have hfind : (Matcher.find? e.rule r.text e.query true Workspace.empty).1 =
      some r.result := by
    rw [result?, matchText, he] at hresult
    exact hresult
  rcases Matcher.answers_cases e.rule r.text e.query with ⟨columns, hshown, h⟩ | ⟨-, h⟩
  · rw [h.find_eq] at hfind
    refine ⟨columns, ?_, hshown.placement⟩
    rw [← Option.some.inj hfind]
    rfl
  · rw [h.find_eq] at hfind
    cases hfind

theorem Engine.exists_located {e : Engine} (he : e.spansOnly = false) {candidates : List String}
    {r : RankedMatch} (hr : r ∈ e.rank candidates) : ∃ columns, r.Located columns := by
  obtain ⟨columns, hpositions, hplacement⟩ := exists_placement he hr
  refine ⟨columns, hpositions, hplacement.increasing, fun j hj => ?_⟩
  rw [← String.length_toList, ← List.size_toArray]
  exact hplacement.spells.lt_size j hj

/-- A match as an order ranks it: its rank tells the match's own numbers and has the key that the
order gives, and no count leaves the signed words. -/
structure RankedMatch.IsRanked (order : Tiebreak) (r : RankedMatch) : Prop where
  score_eq : r.rank.score = r.result.score
  start_eq : r.rank.start = r.result.start
  stop_eq : r.rank.stop = r.result.stop
  keyed : r.rank.KeyedBy order
  inWords : r.rank.InWords

/-- No text in memory has so many characters that the counts leave the signed words. -/
theorem Engine.isRanked_of_mem {e : Engine} {candidates : List String}
    (hlen : ∀ text ∈ candidates, text.length < 2 ^ 63) {r : RankedMatch}
    (hr : r ∈ e.matched candidates.zipIdx) : r.IsRanked e.order := by
  obtain ⟨index, htext, hresult, hcarries, hkeyed⟩ := e.ranksAt_of_mem hr
  obtain ⟨hstart, hstop⟩ := Matcher.find_le_length hresult
  have hlength : r.text.length < 2 ^ 63 := hlen r.text (List.mem_of_getElem? htext)
  refine ⟨hcarries.score_eq, hcarries.start_eq, hcarries.stop_eq, hkeyed, ?_, ?_, ?_⟩
  · rw [hcarries.start_eq]
    exact Nat.lt_of_le_of_lt hstart hlength
  · rw [hcarries.stop_eq]
    exact Nat.lt_of_le_of_lt hstop hlength
  · rw [hcarries.length_eq]
    exact hlength

/-! ## The order of ranks -/

instance : Std.TransOrd Rank :=
  inferInstanceAs (Std.TransCmp (compareLex (compareOn Rank.key) (compareOn Rank.index)))

theorem Rank.le_trans {a b c : Rank} (hab : a.le b) (hbc : b.le c) : a.le c :=
  Std.TransOrd.isLE_trans hab hbc

theorem Rank.le_total (a b : Rank) : (a.le b || b.le a) = true := by
  unfold Rank.le
  rw [Std.OrientedOrd.eq_swap (a := b)]
  cases compare a b <;> rfl

/-- Keys are compared first and then the places in the input. -/
theorem Rank.compare_eq_then (a b : Rank) :
    compare a b = (compare a.key b.key).then (compare a.index b.index) := rfl

namespace RankedMatch

/-- Which of two matches comes first by the criteria of an order. -/
def compare (order : Tiebreak) (a b : RankedMatch) : Ordering :=
  lexicographic order.criteria a.rank b.rank

instance (order : Tiebreak) : Std.OrientedCmp (compare order) where
  eq_swap := lexicographic_swap _ _ _

/-- A match has the higher score, or else the tighter span, or else the earlier place in the
input. -/
def Before (a b : RankedMatch) : Prop :=
  b.result.score < a.result.score ∨
    (a.result.score = b.result.score ∧
      (a.result.span < b.result.span ∨
        (a.result.span = b.result.span ∧ a.rank.index < b.rank.index)))

section Ranked

variable {order : Tiebreak} {a b : RankedMatch}

theorem IsRanked.compare_rank (ha : a.IsRanked order) (hb : b.IsRanked order) :
    Ord.compare a.rank b.rank = (compare order a b).then (Ord.compare a.rank.index b.rank.index) :=
  Rank.compare_eq ha.keyed hb.keyed ha.inWords hb.inWords

/-- Without criteria of the user's own, scores are compared and then spans. -/
theorem IsRanked.compare_default (ha : a.IsRanked default) (hb : b.IsRanked default) :
    compare default a b = (Ord.compare b.result.score a.result.score).then
      (Ord.compare a.result.span b.result.span) := by
  show (Ord.compare b.rank.score a.rank.score).then
    ((Ord.compare (a.rank.stop - a.rank.start) (b.rank.stop - b.rank.start)).then .eq) = _
  rw [Ordering.then_eq, ha.score_eq, ha.start_eq, ha.stop_eq, hb.score_eq, hb.start_eq, hb.stop_eq]
  rfl

end Ranked

end RankedMatch

/-! ## Ranks settle the order -/

namespace Engine

section SortByRank

variable {list sorted : List RankedMatch}

theorem isStableSort_ranks (list : List RankedMatch) :
    IsStableSort (compareOn RankedMatch.rank) list (sortByRank list) :=
  isStableSort_mergeSort list

/-- Matches at different places in the input are put into one order by their ranks, whatever order
they are given in and however they are sorted. -/
theorem eq_sortByRank (hplaces : list.Pairwise fun a b => a.rank.index < b.rank.index)
    (hperm : sorted.Perm list) (hsorted : sorted.Pairwise fun a b => a.rank.le b.rank) :
    sorted = sortByRank list := by
  have hsort := isStableSort_ranks list
  refine List.Perm.eq_of_pairwise ?_ hsorted hsort.ordered (hperm.trans hsort.perm.symm)
  intro a b ha hb hab hba
  -- where neither comes first, both have the same place in the input
  have heq : compare a.rank b.rank = .eq := Std.OrientedCmp.isLE_antisymm hab hba
  rw [Rank.compare_eq_then, Ordering.then_eq_eq, Nat.compare_eq_eq] at heq
  by_contra hne
  rcases pair_sublist_or (hperm.mem_iff.mp ha) (hsort.perm.mem_iff.mp hb) hne with h | h
  · exact Nat.ne_of_lt (List.pairwise_iff_forall_sublist.mp hplaces h) heq.2
  · exact Nat.ne_of_gt (List.pairwise_iff_forall_sublist.mp hplaces h) heq.2

/-- Matches in the order of the input are sorted as a stable sort by the keys alone sorts them. -/
theorem sortByRank_eq_mergeSort
    (hplaces : list.Pairwise fun a b => a.rank.index < b.rank.index) :
    sortByRank list =
      list.mergeSort fun a b => (compareOn (fun r : RankedMatch => r.rank.key) a b).isLE := by
  have hsort : IsStableSort (compareOn fun r : RankedMatch => r.rank.key) list _ :=
    isStableSort_mergeSort list
  refine (eq_sortByRank hplaces hsort.perm ?_).symm
  refine (hsort.pairwise (nodup_of_places hplaces)).imp ?_
  rintro a b (hlt | ⟨heq, hab⟩)
  · have hlt : compare a.rank.key b.rank.key = .lt := hlt
    rw [Rank.le, Rank.compare_eq_then, hlt]
    rfl
  · have heq : compare a.rank.key b.rank.key = .eq := heq
    have hindex := List.pairwise_iff_forall_sublist.mp hplaces hab
    rw [Rank.le, Rank.compare_eq_then, heq, Nat.compare_eq_lt.mpr hindex]
    rfl

end SortByRank

end Engine

/-! ## The engine sorts stably -/

/-- Sorting by keys and then by places in the input is sorting stably by the criteria. -/
theorem isStableSort_sortByRank {order : Tiebreak} {list : List RankedMatch}
    (hranked : ∀ r ∈ list, r.IsRanked order)
    (hplaces : list.Pairwise fun a b => a.rank.index < b.rank.index) :
    IsStableSort (RankedMatch.compare order) list (Engine.sortByRank list) := by
  have htrans : ∀ a b c : RankedMatch, a.rank.le b.rank → b.rank.le c.rank → a.rank.le c.rank :=
    fun _ _ _ => Rank.le_trans
  have htotal : ∀ a b : RankedMatch, (a.rank.le b.rank || b.rank.le a.rank) = true :=
    fun _ _ => Rank.le_total _ _
  have hperm : (Engine.sortByRank list).Perm list := List.mergeSort_perm list _
  refine ⟨hperm, ?_, fun a b hab heq => ?_⟩
  · refine (List.pairwise_mergeSort htrans htotal list).imp_of_mem ?_
    intro a b ha hb hle
    have ha := hranked a (hperm.mem_iff.mp ha)
    have hb := hranked b (hperm.mem_iff.mp hb)
    have hle : (compare a.rank b.rank).isLE := hle
    rw [ha.compare_rank hb, Ordering.isLE_then_iff_and] at hle
    exact hle.1
  · refine List.pair_sublist_mergeSort htrans htotal ?_ hab
    have ha := hranked a (hab.subset (by simp))
    have hb := hranked b (hab.subset (by simp))
    -- the criteria do not decide, so the places in the input do
    have hlt : a.rank.index < b.rank.index := List.pairwise_iff_forall_sublist.mp hplaces hab
    show (compare a.rank b.rank).isLE
    rw [ha.compare_rank hb, heq, Nat.compare_eq_lt.mpr hlt]
    rfl

namespace Engine

theorem isStableSort_rank (e : Engine) {candidates : List String}
    (hlen : ∀ text ∈ candidates, text.length < 2 ^ 63) :
    IsStableSort (RankedMatch.compare e.order) (e.matched candidates.zipIdx)
      (e.rank candidates) := by
  rw [rank_eq]
  exact isStableSort_sortByRank (fun _ => isRanked_of_mem hlen)
    (e.matched_pairwise_index candidates)

/-- Without criteria of the user's own, every match comes before the ones that follow it by score,
by span or by its place in the input. -/
theorem pairwise_before (e : Engine) (horder : e.order = default) {candidates : List String}
    (hlen : ∀ text ∈ candidates, text.length < 2 ^ 63) :
    (e.rank candidates).Pairwise RankedMatch.Before := by
  have hsort := e.isStableSort_rank hlen
  refine (hsort.pairwise (e.matched_nodup candidates)).imp_of_mem ?_
  intro a b ha hb hab
  have ha := isRanked_of_mem hlen (hsort.perm.mem_iff.mp ha)
  have hb := isRanked_of_mem hlen (hsort.perm.mem_iff.mp hb)
  rw [horder] at ha hb hab
  rw [ha.compare_default hb, Ordering.then_eq_lt, Ordering.then_eq_eq, Int.compare_eq_lt,
    Int.compare_eq_eq, Nat.compare_eq_lt, Nat.compare_eq_eq] at hab
  rcases hab with (hscore | ⟨hscore, hspan⟩) | ⟨⟨hscore, hspan⟩, hlist⟩
  · exact .inl hscore
  · exact .inr ⟨hscore.symm, .inl hspan⟩
  · have hplaces := e.matched_pairwise_index candidates
    exact .inr ⟨hscore.symm, .inr ⟨hspan, List.pairwise_iff_forall_sublist.mp hplaces hlist⟩⟩

/-- The engine gives the one stable sort of the matches among the candidates, which hold the numbers
of what was found in each. With the order that users get without asking, that is by score, then by
span, then by place in the input. A text that fits into memory is shorter than the bound. -/
theorem rank_isStableSort (e : Engine) (candidates : List String)
    (hlen : ∀ text ∈ candidates, text.length < 2 ^ 63) :
    e.Collects candidates (e.matched candidates.zipIdx) ∧
      IsStableSort (RankedMatch.compare e.order) (e.matched candidates.zipIdx)
        (e.rank candidates) ∧
      (∀ sorted, IsStableSort (RankedMatch.compare e.order) (e.matched candidates.zipIdx) sorted →
        sorted = e.rank candidates) ∧
      ∀ query rule,
        (FuzzyRank.rank query candidates rule).Perm
            (matched ⟨query, rule, default, false⟩ candidates.zipIdx) ∧
          (FuzzyRank.rank query candidates rule).Pairwise RankedMatch.Before := by
  have hsort := e.isStableSort_rank hlen
  refine ⟨e.collects_matched candidates, hsort,
    fun sorted h => h.unique (e.matched_nodup candidates) hsort, fun query rule => ⟨?_, ?_⟩⟩
  · exact (isStableSort_rank _ hlen).perm
  · exact pairwise_before _ rfl hlen

/-- Three matches of one score: the two with the tighter span come first, in input order. -/
theorem rank_isStableSort_ab :
    (∀ text ∈ ["xa_-b", "yab", "xab"], text.length < 2 ^ 63) ∧
      (matched ⟨"ab", .ignore, default, false⟩ ["xa_-b", "yab", "xab"].zipIdx).map
          (fun r => (r.rank.index, r.result.score, r.result.span)) =
        [(0, 36, 4), (1, 36, 2), (2, 36, 2)] ∧
      IsStableSort (RankedMatch.compare default)
        (matched ⟨"ab", .ignore, default, false⟩ ["xa_-b", "yab", "xab"].zipIdx)
        (rank ⟨"ab", .ignore, default, false⟩ ["xa_-b", "yab", "xab"]) ∧
      (FuzzyRank.rank "ab" ["xa_-b", "yab", "xab"] .ignore).Pairwise RankedMatch.Before := by
  have hlen : ∀ text ∈ ["xa_-b", "yab", "xab"], text.length < 2 ^ 63 := by decide
  obtain ⟨-, hsort, -, hfree⟩ := rank_isStableSort ⟨"ab", .ignore, default, false⟩
    ["xa_-b", "yab", "xab"] hlen
  exact ⟨hlen, by decide +kernel, hsort, (hfree "ab" .ignore).2⟩

end Engine

end FuzzyRank
