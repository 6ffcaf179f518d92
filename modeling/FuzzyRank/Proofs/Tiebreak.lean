import FuzzyRank.Proofs.Lexicographic
import Mathlib.Data.List.Induction
import Mathlib.Data.List.Nodup

/-!
Which of the user's criteria an order keeps, and that its ranks are compared by these.

An order keeps the first five different criteria, each at the place where it occurs first. What is
left out of a list with no more than five is repetition, and a criterion that occurs again has
nothing to decide: where it would be asked, the ranks are known to agree in it.
-/

namespace FuzzyRank

/-! ## First occurrences -/

section FirstOccurrences

variable {α : Type} [BEq α] [LawfulBEq α] {x : α} {xs rest : List α}

theorem eraseDups_of_nodup (h : xs.Nodup) : xs.eraseDups = xs := by
  induction xs with
  | nil => rfl
  | cons x xs ih =>
    obtain ⟨hx, hxs⟩ := List.nodup_cons.mp h
    have hkept : xs.filter (fun y => !y == x) = xs := by
      rw [List.filter_eq_self]
      intro y hy
      have hne : y ≠ x := fun heq => hx (heq ▸ hy)
      simp [hne]
    rw [List.eraseDups_cons, hkept, ih hxs]

/-- What occurred before is passed over. -/
theorem eraseDups_append_cons_of_mem (h : x ∈ xs) :
    (xs ++ x :: rest).eraseDups = (xs ++ rest).eraseDups := by
  have hpassed : (x :: rest).removeAll xs = rest.removeAll xs := by simp [List.removeAll, h]
  rw [List.eraseDups_append, List.eraseDups_append, hpassed]

end FirstOccurrences

/-! ## The criteria of an order -/

namespace Tiebreak

variable {kept criteria : List Criterion}

theorem keepNew_eq (hnodup : kept.Nodup) (hroom : kept.length ≤ keySlots) :
    (keepNew kept criteria).1 = (kept ++ criteria).eraseDups.take keySlots := by
  fun_induction keepNew kept criteria with
  | case1 kept =>
    rw [List.append_nil, eraseDups_of_nodup hnodup, List.take_of_length_le hroom]
  | case2 kept c rest hmem ih => rw [ih hnodup hroom, eraseDups_append_cons_of_mem hmem]
  | case3 kept c rest hnew hlt ih =>
    have hnodup' : (kept ++ [c]).Nodup := by
      rw [← List.concat_eq_append]
      exact hnodup.concat hnew
    have hroom' : (kept ++ [c]).length ≤ keySlots := by
      rw [List.length_append]
      exact hlt
    rw [ih hnodup' hroom', List.append_assoc, List.singleton_append]
  | case4 kept c rest _ hfull =>
    -- the criteria kept fill all places, so nothing after them counts
    have hlength : kept.length = keySlots := by omega
    rw [List.eraseDups_append, eraseDups_of_nodup hnodup, ← hlength, List.take_left]

/-- An order keeps the first criteria that are different, as many as there is room for. -/
theorem ofCriteria_criteria (criteria : List Criterion) :
    (ofCriteria criteria).criteria = criteria.eraseDups.take keySlots :=
  keepNew_eq List.nodup_nil (Nat.zero_le _)

end Tiebreak

/-! ## What a list of criteria decides -/

/-- The number that a measure looks at. -/
def Measure.value (r : Rank) : Measure → Int
  | .score => r.score
  | .span => max ((r.stop : Int) - r.start) 0
  | .start => r.start
  | .stop => r.stop
  | .length => r.length

section Decisions

variable {a b : Rank}

theorem Measure.compare_eq_eq_iff (m : Measure) :
    m.compare a b = .eq ↔ m.value a = m.value b := by
  cases m with
  | score => exact Int.compare_eq_eq.trans eq_comm
  | span =>
    simp only [Measure.compare, Measure.value, Nat.compare_eq_eq]
    omega
  | start | stop | length =>
    simp only [Measure.compare, Measure.value, Nat.compare_eq_eq, Int.ofNat_inj]

/-- Either way round, a criterion does not tell ranks apart that have the same number. -/
theorem Criterion.compare_eq_eq_iff (c : Criterion) :
    c.compare a b = .eq ↔ c.measure.value a = c.measure.value b := by
  rw [← c.measure.compare_eq_eq_iff, Criterion.compare]
  split
  · exact Ordering.swap_eq_eq
  · rfl

theorem lexicographic_append (before after : List Criterion) (a b : Rank) :
    lexicographic (before ++ after) a b =
      (lexicographic before a b).then (lexicographic after a b) := by
  induction before with
  | nil => rfl
  | cons c before ih => rw [List.cons_append, lexicographic, lexicographic, ih, Ordering.then_assoc]

theorem lexicographic_eq_eq_iff (criteria : List Criterion) :
    lexicographic criteria a b = .eq ↔
      ∀ c ∈ criteria, c.measure.value a = c.measure.value b := by
  induction criteria with
  | nil => simp [lexicographic]
  | cons c criteria ih =>
    rw [lexicographic, Ordering.then_eq_eq, c.compare_eq_eq_iff, ih, List.forall_mem_cons]

/-- A criterion that was asked before decides nothing. -/
theorem lexicographic_append_of_mem {criteria : List Criterion} {c : Criterion}
    (h : c ∈ criteria) : lexicographic (criteria ++ [c]) a b = lexicographic criteria a b := by
  rw [lexicographic_append]
  cases heq : lexicographic criteria a b with
  | lt | gt => rfl
  | eq =>
    have hc : c.compare a b = .eq :=
      c.compare_eq_eq_iff.mpr ((lexicographic_eq_eq_iff criteria).mp heq c h)
    rw [lexicographic, lexicographic, hc]
    rfl

/-- Repeated criteria make no difference. -/
theorem lexicographic_eraseDups (criteria : List Criterion) (a b : Rank) :
    lexicographic criteria.eraseDups a b = lexicographic criteria a b := by
  induction criteria using List.reverseRecOn with
  | nil => rfl
  | append_singleton criteria c ih =>
    by_cases hmem : c ∈ criteria
    · rw [eraseDups_append_cons_of_mem hmem, List.append_nil, ih,
        lexicographic_append_of_mem hmem]
    · have hnew : [c].removeAll criteria = [c] := by simp [List.removeAll, hmem]
      rw [List.eraseDups_append, hnew, lexicographic_append, lexicographic_append, ih]
      rfl

end Decisions

/-! ## Ranks under the user's criteria -/

namespace Tiebreak

/-- Ranks under a list of criteria hold the numbers they are made of, and these are compared by the
first five criteria that are different, one after the other, and then by the places in the input.
Ranks are equal if and only if they agree in all of these. With no more than five different criteria
that is a comparison by the whole list, however often a criterion is repeated. -/
theorem compare_rank_ofCriteria (criteria : List Criterion) (score score' : Int)
    {start stop length start' stop' length' : Nat} (index index' : Nat)
    (hstart : start < 2 ^ 63) (hstop : stop < 2 ^ 63) (hlength : length < 2 ^ 63)
    (hstart' : start' < 2 ^ 63) (hstop' : stop' < 2 ^ 63) (hlength' : length' < 2 ^ 63) :
    let a := (ofCriteria criteria).rank score start stop length index
    let b := (ofCriteria criteria).rank score' start' stop' length' index'
    let kept := criteria.eraseDups.take 5
    (a.Carries score start stop length index ∧ b.Carries score' start' stop' length' index') ∧
      compare a b = (lexicographic kept a b).then (compare index index') ∧
      ((a == b) = true ↔ compare a b = .eq) ∧
      ((a == b) = true ↔
        (∀ c ∈ kept, c.measure.value a = c.measure.value b) ∧ index = index') ∧
      (criteria.eraseDups.length ≤ 5 →
        compare a b = (lexicographic criteria a b).then (compare index index')) := by
  intro a b kept
  have hcompare : compare a b = (lexicographic kept a b).then (compare index index') := by
    have h : compare a b = (lexicographic (ofCriteria criteria).criteria a b).then
        (compare index index') :=
      Rank.compare_eq (rank_keyedBy _ _ _ _ _ _) (rank_keyedBy _ _ _ _ _ _)
        ⟨hstart, hstop, hlength⟩ ⟨hstart', hstop', hlength'⟩
    rwa [ofCriteria_criteria] at h
  have hbeq : (a == b) = true ↔ compare a b = .eq := by
    show (compare a b == .eq) = true ↔ _
    exact beq_iff_eq
  refine ⟨⟨rank_carries _ _ _ _ _ _, rank_carries _ _ _ _ _ _⟩, hcompare, hbeq, ?_,
    fun hfew => ?_⟩
  · rw [hbeq, hcompare, Ordering.then_eq_eq, lexicographic_eq_eq_iff, Nat.compare_eq_eq]
  · have hall : kept = criteria.eraseDups := List.take_of_length_le hfew
    rw [hcompare, hall, lexicographic_eraseDups]

/-- The length is the sixth criterion and is not asked. The two ranks agree in the first five, so
the longer text, which stands first in the input, comes first. -/
theorem compare_rank_ofCriteria_sixDistinct :
    let criteria : List Criterion :=
      [⟨.span, false⟩, ⟨.span, false⟩, ⟨.score, true⟩, ⟨.span, true⟩, ⟨.start, true⟩,
        ⟨.score, true⟩, ⟨.stop, false⟩, ⟨.length, false⟩]
    let a := (ofCriteria criteria).rank 40 2 6 9 0
    let b := (ofCriteria criteria).rank 40 2 6 7 1
    ((2 < 2 ^ 63 ∧ 6 < 2 ^ 63 ∧ 9 < 2 ^ 63 ∧ 7 < 2 ^ 63) ∧
        criteria.eraseDups.take 5 =
          [⟨.span, false⟩, ⟨.score, true⟩, ⟨.span, true⟩, ⟨.start, true⟩, ⟨.stop, false⟩]) ∧
      compare a b = .lt ∧ (a == b) = false ∧ lexicographic criteria a b = .gt := by
  intro criteria a b
  have h2 : 2 < 2 ^ 63 := by decide
  have h6 : 6 < 2 ^ 63 := by decide
  have h7 : 7 < 2 ^ 63 := by decide
  have h9 : 9 < 2 ^ 63 := by decide
  obtain ⟨-, hcompare, -, hbeq, -⟩ :=
    compare_rank_ofCriteria criteria 40 40 0 1 h2 h6 h9 h2 h6 h7
  refine ⟨⟨⟨h2, h6, h9, h7⟩, by decide⟩, ?_, ?_, by decide⟩
  · rw [hcompare]
    decide
  · rw [Bool.eq_false_iff]
    intro heq
    exact absurd (hbeq.mp heq).2 (by decide)

end Tiebreak
end FuzzyRank
