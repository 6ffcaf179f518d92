import FuzzyRank.Rank
import Mathlib.Algebra.Group.Nat.Defs
import Mathlib.Data.List.Basic

/-!
The order of ranks, said without keys.

Two ranks are compared criterion by criterion, and the first criterion that tells them apart
decides. That is what a comparison of their keys comes to, as long as no count is too large for a
signed word: a key holds one number for each criterion, smaller for the rank that comes first, and
the places left over hold the same number in every key.
-/

namespace FuzzyRank

/-- Which of two ranks is better by a measure: the one with the higher score, or else the one with
the smaller number. -/
def Measure.compare (a b : Rank) : Measure → Ordering
  | .score => Ord.compare b.score a.score
  | .span => Ord.compare (a.stop - a.start) (b.stop - b.start)
  | .start => Ord.compare a.start b.start
  | .stop => Ord.compare a.stop b.stop
  | .length => Ord.compare a.length b.length

/-- Which of two ranks comes first by a criterion. -/
def Criterion.compare (a b : Rank) (c : Criterion) : Ordering :=
  if c.reversed then (c.measure.compare a b).swap else c.measure.compare a b

/-- Which of two ranks comes first by some criteria, of which an earlier one outweighs all later
ones. -/
def lexicographic : List Criterion → Rank → Rank → Ordering
  | [], _, _ => .eq
  | c :: rest, a, b => (c.compare a b).then (lexicographic rest a b)

/-- The rank holds the numbers that it was made of: the score and the span of a match, the length of
its text, and its place in the input. -/
structure Rank.Carries (r : Rank) (score : Int) (start stop length index : Nat) : Prop where
  score_eq : r.score = score
  start_eq : r.start = start
  stop_eq : r.stop = stop
  length_eq : r.length = length
  index_eq : r.index = index

theorem Tiebreak.rank_carries (order : Tiebreak) (score : Int) (start stop length index : Nat) :
    (order.rank score start stop length index).Carries score start stop length index :=
  ⟨rfl, rfl, rfl, rfl, rfl⟩

/-- All counts of the rank are signed words. -/
structure Rank.InWords (r : Rank) : Prop where
  start_lt : r.start < 2 ^ 63
  stop_lt : r.stop < 2 ^ 63
  length_lt : r.length < 2 ^ 63

/-! ## The other way round -/

theorem Measure.compare_swap (a b : Rank) (m : Measure) :
    m.compare a b = (m.compare b a).swap := by
  cases m <;> exact Std.OrientedOrd.eq_swap

theorem Criterion.compare_swap (a b : Rank) (c : Criterion) :
    c.compare a b = (c.compare b a).swap := by
  unfold Criterion.compare
  split <;> rw [Measure.compare_swap]

theorem lexicographic_swap (criteria : List Criterion) (a b : Rank) :
    lexicographic criteria a b = (lexicographic criteria b a).swap := by
  induction criteria with
  | nil => rfl
  | cons c rest ih => rw [lexicographic, lexicographic, Ordering.swap_then, ← ih, ← c.compare_swap]

/-! ## One criterion -/

/-- A count below the sign bit is kept as it is. -/
theorem signedWord_of_lt {n : Nat} (h : n < 2 ^ 63) : signedWord n = n := by
  unfold signedWord
  apply Int.bmod_eq_of_le <;> omega

theorem compare_neg (a b : Int) : compare (-a) (-b) = compare b a := by
  simp only [Int.compare_eq_ite_lt, Int.neg_lt_neg_iff]

theorem compare_natCast (a b : Nat) : compare (a : Int) (b : Int) = compare a b := by
  simp only [Int.compare_eq_ite_lt, Nat.compare_eq_ite_lt, Int.ofNat_lt]

section Costs

variable {a b : Rank}

/-- The costs of a measure are compared as the measure compares. -/
theorem Measure.compare_cost (ha : a.InWords) (hb : b.InWords) (m : Measure) :
    Ord.compare (m.cost a.score a.start a.stop a.length) (m.cost b.score b.start b.stop b.length) =
      m.compare a b := by
  obtain ⟨hastart, hastop, halength⟩ := ha
  obtain ⟨hbstart, hbstop, hblength⟩ := hb
  cases m with
  | score => exact compare_neg _ _
  | span =>
    simp only [Measure.cost, Measure.compare]
    rw [signedWord_of_lt (by omega), signedWord_of_lt (by omega), compare_natCast]
  | start =>
    simp only [Measure.cost, Measure.compare]
    rw [signedWord_of_lt hastart, signedWord_of_lt hbstart, compare_natCast]
  | stop =>
    simp only [Measure.cost, Measure.compare]
    rw [signedWord_of_lt hastop, signedWord_of_lt hbstop, compare_natCast]
  | length =>
    simp only [Measure.cost, Measure.compare]
    rw [signedWord_of_lt halength, signedWord_of_lt hblength, compare_natCast]

theorem Criterion.compare_cost (ha : a.InWords) (hb : b.InWords) (c : Criterion) :
    Ord.compare (c.cost a.score a.start a.stop a.length) (c.cost b.score b.start b.stop b.length) =
      c.compare a b := by
  unfold Criterion.cost Criterion.compare
  split
  · rw [compare_neg, ← Measure.compare_cost ha hb]
    exact Std.OrientedOrd.eq_swap
  · exact Measure.compare_cost ha hb _

/-! ## Keys -/

/-- Costs that are followed by the same numbers are compared criterion by criterion. -/
theorem compare_costs (ha : a.InWords) (hb : b.InWords) (criteria : List Criterion)
    (rest : List Int) :
    Ord.compare (criteria.map (Criterion.cost a.score a.start a.stop a.length) ++ rest)
      (criteria.map (Criterion.cost b.score b.start b.stop b.length) ++ rest) =
      lexicographic criteria a b := by
  induction criteria with
  | nil => exact Std.ReflOrd.compare_self
  | cons c criteria ih =>
    rw [lexicographic, ← ih, ← Criterion.compare_cost ha hb]
    exact List.compareLex_cons_cons

/-- The rank has the key that an order gives it. -/
def Rank.KeyedBy (order : Tiebreak) (r : Rank) : Prop :=
  r.key = (order.rank r.score r.start r.stop r.length r.index).key

theorem Tiebreak.rank_keyedBy (order : Tiebreak) (score : Int) (start stop length index : Nat) :
    (order.rank score start stop length index).KeyedBy order := rfl

/-- Ranks with keys are compared criterion by criterion, and then by their place in the input. -/
theorem Rank.compare_eq {order : Tiebreak} (ha : a.KeyedBy order) (hb : b.KeyedBy order)
    (hwa : a.InWords) (hwb : b.InWords) :
    Ord.compare a b =
      (lexicographic order.criteria a b).then (Ord.compare a.index b.index) := by
  have hkey : Ord.compare a.key b.key = lexicographic order.criteria a b := by
    rw [show a.key = _ from ha, show b.key = _ from hb]
    simp only [Tiebreak.rank, List.rightpad, List.length_map]
    exact compare_costs hwa hwb _ _
  show (Ord.compare a.key b.key).then (Ord.compare a.index b.index) = _
  rw [hkey]

end Costs
end FuzzyRank
