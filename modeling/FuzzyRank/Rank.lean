import FuzzyRank.Criterion

/-!
Ranks of matches: the numbers of a match with a key that puts it in its place.
-/

namespace FuzzyRank

/-- The number of criteria that a key has room for. -/
def keySlots : Nat := 5

/-- The criteria of an order, each at most once and no more than a key has room for. -/
structure Tiebreak where
  criteria : List Criterion
  nodup : criteria.Nodup
  fits : criteria.length ≤ keySlots
deriving DecidableEq, Repr

namespace Tiebreak

/-- Without criteria of the user's own, the higher score comes first and then the tighter span. -/
instance : Inhabited Tiebreak := ⟨⟨[⟨.score, false⟩, ⟨.span, false⟩], by decide, by decide⟩⟩

/-- Adds the criteria that are new to those kept, until there is no room for one. Tells whether one
was left out. -/
def keepNew : List Criterion → List Criterion → List Criterion × Bool
  | kept, [] => (kept, false)
  | kept, c :: rest =>
    if c ∈ kept then keepNew kept rest
    else if kept.length < keySlots then keepNew (kept ++ [c]) rest
    else (kept, true)

theorem nodup_keepNew {kept criteria : List Criterion} (h : kept.Nodup) :
    (keepNew kept criteria).1.Nodup := by
  fun_induction keepNew kept criteria with
  | case1 => exact h
  | case2 _ _ _ _ ih => exact ih h
  | case3 kept c rest fresh _ ih =>
    refine ih (List.nodup_append.2 ⟨h, by simp, fun a ha b hb => ?_⟩)
    have : b = c := by simpa using hb
    exact fun hab => fresh (this ▸ hab ▸ ha)
  | case4 => exact h

theorem length_keepNew_le {kept criteria : List Criterion} (h : kept.length ≤ keySlots) :
    (keepNew kept criteria).1.length ≤ keySlots := by
  fun_induction keepNew kept criteria with
  | case1 => exact h
  | case2 _ _ _ _ ih => exact ih h
  | case3 _ _ _ _ room ih => exact ih (by simpa using Nat.succ_le_of_lt room)
  | case4 => exact h

/-- The first occurrences of the criteria, as many as there is room for. -/
def ofCriteria (criteria : List Criterion) : Tiebreak where
  criteria := (keepNew [] criteria).1
  nodup := nodup_keepNew List.nodup_nil
  fits := length_keepNew_le (Nat.zero_le _)

/-- There are more different criteria than there is room for. -/
def overflows (criteria : List Criterion) : Bool :=
  (keepNew [] criteria).2

end Tiebreak

/-- A match among others: its numbers, its place in the input, and the key it is ordered by. -/
structure Rank where
  score : Int
  start : Nat
  stop : Nat
  /-- The number of characters of the candidate. -/
  length : Nat
  /-- The candidate's place in the input. -/
  index : Nat
  key : List Int
deriving DecidableEq, Repr

/-- A count as a signed word of 64 bits. Counts from 2 ^ 63 on come out negative. -/
def signedWord (n : Nat) : Int :=
  (n : Int).bmod 0x10000000000000000

namespace Measure

/-- The measure as a number that is smaller for the better match. -/
def cost (score : Int) (start stop length : Nat) : Measure → Int
  | .score => -score
  | .span => signedWord (stop - start)
  | .start => signedWord start
  | .stop => signedWord stop
  | .length => signedWord length

end Measure

/-- A criterion as a number that is smaller for the match that comes first. -/
def Criterion.cost (score : Int) (start stop length : Nat) (c : Criterion) : Int :=
  let cost := c.measure.cost score start stop length
  if c.reversed then -cost else cost

/-- The rank of a match under an order. Places of the key that no criterion takes hold zero. -/
def Tiebreak.rank (order : Tiebreak) (score : Int) (start stop length index : Nat) : Rank where
  score := score
  start := start
  stop := stop
  length := length
  index := index
  key := (order.criteria.map (Criterion.cost score start stop length)).rightpad keySlots 0

namespace Rank

/-- Ranks are compared by their keys and then by their place in the input, so that matches that are
equal under all criteria stay in input order. -/
instance : Ord Rank where
  compare a b := (compare a.key b.key).then (compare a.index b.index)

/-- Ranks are equal when neither comes first. -/
instance : BEq Rank where
  beq a b := compare a b == .eq

/-- The first rank does not come after the second. -/
def le (a b : Rank) : Bool :=
  (compare a b).isLE

end Rank
end FuzzyRank
