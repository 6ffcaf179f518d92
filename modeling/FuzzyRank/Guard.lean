/-!
Demands that an algorithm makes on its own data, and two ways to run it.

An algorithm written over `Guarded` states a demand wherever it relies on one: an index inside its
array, a difference that does not go below zero, a link that is there, a score of a plausible size.
Run in `Id` the demands cost nothing and every operation has a default. Run in `Audit policy` the
first demand that the policy refuses stops the run, so that "no demand is ever refused" is a
statement about the very algorithm that runs.
-/

namespace FuzzyRank

/-- Something an algorithm relies on. -/
inductive Demand where
  /-- `i` lies inside an array of the given size. -/
  | index (i size : Nat)
  /-- `small` can be taken from `large`. -/
  | difference (large small : Nat)
  /-- The link to an earlier column is there. -/
  | link (source : Option Nat)
  /-- A sum formed while the given row is filled. -/
  | score (row : Nat) (value : Int)
deriving DecidableEq, Repr

/-- The demand is met, where sums of row `r` may lie in `range r`. -/
def Demand.Met (range : Nat → Int → Bool) : Demand → Bool
  | index i size => i < size
  | difference large small => small ≤ large
  | link source => source.isSome
  | score row value => range row value

/-- Ways to run an algorithm that states its demands. -/
class Guarded (m : Type → Type) where
  demand : Demand → m Unit

/-- The plain run trusts every demand. -/
instance : Guarded Id where
  demand _ := ()

/-- The audited run stops at the first demand that the policy refuses. -/
def Audit (_policy : Demand → Bool) (α : Type) : Type := Except Demand α

namespace Audit

variable {policy : Demand → Bool}

instance : Monad (Audit policy) := inferInstanceAs (Monad (Except Demand))

instance : LawfulMonad (Audit policy) := inferInstanceAs (LawfulMonad (Except Demand))

instance : Guarded (Audit policy) where
  demand d := if policy d then Except.ok () else Except.error d

end Audit

namespace Guarded

variable {m : Type → Type} [Monad m] [Guarded m] {α : Type}

/-- The element at an index inside the array. -/
@[inline]
def readAt (xs : Array α) (i : Nat) (default : α) : m α := do
  demand (.index i xs.size)
  return xs.getD i default

/-- The array with the element at an index inside it replaced. -/
@[inline]
def writeAt (xs : Array α) (i : Nat) (x : α) : m (Array α) := do
  demand (.index i xs.size)
  return xs.setIfInBounds i x

/-- A difference of natural numbers that does not go below zero. -/
@[inline]
def minus (large small : Nat) : m Nat := do
  demand (.difference large small)
  return large - small

/-- A sum formed for the given row. -/
@[inline]
def plus (row : Nat) (a b : Int) : m Int := do
  demand (.score row (a + b))
  return a + b

/-- The column that a link leads to. -/
@[inline]
def follow (source : Option Nat) : m Nat := do
  demand (.link source)
  return source.getD 0

/-! ## The plain run -/

@[simp]
theorem demand_id (d : Demand) : (demand d : Id Unit) = () := rfl

@[simp]
theorem readAt_id (xs : Array α) (i : Nat) (default : α) :
    (readAt xs i default : Id α) = xs.getD i default := rfl

@[simp]
theorem writeAt_id (xs : Array α) (i : Nat) (x : α) :
    (writeAt xs i x : Id (Array α)) = xs.setIfInBounds i x := rfl

@[simp]
theorem minus_id (large small : Nat) : (minus large small : Id Nat) = large - small := rfl

@[simp]
theorem plus_id (row : Nat) (a b : Int) : (plus row a b : Id Int) = a + b := rfl

@[simp]
theorem follow_id (source : Option Nat) : (follow source : Id Nat) = source.getD 0 := rfl

/-! ## The audited run, where the policy allows what is demanded -/

variable {policy : Demand → Bool}

theorem demand_audit {d : Demand} (h : policy d) : (demand d : Audit policy Unit) = pure () := by
  simp only [demand, h]
  rfl

theorem readAt_audit {xs : Array α} {i : Nat} (default : α) (h : policy (.index i xs.size)) :
    (readAt xs i default : Audit policy α) = pure (xs.getD i default) := by
  simp [readAt, demand_audit h]

theorem writeAt_audit {xs : Array α} {i : Nat} (x : α) (h : policy (.index i xs.size)) :
    (writeAt xs i x : Audit policy (Array α)) = pure (xs.setIfInBounds i x) := by
  simp [writeAt, demand_audit h]

theorem minus_audit {large small : Nat} (h : policy (.difference large small)) :
    (minus large small : Audit policy Nat) = pure (large - small) := by
  simp [minus, demand_audit h]

theorem plus_audit {row : Nat} {a b : Int} (h : policy (.score row (a + b))) :
    (plus row a b : Audit policy Int) = pure (a + b) := by
  simp [plus, demand_audit h]

theorem follow_audit {source : Option Nat} (h : policy (.link source)) :
    (follow source : Audit policy Nat) = pure (source.getD 0) := by
  simp [follow, demand_audit h]

end Guarded
end FuzzyRank
