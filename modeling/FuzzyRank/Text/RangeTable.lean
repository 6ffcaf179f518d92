/-!
Sets of code points as sorted tables of stretches, with membership by bisection.
-/

namespace FuzzyRank.Text

/-- The code points `first, first + step, …` up to `last`. -/
structure Stretch where
  first : Nat
  last : Nat
  step : Nat
deriving Repr

/-- The code point lies on the stretch. -/
def Stretch.contains (s : Stretch) (code : Nat) : Bool :=
  s.first ≤ code && code ≤ s.last && (code - s.first) % s.step == 0

/-- Stretches in increasing order, none of which overlap. -/
abbrev RangeTable := Array Stretch

namespace RangeTable

/-- Among the entries from `low` up to, not including, `high`: the last one that starts at or
before `code`, or `low` if there is none. -/
def lastStart (table : RangeTable) (code low high : Nat) : Nat :=
  if low + 1 < high then
    let middle := (low + high) / 2
    if table[middle]?.any (·.first ≤ code) then lastStart table code middle high
    else lastStart table code low middle
  else low
termination_by high - low

/-- Only the last stretch that starts at or before a code point can hold it. -/
def contains (table : RangeTable) (code : Nat) : Bool :=
  table[table.lastStart code 0 table.size]?.any (·.contains code)

end RangeTable
end FuzzyRank.Text
