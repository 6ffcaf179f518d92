/-!
How letter case counts when two characters are compared.
-/

namespace FuzzyRank

/-- The case rule of a search. Whoever builds the query decides; there is no automatic rule. -/
inductive CaseRule where
  /-- `a` matches `a` only. -/
  | respect
  /-- ASCII letters match whatever their case; all other characters match themselves only. -/
  | ignore
deriving DecidableEq, Repr

namespace CaseRule

instance : Inhabited CaseRule := ⟨ignore⟩

/-- The rule for a yes or no to "is case significant?". -/
def ofSensitive (sensitive : Bool) : CaseRule :=
  if sensitive then respect else ignore

/-- The rule's name in log records. -/
def name : CaseRule → String
  | respect => "Respect"
  | ignore => "Ignore"

end CaseRule
end FuzzyRank
