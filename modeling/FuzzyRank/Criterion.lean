import FuzzyRank.Text.Quoted
import FuzzyRank.Text.WhiteSpace

/-!
Criteria by which matches are ordered, and their names.
-/

namespace FuzzyRank

/-- What a criterion looks at. -/
inductive Measure where
  | score
  | span
  | start
  | stop
  | length
deriving DecidableEq, Repr

/-- A criterion of the order of matches: a measure, either way round. -/
structure Criterion where
  measure : Measure
  /-- Reversed, what is better comes later. A high score is better than a low one; of all other
  measures the small value is better. -/
  reversed : Bool
deriving DecidableEq, Repr

/-- A text that names no criterion. -/
structure UnknownCriterion where
  text : String
deriving DecidableEq, Repr

def UnknownCriterion.message (e : UnknownCriterion) : String :=
  "unknown tiebreak criteria: " ++ Text.quote e.text

namespace Measure

/-- The measure's name in criteria that users write. -/
def word : Measure → String
  | score => "score"
  | span => "span"
  | start => "begin"
  | stop => "end"
  | length => "length"

/-- The measure's name in log records. -/
def title : Measure → String
  | score => "Score"
  | span => "Span"
  | start => "Begin"
  | stop => "End"
  | length => "Length"

def all : List Measure := [score, span, start, stop, length]

end Measure

namespace Criterion

/-- The criterion as users write it: a minus sign reverses it. -/
def word (c : Criterion) : String :=
  if c.reversed then "-" ++ c.measure.word else c.measure.word

/-- The criterion's name in log records. -/
def title (c : Criterion) : String :=
  if c.reversed then "Neg" ++ c.measure.title else c.measure.title

def all : List Criterion :=
  Measure.all.map (⟨·, false⟩) ++ Measure.all.map (⟨·, true⟩)

/-- The text without the white space at its ends. -/
def trim (text : String) : String :=
  String.ofList
    ((text.toList.dropWhile Text.isWhiteSpace).reverse.dropWhile Text.isWhiteSpace).reverse

/-- The criterion that a text names, apart from white space around it. -/
def parse (text : String) : Except UnknownCriterion Criterion :=
  let name := trim text
  match all.find? (·.word == name) with
  | some c => .ok c
  | none => .error ⟨name⟩

end Criterion
end FuzzyRank
