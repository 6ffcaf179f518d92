import FuzzyRank.Symbol

/-!
The scoring rules: what a matched character earns and what a gap costs.
-/

namespace FuzzyRank.Scoring

/-- Every matched character earns this. -/
def matchPoints : Int := 16

/-- The first skipped character between two matched ones. -/
def gapOpening : Int := -3

/-- Every further skipped character of the same gap. -/
def gapExtension : Int := -1

/-- A word character after a sign that is neither blank nor delimiter. -/
def boundaryBonus : Nat := 8

/-- A word character after a blank or at the start of the text; also the bonus of a blank. -/
def blankBonus : Nat := 10

/-- A word character after a delimiter. -/
def delimiterBonus : Nat := 9

/-- A matched character that is itself neither a word character nor a blank. -/
def signBonus : Nat := 8

/-- A capital after a small letter, or a digit after a letter. -/
def humpBonus : Nat := 7

/-- The least bonus of a character matched right after the previous one. -/
def runBonus : Nat := 4

/-- The bonus of a match at the start of the text counts this many times. -/
def startFactor : Nat := 2

/-- The bonus of a character of class `current` after one of class `before`. -/
def classBonus (before current : CharClass) : Nat :=
  if current.isWord then
    match before with
    | .whitespace => blankBonus
    | .delimiter => delimiterBonus
    | .nonWord => boundaryBonus
    | .lower | .upper | .number =>
      let hump := before = .lower ∧ current = .upper
      let digit := before.isLetter ∧ current = .number
      if hump ∨ digit then humpBonus else 0
  else if current = .whitespace then blankBonus
  else signBonus

variable {α : Type} [Symbol α]

/-- The class of the symbol before column `j`; a text behaves as if a blank stood before it. -/
def classBefore (text : Array α) : Nat → CharClass
  | 0 => .whitespace
  | j + 1 => (text[j]?.map Symbol.charClass).getD .whitespace

/-- The class bonus of column `j`. -/
def bonusAt (text : Array α) (j : Nat) : Nat :=
  match text[j]? with
  | some current => classBonus (classBefore text j) (Symbol.charClass current)
  | none => 0

/-- The class bonuses of all columns, written over the buffer's old contents. The factor of the
first column is left out: a run that starts there spreads the plain bonus. -/
def bonusTable (text : Array α) (buffer : Array Nat) : Array Nat :=
  (text.foldl (fun (before, table) current =>
      let now := Symbol.charClass current
      (now, table.push (classBonus before now)))
    (CharClass.whitespace, buffer.shrink 0)).2

end FuzzyRank.Scoring
