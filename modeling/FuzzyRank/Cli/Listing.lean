import FuzzyRank.Cli.Options
import FuzzyRank.Engine

/-!
The printed form of ranked matches: one line each.
-/

namespace FuzzyRank.Cli

/-- Switches a terminal to bold. -/
def bold : List Char := ['\x1b', '[', '1', 'm']

/-- Switches a terminal back to plain. -/
def plain : List Char := ['\x1b', '[', '0', 'm']

/-- The characters from column `column` on, those at the given positions in bold. The positions
are in increasing order. -/
def embolden : (column : Nat) → (positions : List Nat) → List Char → List Char
  | _, _, [] => []
  | _, [], cs => cs
  | column, p :: rest, c :: cs =>
    if p = column then bold ++ c :: plain ++ embolden (column + 1) rest cs
    else c :: embolden (column + 1) (p :: rest) cs

/-- The text with its matched characters in bold, as far as their positions are known. -/
def highlighted (m : RankedMatch) : String :=
  match m.result.positions with
  | none => m.text
  | some positions => String.ofList (embolden 0 positions m.text.toList)

/-- The matched positions in decimal digits, with commas between them. -/
def positionsField (m : RankedMatch) : String :=
  ",".intercalate ((m.result.positions.getD []).map toString)

/-- The line of a match: its score and a tab if asked for, its text, and a tab and its positions if
asked for. -/
def line (o : Options) (m : RankedMatch) : String :=
  (if o.printScore then toString m.result.score ++ "\t" else "") ++
  (if o.highlight then highlighted m else m.text) ++
  (if o.printPositions then "\t" ++ positionsField m else "") ++ "\n"

/-- The lines of the first matches, as many as the limit allows. -/
def listing (o : Options) (ranked : List RankedMatch) : String :=
  String.join ((ranked.take (o.limit.getD ranked.length)).map (line o))

end FuzzyRank.Cli
