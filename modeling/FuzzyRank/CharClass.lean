import FuzzyRank.Text.Alphabetic
import FuzzyRank.Text.Numeric
import FuzzyRank.Text.Uppercase
import FuzzyRank.Text.WhiteSpace

/-!
Classes of characters, as far as the scoring of a match looks at them.
-/

namespace FuzzyRank

/-- What a character is for the purpose of scoring. -/
inductive CharClass where
  | whitespace
  | nonWord
  | delimiter
  | lower
  | upper
  | number
deriving DecidableEq, Repr

namespace CharClass

/-- Letters and digits make words. -/
def isWord : CharClass → Bool
  | lower | upper | number => true
  | whitespace | nonWord | delimiter => false

def isLetter : CharClass → Bool
  | lower | upper => true
  | whitespace | nonWord | delimiter | number => false

/-- Separators of paths and identifiers. A word after one of them ranks between a word after
whitespace and a word after any other sign. -/
def delimiters : List Char := ['/', '\\', ',', ':', ';', '|', '.']

/-- The blanks among the ASCII characters. -/
def asciiBlanks : List Char := [' ', '\t', '\n', '\r', '\x0b', '\x0c']

/-- The class of an ASCII character. -/
def ofAscii (c : Char) : CharClass :=
  if c.isLower then lower
  else if c.isUpper then upper
  else if c.isDigit then number
  else if asciiBlanks.contains c then whitespace
  else if delimiters.contains c then delimiter
  else nonWord

/-- The class of any character. Letters without case count as small ones, so that they never
begin a word inside a word. -/
def ofChar (c : Char) : CharClass :=
  if c.toNat < 128 then ofAscii c
  else if Text.isWhiteSpace c then whitespace
  else if Text.isUppercase c then upper
  else if Text.isAlphabetic c then lower
  else if Text.isNumeric c then number
  else nonWord

end CharClass
end FuzzyRank
