import FuzzyRank.Text.DefaultIgnorable
import FuzzyRank.Text.GraphemeExtend
import FuzzyRank.Text.ModifierLetter
import FuzzyRank.Text.Printable

/-!
Quoted texts for messages: between double quotes, with every character that cannot be seen on its
own written as an escape.
-/

namespace FuzzyRank.Text

/-- The character is a mark that only shows together with the character before it. The modifier
letters that extend a character, halfwidth sound marks, have a place of their own and are not
among these. -/
def isAttachedMark (c : Char) : Bool :=
  isGraphemeExtend c && !isModifierLetter c

/-- The character can be seen on its own. -/
def isVisible (c : Char) : Bool :=
  isPrintable c && !isAttachedMark c && !isDefaultIgnorable c

/-- The escape of a character by its code point in small hexadecimal digits. -/
def codeEscape (c : Char) : List Char :=
  ['\\', 'u', '\x7b'] ++ Nat.toDigits 16 c.toNat ++ ['\x7d']

/-- A character between quotes. -/
def quotedChar (c : Char) : List Char :=
  match c with
  | '\x00' => ['\\', '0']
  | '\t' => ['\\', 't']
  | '\r' => ['\\', 'r']
  | '\n' => ['\\', 'n']
  | '"' => ['\\', '"']
  | '\\' => ['\\', '\\']
  | _ => if isVisible c then [c] else codeEscape c

/-- The text between double quotes. -/
def quote (text : String) : String :=
  String.ofList ('"' :: text.toList.flatMap quotedChar ++ ['"'])

end FuzzyRank.Text
