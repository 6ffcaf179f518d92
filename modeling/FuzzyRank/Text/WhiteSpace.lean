import FuzzyRank.Text.RangeTable

/-!
The `White_Space` property: the characters that separate words and that are trimmed around names.
-/

namespace FuzzyRank.Text

/-- The code points with the `White_Space` property. -/
def whiteSpaceTable : RangeTable := #[
  ⟨0x9, 0xD, 1⟩, ⟨0x20, 0x20, 1⟩, ⟨0x85, 0x85, 1⟩, ⟨0xA0, 0xA0, 1⟩, ⟨0x1680, 0x1680, 1⟩,
  ⟨0x2000, 0x200A, 1⟩, ⟨0x2028, 0x2029, 1⟩, ⟨0x202F, 0x202F, 1⟩, ⟨0x205F, 0x205F, 1⟩,
  ⟨0x3000, 0x3000, 1⟩
]

/-- The character has the `White_Space` property. -/
def isWhiteSpace (c : Char) : Bool :=
  whiteSpaceTable.contains c.toNat

end FuzzyRank.Text
