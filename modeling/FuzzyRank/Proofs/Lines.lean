import FuzzyRank.Proofs.Decoding

/-!
What the candidates of an input are.

Each line is decoded by itself, yet the candidates are those of the input decoded as a whole. An
ASCII byte goes on with no character: whatever is unfinished before it is given up there, as it is
at the end of a line, and nothing of it is left after. So the newlines and carriage returns of the
bytes are those of the text, at the same places, and cutting can come before decoding or after it.
-/

namespace FuzzyRank

namespace Text

/-! ## Decoding in pieces -/

section Pieces

variable {b : UInt8} {bytes xs : List UInt8}

/-- An ASCII byte stands for itself, after what is given up. -/
theorem takeByte_ascii {state : Option Unfinished} (hstate : ∀ u, state = some u → u.BeyondAscii)
    (hb : b.toNat < 0x80) :
    takeByte state b = (decodeAfter state [] ++ [some (Char.ofNat b.toNat)], none) := by
  have hbegin : beginCharacter b = ([some (Char.ofNat b.toNat)], none) := if_pos hb
  cases state with
  | none => exact hbegin
  | some u =>
    have hlow : ¬ (u.low ≤ b ∧ b ≤ u.high) := by
      rintro ⟨hle, -⟩
      have hle : u.low.toNat ≤ b.toNat := hle
      have := (hstate u rfl).low_ge
      omega
    unfold takeByte
    dsimp only
    rw [if_neg hlow, hbegin]
    rfl

theorem decodeAfter_append_cons {state : Option Unfinished}
    (hstate : ∀ u, state = some u → u.BeyondAscii) (hb : b.toNat < 0x80) (ys : List UInt8) :
    decodeAfter state (xs ++ b :: ys) =
      decodeAfter state xs ++ some (Char.ofNat b.toNat) :: decode ys := by
  induction xs generalizing state with
  | nil =>
    rw [List.nil_append, decodeAfter_cons, takeByte_ascii hstate hb]
    dsimp only
    rw [List.append_assoc]
    rfl
  | cons x xs ih =>
    rw [List.cons_append, decodeAfter_cons, decodeAfter_cons,
      ih fun u => takeByte_beyondAscii hstate, List.append_assoc]

/-- What stands before an ASCII byte and what stands after it are decoded each by itself. -/
theorem decodeLossy_append_cons (hb : b.toNat < 0x80) (ys : List UInt8) :
    decodeLossy (xs ++ b :: ys) = decodeLossy xs ++ Char.ofNat b.toNat :: decodeLossy ys := by
  unfold decodeLossy
  rw [decode, decodeAfter_append_cons beyondAscii_of_none hb, List.map_append, List.map_cons]
  rfl

theorem decodeLossy_eq_nil_iff : decodeLossy bytes = [] ↔ bytes = [] := by
  unfold decodeLossy
  rw [List.map_eq_nil_iff]
  constructor
  · intro hnil
    have h := decodes_decode bytes
    rw [hnil] at h
    cases h
    rfl
  · rintro rfl
    rfl

/-- A character that comes last is spelled by the last bytes. -/
theorem Decodes.exists_of_getLast? {decoded : List (Option Char)} {c : Char}
    (h : Decodes bytes decoded) (hlast : decoded.getLast? = some (some c)) :
    ∃ front, bytes = front ++ String.utf8EncodeChar c := by
  induction h with
  | nil => cases hlast
  | @character d rest decoded hrest ih =>
    by_cases hnil : decoded = []
    · subst hnil
      cases hrest
      cases hlast
      exact ⟨[], List.append_nil _⟩
    · rw [List.getLast?_cons_of_ne_nil hnil] at hlast
      obtain ⟨front, rfl⟩ := ih hlast
      exact ⟨_, (List.append_assoc _ _ _).symm⟩
  | @illFormed part rest decoded _ _ ih =>
    by_cases hnil : decoded = []
    · subst hnil
      cases hlast
    · rw [List.getLast?_cons_of_ne_nil hnil] at hlast
      obtain ⟨front, rfl⟩ := ih hlast
      exact ⟨_, (List.append_assoc _ _ _).symm⟩

theorem exists_of_getLast?_decodeLossy {c : Char} (hc : c ≠ replacement)
    (hlast : (decodeLossy bytes).getLast? = some c) :
    ∃ front, bytes = front ++ String.utf8EncodeChar c := by
  unfold decodeLossy at hlast
  rw [List.getLast?_map, Option.map_eq_some_iff] at hlast
  obtain ⟨d, hd, rfl⟩ := hlast
  cases d with
  | none => exact absurd rfl hc
  | some c => exact (decodes_decode bytes).exists_of_getLast? hd

/-- A text that is written is read again. -/
theorem decodeLossy_flatMap_utf8EncodeChar (cs : List Char) :
    decodeLossy (cs.flatMap String.utf8EncodeChar) = cs := by
  unfold decodeLossy
  rw [decode_flatMap_utf8EncodeChar, List.map_map]
  exact List.map_id cs

end Pieces

end Text

namespace Cli

/-! ## Cutting a text -/

section Cutting

variable {α : Type} [DecidableEq α] {a : α} {xs : List α} {pieces : List (List α)}

/-- The pieces of a sequence that is cut after every place of a value. -/
def cutAfter (a : α) : List α → List (List α)
  | [] => [[]]
  | x :: xs => if x = a then [x] :: cutAfter a xs else (cutAfter a xs).modifyHead (x :: ·)

/-- The pieces, of which the last is left out if it is empty. -/
def withoutEmptyEnd (pieces : List (List α)) : List (List α) :=
  if pieces.getLast? = some [] then pieces.dropLast else pieces

/-- The piece without a value at its end; only one is removed. -/
def withoutEnd (a : α) (piece : List α) : List α :=
  if piece.getLast? = some a then piece.dropLast else piece

/-- Every sequence is made up in this way, from what stands up to the first place of a value and
what follows it. -/
theorem cut_induction {motive : List α → Prop} (a : α) (whole : ∀ xs, a ∉ xs → motive xs)
    (cut : ∀ xs ys, a ∉ xs → motive ys → motive (xs ++ a :: ys)) (xs : List α) : motive xs := by
  by_cases h : a ∈ xs
  · obtain ⟨front, back, hxs, hfront⟩ := List.eq_append_cons_of_mem h
    have hshorter : back.length < xs.length := by
      rw [hxs, List.length_append, List.length_cons]
      omega
    rw [hxs]
    exact cut front back hfront (cut_induction a whole cut back)
  · exact whole xs h
termination_by xs.length

theorem cutAfter_ne_nil (a : α) (xs : List α) : cutAfter a xs ≠ [] := by
  induction xs with
  | nil => exact List.cons_ne_nil _ _
  | cons x xs ih =>
    rw [cutAfter]
    split
    · exact List.cons_ne_nil _ _
    · exact fun h => ih (List.modifyHead_eq_nil_iff.mp h)

theorem cutAfter_of_not_mem (h : a ∉ xs) : cutAfter a xs = [xs] := by
  induction xs with
  | nil => rfl
  | cons x xs ih =>
    have hne : x ≠ a := (List.ne_of_not_mem_cons h).symm
    rw [cutAfter, if_neg hne, ih (List.not_mem_of_not_mem_cons h)]
    rfl

theorem cutAfter_append_cons (h : a ∉ xs) (ys : List α) :
    cutAfter a (xs ++ a :: ys) = (xs ++ [a]) :: cutAfter a ys := by
  induction xs with
  | nil => exact if_pos rfl
  | cons x xs ih =>
    have hne : x ≠ a := (List.ne_of_not_mem_cons h).symm
    rw [List.cons_append, cutAfter, if_neg hne, ih (List.not_mem_of_not_mem_cons h)]
    rfl

theorem withoutEmptyEnd_cons (h : pieces ≠ []) (piece : List α) :
    withoutEmptyEnd (piece :: pieces) = piece :: withoutEmptyEnd pieces := by
  unfold withoutEmptyEnd
  rw [List.getLast?_cons_of_ne_nil h, List.dropLast_cons_of_ne_nil h]
  split <;> rfl

theorem withoutEmptyEnd_singleton (piece : List α) :
    withoutEmptyEnd [piece] = if piece = [] then [] else [piece] := by
  simp [withoutEmptyEnd]

theorem withoutEnd_concat (a : α) (piece : List α) : withoutEnd a (piece ++ [a]) = piece := by
  simp [withoutEnd]

theorem withoutEnd_of_ne {piece : List α} (h : piece.getLast? ≠ some a) :
    withoutEnd a piece = piece :=
  if_neg h

/-- Without the values at which they are cut, the pieces are those between the values. -/
theorem map_withoutEnd_cutAfter (a : α) (xs : List α) :
    (withoutEmptyEnd (cutAfter a xs)).map (withoutEnd a) = withoutEmptyEnd (xs.splitOn a) := by
  induction xs using cut_induction a with
  | whole xs h =>
    have hend : withoutEnd a xs = xs := withoutEnd_of_ne fun hlast => h (List.mem_of_getLast? hlast)
    rw [cutAfter_of_not_mem h, List.splitOn_eq_singleton h, withoutEmptyEnd_singleton]
    split
    · rfl
    · rw [List.map_singleton, hend]
  | cut xs ys h ih =>
    rw [cutAfter_append_cons h, List.splitOn_append_cons_self_of_not_mem h,
      withoutEmptyEnd_cons (cutAfter_ne_nil a ys), withoutEmptyEnd_cons (List.splitOn_ne_nil a ys),
      List.map_cons, withoutEnd_concat, ih]

/-- There is a piece for every place of the value, and one for what follows the last. -/
theorem length_withoutEmptyEnd_splitOn (a : α) (xs : List α) :
    (withoutEmptyEnd (xs.splitOn a)).length =
      xs.count a + if xs = [] ∨ xs.getLast? = some a then 0 else 1 := by
  induction xs using cut_induction a with
  | whole xs h =>
    have hlast : xs.getLast? ≠ some a := fun hlast => h (List.mem_of_getLast? hlast)
    rw [List.splitOn_eq_singleton h, withoutEmptyEnd_singleton, List.count_eq_zero.mpr h,
      Nat.zero_add]
    simp only [hlast, or_false]
    split <;> rfl
  | cut xs ys h ih =>
    have hend : xs ++ a :: ys = [] ∨ (xs ++ a :: ys).getLast? = some a ↔
        ys = [] ∨ ys.getLast? = some a := by
      cases ys <;> simp
    rw [List.splitOn_append_cons_self_of_not_mem h,
      withoutEmptyEnd_cons (List.splitOn_ne_nil a ys), List.length_cons, ih, List.count_append,
      List.count_eq_zero.mpr h, List.count_cons_self]
    simp only [hend]
    omega

end Cutting

/-! ## Lines -/

/-- The lines of a text: it is cut after every newline, and what is cut off loses its newline and
then at most one carriage return. An empty end is no line. -/
def linesOf (text : List Char) : List String :=
  (withoutEmptyEnd (cutAfter '\n' text)).map fun piece =>
    String.ofList (withoutEnd '\r' (withoutEnd '\n' piece))

/-- The bytes of texts of which each is followed by a newline. -/
def written (texts : List String) : List UInt8 :=
  texts.flatMap fun text => text.toUTF8.data.toList ++ [newline]

theorem linesOf_eq (text : List Char) : linesOf text =
    (withoutEmptyEnd (text.splitOn '\n')).map fun piece =>
      String.ofList (withoutEnd '\r' piece) := by
  rw [← map_withoutEnd_cutAfter, List.map_map]
  rfl

/-- The lines of the decoded text are the decoded lines. -/
theorem splitOn_decodeLossy (bytes : List UInt8) :
    withoutEmptyEnd ((Text.decodeLossy bytes).splitOn '\n') =
      (cutLines bytes).map Text.decodeLossy := by
  show _ = (withoutEmptyEnd (bytes.splitOn newline)).map Text.decodeLossy
  induction bytes using cut_induction newline with
  | whole xs h =>
    rw [List.splitOn_eq_singleton h, List.splitOn_eq_singleton (newline_not_mem_decodeLossy h),
      withoutEmptyEnd_singleton, withoutEmptyEnd_singleton]
    simp only [Text.decodeLossy_eq_nil_iff]
    split <;> rfl
  | cut xs ys h ih =>
    have hnewline : Char.ofNat newline.toNat = '\n' := rfl
    rw [Text.decodeLossy_append_cons (by decide), hnewline,
      List.splitOn_append_cons_self_of_not_mem (newline_not_mem_decodeLossy h),
      List.splitOn_append_cons_self_of_not_mem h, withoutEmptyEnd_cons (List.splitOn_ne_nil _ _),
      withoutEmptyEnd_cons (List.splitOn_ne_nil _ _), List.map_cons, ih]

/-- A carriage return is removed from the bytes where it is removed from the text. -/
theorem decodeLossy_dropCarriageReturn (line : List UInt8) :
    Text.decodeLossy (dropCarriageReturn line) = withoutEnd '\r' (Text.decodeLossy line) := by
  by_cases hlast : line.getLast? = some carriageReturn
  · obtain ⟨front, rfl⟩ := List.getLast?_eq_some_iff.mp hlast
    have hreturn : Text.decodeLossy (front ++ [carriageReturn]) =
        Text.decodeLossy front ++ ['\r'] :=
      Text.decodeLossy_append_cons (by decide) []
    rw [hreturn, withoutEnd_concat, dropCarriageReturn, if_pos hlast, List.dropLast_concat]
  · rw [dropCarriageReturn, if_neg hlast, withoutEnd_of_ne]
    intro hreturn
    obtain ⟨front, rfl⟩ := Text.exists_of_getLast?_decodeLossy (by decide) hreturn
    exact hlast List.getLast?_concat

theorem readCandidates_value (bytes : List UInt8) :
    (readCandidates bytes).value = linesOf (Text.decodeLossy bytes) := by
  rw [linesOf_eq, splitOn_decodeLossy, List.map_map]
  simp only [readCandidates, Candidate.ofBytes, List.map_map]
  refine List.map_congr_left fun line _ => ?_
  simp only [Function.comp_apply, Candidate.ofLine, decodeLossy_dropCarriageReturn]

theorem length_readCandidates (bytes : List UInt8) : (readCandidates bytes).value.length =
    bytes.count newline + if bytes = [] ∨ bytes.getLast? = some newline then 0 else 1 := by
  rw [← length_withoutEmptyEnd_splitOn]
  simp only [readCandidates, Candidate.ofBytes, List.length_map]
  rfl

/-! ## Writing lines -/

theorem toUTF8_toList (text : String) :
    text.toUTF8.data.toList = text.toList.flatMap String.utf8EncodeChar := by
  rw [String.toUTF8_eq_toByteArray, ← String.utf8Encode_toList, List.utf8Encode,
    List.data_toByteArray]

theorem decodeLossy_written (texts : List String) : Text.decodeLossy (written texts) =
    (texts.map String.toList).flatMap (· ++ ['\n']) := by
  have hwritten : written texts =
      ((texts.map String.toList).flatMap (· ++ ['\n'])).flatMap String.utf8EncodeChar := by
    rw [written, List.flatMap_assoc, List.flatMap_map]
    refine List.flatMap_congr fun text _ => ?_
    rw [toUTF8_toList, List.flatMap_append]
    rfl
  rw [hwritten, Text.decodeLossy_flatMap_utf8EncodeChar]

/-- Texts that are lines are what the text of them is cut into. -/
theorem linesOf_flatMap_newline {texts : List String}
    (h : ∀ text ∈ texts, '\n' ∉ text.toList ∧ text.toList.getLast? ≠ some '\r') :
    linesOf ((texts.map String.toList).flatMap (· ++ ['\n'])) = texts := by
  have hnewline : ∀ line ∈ texts.map String.toList, '\n' ∉ line := by
    intro line hline
    obtain ⟨text, htext, rfl⟩ := List.mem_map.mp hline
    exact (h text htext).1
  have hend : withoutEmptyEnd (texts.map String.toList ++ [[]]) = texts.map String.toList := by
    simp [withoutEmptyEnd]
  rw [linesOf_eq, splitOn_flatMap_newline hnewline, hend, List.map_map]
  conv_rhs => rw [← List.map_id texts]
  refine List.map_congr_left fun text htext => ?_
  rw [Function.comp_apply, withoutEnd_of_ne (h text htext).2, String.ofList_toList]
  rfl

/-- Reading candidates loses nothing. The decoded characters are what they should be: every
spelling is its character, and every longest ill-formed part one replacement. The candidates are the
lines of the whole text so decoded, one for each newline and one for an end that is not empty. None
holds a newline, and lines that are written are read again. -/
theorem readCandidates_lossless (bytes : List UInt8) :
    (∀ decoded, Text.Decodes bytes decoded ↔ decoded = Text.decode bytes) ∧
      (readCandidates bytes).value = linesOf (Text.decodeLossy bytes) ∧
      (readCandidates bytes).value.length =
        bytes.count newline + (if bytes = [] ∨ bytes.getLast? = some newline then 0 else 1) ∧
      (∀ text ∈ (readCandidates bytes).value, '\n' ∉ text.toList) ∧
      ∀ texts : List String,
        (∀ text ∈ texts, '\n' ∉ text.toList ∧ text.toList.getLast? ≠ some '\r') →
          (readCandidates (written texts)).value = texts := by
  refine ⟨fun _ => Text.decodes_iff, readCandidates_value bytes, length_readCandidates bytes,
    fun text => newline_not_mem_of_mem_readCandidates, fun texts h => ?_⟩
  rw [readCandidates_value, decodeLossy_written, linesOf_flatMap_newline h]

/-- Two characters that break off, one at a newline and one at the end, a byte that goes on with
none, two carriage returns and an empty line; and texts that are written and read again. -/
theorem readCandidates_lossless_truncated :
    let bytes := [0x61, 0xE2, 0x82, newline, 0x80, 0x62, carriageReturn, carriageReturn, newline,
      newline, 0xF0, 0x9F]
    (readCandidates bytes).value = ["a\ufffd", "\ufffdb\r", "", "\ufffd"] ∧
      (readCandidates bytes).value.length = 3 + 1 ∧
      (∀ text ∈ ["é\r x", ""], '\n' ∉ text.toList ∧ text.toList.getLast? ≠ some '\r') ∧
      (readCandidates (written ["é\r x", ""])).value = ["é\r x", ""] := by
  intro bytes
  have htexts : ∀ text ∈ ["é\r x", ""],
      '\n' ∉ text.toList ∧ text.toList.getLast? ≠ some '\r' := by decide
  obtain ⟨-, hlines, hlength, -, hwritten⟩ := readCandidates_lossless bytes
  refine ⟨?_, ?_, htexts, hwritten _ htexts⟩
  · rw [hlines]
    decide
  · rw [hlength]
    decide

end Cli
end FuzzyRank
