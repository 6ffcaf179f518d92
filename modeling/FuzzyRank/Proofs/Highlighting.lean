import FuzzyRank.Proofs.Listing
import FuzzyRank.Proofs.Narrowing
import Mathlib.Data.List.Forall2
import Mathlib.Data.List.Sort

/-!
What a highlighted text shows.

It shows every character of the text in order, plain or in bold. In bold are the characters at the
positions of the match and no others, and read from left to right they spell the query. Whoever
takes the signs for bold and plain away therefore has the text again, and whoever keeps only what
stands between them has the query.
-/

namespace FuzzyRank

/-- The columns of a placement hold the pattern's symbols one by one. -/
theorem Spells.forall₂ {α : Type} [Symbol α] {rule : CaseRule} {text : Array α} {pattern : List α}
    {columns : List Nat} (h : Spells rule text pattern columns) :
    List.Forall₂ (fun p j => text[j]?.any (Symbol.same rule p)) pattern columns := by
  induction pattern generalizing columns with
  | nil =>
    cases columns with
    | nil => exact .nil
    | cons => exact h.elim
  | cons p rest ih =>
    cases columns with
    | nil => exact h.elim
    | cons j more => exact .cons h.1 (ih h.2)

namespace Cli

/-! ## Characters on the screen -/

/-- A character as it is shown. -/
structure Glyph where
  char : Char
  isBold : Bool
deriving DecidableEq, Repr

/-- What is printed to show a character. -/
def Glyph.printed (g : Glyph) : List Char :=
  if g.isBold then bold ++ g.char :: plain else [g.char]

/-- The characters of a text, those in the given columns in bold. -/
def glyphs (columns : List Nat) (cs : List Char) : List Glyph :=
  cs.zipIdx.map fun (c, j) => ⟨c, j ∈ columns⟩

section Glyphs

variable {columns : List Nat} {cs : List Char}

theorem marked_eq_flatMap_glyphs (columns : List Nat) (cs : List Char) :
    marked columns cs = (glyphs columns cs).flatMap Glyph.printed := by
  simp only [marked, glyphs, List.flatMap_map, Glyph.printed, decide_eq_true_eq]

theorem map_char_glyphs (columns : List Nat) (cs : List Char) :
    (glyphs columns cs).map Glyph.char = cs := by
  rw [glyphs, List.map_map]
  exact List.zipIdx_map_fst 0 cs

theorem mem_columns_iff_isBold (hlt : ∀ j ∈ columns, j < cs.length) (j : Nat) :
    j ∈ columns ↔ ∃ g, (glyphs columns cs)[j]? = some g ∧ g.isBold := by
  simp only [glyphs, List.getElem?_map, List.getElem?_zipIdx, Option.map_map,
    Option.map_eq_some_iff, Function.comp_apply]
  constructor
  · intro hj
    have hlt : j < cs.length := hlt j hj
    exact ⟨_, ⟨cs[j], List.getElem?_eq_getElem hlt, rfl⟩, by simpa using hj⟩
  · rintro ⟨_, ⟨c, -, rfl⟩, hbold⟩
    simpa using hbold

/-- Columns in increasing order are what is left of all columns when the others are taken out. -/
theorem map_snd_filter_zipIdx (hinc : columns.Pairwise (· < ·))
    (hlt : ∀ j ∈ columns, j < cs.length) :
    (cs.zipIdx.filter fun (_, j) => j ∈ columns).map Prod.snd = columns := by
  refine List.Pairwise.eq_of_mem_iff ?_ hinc fun j => ?_
  · have hall : (cs.zipIdx.map Prod.snd).Pairwise (· < ·) := by
      rw [List.zipIdx_map_snd]
      exact List.pairwise_lt_range'
    exact hall.sublist (List.filter_sublist.map Prod.snd)
  · simp only [List.mem_map, List.mem_filter, decide_eq_true_eq]
    constructor
    · rintro ⟨_, ⟨-, hj⟩, rfl⟩
      exact hj
    · intro hj
      have hlt : j < cs.length := hlt j hj
      have hentry : (cs[j], j) ∈ cs.zipIdx :=
        List.mem_zipIdx_iff_getElem?.mpr (List.getElem?_eq_getElem hlt)
      exact ⟨_, ⟨hentry, hj⟩, rfl⟩

/-- The characters in bold are those in the columns, from left to right. -/
theorem map_char_filter_isBold (hinc : columns.Pairwise (· < ·))
    (hlt : ∀ j ∈ columns, j < cs.length) :
    ((glyphs columns cs).filter Glyph.isBold).map Glyph.char =
      columns.map fun j => cs.getD j ' ' := by
  have hchar : ∀ e ∈ cs.zipIdx.filter (fun (_, j) => decide (j ∈ columns)),
      e.1 = cs.getD e.2 ' ' := by
    intro e he
    have hentry := List.mem_zipIdx_iff_getElem?.mp (List.mem_of_mem_filter he)
    rw [List.getD_eq_getElem?_getD, hentry]
    rfl
  calc ((glyphs columns cs).filter Glyph.isBold).map Glyph.char
      = (cs.zipIdx.filter fun (_, j) => j ∈ columns).map Prod.fst := by
        rw [glyphs, List.filter_map, List.map_map]
        rfl
    _ = (cs.zipIdx.filter fun (_, j) => j ∈ columns).map fun e => cs.getD e.2 ' ' :=
        List.map_congr_left hchar
    _ = ((cs.zipIdx.filter fun (_, j) => j ∈ columns).map Prod.snd).map fun j => cs.getD j ' ' :=
        by rw [List.map_map]; rfl
    _ = columns.map fun j => cs.getD j ' ' := by rw [map_snd_filter_zipIdx hinc hlt]

/-- The characters in bold spell the pattern. -/
theorem forall₂_filter_isBold {rule : CaseRule} {pattern : List Char}
    (h : IsPlacement rule pattern cs.toArray columns) :
    List.Forall₂ (fun p c => Symbol.same rule p c = true) pattern
      (((glyphs columns cs).filter Glyph.isBold).map Glyph.char) := by
  rw [map_char_filter_isBold h.increasing fun j hj => h.spells.lt_size j hj,
    List.forall₂_map_right_iff]
  refine h.spells.forall₂.imp fun p j hj => ?_
  rw [List.getElem?_toArray] at hj
  rw [List.getD_eq_getElem?_getD]
  cases hc : cs[j]? with
  | none => simp [hc] at hj
  | some c => simpa [hc] using hj

end Glyphs

/-! ## Highlighted matches -/

/-- The text printed for a match consists of glyphs: all characters of the candidate, those at the
match's positions in bold, which are the query's characters one by one. -/
structure Highlights (rule : CaseRule) (query : String) (m : RankedMatch) (columns : List Nat)
    (shown : List Glyph) : Prop where
  positions : m.result.positions = some columns
  printed : (highlighted m).toList = shown.flatMap Glyph.printed
  /-- Without the signs for bold and plain the candidate is left. -/
  chars : shown.map Glyph.char = m.text.toList
  /-- A character is in bold exactly if it stands at a position of the match. -/
  bold_iff : ∀ j, j ∈ columns ↔ ∃ g, shown[j]? = some g ∧ g.isBold
  spells : List.Forall₂ (fun p c => Symbol.same rule p c = true) query.toList
    ((shown.filter Glyph.isBold).map Glyph.char)

theorem highlights_glyphs {rule : CaseRule} {query : String} {m : RankedMatch} {columns : List Nat}
    (hpositions : m.result.positions = some columns)
    (hplacement : IsPlacement rule query.toList m.text.toList.toArray columns) :
    Highlights rule query m columns (glyphs columns m.text.toList) where
  positions := hpositions
  printed := by
    have hlt : ∀ j ∈ columns, j < m.text.length := fun j hj => by
      rw [← String.length_toList, ← List.size_toArray]
      exact hplacement.spells.lt_size j hj
    rw [toList_highlighted ⟨hpositions, hplacement.increasing, hlt⟩, marked_eq_flatMap_glyphs]
  chars := map_char_glyphs _ _
  bold_iff := mem_columns_iff_isBold fun j hj => hplacement.spells.lt_size j hj
  spells := forall₂_filter_isBold hplacement

/-- A line with highlighting is the one without, with the highlighted text in the text's place. -/
theorem line_highlight (o : Options) (m : RankedMatch) : ∃ front back,
    line { o with highlight := true } m = front ++ highlighted m ++ back ∧
      line { o with highlight := false } m = front ++ m.text ++ back := by
  refine ⟨if o.printScore then toString m.result.score ++ "\t" else "",
    (if o.printPositions then "\t" ++ positionsField m else "") ++ "\n", ?_, ?_⟩
  · simp only [line, if_true, String.append_assoc]
  · simp only [line, Bool.false_eq_true, if_false, String.append_assoc]

end Cli

namespace Engine

theorem exists_mem_rank (e : Engine) {candidates : List String} {text : String}
    (htext : text ∈ candidates) (h : Matcher.InOrder e.rule text e.query) :
    ∃ m ∈ e.rank candidates, m.text = text := by
  obtain ⟨index, hindex⟩ := List.mem_iff_getElem?.mp htext
  obtain ⟨m, hm, hranks⟩ := e.exists_ranksAt hindex ((e.isSome_matchText_iff text .empty).mpr h)
  have htext' : m.text = text := Option.some.inj (hranks.text_at.symm.trans hindex)
  exact ⟨m, e.mem_rank_iff.mpr hm, htext'⟩

open Cli in
/-- Every candidate that holds the query in order is ranked, and its text is highlighted at the
match's positions and nowhere else: what is in bold spells the query, and all characters together
are the candidate. -/
theorem highlights_of_mem_rank (e : Engine) (he : e.spansOnly = false)
    (candidates : List String) :
    (∀ text ∈ candidates, Matcher.InOrder e.rule text e.query →
        ∃ m ∈ e.rank candidates, m.text = text) ∧
      ∀ m ∈ e.rank candidates,
        (∃ columns shown, Highlights e.rule e.query m columns shown) ∧
        ∀ o : Options, ∃ front back,
          line { o with highlight := true } m = front ++ highlighted m ++ back ∧
            line { o with highlight := false } m = front ++ m.text ++ back := by
  refine ⟨fun text htext h => e.exists_mem_rank htext h, fun m hm => ⟨?_, fun o => ?_⟩⟩
  · obtain ⟨columns, hpositions, hplacement⟩ := exists_placement he hm
    exact ⟨columns, _, highlights_glyphs hpositions hplacement⟩
  · exact line_highlight o m

open Cli in
/-- The accented letter is one character, however many bytes spell it. -/
theorem highlights_of_mem_rank_accented :
    ∃ m ∈ rank ⟨"ab", .ignore, default, false⟩ ["b/a", "é/AxB"], m.text = "é/AxB" ∧
      ∃ columns shown, Highlights .ignore "ab" m columns shown := by
  obtain ⟨hranked, hshown⟩ :=
    highlights_of_mem_rank ⟨"ab", .ignore, default, false⟩ rfl ["b/a", "é/AxB"]
  have hmatch : Matcher.InOrder .ignore "é/AxB" "ab" := by
    unfold Matcher.InOrder
    exact .cons_right (.cons_right (.cons (by decide) (.cons_right (.cons (by decide) .nil))))
  obtain ⟨m, hm, htext⟩ := hranked "é/AxB" (by simp) hmatch
  exact ⟨m, hm, htext, (hshown m hm).1⟩

end Engine
end FuzzyRank
