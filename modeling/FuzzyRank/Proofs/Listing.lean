import FuzzyRank.Cli.Filter
import FuzzyRank.Proofs.Candidates
import FuzzyRank.Proofs.Forms
import FuzzyRank.Proofs.Output
import FuzzyRank.Proofs.Schedule

/-!
What a run prints.

A run computes positions only where it shows them, and shares its candidates out among as many
workers as it is told. Neither makes a difference to what is printed: one line for each of the first
matches of the full ranking, with the fields that were asked for. The lines can be told apart, since
no candidate holds a newline.
-/

namespace FuzzyRank.Cli

/-! ## Lines as they are to be -/

/-- The ranking of an input with all positions, which no option for the output has a part in. -/
def fullRanking (query : String) (caseSensitive : Bool) (tiebreak : List Criterion)
    (bytes : List UInt8) : List RankedMatch :=
  Engine.rank ⟨query, .ofSensitive caseSensitive, .ofCriteria tiebreak, false⟩
    (readCandidates bytes).value

/-- The matches that a run shows: the first of the full ranking, as many as the limit allows. -/
def shown (o : Options) (bytes : List UInt8) : List RankedMatch :=
  let ranked := fullRanking o.query o.caseSensitive o.tiebreak bytes
  ranked.take (o.limit.elim ranked.length (min · ranked.length))

/-- The characters of a text, those in the given columns between the signs for bold and plain. -/
def marked (columns : List Nat) (cs : List Char) : List Char :=
  cs.zipIdx.flatMap fun (c, j) => if j ∈ columns then bold ++ c :: plain else [c]

/-- The fields of a match's line: its score, its text and its positions, as far as asked for. -/
def fields (o : Options) (m : RankedMatch) : List (List Char) :=
  let columns := m.result.positions.getD []
  (if o.printScore then [(toString m.result.score).toList] else []) ++
  [if o.highlight then marked columns m.text.toList else m.text.toList] ++
  (if o.printPositions then [[','].intercalate (columns.map fun j => (toString j).toList)] else [])

/-- A match's line without its end: the fields with tabs between them. -/
def lineOf (o : Options) (m : RankedMatch) : List Char :=
  ['\t'].intercalate (fields o m)

theorem exists_located_fullRanking {query : String} {caseSensitive : Bool}
    {tiebreak : List Criterion} {bytes : List UInt8} {m : RankedMatch}
    (hm : m ∈ fullRanking query caseSensitive tiebreak bytes) : ∃ columns, m.Located columns :=
  Engine.exists_located rfl hm

theorem shown_eq_take (o : Options) (bytes : List UInt8) : shown o bytes =
    let ranked := fullRanking o.query o.caseSensitive o.tiebreak bytes
    ranked.take (o.limit.getD ranked.length) := by
  unfold shown
  cases o.limit with
  | none => rfl
  | some limit => exact List.take_eq_take_min.symm

theorem shown_unlimited (o : Options) (bytes : List UInt8) : shown { o with limit := none } bytes =
    fullRanking o.query o.caseSensitive o.tiebreak bytes :=
  List.take_length

/-! ## Highlighting -/

/-- Walking along the text and the columns together marks exactly these columns. -/
theorem embolden_eq {column : Nat} {columns : List Nat} {cs : List Char}
    (hinc : columns.Pairwise (· < ·)) (hge : ∀ j ∈ columns, column ≤ j) :
    embolden column columns cs =
      (cs.zipIdx column).flatMap fun (c, j) => if j ∈ columns then bold ++ c :: plain else [c] := by
  induction cs generalizing column columns with
  | nil => cases columns <;> rfl
  | cons c cs ih =>
    rw [List.zipIdx_cons, List.flatMap_cons]
    cases columns with
    | nil =>
      rw [← ih List.Pairwise.nil (fun j hj => absurd hj List.not_mem_nil)]
      cases cs <;> rfl
    | cons j rest =>
      obtain ⟨hlt, hrest⟩ := List.pairwise_cons.mp hinc
      have hj : column ≤ j := hge j List.mem_cons_self
      rw [embolden]
      dsimp only
      split
      · next heq =>
        subst heq
        rw [if_pos List.mem_cons_self, ih hrest hlt]
        congr 1
        refine List.flatMap_congr fun x hx => ?_
        have hx : j + 1 ≤ x.2 := List.le_snd_of_mem_zipIdx hx
        have hne : x.2 ≠ j := by omega
        simp only [List.mem_cons, hne, false_or]
      · next hne =>
        have hnot : column ∉ j :: rest := by
          intro hmem
          rcases List.mem_cons.mp hmem with h | h
          · exact hne h.symm
          · exact absurd (hlt column h) (by omega)
        rw [if_neg hnot, ih hinc]
        · rfl
        · intro k hk
          rcases List.mem_cons.mp hk with rfl | hk
          · omega
          · have := hlt k hk
            omega

theorem toList_highlighted {m : RankedMatch} {columns : List Nat} (h : m.Located columns) :
    (highlighted m).toList = marked columns m.text.toList := by
  obtain ⟨hpositions, hinc, -⟩ := h
  unfold highlighted
  rw [hpositions]
  dsimp only
  rw [String.toList_ofList, embolden_eq hinc fun j _ => Nat.zero_le j]
  rfl

/-! ## Lines -/

theorem toList_line (o : Options) {m : RankedMatch} {columns : List Nat} (h : m.Located columns) :
    (line o m).toList = lineOf o m ++ ['\n'] := by
  have htext := toList_highlighted h
  have hcolumns : m.result.positions.getD [] = columns := by rw [h.1]; rfl
  unfold line lineOf fields positionsField
  dsimp only
  rw [hcolumns]
  cases o.printScore <;> cases o.highlight <;> cases o.printPositions <;>
    simp [htext, String.toList_intercalate, List.intercalate, Function.comp_def]

example : line { printScore := true, highlight := true, printPositions := true }
    ⟨"xab", ⟨36, 1, 3, 3, 0, [-36, 2, 0, 0, 0]⟩, ⟨36, 1, 3, some [1, 2]⟩⟩ =
      "36\tx\x1b[1ma\x1b[0m\x1b[1mb\x1b[0m\t1,2\n" := by decide

/-- Where positions are not shown they make no difference. -/
theorem line_withoutPositions {o : Options} (h : o.needsPositions = false) (m : RankedMatch) :
    line o m.withoutPositions = line o m := by
  obtain ⟨hprint, hhighlight⟩ := Bool.or_eq_false_iff.mp h
  unfold line
  rw [hprint, hhighlight]
  rfl

/-! ## Newlines stand between lines only -/

theorem not_mem_intercalate {α : Type} {a : α} {sep : List α} {parts : List (List α)}
    (hsep : a ∉ sep) (hparts : ∀ part ∈ parts, a ∉ part) : a ∉ sep.intercalate parts := by
  induction parts with
  | nil => simp
  | cons part rest ih =>
    obtain ⟨hpart, hrest⟩ := List.forall_mem_cons.mp hparts
    cases rest with
    | nil => rwa [List.intercalate_singleton]
    | cons next more =>
      rw [List.intercalate_cons_cons, List.mem_append, List.mem_append]
      rintro ((h | h) | h)
      · exact hpart h
      · exact hsep h
      · exact ih hrest h

/-- Decimal numbers hold digits only. -/
theorem not_mem_toString_nat {c : Char} (hdigit : c.isDigit = false) (n : Nat) :
    c ∉ (toString n).toList := by
  rw [Nat.toString_eq_repr, Nat.toList_repr]
  intro h
  have : c.isDigit = true := Nat.isDigit_of_mem_toDigits (by decide) (by decide) h
  rw [hdigit] at this
  cases this

/-- Signed numbers hold digits only, apart from the sign. -/
theorem not_mem_toString_int {c : Char} (hdigit : c.isDigit = false) (hsign : c ≠ '-') (s : Int) :
    c ∉ (toString s).toList := by
  rw [show toString s = s.repr from rfl, Int.repr_eq_if]
  split
  · exact not_mem_toString_nat hdigit _
  · rw [String.toList_append, List.mem_append]
    rintro (h | h)
    · exact hsign (List.mem_singleton.mp h)
    · exact not_mem_toString_nat hdigit _ h

theorem newline_not_mem_marked {columns : List Nat} {cs : List Char} (h : '\n' ∉ cs) :
    '\n' ∉ marked columns cs := by
  intro hmem
  obtain ⟨⟨c, j⟩, hc, hmem⟩ := List.mem_flatMap.mp hmem
  have hc : c ∈ cs := List.mem_of_getElem? (List.mem_zipIdx_iff_getElem?.mp hc)
  have hne : '\n' ≠ c := by
    rintro rfl
    exact h hc
  dsimp only at hmem
  split at hmem <;> simp [bold, plain, hne] at hmem

theorem newline_not_mem_lineOf (o : Options) {m : RankedMatch} (h : '\n' ∉ m.text.toList) :
    '\n' ∉ lineOf o m := by
  refine not_mem_intercalate (by decide) fun part hpart => ?_
  simp only [fields, List.mem_append, List.mem_ite_nil_right, List.mem_singleton] at hpart
  rcases hpart with (⟨-, rfl⟩ | rfl) | ⟨-, rfl⟩
  · exact not_mem_toString_int (by decide) (by decide) _
  · split
    · exact newline_not_mem_marked h
    · exact h
  · refine not_mem_intercalate (by decide) fun digits hdigits => ?_
    obtain ⟨j, -, rfl⟩ := List.mem_map.mp hdigits
    exact not_mem_toString_nat (by decide) j

/-! ## Runs -/

theorem choose_value (criteria : List Criterion) :
    (Tiebreak.choose criteria).value = .ofCriteria criteria := by
  unfold Tiebreak.choose
  split <;> rfl

section Runs

variable (o : Options) (bytes : List UInt8)

/-- A run ranks as the full ranking, without the positions where they are not shown. -/
theorem rankInput_value : (rankInput o bytes).value =
    (fullRanking o.query o.caseSensitive o.tiebreak bytes).map
      fun m => if o.needsPositions then m else m.withoutPositions := by
  have hshared : (rankInput o bytes).value =
      Engine.rankShared ⟨o.query, .ofSensitive o.caseSensitive, .ofCriteria o.tiebreak,
        !o.needsPositions⟩ o.threads (readCandidates bytes).value := by
    rw [← choose_value]
    rfl
  rw [hshared, Engine.rankShared_eq_rank, fullRanking]
  cases o.needsPositions with
  | true => exact (List.map_id _).symm
  | false => exact Engine.rank_spansOnly _ _ _ _

theorem listing_rankInput : listing o (rankInput o bytes).value =
    listing o (fullRanking o.query o.caseSensitive o.tiebreak bytes) := by
  have hline : ∀ m, line o (if o.needsPositions then m else m.withoutPositions) = line o m := by
    intro m
    split
    · rfl
    · next hneeds => exact line_withoutPositions (Bool.eq_false_iff.mpr hneeds) m
  rw [rankInput_value]
  unfold listing
  rw [List.length_map, ← List.map_take, List.map_map]
  simp only [Function.comp_def, hline]

theorem toList_listing : (listing o (rankInput o bytes).value).toList =
    ((shown o bytes).map (lineOf o)).flatMap (· ++ ['\n']) := by
  have hline : ∀ m ∈ shown o bytes, (line o m).toList = lineOf o m ++ ['\n'] := by
    intro m hm
    obtain ⟨columns, h⟩ := exists_located_fullRanking (List.mem_of_mem_take hm)
    exact toList_line o h
  rw [listing_rankInput, listing, ← shown_eq_take, String.toList_join, List.flatMap_map,
    List.flatMap_map]
  exact List.flatMap_congr hline

theorem splitOn_listing : (listing o (rankInput o bytes).value).toList.splitOn '\n' =
    (shown o bytes).map (lineOf o) ++ [[]] := by
  rw [toList_listing]
  refine splitOn_flatMap_newline fun l hl => ?_
  obtain ⟨m, hm, rfl⟩ := List.mem_map.mp hl
  have hcandidate := (Engine.mem_rank _ (List.mem_of_mem_take hm)).1
  exact newline_not_mem_lineOf o (newline_not_mem_of_mem_readCandidates hcandidate)

/-- A run with a limit shows the beginning of what one without a limit shows. -/
theorem listing_prefix : (listing o (rankInput o bytes).value).toList <+:
    (listing { o with limit := none } (rankInput { o with limit := none } bytes).value).toList := by
  obtain ⟨rest, hrest⟩ : shown o bytes <+: shown { o with limit := none } bytes := by
    rw [shown_unlimited]
    exact List.take_prefix _ _
  rw [toList_listing, toList_listing, ← hrest, List.map_append, List.flatMap_append]
  exact List.prefix_append _ _

theorem run_value : (run o (.ok bytes) .working).value =
    .ok ⟨!(fullRanking o.query o.caseSensitive o.tiebreak bytes).isEmpty,
      listing o (rankInput o bytes).value⟩ := by
  have hempty : (rankInput o bytes).value.isEmpty =
      (fullRanking o.query o.caseSensitive o.tiebreak bytes).isEmpty := by
    rw [rankInput_value, List.isEmpty_map]
  rw [← hempty, run_eq_write]
  rfl

/-- A run prints one line for each of the first matches of the full ranking, as many as the limit
allows, and the line shows that match as it was asked to. What else is printed, and with how many
workers it is found, makes no difference to which matches these are. -/
theorem run_shows_ranking :
    (∀ m ∈ fullRanking o.query o.caseSensitive o.tiebreak bytes, ∃ columns, m.Located columns) ∧
    ∃ printed unlimited,
      (run o (.ok bytes) .working).value =
        .ok ⟨!(fullRanking o.query o.caseSensitive o.tiebreak bytes).isEmpty, printed⟩ ∧
      (run { o with limit := none } (.ok bytes) .working).value =
        .ok ⟨!(fullRanking o.query o.caseSensitive o.tiebreak bytes).isEmpty, unlimited⟩ ∧
      printed.toList = ((shown o bytes).map (lineOf o)).flatMap (· ++ ['\n']) ∧
      printed.toList.splitOn '\n' = (shown o bytes).map (lineOf o) ++ [[]] ∧
      printed.toList <+: unlimited.toList :=
  ⟨fun _ hm => exists_located_fullRanking hm, _, _, run_value o bytes,
    run_value { o with limit := none } bytes, toList_listing o bytes, splitOn_listing o bytes,
    listing_prefix o bytes⟩

end Runs

end FuzzyRank.Cli
