import FuzzyRank.Proofs.Listing

/-!
Reading a listing back.

A line with score and positions has three fields: the score up to the first tab, the positions after
the last one, and the candidate between them. No number has a tab in it, so the two tabs are where
they should be whatever the candidate holds, be it tabs or what looks like a field. Together with
the newlines, which no candidate holds, that makes a listing say exactly which ranking it shows.
-/

namespace FuzzyRank.Cli

/-! ## Cutting at one place -/

section Cut

variable {α : Type} [BEq α] [LawfulBEq α] {a : α} {xs ys : List α}

/-- The parts before and after the first place of a value. -/
def cutAtFirst (a : α) (xs : List α) : List α × List α :=
  (xs.takeWhile (· != a), (xs.dropWhile (· != a)).tail)

/-- The parts before and after the last place of a value. -/
def cutAtLast (a : α) (xs : List α) : List α × List α :=
  let (back, front) := cutAtFirst a xs.reverse
  (front.reverse, back.reverse)

theorem cutAtFirst_append_cons (h : a ∉ xs) : cutAtFirst a (xs ++ a :: ys) = (xs, ys) := by
  have hxs : ∀ x ∈ xs, (x != a) = true := by
    intro x hx
    have hne : x ≠ a := fun heq => h (heq ▸ hx)
    exact bne_iff_ne.mpr hne
  unfold cutAtFirst
  rw [List.takeWhile_append_of_pos hxs, List.dropWhile_append_of_pos hxs]
  simp

theorem cutAtLast_append_cons (h : a ∉ ys) : cutAtLast a (xs ++ a :: ys) = (xs, ys) := by
  have hreverse : (xs ++ a :: ys).reverse = ys.reverse ++ a :: xs.reverse := by simp
  have hback : a ∉ ys.reverse := by rwa [List.mem_reverse]
  unfold cutAtLast
  rw [hreverse, cutAtFirst_append_cons hback]
  dsimp only
  rw [List.reverse_reverse, List.reverse_reverse]

end Cut

/-! ## Numbers -/

/-- The number that decimal digits stand for. -/
def readNat? (digits : List Char) : Option Nat :=
  if !digits.isEmpty && digits.all Char.isDigit then some (Nat.ofDigitChars 10 digits 0) else none

/-- The number that decimal digits stand for, which a minus sign before them makes negative. -/
def readInt? (field : List Char) : Option Int :=
  if field.head? = some '-' then (readNat? field.tail).map fun n => -(n : Int)
  else (readNat? field).map fun n => (n : Int)

theorem readNat_toString (n : Nat) : readNat? (toString n).toList = some n := by
  rw [Nat.toString_eq_repr, Nat.toList_repr]
  have hdigits : (Nat.toDigits 10 n).all Char.isDigit := by
    rw [List.all_eq_true]
    intro c hc
    exact Nat.isDigit_of_mem_toDigits (by decide) (by decide) hc
  simp [readNat?, hdigits]

theorem readInt_toString (s : Int) : readInt? (toString s).toList = some s := by
  rw [Int.toString_eq_repr, Int.repr_eq_if]
  split
  · next hnonneg =>
    have hsign : ¬ (toString s.toNat).toList.head? = some '-' := fun h =>
      not_mem_toString_nat (by decide) _ (List.mem_of_head? h)
    rw [← Nat.toString_eq_repr, readInt?, if_neg hsign, readNat_toString]
    exact congrArg some (Int.toNat_of_nonneg hnonneg)
  · next hneg =>
    have hminus : ("-" ++ (-s).toNat.repr).toList = '-' :: (-s).toNat.repr.toList := by
      rw [String.toList_append]
      rfl
    have hvalue : -((-s).toNat : Int) = s := by omega
    rw [hminus, readInt?, List.head?_cons, if_pos rfl, List.tail_cons, ← Nat.toString_eq_repr,
      readNat_toString]
    exact congrArg some hvalue

example : readInt? "-120".toList = some (-120) := by decide

/-! ## Entries -/

/-- What a line tells of a match. -/
structure Entry where
  score : Int
  text : String
  positions : List Nat
deriving DecidableEq, Repr

/-- The three fields of a line: up to its first tab, between, and after its last tab. -/
def lineFields (l : List Char) : List Char × List Char × List Char :=
  let (score, rest) := cutAtFirst '\t' l
  let (text, positions) := cutAtLast '\t' rest
  (score, text, positions)

/-- The numbers between commas, of which an empty field has none. -/
def readPositions? (field : List Char) : Option (List Nat) :=
  if field = [] then some []
  else (field.splitOn ',').mapM readNat?

namespace Entry

def ofLine? (l : List Char) : Option Entry := do
  let (score, text, positions) := lineFields l
  let score ← readInt? score
  let positions ← readPositions? positions
  return { score, text := String.ofList text, positions }

/-- What the lines of a text tell, each of which ends in a newline. -/
def ofListing? (printed : List Char) : Option (List Entry) :=
  (printed.splitOn '\n').dropLast.mapM ofLine?

/-- What there is to tell of a match. -/
def ofMatch (m : RankedMatch) : Entry :=
  ⟨m.result.score, m.text, m.result.positions.getD []⟩

end Entry

/-! ## Fields -/

/-- Score and positions are printed, the text as it is. -/
def Options.machineReadable (o : Options) : Options :=
  { o with printScore := true, printPositions := true, highlight := false, limit := none }

section Fields

variable (o : Options) (m : RankedMatch)

theorem toList_positionsField : (positionsField m).toList =
    [','].intercalate ((m.result.positions.getD []).map fun j => (toString j).toList) := by
  unfold positionsField
  rw [String.toList_intercalate, List.map_map]
  rfl

theorem tab_not_mem_positionsField : '\t' ∉ (positionsField m).toList := by
  rw [toList_positionsField]
  refine not_mem_intercalate (by decide) fun digits hdigits => ?_
  obtain ⟨j, -, rfl⟩ := List.mem_map.mp hdigits
  exact not_mem_toString_nat (by decide) j

theorem lineOf_machineReadable : lineOf o.machineReadable m =
    (toString m.result.score).toList ++
      '\t' :: (m.text.toList ++ '\t' :: (positionsField m).toList) := by
  rw [toList_positionsField]
  simp [lineOf, fields, Options.machineReadable, List.intercalate]

/-- Whatever tabs the candidate has, the first and the last of the line are the two that separate
the fields. -/
theorem lineFields_lineOf : lineFields (lineOf o.machineReadable m) =
    ((toString m.result.score).toList, m.text.toList, (positionsField m).toList) := by
  have hscore : '\t' ∉ (toString m.result.score).toList :=
    not_mem_toString_int (by decide) (by decide) _
  unfold lineFields
  rw [lineOf_machineReadable, cutAtFirst_append_cons hscore]
  dsimp only
  rw [cutAtLast_append_cons (tab_not_mem_positionsField m)]

example : lineFields "-5\t7\ta\t0,3\t1,2".toList =
    ("-5".toList, "7\ta\t0,3".toList, "1,2".toList) := by decide

theorem positionsField_eq_nil_iff :
    (positionsField m).toList = [] ↔ m.result.positions.getD [] = [] := by
  rw [toList_positionsField]
  cases m.result.positions.getD [] with
  | nil => simp
  | cons j rest => cases rest <;> simp [List.intercalate_cons_cons]

/-- Positions are read as they were printed. -/
theorem readPositions_positionsField :
    readPositions? (positionsField m).toList = some (m.result.positions.getD []) := by
  unfold readPositions?
  split
  · next hnil => rw [(positionsField_eq_nil_iff m).mp hnil]
  · next hne =>
    have hcolumns : m.result.positions.getD [] ≠ [] := fun h =>
      hne ((positionsField_eq_nil_iff m).mpr h)
    have hcomma : ∀ digits ∈ (m.result.positions.getD []).map fun j => (toString j).toList,
        ',' ∉ digits := by
      intro digits hdigits
      obtain ⟨j, -, rfl⟩ := List.mem_map.mp hdigits
      exact not_mem_toString_nat (by decide) j
    have hread : (readNat? ∘ fun j => (toString j).toList) = fun j : Nat => (pure j : Option Nat) :=
      funext readNat_toString
    rw [toList_positionsField, List.splitOn_intercalate ',' hcomma (by simpa using hcolumns),
      List.mapM_map, hread, List.mapM_pure, List.map_id']
    rfl

/-- The three fields of a line tell the match's score, its text and its positions. -/
theorem ofLine?_lineOf : Entry.ofLine? (lineOf o.machineReadable m) = some (.ofMatch m) := by
  unfold Entry.ofLine?
  rw [lineFields_lineOf]
  dsimp only
  rw [readInt_toString, readPositions_positionsField, String.ofList_toList]
  rfl

end Fields

/-! ## Listings -/

/-- The positions of a match are as many as the query's characters. -/
theorem length_positions_fullRanking {query : String} {caseSensitive : Bool}
    {tiebreak : List Criterion} {bytes : List UInt8} {m : RankedMatch}
    (hm : m ∈ fullRanking query caseSensitive tiebreak bytes) :
    ∃ columns, m.result.positions = some columns ∧ columns.length = query.length := by
  obtain ⟨columns, hpositions, hplacement⟩ := Engine.exists_placement rfl hm
  exact ⟨columns, hpositions, hplacement.spells.length_eq⟩

/-- A listing with scores and positions can be read back. Cut at its newlines, it has one line for
each match of the full ranking, in order; cut at their first and last tabs, the lines have the score
in decimal digits, the candidate's text and the positions; and the numbers read are those of the
match. The last field is empty only where the query is. -/
theorem listing_readBack (o : Options) (bytes : List UInt8) :
    let ranked := fullRanking o.query o.caseSensitive o.tiebreak bytes
    ∃ printed lines,
      (run o.machineReadable (.ok bytes) .working).value = .ok ⟨!ranked.isEmpty, printed⟩ ∧
        printed.toList.splitOn '\n' = lines ++ [[]] ∧
        lines.map lineFields = ranked.map (fun m =>
          ((toString m.result.score).toList, m.text.toList, (positionsField m).toList)) ∧
        Entry.ofListing? printed.toList = some (ranked.map Entry.ofMatch) ∧
        ∀ m ∈ ranked, m.result.positions = some (Entry.ofMatch m).positions ∧
          (positionsField m = "" ↔ o.query = "") := by
  intro ranked
  have hshown : shown o.machineReadable bytes = ranked := shown_unlimited o.machineReadable bytes
  have hsplit := splitOn_listing o.machineReadable bytes
  rw [hshown] at hsplit
  refine ⟨_, ranked.map (lineOf o.machineReadable), run_value o.machineReadable bytes, hsplit, ?_,
    ?_, fun m hm => ?_⟩
  · rw [List.map_map]
    exact List.map_congr_left fun m _ => lineFields_lineOf o m
  · have hread : Entry.ofLine? ∘ lineOf o.machineReadable =
        fun m => (pure (Entry.ofMatch m) : Option Entry) :=
      funext fun m => ofLine?_lineOf o m
    rw [Entry.ofListing?, hsplit, List.dropLast_concat, List.mapM_map, hread, List.mapM_pure]
    rfl
  · obtain ⟨columns, hpositions, hlength⟩ := length_positions_fullRanking hm
    have hgetD : m.result.positions.getD [] = columns := by rw [hpositions]; rfl
    constructor
    · rw [Entry.ofMatch, hgetD, hpositions]
    · rw [← String.toList_eq_nil_iff, positionsField_eq_nil_iff, hgetD,
        ← List.length_eq_zero_iff, hlength, String.length_eq_zero_iff]

end FuzzyRank.Cli
