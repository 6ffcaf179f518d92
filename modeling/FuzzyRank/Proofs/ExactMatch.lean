import FuzzyRank.Proofs.Matching

/-!
A text as a pattern of itself.

A text matched against itself is one run from its first character on, and earns the bonus of that
first character with every other. No other text can do better for a pattern that begins with a
letter, a digit or a blank, since none carries a higher bonus. A run that begins with any other sign
carries less than one that begins after a blank; for such patterns a text may do better by putting a
blank into the middle, and this module says exactly for which it does.
-/

namespace FuzzyRank

open FuzzyRank.Alignment Scoring Placement

/-! ## Bonuses -/

/-- The characters of the class get the highest bonus after a blank. -/
def CharClass.TakesBlankBonus (c : CharClass) : Prop :=
  c.isWord = true ∨ c = .whitespace

theorem Scoring.classBonus_le_blank (before c : CharClass) :
    classBonus before c ≤ classBonus .whitespace c := by
  cases before <;> cases c <;> decide

theorem Scoring.classBonus_of_takesBlankBonus {c : CharClass} (h : c.TakesBlankBonus) :
    classBonus .whitespace c = blankBonus := by
  cases c <;> simp [CharClass.TakesBlankBonus, CharClass.isWord] at h <;> decide

/-- The other signs get the same bonus wherever they stand. -/
theorem Scoring.classBonus_of_not_takesBlankBonus {c : CharClass} (h : ¬ c.TakesBlankBonus)
    (before : CharClass) : classBonus before c = signBonus := by
  cases before <;> cases c <;> simp [CharClass.TakesBlankBonus, CharClass.isWord] at h <;> decide

section Columns

variable {text other : Array Char} {i j k : Nat}

theorem bonusAt_eq_classBonus {c : Char} (h : text[j]? = some c) :
    bonusAt text j = classBonus (classBefore text j) (Symbol.charClass c) := by
  simp [bonusAt, h]

theorem bonusAt_zero {c : Char} (h : text[0]? = some c) :
    bonusAt text 0 = classBonus .whitespace (Symbol.charClass c) :=
  bonusAt_eq_classBonus h

/-- A column's bonus depends on its own character and the one before only. -/
theorem bonusAt_succ_congr (hj : text[j]? = other[k]?) (hj' : text[j + 1]? = other[k + 1]?) :
    bonusAt text (j + 1) = bonusAt other (k + 1) := by
  simp only [bonusAt, classBefore, hj, hj']

theorem columnScore_succ (text : Array Char) (j : Nat) :
    columnScore text (j + 1) = matchPoints + (bonusAt text (j + 1) : Nat) := by
  simp [columnScore]

theorem columnScore_le (text : Array Char) (j : Nat) :
    columnScore text j ≤ matchPoints + ((bonusAt text j * startFactor : Nat) : Int) := by
  unfold columnScore
  split
  · exact Int.le_refl _
  · simp only [startFactor]
    omega

/-- What some columns, from column `i` on, earn by themselves, none of them being the first. -/
def earned (text : Array Char) : (i count : Nat) → Int
  | _, 0 => 0
  | i, count + 1 => matchPoints + (bonusAt text i : Nat) + earned text (i + 1) count

theorem earned_add (text : Array Char) (i m n : Nat) :
    earned text i (m + n) = earned text i m + earned text (i + m) n := by
  induction m generalizing i with
  | zero => simp [earned]
  | succ m ih =>
    rw [show m + 1 + n = (m + n) + 1 by omega, earned, earned, ih,
      show i + 1 + m = i + (m + 1) by omega]
    omega

theorem earned_congr {count : Nat}
    (h : ∀ d < count, bonusAt text (i + d) = bonusAt other (j + d)) :
    earned text i count = earned other j count := by
  induction count generalizing i j with
  | zero => rfl
  | succ count ih =>
    have hnext : earned text (i + 1) count = earned other (j + 1) count := by
      refine ih fun d hd => ?_
      have := h (d + 1) (by omega)
      rwa [show i + (d + 1) = i + 1 + d by omega, show j + (d + 1) = j + 1 + d by omega] at this
    have hfirst : bonusAt text i = bonusAt other j := h 0 (by omega)
    rw [earned, earned, hfirst, hnext]

/-- A run that goes on earns the bonus of its head with every column. -/
theorem scoreAfter_run (text : Array Char) (last head count : Nat) (more : List Nat) :
    scoreAfter text last head (List.range' (last + 1) count ++ more) =
      earned text (last + 1) count + followScore text head * count +
        scoreAfter text (last + count) head more := by
  induction count generalizing last with
  | zero => simp [earned]
  | succ count ih =>
    rw [List.range'_succ, List.cons_append, scoreAfter, if_pos rfl, ih, columnScore_succ, earned,
      show last + 1 + count = last + (count + 1) by omega]
    push_cast
    rw [Int.mul_add]
    omega

end Columns

/-! ## Texts that hold the pattern as it is -/

section Exact

variable {p rest : List Char} {text : Array Char} {columns : List Nat} {i j k last F : Nat}

theorem any_same_iff {c : Char} {x : Option Char} :
    x.any (Symbol.same .respect c) = true ↔ x = some c := by
  cases x with
  | none => simp
  | some d =>
    show (c == d) = true ↔ some d = some c
    rw [beq_iff_eq, Option.some.injEq, eq_comm]

/-- A gap before a later column costs at least what the run after it can gain over a run that earns
`F` with every column. -/
def NoGapPays (p : List Char) (F : Nat) : Prop :=
  ∀ j c before, p[j + 1]? = some c →
    classBonus before (Symbol.charClass c) +
        max F (classBonus before (Symbol.charClass c)) * (p.length - (j + 2)) ≤
      3 + bonusAt p.toArray (j + 1) + F * (p.length - (j + 1))

theorem gapScore_le {skipped : Nat} (h : 1 ≤ skipped) : gapScore skipped ≤ -3 := by
  simp only [gapScore, gapOpening, gapExtension]
  omega

/-- Where no gap pays, the rest of the pattern earns at most what one run through it does. -/
theorem scoreAfter_le (hF : runBonus ≤ F) (hgap : NoGapPays p F) (hlast : text[last]? = p[i]?)
    (hspells : Spells .respect text (p.drop (i + 1)) columns)
    (hinc : (last :: columns).Pairwise (· < ·)) (head : Nat) :
    scoreAfter text last head columns ≤ earned p.toArray (i + 1) columns.length +
      ((max F (bonusAt text head) * columns.length : Nat) : Int) := by
  induction columns generalizing i last head with
  | nil => simp [scoreAfter, earned]
  | cons c more ih =>
    cases hdrop : p.drop (i + 1) with
    | nil =>
      rw [hdrop] at hspells
      exact hspells.elim
    | cons q rest =>
      rw [hdrop] at hspells
      obtain ⟨hq, hmore⟩ := hspells
      rw [any_same_iff] at hq
      obtain ⟨hpq, hnext⟩ := of_drop_eq_cons hdrop
      obtain ⟨hlt, hinc⟩ := List.pairwise_cons.mp hinc
      have hlastc : last < c := hlt c List.mem_cons_self
      have htext : text[c]? = p[i + 1]? := by rw [hq, hpq]
      have hcons : p.length - (i + 1) = more.length + 1 := by
        have := congrArg List.length hdrop
        rw [List.length_drop, List.length_cons, ← hmore.length_eq] at this
        exact this
      rw [← hnext] at hmore
      rw [List.length_cons, earned, Nat.mul_succ]
      by_cases hc : c = last + 1
      · -- the run goes on, and the column has the same neighbours as in the pattern
        subst hc
        have hb : bonusAt text (last + 1) = bonusAt p.toArray (i + 1) :=
          bonusAt_succ_congr (by simpa using hlast) (by simpa using htext)
        have hrest := ih htext hmore hinc head
        rw [scoreAfter, if_pos rfl, columnScore_succ, hb]
        have hfollow : followScore text head ≤ (max F (bonusAt text head) : Nat) := by
          unfold followScore
          omega
        push_cast at hrest hfollow ⊢
        omega
      · -- a new run begins: its head pays for the gap, and its bonus is all it can gain
        have hb := bonusAt_eq_classBonus hq
        have hrest := ih htext hmore hinc c
        have hpays := hgap i q (classBefore text c) hpq
        rw [← hb, show p.length - (i + 2) = more.length by omega, hcons, Nat.mul_succ]
          at hpays
        have hmax : F * more.length ≤ max F (bonusAt text head) * more.length :=
          Nat.mul_le_mul_right _ (Nat.le_max_left _ _)
        have hskip : gapScore (c - last - 1) ≤ -3 := gapScore_le (by omega)
        have hcol : columnScore text c = matchPoints + (bonusAt text c : Nat) := by
          obtain ⟨d, rfl⟩ : ∃ d, c = d + 1 := ⟨c - 1, by omega⟩
          exact columnScore_succ text d
        have hF' : F ≤ max F (bonusAt text head) := Nat.le_max_left _ _
        rw [scoreAfter, if_neg hc, hcol]
        generalize max F (bonusAt text c) * more.length = x at hrest hpays
        generalize max F (bonusAt text head) * more.length = y at hmax ⊢
        generalize F * more.length = z at hmax hpays
        push_cast
        omega

/-- What a text earns as a pattern of itself: one run from its first column to its last. -/
def ownScore (p : List Char) : Int :=
  score p.toArray (List.range p.length)

theorem ownScore_cons (q : Char) (rest : List Char) :
    ownScore (q :: rest) = columnScore (q :: rest).toArray 0 +
      (earned (q :: rest).toArray 1 rest.length +
        followScore (q :: rest).toArray 0 * rest.length) := by
  have hrange : List.range (q :: rest).length = 0 :: (List.range' (0 + 1) rest.length ++ []) := by
    rw [List.range_eq_range', List.length_cons, List.range'_succ, List.append_nil]
  rw [ownScore, hrange, score, scoreAfter_run, scoreAfter, Nat.zero_add, Int.add_zero]

/-- Where no gap pays, no text earns more than the pattern itself. -/
theorem score_le_ownScore (hgap : NoGapPays p (max runBonus (bonusAt p.toArray 0)))
    (h : IsPlacement .respect p text columns) : score text columns ≤ ownScore p := by
  cases p with
  | nil =>
    obtain rfl := List.eq_nil_of_length_eq_zero h.spells.length_eq
    exact Int.le_refl _
  | cons q rest =>
    cases columns with
    | nil => exact h.spells.elim
    | cons c more =>
      obtain ⟨hq, hmore⟩ := h.spells
      rw [any_same_iff] at hq
      have hb : bonusAt text c ≤ bonusAt (q :: rest).toArray 0 := by
        rw [bonusAt_eq_classBonus hq, bonusAt_zero (c := q) (by simp)]
        exact classBonus_le_blank _ _
      have hcol : columnScore text c ≤ columnScore (q :: rest).toArray 0 := by
        refine Int.le_trans (columnScore_le text c) ?_
        have := Nat.mul_le_mul_right startFactor hb
        simp only [columnScore, if_true]
        omega
      have hrest := scoreAfter_le (i := 0) (Nat.le_max_left _ _) hgap (by simpa using hq) hmore
        h.increasing c
      have hmax : max (max runBonus (bonusAt (q :: rest).toArray 0)) (bonusAt text c) =
          max runBonus (bonusAt (q :: rest).toArray 0) := by
        omega
      rw [hmax, hmore.length_eq] at hrest
      rw [score, ownScore_cons]
      simp only [followScore]
      push_cast at hrest ⊢
      omega

/-! ## The patterns that no text is better for -/

/-- The pattern begins with a letter, a digit or a blank, or none of these stands so far before the
pattern's end that a run from there on is worth a gap before it. -/
def HoldsTogether (p : List Char) : Prop :=
  (∃ c, p[0]? = some c ∧ (Symbol.charClass c).TakesBlankBonus) ∨
    ∀ j c, p[j + 1]? = some c → (Symbol.charClass c).TakesBlankBonus →
      2 * (p.length - (j + 2)) ≤ 1 + bonusAt p.toArray (j + 1)

theorem noGapPays_of_holdsTogether (h : HoldsTogether p) :
    NoGapPays p (max runBonus (bonusAt p.toArray 0)) := by
  intro j c before hc
  have hj : j + 1 < p.length := (List.getElem?_eq_some_iff.mp hc).1
  obtain ⟨m, hm⟩ : ∃ m, p.length = j + 2 + m := ⟨p.length - (j + 2), by omega⟩
  obtain ⟨q, hq⟩ : ∃ q, p[0]? = some q := ⟨p[0], List.getElem?_eq_getElem (by omega)⟩
  have hzero : bonusAt p.toArray 0 = classBonus .whitespace (Symbol.charClass q) :=
    bonusAt_zero (by simpa using hq)
  have hle : classBonus before (Symbol.charClass c) ≤ blankBonus := classBonus_le _ _
  rw [show p.length - (j + 2) = m by omega, show p.length - (j + 1) = m + 1 by omega]
  by_cases hblank : (Symbol.charClass q).TakesBlankBonus
  · rw [hzero, classBonus_of_takesBlankBonus hblank]
    simp only [runBonus, blankBonus] at hle ⊢
    rw [Nat.max_eq_right (by decide : 4 ≤ 10), Nat.max_eq_left hle]
    omega
  · rw [hzero, classBonus_of_not_takesBlankBonus hblank]
    by_cases hc' : (Symbol.charClass c).TakesBlankBonus
    · rcases h with ⟨q', hq', hblank'⟩ | h
      · rw [hq, Option.some.injEq] at hq'
        subst hq'
        exact absurd hblank' hblank
      · have hlate := h j c hc hc'
        rw [show p.length - (j + 2) = m by omega] at hlate
        simp only [runBonus, signBonus, blankBonus] at hle ⊢
        rw [Nat.max_eq_right (by decide : 4 ≤ 8)]
        -- only the bonuses above that of a sign gain anything
        generalize classBonus before (Symbol.charClass c) = b at hle ⊢
        obtain hb | rfl | rfl : b ≤ 8 ∨ b = 9 ∨ b = 10 := by omega
        · rw [Nat.max_eq_left hb]
          omega
        · rw [Nat.max_eq_right (by decide)]
          omega
        · rw [Nat.max_eq_right (by decide)]
          omega
    · rw [classBonus_of_not_takesBlankBonus hc' before]
      simp only [runBonus, signBonus]
      rw [Nat.max_eq_right (by decide : 4 ≤ 8), Nat.max_self]
      omega

/-! ## The patterns that a text with one more blank is better for -/

/-- The pattern with a blank put before its character `j`. -/
def blankBefore (p : List Char) (j : Nat) : List Char :=
  p.take j ++ ' ' :: p.drop j

/-- Where the characters of the pattern stand when a blank has been put before character `j`. -/
def aroundBlank (p : List Char) (j : Nat) : List Nat :=
  List.range j ++ List.range' (j + 1) (p.length - j)

theorem blankBefore_lt (hj : j ≤ p.length) (hk : k < j) :
    (blankBefore p j)[k]? = p[k]? := by
  rw [blankBefore, List.getElem?_append_left (by rw [List.length_take]; omega),
    List.getElem?_take_of_lt hk]

theorem blankBefore_self (hj : j ≤ p.length) : (blankBefore p j)[j]? = some ' ' := by
  rw [blankBefore, List.getElem?_append_right (by rw [List.length_take]; omega)]
  simp [List.length_take, Nat.min_eq_left hj]

theorem blankBefore_gt (hj : j ≤ p.length) (hk : j ≤ k) :
    (blankBefore p j)[k + 1]? = p[k]? := by
  rw [blankBefore, List.getElem?_append_right (by rw [List.length_take]; omega), List.length_take,
    Nat.min_eq_left hj, show k + 1 - j = k - j + 1 by omega, List.getElem?_cons_succ,
    List.getElem?_drop, show j + (k - j) = k by omega]

theorem spells_range' {ps : List Char} {a : Nat} (h : ∀ k < ps.length, text[a + k]? = ps[k]?) :
    Spells .respect text ps (List.range' a ps.length) := by
  induction ps generalizing a with
  | nil => trivial
  | cons q ps ih =>
    rw [List.length_cons, List.range'_succ]
    refine ⟨any_same_iff.mpr (h 0 (by simp)), ih fun k hk => ?_⟩
    have := h (k + 1) (by simpa using hk)
    rwa [show a + (k + 1) = a + 1 + k by omega, List.getElem?_cons_succ] at this

theorem spells_append {ps qs : List Char} {cs ds : List Nat} (hp : Spells .respect text ps cs)
    (hq : Spells .respect text qs ds) : Spells .respect text (ps ++ qs) (cs ++ ds) := by
  induction ps generalizing cs with
  | nil =>
    cases cs with
    | nil => exact hq
    | cons => exact hp.elim
  | cons q ps ih =>
    cases cs with
    | nil => exact hp.elim
    | cons c cs => exact ⟨hp.1, ih hp.2⟩

/-- The pattern can be matched around the blank. -/
theorem isPlacement_aroundBlank (hj : j ≤ p.length) :
    IsPlacement .respect p (blankBefore p j).toArray (aroundBlank p j) where
  increasing := by
    rw [aroundBlank, List.range_eq_range', List.pairwise_append]
    refine ⟨List.pairwise_lt_range', List.pairwise_lt_range', fun c hc d hd => ?_⟩
    rw [List.mem_range'_1] at hc hd
    omega
  spells := by
    have hfront : Spells .respect (blankBefore p j).toArray (p.take j) (List.range j) := by
      have h : Spells .respect (blankBefore p j).toArray (p.take j)
          (List.range' 0 (p.take j).length) := by
        refine spells_range' fun k hk => ?_
        rw [List.length_take] at hk
        rw [Nat.zero_add, List.getElem?_toArray, blankBefore_lt hj (by omega),
          List.getElem?_take_of_lt (by omega)]
      rwa [List.length_take, Nat.min_eq_left hj, ← List.range_eq_range'] at h
    have hback : Spells .respect (blankBefore p j).toArray (p.drop j)
        (List.range' (j + 1) (p.length - j)) := by
      rw [← List.length_drop]
      refine spells_range' fun k _ => ?_
      rw [List.getElem?_toArray, show j + 1 + k = j + k + 1 by omega, blankBefore_gt hj (by omega),
        List.getElem?_drop]
    have h := spells_append hfront hback
    rwa [List.take_append_drop] at h

theorem bonusAt_blankBefore_lt (hj : j ≤ p.length) (hk : k < j) :
    bonusAt (blankBefore p j).toArray k = bonusAt p.toArray k := by
  cases k with
  | zero =>
    simp only [bonusAt, classBefore, List.getElem?_toArray, blankBefore_lt hj hk]
  | succ k =>
    refine bonusAt_succ_congr ?_ ?_
    · rw [List.getElem?_toArray, List.getElem?_toArray, blankBefore_lt hj (by omega)]
    · rw [List.getElem?_toArray, List.getElem?_toArray, blankBefore_lt hj hk]

theorem bonusAt_blankBefore_gt (hj : j ≤ p.length) (hk : j < k) :
    bonusAt (blankBefore p j).toArray (k + 1) = bonusAt p.toArray k := by
  obtain ⟨d, rfl⟩ : ∃ d, k = d + 1 := ⟨k - 1, by omega⟩
  refine bonusAt_succ_congr ?_ ?_
  · rw [List.getElem?_toArray, List.getElem?_toArray, blankBefore_gt hj (by omega)]
  · rw [List.getElem?_toArray, List.getElem?_toArray, blankBefore_gt hj (by omega)]

/-- The character after the blank gets the bonus of a word's first character. -/
theorem bonusAt_blankBefore_self {c : Char} (hc : p[j]? = some c) :
    bonusAt (blankBefore p j).toArray (j + 1) = classBonus .whitespace (Symbol.charClass c) := by
  have hj : j < p.length := (List.getElem?_eq_some_iff.mp hc).1
  have htext : (blankBefore p j).toArray[j + 1]? = some c := by
    rw [List.getElem?_toArray, blankBefore_gt (by omega) (Nat.le_refl _), hc]
  rw [bonusAt_eq_classBonus htext]
  simp only [classBefore, List.getElem?_toArray, blankBefore_self (Nat.le_of_lt hj)]
  rfl

theorem earned_blankBefore_lt {count : Nat} (hj : j ≤ p.length) (hi : i + count ≤ j) :
    earned (blankBefore p j).toArray i count = earned p.toArray i count :=
  earned_congr fun _ _ => bonusAt_blankBefore_lt hj (by omega)

theorem earned_blankBefore_gt {count : Nat} (hj : j ≤ p.length) (hi : j < i) :
    earned (blankBefore p j).toArray (i + 1) count = earned p.toArray i count := by
  refine earned_congr fun d _ => ?_
  rw [show i + 1 + d = i + d + 1 by omega]
  exact bonusAt_blankBefore_gt hj (by omega)

/-- The two runs around the blank, the second of which begins after it. -/
theorem aroundBlank_eq (hj : j + 1 < p.length) : aroundBlank p (j + 1) =
    0 :: (List.range' (0 + 1) j ++
      (j + 2) :: (List.range' (j + 2 + 1) (p.length - (j + 2)) ++ [])) := by
  rw [aroundBlank, List.range_eq_range', List.range'_succ, List.cons_append, List.append_nil,
    show p.length - (j + 1) = p.length - (j + 2) + 1 by omega, List.range'_succ]

/-- What the run after the blank gains over the one run through the pattern. -/
theorem score_aroundBlank {c : Char} (hc : p[j + 1]? = some c)
    (hblank : (Symbol.charClass c).TakesBlankBonus)
    (hsign : ¬ ∃ q, p[0]? = some q ∧ (Symbol.charClass q).TakesBlankBonus) :
    score (blankBefore p (j + 1)).toArray (aroundBlank p (j + 1)) =
      ownScore p + 2 * ((p.length - (j + 2) : Nat) : Int) - 1 -
        (bonusAt p.toArray (j + 1) : Nat) := by
  have hj : j + 1 < p.length := (List.getElem?_eq_some_iff.mp hc).1
  cases p with
  | nil => simp at hj
  | cons q rest =>
    have hzero : bonusAt (q :: rest).toArray 0 = signBonus := by
      rw [bonusAt_zero (c := q) (by simp)]
      exact classBonus_of_not_takesBlankBonus (fun h => hsign ⟨q, by simp, h⟩) _
    have hself : bonusAt (blankBefore (q :: rest) (j + 1)).toArray (j + 2) = blankBonus := by
      rw [bonusAt_blankBefore_self hc, classBonus_of_takesBlankBonus hblank]
    have hfirst := bonusAt_blankBefore_lt (Nat.le_of_lt hj) (Nat.succ_pos j)
    have hfront : earned (blankBefore (q :: rest) (j + 1)).toArray 1 j =
        earned (q :: rest).toArray 1 j := earned_blankBefore_lt (Nat.le_of_lt hj) (by omega)
    obtain ⟨m, hm⟩ : ∃ m, (q :: rest).length = j + 2 + m :=
      ⟨(q :: rest).length - (j + 2), by omega⟩
    have hback : earned (blankBefore (q :: rest) (j + 1)).toArray (j + 3) m =
        earned (q :: rest).toArray (j + 2) m :=
      earned_blankBefore_gt (Nat.le_of_lt hj) (Nat.lt_succ_self _)
    have hrest : rest.length = j + (1 + m) := by
      rw [List.length_cons] at hm
      omega
    rw [aroundBlank_eq hj, ownScore_cons, show (q :: rest).length - (j + 2) = m by omega, hrest,
      earned_add, earned_add, earned, earned]
    rw [score, scoreAfter_run, scoreAfter, if_neg (by omega), scoreAfter_run, scoreAfter,
      columnScore_succ, Nat.zero_add, hfront, hback, hself]
    have hcol : columnScore (blankBefore (q :: rest) (j + 1)).toArray 0 =
        columnScore (q :: rest).toArray 0 := by
      simp only [columnScore, hfirst]
    have hgap : gapScore (j + 2 - (0 + j) - 1) = -3 := by
      rw [show j + 2 - (0 + j) - 1 = 1 by omega]
      rfl
    have hfollow : followScore (blankBefore (q :: rest) (j + 1)).toArray 0 = 8 := by
      rw [followScore, hfirst, hzero]
      rfl
    have hfollow_blank : followScore (blankBefore (q :: rest) (j + 1)).toArray (j + 2) = 10 := by
      rw [followScore, hself]
      rfl
    have hfollow_own : followScore (q :: rest).toArray 0 = 8 := by
      rw [followScore, hzero]
      rfl
    -- both totals in numbers: the second run pays the gap and earns two more with every character
    rw [hcol, hgap, hfollow, hfollow_blank, hfollow_own, show 1 + j + 1 = j + 2 by omega,
      Nat.add_comm 1 j]
    simp only [blankBonus]
    push_cast
    omega

theorem length_blankBefore (p : List Char) (j : Nat) :
    (blankBefore p j).length = p.length + 1 := by
  unfold blankBefore
  rw [List.length_append, List.length_cons, List.length_take, List.length_drop]
  omega

/-- For every pattern that does not hold together some text, with one character more, is better than
the pattern itself. -/
theorem exists_better (h : ¬ HoldsTogether p) : ∃ (text : List Char) (columns : List Nat),
    text.length = p.length + 1 ∧ IsPlacement .respect p text.toArray columns ∧
      ownScore p < score text.toArray columns := by
  obtain ⟨hsign, hlate⟩ := not_or.mp h
  simp only [not_forall] at hlate
  obtain ⟨j, c, hc, hblank, hgain⟩ := hlate
  have hj : j + 1 < p.length := (List.getElem?_eq_some_iff.mp hc).1
  refine ⟨_, _, length_blankBefore p (j + 1), isPlacement_aroundBlank (Nat.le_of_lt hj), ?_⟩
  rw [score_aroundBlank hc hblank hsign]
  omega

/-- A trail that ends as far left as it can leaves no column out. -/
theorem columnsOf_eq_range {B : Board} {before : List Nat} (h : IsTrail B i i before) :
    columnsOf i before = List.range (i + 1) := by
  induction i generalizing before with
  | zero =>
    cases h
    rfl
  | succ i ih =>
    cases h with
    | @next _ _ k rest _ hlt t =>
      obtain rfl : k = i := by
        have := t.le
        omega
      rw [columnsOf_cons, ih t, List.range_succ (n := k + 1)]

/-- A text has one place in itself. -/
theorem eq_range_of_isPlacement (h : IsPlacement .respect p p.toArray columns) :
    columns = List.range p.length := by
  by_cases hne : p = []
  · subst hne
    exact List.eq_nil_of_length_eq_zero h.spells.length_eq
  · obtain ⟨j, before, rfl⟩ := eq_columnsOf (h.ne_nil hne)
    have t := (isTrail_iff hne).mpr h
    have hpos := List.length_pos_iff.mpr hne
    have hj := Board.of_lt_size t.agrees
    rw [List.size_toArray] at hj
    obtain rfl : j = p.length - 1 := by
      have := t.le
      omega
    rw [columnsOf_eq_range t, Nat.sub_add_cancel hpos]

theorem isPlacement_range (p : List Char) :
    IsPlacement .respect p p.toArray (List.range p.length) where
  increasing := List.pairwise_lt_range
  spells := by
    rw [List.range_eq_range']
    exact spells_range' fun k _ => by rw [Nat.zero_add, List.getElem?_toArray]

end Exact

/-! ## The matcher on a text and itself -/

/-- A match tells the score of the placement that is shown, and without a placement there is no
match. -/
theorem findMatch_cases (pattern text : String) (withPositions : Bool) (rule : CaseRule) :
    (∃ m shown, findMatch? pattern text withPositions rule = some m ∧
      IsShown rule pattern.toList text.toList.toArray shown ∧
      m.score = score text.toList.toArray shown) ∨
    ((∀ columns, ¬ IsPlacement rule pattern.toList text.toList.toArray columns) ∧
      findMatch? pattern text withPositions rule = none) := by
  rcases Matcher.answers_cases rule text pattern with ⟨shown, hshown, h⟩ | ⟨hno, h⟩
  · exact .inl ⟨_, shown, h.find_eq withPositions Workspace.empty, hshown, rfl⟩
  · exact .inr ⟨hno, h.find_eq withPositions Workspace.empty⟩

/-- A text matches itself with the score of one run. -/
theorem findMatch_self (p : String) (withPositions : Bool) :
    ∃ m, findMatch? p p withPositions .respect = some m ∧ m.score = ownScore p.toList := by
  rcases findMatch_cases p p withPositions .respect with ⟨m, shown, hm, hshown, hs⟩ | ⟨hno, _⟩
  · rw [eq_range_of_isPlacement hshown.placement] at hs
    exact ⟨m, hm, hs⟩
  · exact absurd (isPlacement_range p.toList) (hno _)

/-- A text in which the pattern has a place is matched with no lower a score than the place's. -/
theorem findMatch_of_isPlacement {p t : String} {columns : List Nat}
    (h : IsPlacement .respect p.toList t.toList.toArray columns) (withPositions : Bool) :
    ∃ m, findMatch? p t withPositions .respect = some m ∧
      score t.toList.toArray columns ≤ m.score := by
  rcases findMatch_cases p t withPositions .respect with ⟨m, shown, hm, hshown, hs⟩ | ⟨hno, _⟩
  · refine ⟨m, hm, ?_⟩
    rw [hs]
    exact hshown.highest columns h
  · exact absurd h (hno columns)

theorem exists_better_text {p : String} (h : ¬ HoldsTogether p.toList) (withPositions : Bool) :
    ∃ t m m', t.length = p.length + 1 ∧ findMatch? p t withPositions .respect = some m ∧
      findMatch? p p withPositions .respect = some m' ∧ m'.score < m.score := by
  obtain ⟨own, hown, hscore⟩ := findMatch_self p withPositions
  obtain ⟨text, columns, hlength, hplacement, hlt⟩ := exists_better h
  rw [← String.toList_ofList (l := text)] at hplacement hlt
  obtain ⟨m, hm, hle⟩ := findMatch_of_isPlacement hplacement withPositions
  refine ⟨String.ofList text, m, own, ?_, hm, hown, ?_⟩
  · rw [String.length_ofList, hlength, String.length_toList]
  · rw [hscore]
    exact Int.lt_of_lt_of_le hlt hle

/-- Every text matches itself. No text is a better match for it than itself if and only if the text,
taken as a pattern, holds together; and if it does not, a text with one character more is better. -/
theorem exact_match_highest_iff (p : String) (withPositions : Bool) :
    (findMatch? p p withPositions .respect).isSome ∧
      ((∀ t m, findMatch? p t withPositions .respect = some m →
          ∃ m', findMatch? p p withPositions .respect = some m' ∧ m.score ≤ m'.score) ↔
        HoldsTogether p.toList) ∧
      (¬ HoldsTogether p.toList → ∃ t m m', t.length = p.length + 1 ∧
        findMatch? p t withPositions .respect = some m ∧
        findMatch? p p withPositions .respect = some m' ∧ m'.score < m.score) := by
  obtain ⟨own, hown, hscore⟩ := findMatch_self p withPositions
  refine ⟨by rw [hown]; rfl, ⟨fun h => ?_, fun h t m hm => ⟨own, hown, ?_⟩⟩,
    fun h => exists_better_text h withPositions⟩
  · refine Classical.byContradiction fun hnot => ?_
    obtain ⟨t, m, m', -, hm, hm', hlt⟩ := exists_better_text hnot withPositions
    obtain ⟨m'', hm'', hle⟩ := h t m hm
    rw [hm', Option.some.injEq] at hm''
    subst hm''
    exact absurd hle (Int.not_le.mpr hlt)
  · rcases findMatch_cases p t withPositions .respect with
      ⟨m', shown, hm', hshown, hs⟩ | ⟨_, hnone⟩
    · rw [hm, Option.some.injEq] at hm'
      subst hm'
      rw [hs, hscore]
      exact score_le_ownScore (noGapPays_of_holdsTogether h) hshown.placement
    · rw [hm] at hnone
      cases hnone

/-- A pattern that begins with a sign is not always the best text for itself. -/
theorem exact_match_not_always_highest :
    ¬ ∀ (p t : String) (m : Match), p ≠ "" → findMatch? p t true .respect = some m →
      ∃ m', findMatch? p p true .respect = some m' ∧ m.score ≤ m'.score := by
  intro h
  have hblank : findMatch? "_aaa" "_a aa" true .respect = some ⟨113, 0, 5, some [0, 1, 3, 4]⟩ := by
    decide +kernel
  have hown : findMatch? "_aaa" "_aaa" true .respect = some ⟨112, 0, 4, some [0, 1, 2, 3]⟩ := by
    decide +kernel
  obtain ⟨m, hm, hle⟩ := h "_aaa" "_a aa" _ (by decide) hblank
  rw [hown, Option.some.injEq] at hm
  subst hm
  exact absurd hle (by decide)

end FuzzyRank
