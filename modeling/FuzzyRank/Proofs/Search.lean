import FuzzyRank.Symbol

/-!
The searches for one symbol: what they find, and that the search of each kind of symbol is the plain
one, which looks at every column in turn.
-/

namespace FuzzyRank

variable {α : Type} {p q : α → Bool} {text : Array α}

/-! ## Searches from the left and from the right -/

theorem findWithin_eq_some {count start j : Nat} (h : findWithin p text count start = some j) :
    start ≤ j ∧ text[j]?.any p ∧ ∀ k, start ≤ k → k < j → ¬ text[k]?.any p := by
  induction count generalizing start with
  | zero => cases h
  | succ count ih =>
    simp only [findWithin] at h
    split at h
    · next hp =>
      cases h
      exact ⟨Nat.le_refl _, hp, fun k hk hkj => by omega⟩
    · next hp =>
      obtain ⟨hj, hpj, hleast⟩ := ih h
      refine ⟨by omega, hpj, fun k hk hkj => ?_⟩
      rcases Nat.eq_or_lt_of_le hk with rfl | hk
      · exact hp
      · exact hleast k hk hkj

theorem findWithin_eq_none {count start : Nat} (h : findWithin p text count start = none) :
    ∀ k, start ≤ k → k < start + count → ¬ text[k]?.any p := by
  induction count generalizing start with
  | zero => intro k h1 h2; omega
  | succ count ih =>
    simp only [findWithin] at h
    split at h
    · cases h
    · next hp =>
      intro k hk hkc
      rcases Nat.eq_or_lt_of_le hk with rfl | hk
      · exact hp
      · exact ih h k hk (by omega)

theorem lt_size_of_any {j : Nat} (h : text[j]?.any p) : j < text.size := by
  rcases Nat.lt_or_ge j text.size with hj | hj
  · exact hj
  · simp [Array.getElem?_eq_none hj] at h

/-- The search from the left finds the first column that qualifies. -/
theorem findFrom_eq_some {start j : Nat} (h : findFrom p text start = some j) :
    start ≤ j ∧ text[j]?.any p ∧ ∀ k, start ≤ k → k < j → ¬ text[k]?.any p :=
  findWithin_eq_some h

theorem findFrom_eq_none {start : Nat} (h : findFrom p text start = none) :
    ∀ k, start ≤ k → ¬ text[k]?.any p := by
  intro k hk hp
  have := lt_size_of_any hp
  exact findWithin_eq_none h k hk (by omega) hp

/-- What qualifies first is what the search from the left finds. -/
theorem findFrom_of_first {start j : Nat} (hj : start ≤ j) (hp : text[j]?.any p)
    (hleast : ∀ k, start ≤ k → k < j → ¬ text[k]?.any p) : findFrom p text start = some j := by
  cases h : findFrom p text start with
  | none => exact absurd hp (findFrom_eq_none h j hj)
  | some i =>
    obtain ⟨hi, hpi, hbefore⟩ := findFrom_eq_some h
    rcases Nat.lt_trichotomy i j with hlt | rfl | hgt
    · exact absurd hpi (hleast i hi hlt)
    · rfl
    · exact absurd hp (hbefore j hj hgt)

theorem findFrom_of_none {start : Nat} (h : ∀ k, start ≤ k → ¬ text[k]?.any p) :
    findFrom p text start = none := by
  cases hf : findFrom p text start with
  | none => rfl
  | some i =>
    obtain ⟨hi, hpi, _⟩ := findFrom_eq_some hf
    exact absurd hpi (h i hi)

/-- The search from the right finds the last column that qualifies. -/
theorem findBefore_eq_some {stop j : Nat} (h : findBefore p text stop = some j) :
    j < stop ∧ text[j]?.any p ∧ ∀ k, j < k → k < stop → ¬ text[k]?.any p := by
  induction stop with
  | zero => cases h
  | succ stop ih =>
    simp only [findBefore] at h
    split at h
    · next hp =>
      cases h
      exact ⟨Nat.lt_succ_self _, hp, fun k hk hks => by omega⟩
    · next hp =>
      obtain ⟨hj, hpj, hlast⟩ := ih h
      refine ⟨by omega, hpj, fun k hk hks => ?_⟩
      rcases Nat.eq_or_lt_of_le (Nat.le_of_lt_succ hks) with rfl | hks
      · exact hp
      · exact hlast k hk hks

theorem findBefore_eq_none {stop : Nat} (h : findBefore p text stop = none) :
    ∀ k, k < stop → ¬ text[k]?.any p := by
  induction stop with
  | zero => intro k hk; omega
  | succ stop ih =>
    simp only [findBefore] at h
    split at h
    · cases h
    · next hp =>
      intro k hk
      rcases Nat.eq_or_lt_of_le (Nat.le_of_lt_succ hk) with rfl | hk
      · exact hp
      · exact ih h k hk

/-! ## Symbols that are searched for by equality under the case rule -/

/-- The search for a symbol finds what the case rule takes for the same. -/
class LawfulSymbol (α : Type) [Symbol α] : Prop where
  firstFrom_eq (rule : CaseRule) (p : α) (text : Array α) (start : Nat) :
    Symbol.firstFrom rule p text start = findFrom (Symbol.same rule p) text start

instance : LawfulSymbol Char where
  firstFrom_eq _ _ _ _ := rfl

/-- Two searches of which the earlier find wins are one search for either. -/
theorem earlier_findFrom (start : Nat) :
    earlier (findFrom p text start) (findFrom q text start) =
      findFrom (fun c => p c || q c) text start := by
  have hor : ∀ k : Nat, text[k]?.any (fun c => p c || q c) ↔ text[k]?.any p ∨ text[k]?.any q := by
    intro k
    cases text[k]? <;> simp
  symm
  cases hp : findFrom p text start with
  | none =>
    have hnp := findFrom_eq_none hp
    cases hq : findFrom q text start with
    | none =>
      refine findFrom_of_none fun k hk => ?_
      rw [hor]
      exact not_or.mpr ⟨hnp k hk, findFrom_eq_none hq k hk⟩
    | some j =>
      obtain ⟨hj, hqj, hleast⟩ := findFrom_eq_some hq
      refine findFrom_of_first hj ((hor j).mpr (.inr hqj)) fun k hk hkj => ?_
      rw [hor]
      exact not_or.mpr ⟨hnp k hk, hleast k hk hkj⟩
  | some i =>
    obtain ⟨hi, hpi, hpleast⟩ := findFrom_eq_some hp
    cases hq : findFrom q text start with
    | none =>
      refine findFrom_of_first hi ((hor i).mpr (.inl hpi)) fun k hk hki => ?_
      rw [hor]
      exact not_or.mpr ⟨hpleast k hk hki, findFrom_eq_none hq k hk⟩
    | some j =>
      obtain ⟨hj, hqj, hqleast⟩ := findFrom_eq_some hq
      refine findFrom_of_first (Nat.le_min.mpr ⟨hi, hj⟩) ?_ fun k hk hkm => ?_
      · rw [hor]
        rcases Nat.le_total i j with hij | hji
        · exact .inl (by rwa [Nat.min_eq_left hij])
        · exact .inr (by rwa [Nat.min_eq_right hji])
      · rw [hor]
        exact not_or.mpr ⟨hpleast k hk (by omega), hqleast k hk (by omega)⟩

namespace Symbol

theorem toNat_lowerByte (b : UInt8) : (lowerByte b).toNat =
    if 65 ≤ b.toNat ∧ b.toNat ≤ 90 then b.toNat + 32 else b.toNat := by
  have hb := b.toNat_lt
  show (if 65 ≤ b.toNat ∧ b.toNat ≤ 90 then b + 32 else b).toNat = _
  split
  · rw [UInt8.toNat_add, show (32 : UInt8).toNat = 32 from rfl]
    omega
  · rfl

theorem toNat_upperByte (b : UInt8) : (upperByte b).toNat =
    if 97 ≤ b.toNat ∧ b.toNat ≤ 122 then b.toNat - 32 else b.toNat := by
  show (if 97 ≤ b.toNat ∧ b.toNat ≤ 122 then b - 32 else b).toNat = _
  split
  · have h : (32 : UInt8) ≤ b := by
      rw [UInt8.le_iff_toNat_le, show (32 : UInt8).toNat = 32 from rfl]
      omega
    rw [UInt8.toNat_sub_of_le _ _ h, show (32 : UInt8).toNat = 32 from rfl]
  · rfl

/-- A byte and another are the same letter exactly if the other is one of the byte's two
spellings. -/
theorem lowerByte_beq (b c : UInt8) :
    (lowerByte b == lowerByte c) = (c == lowerByte b || c == upperByte b) := by
  rw [Bool.eq_iff_iff]
  simp only [Bool.or_eq_true, beq_iff_eq, ← UInt8.toNat_inj, toNat_lowerByte, toNat_upperByte]
  split <;> split <;> split <;> omega

end Symbol

instance : LawfulSymbol UInt8 where
  firstFrom_eq rule b text start := by
    cases rule with
    | respect =>
      show findFrom (· == b) text start = findFrom (b == ·) text start
      congr 1
      funext c
      exact BEq.comm
    | ignore =>
      show Symbol.firstByteFrom .ignore b text start =
        findFrom (fun c => Symbol.lowerByte b == Symbol.lowerByte c) text start
      simp only [Symbol.firstByteFrom, Symbol.lowerByte_beq]
      split
      · next h =>
        congr 1
        funext c
        rw [← beq_iff_eq.mp h, Bool.or_self]
      · exact earlier_findFrom start

end FuzzyRank
