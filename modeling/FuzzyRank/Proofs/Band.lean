import FuzzyRank.Alignment.Band
import FuzzyRank.Proofs.Search
import FuzzyRank.Proofs.Trail
import Mathlib.Data.List.Forall2

/-!
The band is tight.

The scan from the left succeeds exactly on the texts that hold the pattern's symbols in order, and
the scan from the right never fails after it. The columns they find are bounded by each other row by
row, which is all that a sweep of the table needs: a trail stays right of the first columns, and
left of the last columns as long as it can still be completed.
-/

namespace FuzzyRank

open FuzzyRank.Alignment

variable {α : Type} [Symbol α] {rule : CaseRule} {text : Array α}

namespace Board

theorem of_cons_zero {p : α} {ps : List α} {j : Nat} :
    (Board.of rule (p :: ps) text).agrees 0 j ↔ text[j]?.any (Symbol.same rule p) := by
  simp [Board.of]

theorem of_cons_succ {p : α} {ps : List α} {i j : Nat} :
    (Board.of rule (p :: ps) text).agrees (i + 1) j ↔ (Board.of rule ps text).agrees i j := by
  simp [Board.of]

theorem of_reverse {ps : List α} {i j : Nat} (hi : i < ps.length) :
    (Board.of rule ps.reverse text).agrees (ps.length - 1 - i) j ↔
      (Board.of rule ps text).agrees i j := by
  simp only [Board.of]
  rw [List.getElem?_reverse (by omega), show ps.length - 1 - (ps.length - 1 - i) = i by omega]

theorem of_lt_size {ps : List α} {i j : Nat} (h : (Board.of rule ps text).agrees i j) :
    j < text.size := by
  obtain ⟨_, _, h⟩ := h
  exact lt_size_of_any h

end Board

/-! ## The scan from the left -/

/-- The least column that a row may take after the rows before it. -/
def floor (start : Nat) (columns : List Nat) : Nat → Nat
  | 0 => start
  | i + 1 => columns.getD i 0 + 1

/-- Every row takes the first column that it can after the rows before it. -/
structure Earliest (B : Board) (n start : Nat) (columns : List Nat) : Prop where
  length_eq : columns.length = n
  agrees : ∀ i < n, B.agrees i (columns.getD i 0)
  floor_le : ∀ i < n, floor start columns i ≤ columns.getD i 0
  least : ∀ i < n, ∀ k, floor start columns i ≤ k → B.agrees i k → columns.getD i 0 ≤ k

theorem floor_cons (start j : Nat) (columns : List Nat) (i : Nat) :
    floor start (j :: columns) (i + 1) = floor (j + 1) columns i := by
  cases i <;> rfl

theorem Earliest.nil {B : Board} {start : Nat} : Earliest B 0 start [] where
  length_eq := rfl
  agrees i hi := by omega
  floor_le i hi := by omega
  least i hi := by omega

theorem Earliest.cons {p : α} {ps : List α} {start j : Nat} {columns : List Nat}
    (hj : start ≤ j) (hp : text[j]?.any (Symbol.same rule p))
    (hleast : ∀ k, start ≤ k → k < j → ¬ text[k]?.any (Symbol.same rule p))
    (h : Earliest (Board.of rule ps text) ps.length (j + 1) columns) :
    Earliest (Board.of rule (p :: ps) text) (ps.length + 1) start (j :: columns) where
  length_eq := by simp [h.length_eq]
  agrees i hi := by
    cases i with
    | zero => exact Board.of_cons_zero.mpr hp
    | succ i => exact Board.of_cons_succ.mpr (h.agrees i (by omega))
  floor_le i hi := by
    cases i with
    | zero => exact hj
    | succ i =>
      rw [floor_cons]
      exact h.floor_le i (by omega)
  least i hi k hk hik := by
    cases i with
    | zero =>
      rcases Nat.lt_or_ge k j with hkj | hkj
      · exact absurd (Board.of_cons_zero.mp hik) (hleast k hk hkj)
      · exact hkj
    | succ i =>
      rw [floor_cons] at hk
      exact h.least i (by omega) k hk (Board.of_cons_succ.mp hik)

theorem scanForward_earliest [LawfulSymbol α] {ps : List α} {start : Nat}
    {found found' : Array Nat} (h : Band.scanForward rule text ps start found = (true, found')) :
    ∃ columns, found'.toList = found.toList ++ columns ∧
      Earliest (Board.of rule ps text) ps.length start columns := by
  induction ps generalizing start found with
  | nil =>
    cases h
    exact ⟨[], by simp, .nil⟩
  | cons p ps ih =>
    simp only [Band.scanForward, LawfulSymbol.firstFrom_eq] at h
    split at h
    · next j hfind =>
      obtain ⟨hj, hp, hleast⟩ := findFrom_eq_some hfind
      obtain ⟨columns, happ, hcols⟩ := ih h
      exact ⟨j :: columns, by simp [happ], hcols.cons hj hp hleast⟩
    · cases h

theorem size_of_scanForward [LawfulSymbol α] {ps : List α} {start : Nat} {first : Array Nat}
    (h : Band.scanForward rule text ps start #[] = (true, first)) : first.size = ps.length := by
  obtain ⟨columns, heq, hcolumns⟩ := scanForward_earliest h
  rw [← Array.length_toList, heq]
  exact hcolumns.length_eq

/-- Symbols that do not match can be dropped from the front of a text, up to the first that does. -/
theorem sublistForall₂_cons_iff {β γ : Type} {R : β → γ → Prop} {p : β} {ps : List β}
    {skipped rest : List γ} {c : γ} (hs : ∀ x ∈ skipped, ¬ R p x) (hc : R p c) :
    List.SublistForall₂ R (p :: ps) (skipped ++ c :: rest) ↔ List.SublistForall₂ R ps rest := by
  induction skipped with
  | nil =>
    constructor
    · intro h
      cases h with
      | cons _ h => exact h
      | cons_right h =>
        obtain ⟨l, hl, hsub⟩ := List.sublistForall₂_iff.mp h
        cases hl with
        | cons _ hl =>
          exact List.sublistForall₂_iff.mpr ⟨_, hl, (List.sublist_cons_self _ _).trans hsub⟩
    · exact fun h => .cons hc h
  | cons x skipped ih =>
    rw [← ih fun y hy => hs y (by simp [hy])]
    constructor
    · intro h
      cases h with
      | cons hx _ => exact absurd hx (hs x (by simp))
      | cons_right h => exact h
    · exact fun h => .cons_right h

/-- The scan from the left accepts exactly the ordered subsequences. -/
theorem scanForward_iff [LawfulSymbol α] (ps : List α) (start : Nat) (found : Array Nat) :
    (Band.scanForward rule text ps start found).1 = true ↔
      List.SublistForall₂ (fun p c => Symbol.same rule p c = true) ps (text.toList.drop start) := by
  induction ps generalizing start found with
  | nil => exact ⟨fun _ => .nil, fun _ => rfl⟩
  | cons p ps ih =>
    simp only [Band.scanForward, LawfulSymbol.firstFrom_eq]
    cases hfind : findFrom (Symbol.same rule p) text start with
    | none =>
      have hnone := findFrom_eq_none hfind
      refine ⟨fun h => (Bool.false_ne_true h).elim, fun h => ?_⟩
      obtain ⟨l, hl, hsub⟩ := List.sublistForall₂_iff.mp h
      cases hl with
      | @cons _ c _ l hc _ =>
        obtain ⟨k, hk⟩ := List.mem_iff_getElem?.mp (hsub.subset List.mem_cons_self)
        rw [List.getElem?_drop, Array.getElem?_toList] at hk
        exact absurd (by simpa [hk] using hc) (hnone (start + k) (Nat.le_add_right _ _))
    | some j =>
      obtain ⟨hj, hp, hleast⟩ := findFrom_eq_some hfind
      have hlt := lt_size_of_any hp
      have hsplit : text.toList.drop start =
          (text.toList.drop start).take (j - start) ++ text[j] :: text.toList.drop (j + 1) := by
        rw [← Array.getElem_toList, ← List.drop_eq_getElem_cons (by simpa using hlt)]
        conv => lhs; rw [← List.take_append_drop (j - start) (text.toList.drop start)]
        rw [List.drop_drop, show start + (j - start) = j by omega]
      -- nothing before the column found can stand for the first symbol
      rw [ih, hsplit]
      refine (sublistForall₂_cons_iff ?_ (by simpa [Array.getElem?_eq_getElem hlt] using hp)).symm
      intro x hx
      obtain ⟨k, hk⟩ := List.mem_iff_getElem?.mp hx
      rw [List.getElem?_take, List.getElem?_drop, Array.getElem?_toList] at hk
      split at hk
      · have := hleast (start + k) (Nat.le_add_right _ _) (by omega)
        simpa [hk] using this
      · cases hk

/-- The scan from the left finds a placement where there is one. -/
theorem scanForward_of_spells [LawfulSymbol α] {ps : List α} {columns : List Nat} {start : Nat}
    (hspells : Spells rule text ps columns) (hinc : columns.Pairwise (· < ·))
    (hstart : ∀ c ∈ columns, start ≤ c) (found : Array Nat) :
    (Band.scanForward rule text ps start found).1 = true := by
  induction ps generalizing columns start found with
  | nil => rfl
  | cons p ps ih =>
    cases columns with
    | nil => exact hspells.elim
    | cons c more =>
      obtain ⟨hp, hmore⟩ := hspells
      obtain ⟨hc, hinc⟩ := List.pairwise_cons.mp hinc
      have hsc := hstart c List.mem_cons_self
      simp only [Band.scanForward, LawfulSymbol.firstFrom_eq]
      cases hfind : findFrom (Symbol.same rule p) text start with
      | none => exact absurd hp (findFrom_eq_none hfind c hsc)
      | some j =>
        obtain ⟨_, _, hleast⟩ := findFrom_eq_some hfind
        have hjc : j ≤ c := by
          rcases Nat.lt_or_ge c j with hlt | hge
          · exact absurd hp (hleast c hsc hlt)
          · exact hge
        exact ih hmore hinc (fun d hd => Nat.lt_of_le_of_lt hjc (hc d hd)) _

/-! ## The scan from the right -/

/-- The column that a row must stay below, after the rows below it. -/
def ceiling (stop : Nat) (columns : List Nat) : Nat → Nat
  | 0 => stop
  | i + 1 => columns.getD i 0

/-- Every row takes the last column that it can. The rows are counted from below. -/
structure Latest (B : Board) (n stop : Nat) (columns : List Nat) : Prop where
  length_eq : columns.length = n
  agrees : ∀ i < n, B.agrees i (columns.getD i 0)
  lt_ceiling : ∀ i < n, columns.getD i 0 < ceiling stop columns i
  greatest : ∀ i < n, ∀ k, k < ceiling stop columns i → B.agrees i k → k ≤ columns.getD i 0

theorem ceiling_cons (stop j : Nat) (columns : List Nat) (i : Nat) :
    ceiling stop (j :: columns) (i + 1) = ceiling j columns i := by
  cases i <;> rfl

theorem Latest.nil {B : Board} {stop : Nat} : Latest B 0 stop [] where
  length_eq := rfl
  agrees i hi := by omega
  lt_ceiling i hi := by omega
  greatest i hi := by omega

theorem Latest.cons {p : α} {ps : List α} {stop j : Nat} {columns : List Nat}
    (hj : j < stop) (hp : text[j]?.any (Symbol.same rule p))
    (hlast : ∀ k, j < k → k < stop → ¬ text[k]?.any (Symbol.same rule p))
    (h : Latest (Board.of rule ps text) ps.length j columns) :
    Latest (Board.of rule (p :: ps) text) (ps.length + 1) stop (j :: columns) where
  length_eq := by simp [h.length_eq]
  agrees i hi := by
    cases i with
    | zero => exact Board.of_cons_zero.mpr hp
    | succ i => exact Board.of_cons_succ.mpr (h.agrees i (by omega))
  lt_ceiling i hi := by
    cases i with
    | zero => exact hj
    | succ i =>
      rw [ceiling_cons]
      exact h.lt_ceiling i (by omega)
  greatest i hi k hk hik := by
    cases i with
    | zero =>
      rcases Nat.lt_or_ge j k with hjk | hjk
      · exact absurd (Board.of_cons_zero.mp hik) (hlast k hjk hk)
      · exact hjk
    | succ i =>
      rw [ceiling_cons] at hk
      exact h.greatest i (by omega) k hk (Board.of_cons_succ.mp hik)

theorem scanBackward_latest {ps : List α} {stop : Nat} {found found' : Array Nat}
    (h : Band.scanBackward rule text ps stop found = (true, found')) :
    ∃ columns, found'.toList = found.toList ++ columns ∧
      Latest (Board.of rule ps text) ps.length stop columns := by
  induction ps generalizing stop found with
  | nil =>
    cases h
    exact ⟨[], by simp, .nil⟩
  | cons p ps ih =>
    simp only [Band.scanBackward] at h
    split at h
    · next j hfind =>
      obtain ⟨hj, hp, hlast⟩ := findBefore_eq_some hfind
      obtain ⟨columns, happ, hcols⟩ := ih h
      exact ⟨j :: columns, by simp [happ], hcols.cons hj hp hlast⟩
    · cases h

theorem size_of_scanBackward {ps : List α} {stop : Nat} {last : Array Nat}
    (h : Band.scanBackward rule text ps stop #[] = (true, last)) : last.size = ps.length := by
  obtain ⟨columns, heq, hcolumns⟩ := scanBackward_latest h
  rw [← Array.length_toList, heq]
  exact hcolumns.length_eq

/-- The scan from the right finds a placement where there is one. The columns `c` of the placement
are numbered from the right. -/
theorem scanBackward_of_agrees {ps : List α} {stop : Nat} {c : Nat → Nat}
    (hc : ∀ i < ps.length, (Board.of rule ps text).agrees i (c i))
    (hstop : 0 < ps.length → c 0 < stop) (hdec : ∀ i, i + 1 < ps.length → c (i + 1) < c i)
    (found : Array Nat) : (Band.scanBackward rule text ps stop found).1 = true := by
  induction ps generalizing stop c found with
  | nil => rfl
  | cons p ps ih =>
    have hp := Board.of_cons_zero.mp (hc 0 (by simp))
    have hlt := hstop (by simp)
    simp only [Band.scanBackward]
    cases hfind : findBefore (Symbol.same rule p) text stop with
    | none => exact absurd hp (findBefore_eq_none hfind (c 0) hlt)
    | some j =>
      obtain ⟨_, _, hlast⟩ := findBefore_eq_some hfind
      have hcj : c 0 ≤ j := by
        rcases Nat.lt_or_ge j (c 0) with hjc | hjc
        · exact absurd hp (hlast (c 0) hjc hlt)
        · exact hjc
      refine ih (c := fun i => c (i + 1)) (fun i hi => ?_) (fun hps => ?_) (fun i hi => ?_) _
      · exact Board.of_cons_succ.mp (hc (i + 1) (by simpa using hi))
      · exact Nat.lt_of_lt_of_le (hdec 0 (by simpa using hps)) hcj
      · exact hdec (i + 1) (by simpa using hi)

/-! ## Both bounds together -/

namespace Alignment.Band

/-- The first column of a row. -/
def lo (band : Band) (row : Nat) : Nat := band.first.getD row 0

/-- The last column of a row. -/
def hi (band : Band) (row : Nat) : Nat := band.last.getD row 0

@[simp]
theorem row_id (band : Band) (i : Nat) : (band.row i : Id (Nat × Nat)) = (band.lo i, band.hi i) :=
  rfl

/-- The band bounds every row by the rows beside it, down to the row `bottom`. -/
structure Tight (B : Board) (bottom : Nat) (band : Band) : Prop where
  lo_agrees : ∀ i ≤ bottom, B.agrees i (band.lo i)
  lo_le : ∀ j, B.agrees 0 j → band.lo 0 ≤ j
  lo_lt : ∀ i < bottom, band.lo i < band.lo (i + 1)
  lo_le_of_lt : ∀ i < bottom, ∀ j, band.lo i < j → B.agrees (i + 1) j → band.lo (i + 1) ≤ j
  hi_agrees : ∀ i ≤ bottom, B.agrees i (band.hi i)
  le_hi : ∀ j, B.agrees bottom j → j ≤ band.hi bottom
  hi_lt : ∀ i < bottom, band.hi i < band.hi (i + 1)
  le_hi_of_lt : ∀ i < bottom, ∀ j, j < band.hi (i + 1) → B.agrees i j → j ≤ band.hi i

namespace Tight

variable {B : Board} {bottom : Nat} {band : Band} {i j : Nat} {before : List Nat}

/-- A trail never runs left of the band. -/
theorem lo_le_of_trail (h : Tight B bottom band) (hi : i ≤ bottom) (t : IsTrail B i j before) :
    band.lo i ≤ j := by
  induction t with
  | first ha => exact h.lo_le _ ha
  | @next i j k before ha hkj _ ih =>
    exact h.lo_le_of_lt i (by omega) j (Nat.lt_of_le_of_lt (ih (by omega)) hkj) ha

/-- The first columns of the rows are themselves a trail. -/
theorem exists_trail (h : Tight B bottom band) (hi : i ≤ bottom) :
    ∃ before, IsTrail B i (band.lo i) before := by
  induction i with
  | zero => exact ⟨[], .first (h.lo_agrees 0 hi)⟩
  | succ i ih =>
    obtain ⟨before, t⟩ := ih (by omega)
    exact ⟨band.lo i :: before, .next (h.lo_agrees (i + 1) hi) (h.lo_lt i hi) t⟩

theorem lo_le_hi (h : Tight B bottom band) (hi : i ≤ bottom) : band.lo i ≤ band.hi i := by
  induction hd : bottom - i generalizing i with
  | zero =>
    obtain rfl : i = bottom := by omega
    exact h.le_hi _ (h.lo_agrees i hi)
  | succ d ih =>
    have hnext := ih (i := i + 1) (by omega) (by omega)
    have hlt := h.lo_lt i (by omega)
    exact h.le_hi_of_lt i (by omega) _ (by omega) (h.lo_agrees i hi)

theorem lo_zero_le (h : Tight B bottom band) (hi : i ≤ bottom) : band.lo 0 ≤ band.lo i := by
  induction i with
  | zero => exact Nat.le_refl _
  | succ i ih =>
    have := ih (by omega)
    have := h.lo_lt i hi
    omega

theorem hi_le_bottom (h : Tight B bottom band) (hi : i ≤ bottom) :
    band.hi i ≤ band.hi bottom := by
  induction hd : bottom - i generalizing i with
  | zero =>
    obtain rfl : i = bottom := by omega
    exact Nat.le_refl _
  | succ d ih =>
    have := ih (i := i + 1) (by omega) (by omega)
    have := h.hi_lt i (by omega)
    omega

end Tight
end Alignment.Band

open FuzzyRank.Alignment.Band (lo hi Tight)

theorem getD_toArray_reverse {columns : List Nat} {n i : Nat} (hn : columns.length = n + 1)
    (hi : i ≤ n) : columns.toArray.reverse.getD i 0 = columns.getD (n - i) 0 := by
  simp only [List.reverse_toArray, List.getElem?_toArray, List.getD_eq_getElem?_getD,
    Array.getD_eq_getD_getElem?]
  rw [List.getElem?_reverse (by omega)]
  congr 2
  omega

/-- What both scans find is a tight band. -/
theorem tight_of_scans [LawfulSymbol α] {p : α} {ps : List α} {first last : Array Nat} {stop : Nat}
    (hstop : text.size ≤ stop)
    (hfirst : Band.scanForward rule text (p :: ps) 0 #[] = (true, first))
    (hlast : Band.scanBackward rule text (p :: ps).reverse stop #[] = (true, last)) :
    Tight (Board.of rule (p :: ps) text) ps.length ⟨first, last.reverse⟩ := by
  obtain ⟨los, hlos, hL⟩ := scanForward_earliest hfirst
  obtain ⟨his, hhis, hH⟩ := scanBackward_latest hlast
  obtain rfl : first = los.toArray := by simpa using congrArg List.toArray hlos
  obtain rfl : last = his.toArray := by simpa using congrArg List.toArray hhis
  have hlen : (p :: ps).length = ps.length + 1 := List.length_cons
  rw [List.length_reverse, hlen] at hH
  rw [hlen] at hL
  have hlo : ∀ i, lo ⟨los.toArray, his.toArray.reverse⟩ i = los.getD i 0 := by
    intro i
    simp [lo]
  have hhi : ∀ i ≤ ps.length, hi ⟨los.toArray, his.toArray.reverse⟩ i =
      his.getD (ps.length - i) 0 := fun i hi => getD_toArray_reverse hH.length_eq hi
  have hrow : ∀ i ≤ ps.length, ∀ j, (Board.of rule (p :: ps).reverse text).agrees
      (ps.length - i) j ↔ (Board.of rule (p :: ps) text).agrees i j := by
    intro i hi j
    have h : (Board.of rule (p :: ps).reverse text).agrees ((p :: ps).length - 1 - i) j ↔
        (Board.of rule (p :: ps) text).agrees i j := Board.of_reverse (by omega)
    rwa [hlen, Nat.add_sub_cancel] at h
  have hbelow : ∀ i < ps.length, ps.length - i = ps.length - (i + 1) + 1 := by
    intro i hi
    omega
  constructor
  case lo_agrees =>
    intro i hi
    rw [hlo]
    exact hL.agrees i (by omega)
  case lo_le =>
    intro j hj
    rw [hlo]
    exact hL.least 0 (by omega) j (Nat.zero_le _) hj
  case lo_lt =>
    intro i hi
    rw [hlo, hlo]
    exact hL.floor_le (i + 1) (by omega)
  case lo_le_of_lt =>
    intro i hi j hj hij
    rw [hlo] at hj ⊢
    exact hL.least (i + 1) (by omega) j hj hij
  case hi_agrees =>
    intro i hi
    rw [hhi i hi, ← hrow i hi]
    exact hH.agrees _ (by omega)
  case le_hi =>
    intro j hj
    have hsize := Board.of_lt_size hj
    rw [hhi _ (Nat.le_refl _), Nat.sub_self]
    rw [← hrow _ (Nat.le_refl _), Nat.sub_self] at hj
    exact hH.greatest 0 (by omega) j (Nat.lt_of_lt_of_le hsize hstop) hj
  case hi_lt =>
    intro i hi
    rw [hhi i (by omega), hhi (i + 1) hi, hbelow i hi]
    exact hH.lt_ceiling (ps.length - (i + 1) + 1) (by omega)
  case le_hi_of_lt =>
    intro i hi j hj hij
    rw [hhi (i + 1) hi] at hj
    rw [hhi i (by omega), hbelow i hi]
    rw [← hrow i (by omega), hbelow i hi] at hij
    exact hH.greatest (ps.length - (i + 1) + 1) (by omega) j hj hij

/-- The scan from the right does not fail after the scan from the left. -/
theorem scanBackward_of_scanForward [LawfulSymbol α] {ps : List α} {first : Array Nat}
    (h : Band.scanForward rule text ps 0 #[] = (true, first)) (found : Array Nat) :
    (Band.scanBackward rule text ps.reverse text.size found).1 = true := by
  obtain ⟨los, -, hL⟩ := scanForward_earliest h
  refine scanBackward_of_agrees (c := fun i => los.getD (ps.length - 1 - i) 0) ?_ ?_ ?_ found
  · intro i hi
    rw [List.length_reverse] at hi
    have ha := hL.agrees (ps.length - 1 - i) (by omega)
    rw [← Board.of_reverse (by omega)] at ha
    rwa [show ps.length - 1 - (ps.length - 1 - i) = i by omega] at ha
  · intro hps
    rw [List.length_reverse] at hps
    exact Board.of_lt_size (hL.agrees _ (by omega))
  · intro i hi
    rw [List.length_reverse] at hi
    have hlt := hL.floor_le (ps.length - 1 - (i + 1) + 1) (by omega)
    show los.getD (ps.length - 1 - (i + 1)) 0 < los.getD (ps.length - 1 - i) 0
    rw [show ps.length - 1 - i = ps.length - 1 - (i + 1) + 1 by omega]
    exact hlt

end FuzzyRank
