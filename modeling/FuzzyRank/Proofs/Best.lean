import FuzzyRank.Proofs.Trail

/-!
The best of several lists of columns.

Candidates are compared by score, and candidates of equal score by their columns, so that no two
different candidates are equally good and every choice has one outcome. A table keeps only a few
numbers of the candidate chosen: `Records` says that they are those of the best one. The lemmas say
how a choice is made in steps: from the candidates of two kinds, or from candidates that all grow in
the same way.
-/

namespace FuzzyRank

/-- The first candidate has the higher score, or at equal score the greater columns. -/
def Better (score : List Nat → Int) (a b : List Nat) : Prop :=
  score b < score a ∨ (score b = score a ∧ b < a)

/-- The best of the candidates, or nothing if there are none. -/
def IsBest (S : List Nat → Prop) (score : List Nat → Int) : Option (List Nat) → Prop
  | none => ∀ a, ¬ S a
  | some a => S a ∧ ∀ b, S b → b = a ∨ Better score a b

/-- What is kept of the best candidate. -/
def Records {β : Type} (S : List Nat → Prop) (score : List Nat → Int) (view : List Nat → β)
    (kept : Option β) : Prop :=
  ∃ best, IsBest S score best ∧ kept = best.map view

variable {S T : List Nat → Prop} {score score' : List Nat → Int} {a b c : List Nat}

namespace Better

theorem irrefl (score : List Nat → Int) (a : List Nat) : ¬ Better score a a := by
  rintro (h | ⟨_, h⟩)
  · exact Int.lt_irrefl _ h
  · exact List.lt_irrefl a h

theorem trans (hab : Better score a b) (hbc : Better score b c) : Better score a c := by
  rcases hab with hab | ⟨hab, lab⟩ <;> rcases hbc with hbc | ⟨hbc, lbc⟩
  · exact .inl (by omega)
  · exact .inl (by omega)
  · exact .inl (by omega)
  · exact .inr ⟨by omega, List.lt_trans lbc lab⟩

theorem score_le (h : Better score a b) : score b ≤ score a := by
  rcases h with h | ⟨h, _⟩ <;> omega

/-- Candidates that change their scores by the same amount keep their order. -/
theorem of_shift {d : Int} (ha : score' a = score a + d) (hb : score' b = score b + d)
    (h : Better score a b) : Better score' a b := by
  rcases h with h | ⟨h, l⟩
  · exact .inl (by omega)
  · exact .inr ⟨by omega, l⟩

/-- Candidates that get the same column in front keep their order. -/
theorem of_cons {d : Int} {k : Nat} (ha : score' (k :: a) = score a + d)
    (hb : score' (k :: b) = score b + d) (h : Better score a b) :
    Better score' (k :: a) (k :: b) := by
  rcases h with h | ⟨h, l⟩
  · exact .inl (by omega)
  · exact .inr ⟨by omega, List.cons_lt_cons_iff.mpr (.inr ⟨rfl, l⟩)⟩

end Better

namespace IsBest

theorem unique (ha : IsBest S score (some a)) (hb : IsBest S score (some b)) : a = b := by
  rcases ha.2 b hb.1 with h | h
  · exact h.symm
  · rcases hb.2 a ha.1 with h' | h'
    · exact h'
    · exact absurd (h.trans h') (Better.irrefl score a)

theorem score_le (ha : IsBest S score (some a)) (hb : S b) : score b ≤ score a := by
  rcases ha.2 b hb with rfl | h
  · exact Int.le_refl _
  · exact h.score_le

theorem congr {best : Option (List Nat)} (hS : ∀ a, S a ↔ T a) (h : IsBest S score best) :
    IsBest T score best := by
  cases best with
  | none => exact fun a ha => h a ((hS a).mpr ha)
  | some a => exact ⟨(hS a).mp h.1, fun b hb => h.2 b ((hS b).mpr hb)⟩

/-- A better candidate than the best of the other kind is best of both kinds. -/
theorem or_left (ha : IsBest S score (some a)) (hT : ∀ b, T b → Better score a b) :
    IsBest (fun t => S t ∨ T t) score (some a) := by
  refine ⟨.inl ha.1, ?_⟩
  rintro b (hb | hb)
  · exact ha.2 b hb
  · exact .inr (hT b hb)

theorem or_right (hb : IsBest T score (some b)) (hS : ∀ a, S a → Better score b a) :
    IsBest (fun t => S t ∨ T t) score (some b) :=
  (hb.or_left hS).congr fun _ => or_comm

/-- The best of all candidates is the best of those among which it is. -/
theorem subset (h : IsBest T score (some a)) (ha : S a) (hS : ∀ b, S b → T b) :
    IsBest S score (some a) :=
  ⟨ha, fun b hb => h.2 b (hS b hb)⟩

/-- What is better than the best candidate is better than all. -/
theorem better_of_better (hb : IsBest T score (some b)) (h : Better score a b) :
    ∀ c, T c → Better score a c := by
  intro c hc
  rcases hb.2 c hc with rfl | h'
  · exact h
  · exact h.trans h'

theorem shift {best : Option (List Nat)} {d : Int} (h : IsBest S score best)
    (hd : ∀ a, S a → score' a = score a + d) : IsBest S score' best := by
  cases best with
  | none => exact h
  | some a =>
    refine ⟨h.1, fun b hb => (h.2 b hb).imp id ?_⟩
    exact Better.of_shift (hd a h.1) (hd b hb)

/-- What the best candidate grew out of is the best of what could have grown the same way. -/
theorem of_cons {k : Nat} {d : Int} (h : IsBest T score' (some (k :: a))) (ha : S a)
    (hT : ∀ b, S b → T (k :: b)) (hd : ∀ b, S b → score' (k :: b) = score b + d) :
    IsBest S score (some a) := by
  refine ⟨ha, fun b hb => ?_⟩
  have hda := hd a ha
  have hdb := hd b hb
  rcases h.2 (k :: b) (hT b hb) with heq | hlt | ⟨hs, hl⟩
  · exact .inl (List.cons.inj heq).2
  · exact .inr (.inl (by omega))
  · rcases List.cons_lt_cons_iff.mp hl with hk | ⟨-, hl⟩
    · exact absurd hk (Nat.lt_irrefl k)
    · exact .inr (.inr ⟨by omega, hl⟩)

/-- The best of the candidates that grow by one column in front grows out of the best one. -/
theorem cons {best : Option (List Nat)} {k : Nat} {d : Int} (h : IsBest S score best)
    (hT : ∀ t, T t ↔ ∃ a, t = k :: a ∧ S a) (hd : ∀ a, S a → score' (k :: a) = score a + d) :
    IsBest T score' (best.map (k :: ·)) := by
  cases best with
  | none =>
    intro t ht
    obtain ⟨a, _, ha⟩ := (hT t).mp ht
    exact h a ha
  | some a =>
    refine ⟨(hT _).mpr ⟨a, rfl, h.1⟩, fun t ht => ?_⟩
    obtain ⟨b, rfl, hb⟩ := (hT t).mp ht
    rcases h.2 b hb with rfl | hab
    · exact .inl rfl
    · exact .inr (hab.of_cons (hd a h.1) (hd b hb))

end IsBest

namespace Records

variable {β γ : Type} {view : List Nat → β} {kept : Option β}

theorem congr (hS : ∀ a, S a ↔ T a) (h : Records S score view kept) :
    Records T score view kept := by
  obtain ⟨best, hb, rfl⟩ := h
  exact ⟨best, hb.congr hS, rfl⟩

theorem none_iff (h : Records S score view kept) : kept = none ↔ ∀ a, ¬ S a := by
  obtain ⟨best, hb, rfl⟩ := h
  cases best with
  | none => exact ⟨fun _ => hb, fun _ => rfl⟩
  | some a => simpa using ⟨a, hb.1⟩

/-- Where something is kept, there is a best candidate that it was taken from. -/
theorem of_some {x : β} (h : Records S score view (some x)) :
    ∃ a, IsBest S score (some a) ∧ x = view a := by
  obtain ⟨best, hb, hx⟩ := h
  cases best with
  | none => simp at hx
  | some a => exact ⟨a, hb, by simpa using hx⟩

theorem some_of {x : β} (h : IsBest S score (some a)) (hx : x = view a) :
    Records S score view (some x) :=
  ⟨some a, h, by simp [hx]⟩

theorem none_of (h : ∀ a, ¬ S a) : Records S score view none :=
  ⟨none, h, rfl⟩

end Records
end FuzzyRank
