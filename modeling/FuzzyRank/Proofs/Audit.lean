import FuzzyRank.Alignment.Band
import FuzzyRank.Proofs.Grid

/-!
Runs that state their demands and have none refused.

`Passes` compares the two runs of one algorithm: the audited run ends without a refusal and with the
result of the plain run. It is kept by every way to put algorithms together, so a function passes if
the demands that it states itself are met, and what it computes on the way is known from its plain
run. This module has the rules for putting runs together and the operations of a table and a band.
-/

namespace FuzzyRank

open FuzzyRank.Alignment

variable {range : Nat → Int → Bool} {α β : Type}

/-- The audited run ends as the plain run does. -/
def Passes (range : Nat → Int → Bool) (audited : Audit (Demand.Met range) α) (plain : Id α) :
    Prop :=
  audited = pure plain.run

namespace Passes

theorem pure (a : α) : Passes range (Pure.pure a) (Pure.pure a) := rfl

theorem eq_pure {x : Audit (Demand.Met range) α} {y : Id α} {a : α} (h : Passes range x y)
    (ha : y.run = a) : x = Pure.pure a := by
  rw [← ha]
  exact h

/-- What comes after a run whose result is known. -/
theorem bind_of_eq {x : Audit (Demand.Met range) α} {y : Id α} {a : α}
    {f : α → Audit (Demand.Met range) β} {g : α → Id β} (h : Passes range x y) (ha : y.run = a)
    (hf : Passes range (f a) (g a)) : Passes range (x >>= f) (y >>= g) := by
  rw [h.eq_pure ha, pure_bind]
  subst ha
  exact hf

/-- What comes after a run that passes need only pass with its result. -/
theorem bind {x : Audit (Demand.Met range) α} {y : Id α} {f : α → Audit (Demand.Met range) β}
    {g : α → Id β} (h : Passes range x y) (hf : ∀ a, y.run = a → Passes range (f a) (g a)) :
    Passes range (x >>= f) (y >>= g) :=
  h.bind_of_eq rfl (hf y.run rfl)

/-! ## Demands -/

theorem demand {d : Demand} (h : d.Met range) :
    Passes range (Guarded.demand d) (Guarded.demand d) :=
  Guarded.demand_audit h

theorem readAt {xs : Array α} {i : Nat} (h : i < xs.size) (default : α) :
    Passes range (Guarded.readAt xs i default) (Guarded.readAt xs i default) :=
  Guarded.readAt_audit default (decide_eq_true h)

theorem writeAt {xs : Array α} {i : Nat} (h : i < xs.size) (x : α) :
    Passes range (Guarded.writeAt xs i x) (Guarded.writeAt xs i x) :=
  Guarded.writeAt_audit x (decide_eq_true h)

theorem minus {large small : Nat} (h : small ≤ large) :
    Passes range (Guarded.minus large small) (Guarded.minus large small) :=
  Guarded.minus_audit (decide_eq_true h)

theorem plus {row : Nat} {a b : Int} (h : range row (a + b)) :
    Passes range (Guarded.plus row a b) (Guarded.plus row a b) :=
  Guarded.plus_audit h

theorem follow (j : Nat) :
    Passes range (Guarded.follow (some j)) (Guarded.follow (some j)) :=
  Guarded.follow_audit rfl

/-- Both columns of a row can be read where the band has the row. -/
theorem row {band : Band} {i : Nat} (hfirst : i < band.first.size) (hlast : i < band.last.size) :
    Passes range (band.row i) (band.row i) :=
  .bind (.readAt hfirst 0) fun _ _ => .bind (.readAt hlast 0) fun _ _ => .pure _

/-! ## Operations of a table -/

section Table

variable {grid : Grid} {window : Window} {rows row column : Nat}

theorem overwrite (x : α) {n : Nat} {xs : Array α} (h : n ≤ xs.size) :
    Passes range (Grid.overwrite x n xs) (Grid.overwrite x n xs) := by
  induction n generalizing xs with
  | zero => exact .pure xs
  | succ n ih =>
    refine .bind_of_eq (.writeAt h x) rfl (ih ?_)
    show n ≤ (xs.setIfInBounds n x).size
    rw [Array.size_setIfInBounds]
    exact Nat.le_of_succ_le h

/-- A table makes the room that it clears. -/
theorem clear (grid : Grid) (rows width : Nat) :
    Passes range (grid.clear rows width) (grid.clear rows width) :=
  .bind (.overwrite none (Grid.size_grow _ _ _)) fun _ _ => .pure _

theorem place (h : window.offset ≤ column) :
    Passes range (Grid.place window row column) (Grid.place window row column) :=
  .bind (.minus h) fun _ _ => .pure _

/-- A cell can be read also left of the window, but not right of it. -/
theorem cell (hroom : grid.Room window rows) (hrow : row < rows)
    (hcol : column < window.offset + window.width) :
    Passes range (grid.cell window row column) (grid.cell window row column) := by
  unfold Grid.cell
  split
  · exact .pure none
  · next hoff =>
    have hlt := Grid.place_lt hrow ⟨Nat.not_lt.mp hoff, hcol⟩
    exact .bind_of_eq (.place (Nat.not_lt.mp hoff)) rfl
      (.readAt (Nat.lt_of_lt_of_le hlt hroom.cells) none)

theorem setCell (hroom : grid.Room window rows) (hrow : row < rows)
    (hcol : window.Contains column) (cell : Option Cell) :
    Passes range (grid.setCell window row column cell) (grid.setCell window row column cell) := by
  have hlt := Nat.lt_of_lt_of_le (Grid.place_lt hrow hcol) hroom.cells
  exact .bind_of_eq (.place hcol.1) rfl (.bind (.writeAt hlt cell) fun _ _ => .pure _)

theorem runsAbove (hroom : grid.Room window rows) (hcol : window.Contains column) :
    Passes range (grid.runsAbove window column) (grid.runsAbove window column) :=
  .bind_of_eq (.minus hcol.1) rfl (.readAt (hcol.shift_lt hroom.above) noRuns)

theorem setRuns (hroom : grid.Room window rows) (hcol : window.Contains column) (runs : Runs) :
    Passes range (grid.setRuns window column runs) (grid.setRuns window column runs) := by
  have hlt := hcol.shift_lt hroom.current
  exact .bind_of_eq (.minus hcol.1) rfl (.bind (.writeAt hlt runs) fun _ _ => .pure _)

end Table
end Passes
end FuzzyRank
