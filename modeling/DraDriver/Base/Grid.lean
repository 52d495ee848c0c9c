/-
**Row-major positions of a grid.**

Position `i` of a grid of `cols` columns sits at row `i / cols` and column `i % cols`. The position
to its right is `i + 1`, where there is a column left, and the one below it is `i + cols`.

* **`gridDistance_eq_one_iff`** — two positions at distance one are one to the right of, or below,
  the other, and no others are.
* `right_lt`, `below_lt` — both stay inside the grid.
-/

import Mathlib.Data.Nat.Dist
import Mathlib.Tactic

namespace DraDriver.Base

/-- The steps between two positions, along rows and columns. -/
def gridDistance (cols i j : ℕ) : ℕ := Nat.dist (i / cols) (j / cols) + Nat.dist (i % cols) (j % cols)

theorem gridDistance_comm (cols i j : ℕ) : gridDistance cols i j = gridDistance cols j i := by
  unfold gridDistance
  rw [Nat.dist_comm, Nat.dist_comm (i % cols)]

section Neighbours

variable {rows cols i j : ℕ}

/-- A position is its row and its column. -/
theorem position_ext (cols : ℕ) {i j : ℕ} (row : i / cols = j / cols) (column : i % cols = j % cols) :
    i = j := by
  rw [← Nat.div_add_mod i cols, ← Nat.div_add_mod j cols, row, column]

theorem right_position (room : i % cols + 1 < cols) :
    (i + 1) / cols = i / cols ∧ (i + 1) % cols = i % cols + 1 := by
  have split : i + 1 = cols * (i / cols) + (i % cols + 1) := by
    rw [← Nat.add_assoc, Nat.div_add_mod]
  constructor
  · rw [split, Nat.mul_add_div (by omega), Nat.div_eq_of_lt room, Nat.add_zero]
  · nth_rewrite 1 [split]
    rw [Nat.mul_add_mod, Nat.mod_eq_of_lt room]

theorem below_position (positive : 0 < cols) :
    (i + cols) / cols = i / cols + 1 ∧ (i + cols) % cols = i % cols :=
  ⟨Nat.add_div_right i positive, Nat.add_mod_right i cols⟩

theorem right_lt (inside : i < rows * cols) (room : i % cols + 1 < cols) : i + 1 < rows * cols := by
  rw [← Nat.div_lt_iff_lt_mul (by omega), (right_position room).1, Nat.div_lt_iff_lt_mul (by omega)]
  exact inside

theorem below_lt (positive : 0 < cols) (room : i / cols + 1 < rows) : i + cols < rows * cols := by
  rw [← Nat.div_lt_iff_lt_mul positive, (below_position positive).1]
  exact room

/-- A position is to the right of, or below, another. -/
def Follows (cols i j : ℕ) : Prop := i % cols + 1 < cols ∧ j = i + 1 ∨ j = i + cols

theorem gridDistance_of_follows (positive : 0 < cols) (follows : Follows cols i j) :
    gridDistance cols i j = 1 := by
  unfold gridDistance
  rcases follows with ⟨room, rfl⟩ | rfl
  · rw [(right_position room).1, (right_position room).2, Nat.dist_self, Nat.dist_eq_sub_of_le (by omega)]
    omega
  · rw [(below_position positive).1, (below_position positive).2, Nat.dist_self,
      Nat.dist_eq_sub_of_le (by omega)]
    omega

theorem dist_eq_one {m n : ℕ} : Nat.dist m n = 1 ↔ n = m + 1 ∨ m = n + 1 := by
  unfold Nat.dist
  omega

/-- **Positions at distance one are neighbours**, along a row or a column. -/
theorem gridDistance_eq_one_iff (positive : 0 < cols) :
    gridDistance cols i j = 1 ↔ Follows cols i j ∨ Follows cols j i := by
  constructor
  · intro one
    have columns := Nat.mod_lt i positive
    have columns' := Nat.mod_lt j positive
    -- the distance is one in the row and zero in the column, or the other way round
    rcases Nat.add_eq_one_iff.mp one with ⟨sameRow, nextColumn⟩ | ⟨nextRow, sameColumn⟩
    · have row := Nat.eq_of_dist_eq_zero sameRow
      rcases dist_eq_one.mp nextColumn with next | next
      · have room : i % cols + 1 < cols := next ▸ columns'
        refine Or.inl (Or.inl ⟨room, position_ext cols ?_ ?_⟩)
        · rw [(right_position room).1, row]
        · rw [(right_position room).2, next]
      · have room : j % cols + 1 < cols := next ▸ columns
        refine Or.inr (Or.inl ⟨room, position_ext cols ?_ ?_⟩)
        · rw [(right_position room).1, row]
        · rw [(right_position room).2, next]
    · have column := Nat.eq_of_dist_eq_zero sameColumn
      rcases dist_eq_one.mp nextRow with next | next
      · refine Or.inl (Or.inr (position_ext cols ?_ ?_))
        · rw [(below_position positive).1, next]
        · rw [(below_position positive).2, column]
      · refine Or.inr (Or.inr (position_ext cols ?_ ?_))
        · rw [(below_position positive).1, next]
        · rw [(below_position positive).2, column]
  · rintro (follows | follows)
    · exact gridDistance_of_follows positive follows
    · rw [gridDistance_comm]
      exact gridDistance_of_follows positive follows

end Neighbours

end DraDriver.Base
