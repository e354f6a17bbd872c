import Mathlib.Order.SuccPred.IntervalSucc
import Mathlib.Order.CompletePartialOrder
import Mathlib.Data.Nat.SuccPred
import Mathlib.Algebra.Order.Monoid.Defs
import Mathlib.Algebra.Order.Monoid.Unbundled.Basic
import Mathlib.Algebra.Module.NatInt

/-!
# Equal cells

A run of half-open cells of one length, each beginning where the one before it ends.  No two
meet, and the first `n` of them lie between the first edge and the `n`-th.
-/

namespace Tiling

variable {α : Type*} [AddCommMonoid α] [LinearOrder α] [IsOrderedAddMonoid α]
variable {base len x : α} {s t n : ℕ}

/-- Where a cell begins. -/
def edge (base len : α) (s : ℕ) : α := base + s • len

def cell (base len : α) (s : ℕ) : Set α := Set.Ico (edge base len s) (edge base len (s + 1))

omit [LinearOrder α] [IsOrderedAddMonoid α] in
@[simp] theorem edge_zero : edge base len 0 = base := by
  simp [edge]

omit [LinearOrder α] [IsOrderedAddMonoid α] in
theorem edge_succ : edge base len (s + 1) = edge base len s + len := by
  rw [edge, edge, succ_nsmul, add_assoc]

theorem edge_mono (nonneg : 0 ≤ len) : Monotone (edge base len) := by
  apply monotone_nat_of_le_succ
  intro s
  rw [edge_succ]
  exact le_add_of_nonneg_right nonneg

theorem disjoint_cells (nonneg : 0 ≤ len) (different : s ≠ t) :
    Disjoint (cell base len s) (cell base len t) :=
  (edge_mono nonneg).pairwise_disjoint_on_Ico_succ different

theorem cell_subset (nonneg : 0 ≤ len) (inside : s < n) :
    cell base len s ⊆ Set.Ico base (edge base len n) := by
  apply Set.Ico_subset_Ico
  · calc base = edge base len 0 := edge_zero.symm
      _ ≤ edge base len s := edge_mono nonneg (Nat.zero_le s)
  · exact edge_mono nonneg inside

/-- A point names its cell. -/
theorem cell_unique (nonneg : 0 ≤ len) (first : x ∈ cell base len s)
    (second : x ∈ cell base len t) : s = t := by
  by_contra different
  exact Set.disjoint_left.mp (disjoint_cells nonneg different) first second

end Tiling
