import Mathlib.Tactic.Common
import Mathlib.Data.List.Perm.Subperm
import Mathlib.Data.List.Range

/-!
# First-fit allocation of numbers

The search `while used(n) { n += 1 }` from zero.  It needs as much fuel as there
are numbers in use, and then returns the least unused one.
-/

namespace FirstFit

/-- Count up from `n` while the number is used, at most `fuel` times. -/
def search (used : Nat → Bool) : Nat → Nat → Nat
  | 0, n => n
  | fuel + 1, n => if used n then search used fuel (n + 1) else n

theorem used_below_search (used : Nat → Bool) (fuel n : Nat) :
    ∀ k, n ≤ k → k < search used fuel n → used k = true := by
  induction fuel generalizing n with
  | zero => intro k low high; simp only [search] at high; omega
  | succ fuel ih =>
      intro k low high
      by_cases busy : used n = true
      · simp only [search, busy, if_true] at high
        rcases Nat.eq_or_lt_of_le low with rfl | above
        · exact busy
        · exact ih (n + 1) k above high
      · simp only [search, busy] at high
        simp only [Bool.false_eq_true, if_false] at high
        omega

theorem search_stops (used : Nat → Bool) (fuel n : Nat) :
    search used fuel n = n + fuel ∨ used (search used fuel n) = false := by
  induction fuel generalizing n with
  | zero => exact .inl rfl
  | succ fuel ih =>
      by_cases busy : used n = true
      · simp only [search, busy, if_true]
        rcases ih (n + 1) with full | free
        · exact .inl (by omega)
        · exact .inr free
      · have free : used n = false := by simpa using busy
        exact .inr (by simp [search, free])

/-- With as much fuel as there are numbers in use, the search finds an unused one. -/
theorem search_unused (used : Nat → Bool) (taken : List Nat)
    (covers : ∀ n, used n = true → n ∈ taken) : used (search used taken.length 0) = false := by
  rcases search_stops used taken.length 0 with full | free
  · by_contra busy
    -- Then all of `0, …, taken.length` are in use: one more than `taken` can hold.
    have all : ∀ k ∈ List.range (taken.length + 1), k ∈ taken := by
      intro k hk
      have hk : k < taken.length + 1 := List.mem_range.mp hk
      rcases Nat.lt_or_ge k (search used taken.length 0) with below | above
      · exact covers k (used_below_search used _ 0 k (Nat.zero_le k) below)
      · obtain rfl : k = search used taken.length 0 := by omega
        exact covers _ (by simpa using busy)
    have := (List.subperm_of_subset List.nodup_range all).length_le
    rw [List.length_range] at this
    omega
  · exact free

end FirstFit
