import Mathlib.Data.List.FinRange
import Mathlib.Data.List.Nodup
import Mathlib.Tactic.Common

/-!
# Round robin

The numbers below `n` in a circle.  A rotation visits all of them, from the successor of a number
to the number itself.  Whoever is chosen because it comes first brings everybody it passed over
nearer to the front, so a candidate that stays one is chosen within one round.
-/

namespace Rotation

variable {n a b c k : Nat}

/-- The number that is visited after `k` others. -/
def visit (n a k : Nat) : Nat := (a + (k + 1)) % n

/-- How many numbers are visited before `b`. -/
def gap (n a b : Nat) : Nat := (b + n - (a + 1)) % n

theorem visit_lt (positive : 0 < n) : visit n a k < n := Nat.mod_lt _ positive

theorem gap_lt (positive : 0 < n) : gap n a b < n := Nat.mod_lt _ positive

theorem gap_eq (left : a < n) (right : b < n) :
    gap n a b = if a < b then b - a - 1 else b + n - a - 1 := by
  unfold gap
  split_ifs with above
  · have whole : b + n - (a + 1) = b - a - 1 + n := by omega
    rw [whole, Nat.add_mod_right, Nat.mod_eq_of_lt (by omega)]
  · rw [Nat.mod_eq_of_lt (by omega)]
    omega

theorem visit_eq (left : a < n) (inside : k < n) :
    visit n a k = if a + k + 1 < n then a + k + 1 else a + k + 1 - n := by
  unfold visit
  split_ifs with below
  · rw [Nat.mod_eq_of_lt (by omega)]
    omega
  · rw [Nat.mod_eq_sub_mod (by omega), Nat.mod_eq_of_lt (by omega)]
    omega

theorem visit_gap (left : a < n) (right : b < n) : visit n a (gap n a b) = b := by
  rw [visit_eq left (gap_lt (by omega)), gap_eq left right]
  split_ifs <;> omega

theorem gap_visit (left : a < n) (inside : k < n) : gap n a (visit n a k) = k := by
  rw [gap_eq left (visit_lt (by omega)), visit_eq left inside]
  split_ifs <;> omega

theorem gap_inj (left : a < n) (right : b < n) (right' : c < n) (same : gap n a b = gap n a c) :
    b = c := by
  rw [← visit_gap left right, same, visit_gap left right']

/-- Passing over `c` in favour of `b` brings `c` nearer. -/
theorem gap_shrinks (left : a < n) (chosen : b < n) (waits : c < n)
    (first : gap n a b < gap n a c) : gap n b c < gap n a c := by
  rw [gap_eq left chosen, gap_eq left waits] at first
  rw [gap_eq chosen waits, gap_eq left waits]
  split_ifs at first ⊢ <;> omega

end Rotation
