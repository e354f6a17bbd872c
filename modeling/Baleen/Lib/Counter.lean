import Mathlib.Data.UInt

/-!
# Counters

A counter is only ever raised.  Its exact value is a natural number, and the 64-bit word that holds
it shows that number modulo `2 ^ 64`.  Words add up as the counters do, whether they wrapped around
or not, and they compare as the counters do while the larger one fits.
-/

namespace Counter

variable {a b : Nat}

/-- What the word of a counter shows. -/
def word (count : Nat) : UInt64 := UInt64.ofNat count

@[simp] theorem word_zero : word 0 = 0 := rfl

@[simp] theorem word_one : word 1 = 1 := rfl

theorem word_add (a b : Nat) : word (a + b) = word a + word b := UInt64.ofNat_add a b

theorem toNat_word (small : a < 2 ^ 64) : (word a).toNat = a := UInt64.toNat_ofNat_of_lt' small

theorem word_ite {p : Prop} [Decidable p] (a b : Nat) :
    word (if p then a else b) = if p then word a else word b := apply_ite word p a b

theorem word_le (le : a ≤ b) (small : b < 2 ^ 64) : word a ≤ word b := by
  rw [UInt64.le_iff_toNat_le, toNat_word small, toNat_word (Nat.lt_of_le_of_lt le small)]
  exact le

theorem word_eq_zero (small : a < 2 ^ 64) : word a = 0 ↔ a = 0 := by
  rw [← UInt64.toNat_inj, toNat_word small]
  rfl

theorem word_sum {ι : Type} (count : ι → Nat) (items : List ι) :
    (items.map fun i => word (count i)).sum = word (items.map count).sum := by
  induction items with
  | nil => rfl
  | cons i rest ih => rw [List.map_cons, List.map_cons, List.sum_cons, List.sum_cons, word_add, ih]

end Counter
