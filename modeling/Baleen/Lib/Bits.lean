import Mathlib.Data.Nat.Bitwise
import Baleen.Lib.Words

/-!
# Bit fields of machine words

A descriptor packs an aligned address, cut out by a mask, with attribute bits outside
that mask.  Reading a field back is reading it from the half it lies in.
-/

namespace Bits

variable {a b t m k : UInt64}

theorem or_and (a b k : UInt64) : (a ||| b) &&& k = (a &&& k) ||| (b &&& k) := by
  apply UInt64.toBitVec_inj.mp
  simp only [UInt64.toBitVec_and, UInt64.toBitVec_or]
  exact BitVec.and_or_distrib_right

/-- A field outside the address is read from the attributes. -/
theorem attribute_field (apart : m &&& k = 0) : (a &&& m ||| t) &&& k = t &&& k := by
  rw [or_and, UInt64.and_assoc, apart, UInt64.and_zero, UInt64.zero_or]

theorem attribute_shifted {s : UInt64} (apart : (m >>> s) &&& k = 0) :
    ((a &&& m ||| t) >>> s) &&& k = (t >>> s) &&& k := by
  rw [UInt64.shiftRight_or, UInt64.shiftRight_and, attribute_field apart]

/-- The address is read back under its mask. -/
theorem address_field (apart : t &&& m = 0) : (a &&& m ||| t) &&& m = a &&& m := by
  rw [or_and, apart, UInt64.and_assoc, UInt64.and_self, UInt64.or_zero]

/-- Low bits and what lies above them do not meet. -/
theorem toNat_or_low {n : Nat} (aligned : 2 ^ n ∣ a.toNat) (low : m.toNat = 2 ^ n - 1) :
    (a ||| (b &&& m)).toNat = a.toNat + b.toNat % 2 ^ n := by
  obtain ⟨q, rows⟩ := aligned
  rw [UInt64.toNat_or, UInt64.toNat_and, low, Nat.and_two_pow_sub_one_eq_mod, rows,
    ← Nat.two_pow_add_eq_or_of_lt (Nat.mod_lt _ (Nat.two_pow_pos n))]

theorem and_shiftLeft (x y n : Nat) : x &&& (y <<< n) = ((x >>> n) &&& y) <<< n := by
  apply Nat.eq_of_testBit_eq
  intro i
  simp only [Nat.testBit_and, Nat.testBit_shiftLeft, Nat.testBit_shiftRight]
  by_cases low : n ≤ i
  · simp [low]
  · simp [low]

/-- A mask of `width` bits from bit `low` on. -/
theorem toNat_and_mask {low width : Nat} (mask : m.toNat = (2 ^ width - 1) * 2 ^ low) :
    (a &&& m).toNat = a.toNat / 2 ^ low % 2 ^ width * 2 ^ low := by
  rw [UInt64.toNat_and, mask, ← Nat.shiftLeft_eq, and_shiftLeft, Nat.and_two_pow_sub_one_eq_mod,
    Nat.shiftRight_eq_div_pow, Nat.shiftLeft_eq]

/-- The mask keeps what fits in it. -/
theorem and_mask {low width : Nat} (mask : m.toNat = (2 ^ width - 1) * 2 ^ low)
    (aligned : 2 ^ low ∣ a.toNat) (bounded : a.toNat < 2 ^ (low + width)) : a &&& m = a := by
  obtain ⟨q, rows⟩ := aligned
  have fits : q < 2 ^ width := by
    rw [rows, Nat.pow_add] at bounded
    exact Nat.lt_of_mul_lt_mul_left bounded
  apply UInt64.toNat_inj.mp
  rw [toNat_and_mask mask, rows, Nat.mul_div_cancel_left _ (Nat.two_pow_pos low),
    Nat.mod_eq_of_lt fits, Nat.mul_comm]

/-- The nine-bit index field of an address. -/
theorem toNat_index (a : UInt64) {s : UInt64} (small : s.toNat < 64) :
    ((a >>> s) &&& 0x1ff).toNat = a.toNat / 2 ^ s.toNat % 512 := by
  have mask : (0x1ff : UInt64).toNat = 2 ^ 9 - 1 := rfl
  rw [UInt64.toNat_and, UInt64.toNat_shiftRight, Nat.mod_eq_of_lt small, mask,
    Nat.and_two_pow_sub_one_eq_mod, Nat.shiftRight_eq_div_pow]

/-- A field of `width` bits from bit `s` on. -/
theorem toNat_field {width : Nat} {s : UInt64} (small : s.toNat < 64)
    (mask : k.toNat = 2 ^ width - 1) :
    ((a >>> s) &&& k).toNat = a.toNat / 2 ^ s.toNat % 2 ^ width := by
  rw [UInt64.toNat_and, UInt64.toNat_shiftRight, Nat.mod_eq_of_lt small, mask,
    Nat.and_two_pow_sub_one_eq_mod, Nat.shiftRight_eq_div_pow]

/-- A field that is shifted to its place above the low ones. -/
theorem toNat_or_shift {f s : UInt64} (width : Nat) (small : s.toNat < 64)
    (below : a.toNat < 2 ^ s.toNat) (narrow : f.toNat < 2 ^ width)
    (fits : s.toNat + width ≤ 64) :
    (a ||| f <<< s).toNat = a.toNat + f.toNat * 2 ^ s.toNat := by
  have room : f.toNat * 2 ^ s.toNat < 2 ^ 64 := by
    calc f.toNat * 2 ^ s.toNat < 2 ^ width * 2 ^ s.toNat :=
          Nat.mul_lt_mul_of_pos_right narrow (Nat.two_pow_pos _)
      _ = 2 ^ (s.toNat + width) := by rw [← Nat.pow_add, Nat.add_comm]
      _ ≤ 2 ^ 64 := Nat.pow_le_pow_right (by decide) fits
  rw [UInt64.toNat_or, UInt64.toNat_shiftLeft, Nat.mod_eq_of_lt small, Nat.shiftLeft_eq,
    Nat.mod_eq_of_lt room, Nat.or_comm, ← Nat.shiftLeft_eq, ← Nat.shiftLeft_add_eq_or_of_lt below,
    Nat.shiftLeft_eq, Nat.add_comm]

theorem and_one_shift_ne_zero {n : Nat} (small : n < 64) :
    a &&& (1 : UInt64) <<< UInt64.ofNat n ≠ 0 ↔ a.toNat.testBit n = true := by
  have position : ((1 : UInt64) <<< UInt64.ofNat n).toNat = 2 ^ n := by
    rw [UInt64.toNat_shiftLeft, UInt64.toNat_ofNat_of_lt' (show n < 2 ^ 64 by omega),
      Nat.mod_eq_of_lt small]
    change 1 <<< n % 2 ^ 64 = 2 ^ n
    rw [Nat.one_shiftLeft]
    exact Nat.mod_eq_of_lt (Nat.pow_lt_pow_right (by decide) small)
  rw [ne_eq, ← UInt64.toNat_inj, UInt64.toNat_and, position, Nat.and_two_pow]
  cases a.toNat.testBit n <;> simp

/-- A value confined to a mask. -/
def Within (p m : UInt64) : Prop := p &&& m = p

theorem within_or {p q m n : UInt64} (left : Within p m) (right : Within q n) :
    Within (p ||| q) (m ||| n) := by
  have absorb : ∀ x y z : UInt64, x &&& y = x → x &&& (y ||| z) = x := by
    intro x y z kept
    apply UInt64.toBitVec_inj.mp
    have kept := UInt64.toBitVec_inj.mpr kept
    simp only [UInt64.toBitVec_and, UInt64.toBitVec_or] at kept ⊢
    rw [BitVec.and_or_distrib_left, kept]
    ext i inside
    simp only [BitVec.getElem_or, BitVec.getElem_and]
    cases x.toBitVec[i] <;> rfl
  rw [Within, or_and, absorb p m n left, UInt64.or_comm m n, absorb q n m right]

theorem within_shift {f : UInt64} (confined : Within f k) (s : UInt64) :
    Within (f <<< s) (k <<< s) := by
  rw [Within, ← UInt64.shiftLeft_and, confined]

/-- A value confined elsewhere does not show in a field. -/
theorem Within.silent {p s : UInt64} (confined : Within p m) (apart : (m >>> s) &&& k = 0) :
    (p >>> s) &&& k = 0 := by
  rw [← confined, UInt64.shiftRight_and, UInt64.and_assoc, apart, UInt64.and_zero]

/-- One field of a word, read from between what lies below and above it. -/
theorem field_between {low p high n s : UInt64} (below : Within low m) (above : Within high n)
    (apartLow : (m >>> s) &&& k = 0) (apartHigh : (n >>> s) &&& k = 0) :
    ((low ||| (p ||| high)) >>> s) &&& k = (p >>> s) &&& k := by
  rw [UInt64.shiftRight_or, UInt64.shiftRight_or, or_and, or_and, below.silent apartLow,
    above.silent apartHigh, UInt64.zero_or, UInt64.or_zero]

/-- The lowest field of a word. -/
theorem field_low {w p rest : UInt64} (split : w = (p &&& k) ||| rest) (others : Within rest m)
    (apart : m &&& k = 0) : w &&& k = p &&& k := by
  have silent : rest &&& k = 0 := by rw [← others, UInt64.and_assoc, apart, UInt64.and_zero]
  rw [split, or_and, silent, UInt64.or_zero, UInt64.and_assoc, UInt64.and_self]

theorem within_low {f : UInt64} {width : Nat} (mask : m.toNat = 2 ^ width - 1)
    (small : f.toNat < 2 ^ width) : Within f m := by
  have whole : m.toNat = (2 ^ width - 1) * 2 ^ 0 := by rw [mask, Nat.pow_zero, Nat.mul_one]
  refine and_mask whole (Nat.one_dvd _) ?_
  rwa [Nat.zero_add]

/-- A value that is not shifted out comes back. -/
theorem shift_back {f s : UInt64} (small : s.toNat < 64) (fits : f.toNat * 2 ^ s.toNat < 2 ^ 64) :
    (f <<< s) >>> s = f := by
  apply UInt64.toNat_inj.mp
  rw [UInt64.toNat_shiftRight, UInt64.toNat_shiftLeft, Nat.mod_eq_of_lt small, Nat.shiftLeft_eq,
    Nat.mod_eq_of_lt fits, Nat.shiftRight_eq_div_pow, Nat.mul_div_cancel _ (Nat.two_pow_pos _)]

/-- A value is read back from its own place. -/
theorem field_shift {f k s : UInt64} {width : Nat} (mask : k.toNat = 2 ^ width - 1)
    (small : f.toNat < 2 ^ width) (place : s.toNat + width ≤ 64) (inside : s.toNat < 64) :
    ((f <<< s) >>> s) &&& k = f := by
  have fits : f.toNat * 2 ^ s.toNat < 2 ^ 64 := by
    calc f.toNat * 2 ^ s.toNat < 2 ^ width * 2 ^ s.toNat :=
          Nat.mul_lt_mul_of_pos_right small (Nat.two_pow_pos _)
      _ = 2 ^ (width + s.toNat) := (Nat.pow_add ..).symm
      _ ≤ 2 ^ 64 := Nat.pow_le_pow_right (by decide) (by omega)
  rw [shift_back inside fits]
  exact within_low mask small

/-- A value is read back from its own place between the others. -/
theorem read_field {w low p high m n k s : UInt64} {width : Nat}
    (split : w = low ||| (p <<< s ||| high)) (below : Within low m) (above : Within high n)
    (apartLow : (m >>> s) &&& k = 0) (apartHigh : (n >>> s) &&& k = 0)
    (mask : k.toNat = 2 ^ width - 1) (small : p.toNat < 2 ^ width) (place : s.toNat + width ≤ 64)
    (inside : s.toNat < 64) : (w >>> s) &&& k = p := by
  rw [split, field_between below above apartLow apartHigh]
  exact field_shift mask small place inside

/-- Clearing bits leaves a field that they do not reach. -/
theorem kept_field {s : UInt64} (kept : (m >>> s) &&& k = k) :
    ((a &&& m) >>> s) &&& k = (a >>> s) &&& k := by
  rw [UInt64.shiftRight_and, UInt64.and_assoc, kept]

theorem Within.apart {p : UInt64} (confined : Within p m) (apart : m &&& k = 0) : p &&& k = 0 := by
  rw [← confined, UInt64.and_assoc, apart, UInt64.and_zero]

/-- Clearing a mask takes away what was confined to it. -/
theorem clear_or {p q : UInt64} (outside : p &&& m = 0) (confined : Within q m) :
    (p ||| q) &&& ~~~m = p := by
  have cleared : q &&& ~~~m = 0 := by
    rw [← confined, UInt64.and_assoc, UInt64.and_not_self, UInt64.and_zero]
  calc (p ||| q) &&& ~~~m = p &&& ~~~m := by rw [or_and, cleared, UInt64.or_zero]
    _ = p &&& m ||| p &&& ~~~m := by rw [outside, UInt64.zero_or]
    _ = (m ||| ~~~m) &&& p := by rw [or_and, UInt64.and_comm m, UInt64.and_comm (~~~m)]
    _ = p := by rw [UInt64.or_not_self, UInt64.neg_one_and]

theorem getLsbD_clear {i : Nat} (inside : i < 64) :
    (a &&& ~~~m).toBitVec.getLsbD i = (a.toBitVec.getLsbD i && !m.toBitVec.getLsbD i) := by
  rw [UInt64.toBitVec_and, UInt64.toBitVec_not, BitVec.getLsbD_and, BitVec.getLsbD_not,
    decide_eq_true inside, Bool.true_and]

end Bits
