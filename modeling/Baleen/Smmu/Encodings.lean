import Baleen.Arm64.Vtcr
import Baleen.Smmu.Entry

/-!
# One regime in two registers

The stream table entry and the control register of the CPU encode a regime independently.  The
entry takes exactly the bindings it has room for, each encoding is read back as what it was made
of, and the two place the same bits.
-/

namespace Baleen.Smmu

open Arm64 (Stage2Regime StartLevel Granule VmidBits VtcrFields vtcrEl2 decodeVtcrEl2 vtcrWord
  vtcrWord_fields encodable_of_valid decodeVtcrEl2_vtcrEl2)

variable {b : Stage2Binding} {r : Stage2Regime}

/-- The bits of an address below what a level resolves, in pages of 4 KiB. -/
def bitsBelow (level : StartLevel) : Nat := 12 + 9 * (3 - level.number.toNat)

/-- The bytes of the table that a walk starts at; a small one takes a cache line. -/
def tableBytes (r : Stage2Regime) : Nat :=
  max 64 (8 * 2 ^ (r.ipaBits.toNat - bitsBelow r.startLevel))

/-- The binding as an entry can carry it: one table of 4 KiB pages resolves the input size, and
lies where the field can name it. -/
structure Representable (b : Stage2Binding) : Prop where
  granule : b.regime.granule = .k4
  page : 12 < b.regime.ipaBits.toNat
  small : b.regime.ipaBits.toNat ≤ 48
  above : bitsBelow b.regime.startLevel < b.regime.ipaBits.toNat
  below : b.regime.ipaBits.toNat ≤ bitsBelow b.regime.startLevel + 9
  shareability : b.regime.walkShareability.toNat < 4
  inner : b.regime.walkInner.toNat < 4
  outer : b.regime.walkOuter.toNat < 4
  fits : b.s2ttb.toNat < 2 ^ 52
  aligned : tableBytes b.regime ∣ b.s2ttb.toNat

theorem toNat_lower (k4 : r.granule = .k4) : r.lower.toNat = bitsBelow r.startLevel := by
  rw [Stage2Regime.lower, k4]
  cases r.startLevel <;> rfl

theorem toNat_span (level : StartLevel) : (level.span .k4).toNat = bitsBelow level + 9 := by
  cases level <;> rfl

theorem valid_iff (k4 : r.granule = .k4) : r.valid = true ↔
    12 < r.ipaBits.toNat ∧ r.ipaBits.toNat ≤ 48 ∧ bitsBelow r.startLevel < r.ipaBits.toNat ∧
      r.ipaBits.toNat ≤ bitsBelow r.startLevel + 9 ∧ r.walkShareability.toNat < 4 ∧
      r.walkInner.toNat < 4 ∧ r.walkOuter.toNat < 4 := by
  have page : Granule.k4.pageBits.toNat = 12 := rfl
  have largest : (48 : UInt32).toNat = 48 := rfl
  have three : (0b11 : UInt64).toNat = 3 := rfl
  simp only [Stage2Regime.valid, Bool.and_eq_true, decide_eq_true_eq, gt_iff_lt,
    UInt32.le_iff_toNat_le, UInt32.lt_iff_toNat_lt, UInt64.le_iff_toNat_le, toNat_lower k4, k4,
    toNat_span, page, largest, three]
  omega

theorem toNat_tableAlign (room : Fits r) : r.tableAlign.toNat = tableBytes r := by
  have above := room.above
  have below := room.below
  have entries : (r.ipaBits - r.lower).toNat = r.ipaBits.toNat - r.lower.toNat :=
    UInt32.toNat_sub_of_le _ _ (UInt32.le_iff_toNat_le.mpr above.le)
  obtain ⟨k, count⟩ : ∃ k : Fin 10, r.ipaBits - r.lower = UInt32.ofNat k :=
    ⟨⟨(r.ipaBits - r.lower).toNat, by omega⟩, UInt32.ofNat_toNat.symm⟩
  rw [Stage2Regime.tableAlign, tableBytes, ← toNat_lower room.granule, ← entries, count]
  clear count entries
  revert k
  decide

theorem shiftRight_52_eq_zero {a : UInt64} : a >>> 52 = 0 ↔ a.toNat < 2 ^ 52 := by
  have place : (52 : UInt64).toNat % 64 = 52 := rfl
  rw [← UInt64.toNat_inj, UInt64.toNat_shiftRight, place, Nat.shiftRight_eq_div_pow]
  exact Nat.div_eq_zero_iff_lt (Nat.two_pow_pos 52)

/-- The entry is encoded for exactly the bindings it can carry. -/
theorem stage2Ste_ok_iff : (∃ ste, stage2Ste b = .ok ste) ↔ Representable b := by
  have encodes : (∃ ste, stage2Ste b = .ok ste) ↔ b.regime.valid = true ∧ b.regime.granule = .k4 ∧
      b.s2ttb >>> 52 = 0 ∧ b.s2ttb % b.regime.tableAlign = 0 := by
    simp only [stage2Ste, Checks.seq_ok, Checks.require_ok, Checks.pure_ok]
    constructor
    · rintro ⟨ste, valid, k4, small, aligned, -⟩
      exact ⟨valid, k4, small, aligned⟩
    · rintro ⟨valid, k4, small, aligned⟩
      exact ⟨_, valid, k4, small, aligned, rfl⟩
  have multiple (room : Fits b.regime) :
      b.s2ttb % b.regime.tableAlign = 0 ↔ tableBytes b.regime ∣ b.s2ttb.toNat := by
    rw [← UInt64.toNat_inj, UInt64.toNat_mod, toNat_tableAlign room]
    exact (Nat.dvd_iff_mod_eq_zero).symm
  rw [encodes]
  constructor
  · rintro ⟨valid, k4, small, aligned⟩
    obtain ⟨page, largest, above, below, share, inner, outer⟩ := (valid_iff k4).mp valid
    exact ⟨k4, page, largest, above, below, share, inner, outer, shiftRight_52_eq_zero.mp small,
      (multiple (fits_of_valid valid k4)).mp aligned⟩
  · rintro ⟨k4, page, largest, above, below, share, inner, outer, fits, aligned⟩
    have valid := (valid_iff k4).mpr ⟨page, largest, above, below, share, inner, outer⟩
    exact ⟨valid, k4, shiftRight_52_eq_zero.mpr fits,
      (multiple (fits_of_valid valid k4)).mpr aligned⟩

theorem toNat_field (z : UInt64) {s k : UInt64} {n : Nat} (mask : k.toNat = 2 ^ n - 1)
    (small : s.toNat < 64) : ((z >>> s) &&& k).toNat = z.toNat / 2 ^ s.toNat % 2 ^ n := by
  rw [UInt64.toNat_and, UInt64.toNat_shiftRight, mask, Nat.and_two_pow_sub_one_eq_mod,
    Nat.mod_eq_of_lt small, Nat.shiftRight_eq_div_pow]

/-- Words that agree below a field, 32 bits up in the first, and in it, agree up to its end. -/
theorem agree_step {x y s s' k : UInt64} {m n : Nat}
    (low : x.toNat / 2 ^ 32 % 2 ^ m = y.toNat % 2 ^ m) (shift : s.toNat = 32 + m)
    (shift' : s'.toNat = m) (near : m < 32) (mask : k.toNat = 2 ^ n - 1)
    (field : (x >>> s) &&& k = (y >>> s') &&& k) :
    x.toNat / 2 ^ 32 % 2 ^ (m + n) = y.toNat % 2 ^ (m + n) := by
  have same := congrArg UInt64.toNat field
  rw [toNat_field x mask (by omega), toNat_field y mask (by omega), shift, shift',
    Nat.pow_add 2 32 m, ← Nat.div_div_eq_div_mul] at same
  rw [Nat.pow_add, Nat.mod_mul, Nat.mod_mul, low, same]

/-- The bits of the entry that control the walk are those of the register. -/
theorem steWord2_eq_vtcrWord (valid : b.regime.valid = true) (k4 : b.regime.granule = .k4)
    (bits : VmidBits) :
    (steWord2 b >>> 32) &&& (0x7ffff : UInt64) = vtcrWord b.regime bits &&& 0x7ffff := by
  obtain ⟨t0sz, sl0, inner, outer, share, ps, granule, -, -⟩ :=
    steWord2_fields (fits_of_valid valid k4)
  have fields := vtcrWord_fields (encodable_of_valid valid) bits
  have granule' : (vtcrWord b.regime bits >>> 14) &&& 0b11 = 0b00 := by
    rw [fields.tg0, k4]
    rfl
  have t0sz' : (vtcrWord b.regime bits >>> 0) &&& 0x3f = b.regime.t0sz := by
    rw [UInt64.shiftRight_zero]
    exact fields.t0sz
  have none : (steWord2 b).toNat / 2 ^ 32 % 2 ^ 0 = (vtcrWord b.regime bits).toNat % 2 ^ 0 := by
    rw [Nat.pow_zero, Nat.mod_one, Nat.mod_one]
  have upT0sz := agree_step none rfl rfl (by decide) rfl (t0sz.trans t0sz'.symm) (n := 6)
  have upSl0 := agree_step upT0sz rfl rfl (by decide) rfl (sl0.trans fields.sl0.symm) (n := 2)
  have upInner := agree_step upSl0 rfl rfl (by decide) rfl (inner.trans fields.inner.symm) (n := 2)
  have upOuter := agree_step upInner rfl rfl (by decide) rfl (outer.trans fields.outer.symm)
    (n := 2)
  have upShare := agree_step upOuter rfl rfl (by decide) rfl
    (share.trans fields.shareability.symm) (n := 2)
  have upGranule := agree_step upShare rfl rfl (by decide) rfl (granule.trans granule'.symm)
    (n := 2)
  have upSize := agree_step upGranule rfl rfl (by decide) rfl (ps.trans fields.ps.symm) (n := 3)
  have mask : (0x7ffff : UInt64).toNat = 2 ^ 19 - 1 := rfl
  have shift : (32 : UInt64).toNat < 64 := by decide
  apply UInt64.toNat_inj.mp
  rw [toNat_field _ mask shift, UInt64.toNat_and, mask, Nat.and_two_pow_sub_one_eq_mod]
  exact upSize

/-- The entry is written for exactly the bindings that it can carry and read back as what it was
written for, and so is the register; on the walk both say the same. -/
theorem regime_encodings_agree (b : Stage2Binding) :
    ((∃ ste, stage2Ste b = .ok ste) ↔ Representable b) ∧
      (∀ ste, stage2Ste b = .ok ste → decodeStage2Binding ste = some b) ∧
      (∀ r bits v, vtcrEl2 r bits = some v → decodeVtcrEl2 v = some (r, bits)) ∧
      ∀ ste bits v, stage2Ste b = .ok ste → vtcrEl2 b.regime bits = some v →
        (((ste[2]?).getD 0) >>> 32) &&& (0x7ffff : UInt64) = v &&& 0x7ffff := by
  refine ⟨stage2Ste_ok_iff, fun ste encoded => (stage2Ste_spec encoded).2.2,
    fun r bits v encoded => decodeVtcrEl2_vtcrEl2 encoded, fun ste bits v encoded encoded' => ?_⟩
  simp only [stage2Ste, Checks.seq_ok, Checks.require_ok, Checks.pure_ok] at encoded
  obtain ⟨valid, k4, -, -, rfl⟩ := encoded
  rw [vtcrEl2, valid] at encoded'
  cases encoded'
  exact steWord2_eq_vtcrWord valid k4 bits

/-- The regime that runs, for one table. -/
theorem regime_encodings_agree_deployed :
    let b : Stage2Binding := ⟨0x40000000, 1, Arm64.BALEEN_STAGE2⟩
    ∃ ste v, stage2Ste b = .ok ste ∧ vtcrEl2 b.regime .b8 = some v ∧ v = 0x80023559 ∧
      decodeStage2Binding ste = some b ∧ decodeVtcrEl2 v = some (b.regime, .b8) ∧
      (((ste[2]?).getD 0) >>> 32) &&& (0x7ffff : UInt64) = v &&& 0x7ffff := by
  intro b
  obtain ⟨exactly, back, register, same⟩ := regime_encodings_agree b
  have room : Representable b := by constructor <;> decide
  obtain ⟨ste, encoded⟩ := exactly.mpr room
  have value : vtcrEl2 b.regime .b8 = some 0x80023559 := by decide
  exact ⟨ste, _, encoded, value, rfl, back ste encoded, register _ _ _ value,
    same _ _ _ encoded value⟩

end Baleen.Smmu
