import Baleen.Smmu.Model

/-!
# Stream table entries read back

The entry written for a binding decodes to that binding, field by field.
-/

namespace Baleen.Smmu

open Arm64 (Stage2Regime StartLevel PaSize Granule)

variable {b : Stage2Binding}

/-- The parts of a regime that an entry has room for. -/
structure Fits (r : Stage2Regime) : Prop where
  granule : r.granule = .k4
  page : 12 < r.ipaBits.toNat
  small : r.ipaBits.toNat ≤ 48
  above : r.lower.toNat < r.ipaBits.toNat
  below : r.ipaBits.toNat ≤ r.lower.toNat + 9
  shareability : r.walkShareability.toNat < 2 ^ 2
  inner : r.walkInner.toNat < 2 ^ 2
  outer : r.walkOuter.toNat < 2 ^ 2

theorem fits_of_valid {r : Stage2Regime} (valid : r.valid = true) (k4 : r.granule = .k4) :
    Fits r := by
  simp only [Stage2Regime.valid, Bool.and_eq_true, decide_eq_true_eq, gt_iff_lt,
    UInt32.le_iff_toNat_le, UInt32.lt_iff_toNat_lt, UInt64.le_iff_toNat_le, k4] at valid
  obtain ⟨⟨⟨⟨⟨⟨small, page⟩, below⟩, above⟩, shareability⟩, inner⟩, outer⟩ := valid
  refine ⟨k4, page, small, above, ?_, Nat.lt_succ_of_le shareability, Nat.lt_succ_of_le inner,
    Nat.lt_succ_of_le outer⟩
  have lower : (r.startLevel.span .k4).toNat = r.lower.toNat + 9 := by
    rw [Stage2Regime.lower, k4]
    cases r.startLevel <;> rfl
  omega

/-- The fields of the third word, each beside the others. -/
theorem steWord2_fields (room : Fits b.regime) :
    (steWord2 b >>> STE2_S2T0SZ_SHIFT) &&& 0x3f = b.regime.t0sz ∧
      (steWord2 b >>> STE2_S2SL0_SHIFT) &&& 0b11 = b.regime.startLevel.sl0 ∧
      (steWord2 b >>> STE2_S2IR0_SHIFT) &&& 0b11 = b.regime.walkInner ∧
      (steWord2 b >>> STE2_S2OR0_SHIFT) &&& 0b11 = b.regime.walkOuter ∧
      (steWord2 b >>> STE2_S2SH0_SHIFT) &&& 0b11 = b.regime.walkShareability ∧
      (steWord2 b >>> STE2_S2PS_SHIFT) &&& 0b111 = b.regime.paSize.ps ∧
      (steWord2 b >>> STE2_S2TG_SHIFT) &&& 0b11 = 0b00 ∧ (steWord2 b >>> 51) &&& 0b1 = 0b1 ∧
      steWord2 b &&& STE2_S2VMID_MASK = b.vmid.toUInt64 &&& STE2_S2VMID_MASK := by
  have size : b.regime.t0sz.toNat < 2 ^ 6 := by
    have page := room.page
    rw [Stage2Regime.toNat_t0sz room.small]
    omega
  have vmid : Bits.Within (b.vmid.toUInt64 &&& STE2_S2VMID_MASK) 0xffff := by
    rw [Bits.Within, STE2_S2VMID_MASK, UInt64.and_assoc, UInt64.and_self]
  have confined : ∀ {f k : UInt64} {width : Nat} (s : UInt64), k.toNat = 2 ^ width - 1 →
      f.toNat < 2 ^ width → Bits.Within (f <<< s) (k <<< s) :=
    fun s mask small => Bits.within_shift (Bits.within_low mask small) s
  have t0sz := @confined b.regime.t0sz 0x3f 6 STE2_S2T0SZ_SHIFT rfl size
  have sl0 := @confined b.regime.startLevel.sl0 0b11 2 STE2_S2SL0_SHIFT rfl (StartLevel.sl0_lt _)
  have inner := @confined b.regime.walkInner 0b11 2 STE2_S2IR0_SHIFT rfl room.inner
  have outer := @confined b.regime.walkOuter 0b11 2 STE2_S2OR0_SHIFT rfl room.outer
  have share := @confined b.regime.walkShareability 0b11 2 STE2_S2SH0_SHIFT rfl room.shareability
  have ps := @confined b.regime.paSize.ps 0b111 3 STE2_S2PS_SHIFT rfl (PaSize.ps_lt _)
  have tg : Bits.Within ((0b00 : UInt64) <<< STE2_S2TG_SHIFT) 0 := by
    rw [Bits.Within]
    decide
  have flags : Bits.Within (STE2_S2AA64 ||| (STE2_S2PTW ||| STE2_S2R))
      (STE2_S2AA64 ||| (STE2_S2PTW ||| STE2_S2R)) := UInt64.and_self
  -- What lies above each field, from the last one down.
  have aboveShare := Bits.within_or tg (Bits.within_or ps flags)
  have aboveOuter := Bits.within_or share aboveShare
  have aboveInner := Bits.within_or outer aboveOuter
  have aboveSl0 := Bits.within_or inner aboveInner
  have aboveT0sz := Bits.within_or sl0 aboveSl0
  have belowSl0 := Bits.within_or vmid t0sz
  have belowInner := Bits.within_or belowSl0 sl0
  have belowOuter := Bits.within_or belowInner inner
  have belowShare := Bits.within_or belowOuter outer
  have belowPs := Bits.within_or (Bits.within_or belowShare share) tg
  refine ⟨?_, ?_, ?_, ?_, ?_, ?_, ?_, ?_, ?_⟩
  · exact Bits.read_field (by simp only [steWord2, UInt64.or_assoc]) vmid aboveT0sz (by decide)
      (by decide)
      rfl size (by decide) (by decide)
  · exact Bits.read_field (by simp only [steWord2, UInt64.or_assoc]) belowSl0 aboveSl0 (by decide)
      (by decide) rfl (StartLevel.sl0_lt _) (by decide) (by decide)
  · exact Bits.read_field (by simp only [steWord2, UInt64.or_assoc]) belowInner aboveInner
      (by decide)
      (by decide) rfl room.inner (by decide) (by decide)
  · exact Bits.read_field (by simp only [steWord2, UInt64.or_assoc]) belowOuter aboveOuter
      (by decide)
      (by decide) rfl room.outer (by decide) (by decide)
  · exact Bits.read_field (by simp only [steWord2, UInt64.or_assoc]) belowShare aboveShare
      (by decide)
      (by decide) rfl room.shareability (by decide) (by decide)
  · exact Bits.read_field (by simp only [steWord2, UInt64.or_assoc]) belowPs flags (by decide)
      (by decide)
      rfl (PaSize.ps_lt _) (by decide) (by decide)
  · exact @Bits.read_field _ _ 0b00 _ _ _ 0b11 STE2_S2TG_SHIFT 2
      (by simp only [steWord2, UInt64.or_assoc]) (Bits.within_or belowShare share)
      (Bits.within_or ps flags) (by decide) (by decide) rfl (by decide) (by decide) (by decide)
  · have rest : Bits.Within (STE2_S2PTW ||| STE2_S2R) (STE2_S2PTW ||| STE2_S2R) := UInt64.and_self
    exact @Bits.read_field _ _ 0b1 _ _ _ 0b1 51 1
      (by simp only [steWord2, STE2_S2AA64, UInt64.or_assoc])
      (Bits.within_or belowPs ps) rest (by decide) (by decide) rfl (by decide) (by decide)
      (by decide)
  · exact Bits.field_low (by simp only [steWord2, UInt64.or_assoc]) (Bits.within_or t0sz aboveT0sz)
      (by decide)

theorem decodeRegime_steWord2 (room : Fits b.regime) :
    decodeRegime (steWord2 b) = some b.regime := by
  obtain ⟨t0sz, sl0, inner, outer, share, ps, -⟩ := steWord2_fields room
  rw [decodeRegime, t0sz, sl0, inner, outer, share, ps, StartLevel.fromSl0_sl0, PaSize.fromPs_ps,
    Stage2Regime.sub_t0sz room.small, ← room.granule]

/-- The start-level table is aligned to at least a field's granularity. -/
theorem dvd_tableAlign {r : Stage2Regime} (room : Fits r) : 16 ∣ r.tableAlign.toNat := by
  have above := room.above
  have below := room.below
  have entries : (r.ipaBits - r.lower).toNat = r.ipaBits.toNat - r.lower.toNat :=
    UInt32.toNat_sub_of_le _ _ (UInt32.le_iff_toNat_le.mpr above.le)
  obtain ⟨k, few, count⟩ : ∃ k : Fin 10, 0 < k.val ∧ r.ipaBits - r.lower = UInt32.ofNat k := by
    refine ⟨⟨(r.ipaBits - r.lower).toNat, by omega⟩, by simp only; omega, ?_⟩
    exact UInt32.ofNat_toNat.symm
  rw [Stage2Regime.tableAlign, count]
  clear count entries
  revert k
  decide

theorem s2ttb_kept (room : Fits b.regime) (small : b.s2ttb >>> 52 = 0)
    (aligned : b.s2ttb % b.regime.tableAlign = 0) :
    b.s2ttb &&& STE3_S2TTB_MASK = b.s2ttb := by
  have mask : STE3_S2TTB_MASK.toNat = (2 ^ 48 - 1) * 2 ^ 4 := rfl
  have place : (52 : UInt64).toNat % 64 = 52 := rfl
  refine Bits.and_mask mask ?_ ?_
  · have multiple : b.regime.tableAlign.toNat ∣ b.s2ttb.toNat := by
      apply Nat.dvd_of_mod_eq_zero
      rw [← UInt64.toNat_mod, aligned]
      rfl
    exact (dvd_tableAlign room).trans multiple
  · have quotient := congrArg UInt64.toNat small
    rw [UInt64.toNat_shiftRight, place, Nat.shiftRight_eq_div_pow] at quotient
    exact (Nat.div_eq_zero_iff.mp quotient).resolve_left (by decide)

/-- What a successful encoding writes, and what it decodes to. -/
theorem stage2Ste_spec {ste : List UInt64} (encoded : stage2Ste b = .ok ste) :
    ste.length = STE_WORDS ∧ (decode ((ste[0]?).getD 0)) = .stage2Only ∧
      decodeStage2Binding ste = some b := by
  simp only [stage2Ste, Checks.seq_ok, Checks.require_ok, Checks.pure_ok] at encoded
  obtain ⟨valid, k4, small, aligned, rfl⟩ := encoded
  have room := fits_of_valid valid k4
  have verdict : decode (STE_V ||| (CONFIG_S2.toUInt64 <<< STE_CONFIG_SHIFT)) =
    .stage2Only := by decide
  obtain ⟨-, -, -, -, -, -, granule, format, vmid⟩ := steWord2_fields room
  refine ⟨rfl, verdict, ?_⟩
  have aarch64 : steWord2 b &&& STE2_S2AA64 ≠ 0 := by
    intro absent
    have shifted : (steWord2 b &&& STE2_S2AA64) >>> 51 = 0b1 := by
      rw [UInt64.shiftRight_and]
      exact format
    rw [absent] at shifted
    exact absurd shifted (by decide)
  have narrow : (steWord2 b &&& STE2_S2VMID_MASK).toUInt16 = b.vmid := by
    rw [vmid]
    apply UInt16.toNat_inj.mp
    have mask : STE2_S2VMID_MASK.toNat = 2 ^ 16 - 1 := rfl
    rw [UInt64.toNat_toUInt16, UInt64.toNat_and, UInt16.toNat_toUInt64, mask,
      Nat.and_two_pow_sub_one_eq_mod, Nat.mod_mod]
    exact Nat.mod_eq_of_lt b.vmid.toNat_lt
  rw [decodeStage2Binding]
  simp only [List.length_cons, List.length_nil, List.getElem?_cons_zero, List.getElem?_cons_succ,
    Option.getD_some, verdict, aarch64, granule, decodeRegime_steWord2 room, valid, narrow,
    s2ttb_kept room small aligned]
  rw [if_neg (by decide), if_neg (by simp), if_neg id, if_neg (by simp), if_pos trivial]

end Baleen.Smmu
