import Baleen.Gic.Model

/-!
# Decoding an address

Which frame an address falls in, and which word of a bank an offset names, in terms of
natural numbers.  In a valid layout no sum wraps and the frames lie apart.
-/

namespace Baleen.Gic

variable {off base : UInt64} {count per w : Nat}

theorem wordIndex_eq_some (aligned : base.toNat % 4 = 0) (fits : base.toNat + 4 * count < 2 ^ 64) :
    wordIndex off base count = some w ↔ w < count ∧ off.toNat = base.toNat + 4 * w := by
  have small : (UInt64.ofNat count).toNat = count :=
    UInt64.toNat_ofNat_of_lt' (show count < 2 ^ 64 by omega)
  have scaled : (4 * UInt64.ofNat count).toNat = 4 * count := by
    rw [UInt64.toNat_mul, small]
    exact Nat.mod_eq_of_lt (show 4 * count < 2 ^ 64 by omega)
  have last : (base + 4 * UInt64.ofNat count).toNat = base.toNat + 4 * count := by
    rw [UInt64.toNat_add, scaled]
    exact Nat.mod_eq_of_lt fits
  have multiple : off % 4 ≠ 0 ↔ off.toNat % 4 ≠ 0 := by
    rw [ne_eq, ← UInt64.toNat_inj, UInt64.toNat_mod]
    rfl
  unfold wordIndex
  simp only [UInt64.lt_iff_toNat_lt, UInt64.le_iff_toNat_le, last, multiple]
  split_ifs with outside
  · simp only [false_iff]
    omega
  · rw [not_or, not_or, not_not] at outside
    have index : ((off - base) / 4).toNat = (off.toNat - base.toNat) / 4 := by
      rw [UInt64.toNat_div, UInt64.toNat_sub_of_le _ _ (UInt64.le_iff_toNat_le.mpr (by omega))]
      rfl
    rw [index, Option.some.injEq]
    omega

theorem distWord_eq_spi (aligned : base.toNat % 4 = 0) (fits : base.toNat + 4 * count < 2 ^ 64) :
    distWord off base count per = .spi w ↔
      FIRST_SPI / per ≤ w ∧ w < count ∧ off.toNat = base.toNat + 4 * w := by
  unfold distWord
  cases index : wordIndex off base count with
  | none =>
      simp only [reduceCtorEq, false_iff]
      rintro ⟨-, named⟩
      rw [(wordIndex_eq_some aligned fits).mpr named] at index
      cases index
  | some w' =>
      obtain ⟨inside, place⟩ := (wordIndex_eq_some aligned fits).mp index
      dsimp only
      split_ifs with shared
      · rw [DistWord.spi.injEq]
        omega
      · simp only [false_iff]
        omega

theorem distWord_eq_bankedRes0 (aligned : base.toNat % 4 = 0)
    (fits : base.toNat + 4 * count < 2 ^ 64) (banked : distWord off base count per = .bankedRes0) :
    ∃ w < FIRST_SPI / per, off.toNat = base.toNat + 4 * w := by
  unfold distWord at banked
  cases index : wordIndex off base count with
  | none => simp [index] at banked
  | some w =>
      obtain ⟨-, place⟩ := (wordIndex_eq_some aligned fits).mp index
      rw [index] at banked
      dsimp only at banked
      split_ifs at banked with shared
      exact ⟨w, Nat.lt_of_not_le shared, place⟩

theorem distWordIndex_eq_some (aligned : base.toNat % 4 = 0)
    (fits : base.toNat + 4 * count < 2 ^ 64) : distWordIndex off base count per = some w ↔
      FIRST_SPI / per ≤ w ∧ w < count ∧ off.toNat = base.toNat + 4 * w := by
  rw [← distWord_eq_spi aligned fits]
  unfold distWordIndex
  cases distWord off base count per <;> simp

/-- The offsets that the redistributors' registers have in the distributor. -/
def BANKED_OFFSETS : List Nat := [0x80, 0x100, 0x180, 0x200, 0x280, 0x300, 0x380, 0xc00, 0xc04]

theorem distBanks_spec : ∀ bank ∈ distBanks, bank.1.toNat % 4 = 0 ∧
    bank.1.toNat + 4 * bank.2.1 < 2 ^ 64 ∧
    ∀ w < FIRST_SPI / bank.2.2, bank.1.toNat + 4 * w ∈ BANKED_OFFSETS := by decide

theorem distBankedRes0_offset (banked : distBankedRes0 off = true) :
    off.toNat ∈ BANKED_OFFSETS ∨ (0x400 ≤ off.toNat ∧ off.toNat < 0x420) := by
  rw [distBankedRes0, Bool.or_eq_true] at banked
  rcases banked with bank | bytes
  · left
    rw [List.any_eq_true] at bank
    obtain ⟨⟨base, count, per⟩, member, res0⟩ := bank
    obtain ⟨aligned, fits, offsets⟩ := distBanks_spec _ member
    obtain ⟨w, small, place⟩ := distWord_eq_bankedRes0 aligned fits (of_decide_eq_true res0)
    rw [place]
    exact offsets w small
  · right
    rw [Bool.and_eq_true, decide_eq_true_iff, decide_eq_true_iff, UInt64.le_iff_toNat_le,
      UInt64.lt_iff_toNat_lt] at bytes
    exact bytes

theorem irouterIndex_offset {i : Nat} (named : irouterIndex off = some i) : 0x6100 ≤ off.toNat := by
  unfold irouterIndex at named
  simp only [UInt64.lt_iff_toNat_lt] at named
  split_ifs at named with outside
  rw [not_or] at outside
  exact Nat.le_of_not_lt outside.1

namespace GicLayout

variable {layout : GicLayout} {vcpus n : Nat} {ipa : UInt64}

/-- The sums of a valid layout, none of which wraps. -/
structure Valid (layout : GicLayout) (vcpus : Nat) : Prop where
  positive : 0 < vcpus
  ordered : layout.gicdBase.toNat + layout.gicdLen.toNat ≤ layout.gicrRdBase.toNat
  room : layout.gicrRdBase.toNat + vcpus * 0x20000 ≤ layout.gicrEnd.toNat

theorem valid_of_validate (accepted : layout.validate vcpus = true) : layout.Valid vcpus := by
  simp only [validate, Bool.and_eq_true, decide_eq_true_iff] at accepted
  obtain ⟨⟨⟨⟨⟨positive, -⟩, ordered⟩, -⟩, -⟩, room⟩ := accepted
  exact ⟨positive, ordered, room⟩

theorem inWindow_iff (valid : layout.Valid vcpus) : layout.inWindow ipa = true ↔
    (layout.gicdBase.toNat ≤ ipa.toNat ∧
        ipa.toNat < layout.gicdBase.toNat + layout.gicdLen.toNat) ∨
      (layout.gicrRdBase.toNat ≤ ipa.toNat ∧ ipa.toNat < layout.gicrEnd.toNat) := by
  have last : (layout.gicdBase + layout.gicdLen).toNat =
      layout.gicdBase.toNat + layout.gicdLen.toNat := by
    rw [UInt64.toNat_add]
    exact Nat.mod_eq_of_lt (valid.ordered.trans_lt layout.gicrRdBase.toNat_lt)
  simp only [inWindow, Bool.or_eq_true, Bool.and_eq_true, decide_eq_true_iff,
    UInt64.le_iff_toNat_le, UInt64.lt_iff_toNat_lt, last]

/-- Where a frame begins, and how many bytes it has. -/
def frameStart (layout : GicLayout) : GicFrame → Nat
  | .dist => layout.gicdBase.toNat
  | .redist n => layout.gicrRdBase.toNat + n * 0x20000
  | .sgi n => layout.gicrRdBase.toNat + n * 0x20000 + 0x10000

def frameSize (layout : GicLayout) : GicFrame → Nat
  | .dist => layout.gicdLen.toNat
  | .redist _ => 0x10000
  | .sgi _ => 0x10000

/-- The redistributors are those of the vCPUs. -/
def HasFrame (vcpus : Nat) : GicFrame → Prop
  | .dist => True
  | .redist n => n < vcpus
  | .sgi n => n < vcpus

theorem frameOf_eq_some (valid : layout.Valid vcpus) (few : vcpus ≤ 255) {frame : GicFrame} :
    layout.frameOf ipa vcpus = some (frame, off) ↔ HasFrame vcpus frame ∧
      off.toNat < layout.frameSize frame ∧ ipa.toNat = layout.frameStart frame + off.toNat := by
  have window := @inWindow_iff layout vcpus ipa valid
  obtain ⟨-, ordered, room⟩ := valid
  have count : (UInt64.ofNat vcpus).toNat = vcpus :=
    UInt64.toNat_ofNat_of_lt' (show vcpus < 2 ^ 64 by omega)
  unfold frameOf
  by_cases inside : layout.inWindow ipa = true
  case neg =>
    simp only [inside, Bool.not_false, if_true, reduceCtorEq, false_iff]
    rintro ⟨known, small, place⟩
    apply inside
    rw [window]
    cases frame <;> simp only [HasFrame, frameSize, frameStart] at known small place <;> omega
  have bounds := window.mp inside
  simp only [inside, Bool.not_true, Bool.false_eq_true, if_false]
  by_cases low : ipa < layout.gicrRdBase
  · rw [if_pos low, Option.some.injEq, Prod.mk.injEq]
    rw [UInt64.lt_iff_toNat_lt] at low
    have offset : (ipa - layout.gicdBase).toNat = ipa.toNat - layout.gicdBase.toNat :=
      UInt64.toNat_sub_of_le _ _ (UInt64.le_iff_toNat_le.mpr (by omega))
    rw [← UInt64.toNat_inj, offset]
    cases frame <;> simp only [HasFrame, frameSize, frameStart, reduceCtorEq, true_and, false_and,
      false_iff] <;> omega
  · rw [if_neg low]
    rw [UInt64.lt_iff_toNat_lt, Nat.not_lt] at low
    have start : (ipa - layout.gicrRdBase).toNat = ipa.toNat - layout.gicrRdBase.toNat :=
      UInt64.toNat_sub_of_le _ _ (UInt64.le_iff_toNat_le.mpr low)
    have index : ((ipa - layout.gicrRdBase) / (GICR_FRAMES * GICR_FRAME)).toNat =
        (ipa.toNat - layout.gicrRdBase.toNat) / 0x20000 := by
      rw [UInt64.toNat_div, start]
      rfl
    have within : ((ipa - layout.gicrRdBase) % (GICR_FRAMES * GICR_FRAME)).toNat =
        (ipa.toNat - layout.gicrRdBase.toNat) % 0x20000 := by
      rw [UInt64.toNat_mod, start]
      rfl
    have size : GICR_FRAME.toNat = 0x10000 := rfl
    simp only [UInt64.le_iff_toNat_le, UInt64.lt_iff_toNat_lt, count, index, within, size]
    split_ifs with past first
    · cases frame <;> simp only [HasFrame, frameSize, frameStart, false_iff] <;> omega
    · rw [Option.some.injEq, Prod.mk.injEq, ← UInt64.toNat_inj, within]
      cases frame <;>
        simp only [HasFrame, frameSize, frameStart, GicFrame.redist.injEq, reduceCtorEq,
        true_and, false_and, false_iff] <;> omega
    · have second : ((ipa - layout.gicrRdBase) % (GICR_FRAMES * GICR_FRAME) - GICR_FRAME).toNat =
          (ipa.toNat - layout.gicrRdBase.toNat) % 0x20000 - 0x10000 := by
        rw [UInt64.toNat_sub_of_le _ _ (UInt64.le_iff_toNat_le.mpr (by rw [within, size]; omega)),
          within, size]
      rw [Option.some.injEq, Prod.mk.injEq, ← UInt64.toNat_inj, second]
      cases frame <;> simp only [HasFrame, frameSize, frameStart, GicFrame.sgi.injEq, reduceCtorEq,
        true_and, false_and, false_iff] <;> omega

end GicLayout

end Baleen.Gic
