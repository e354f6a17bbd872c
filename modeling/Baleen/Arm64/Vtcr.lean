import Baleen.Arm64.Regime

/-!
# The control register of the CPU

The regime as `VTCR_EL2` encodes it, and as the register is read back.
-/

namespace Baleen.Arm64

namespace Granule

/-- The large granule comes before the middle one. -/
def tg0 : Granule → UInt64
  | .k4 => 0b00
  | .k64 => 0b01
  | .k16 => 0b10

def fromTg0 (v : UInt64) : Option Granule :=
  if v = 0b00 then some .k4
  else if v = 0b01 then some .k64
  else if v = 0b10 then some .k16
  else none

theorem tg0_lt (g : Granule) : g.tg0.toNat < 2 ^ 2 := by cases g <;> decide

theorem fromTg0_tg0 (g : Granule) : fromTg0 g.tg0 = some g := by cases g <;> rfl

end Granule

def VmidBits.vs : VmidBits → UInt64
  | .b8 => 0
  | .b16 => 1

theorem VmidBits.vs_lt (bits : VmidBits) : bits.vs.toNat < 2 ^ 1 := by cases bits <;> decide

def VTCR_RES1 : UInt64 := (1 : UInt64) <<< 31

/-- The register with its fields. -/
def vtcrWord (regime : Stage2Regime) (vmidBits : VmidBits) : UInt64 :=
  VTCR_RES1 ||| (regime.paSize.ps <<< 16) ||| (vmidBits.vs <<< 19) |||
    (regime.granule.tg0 <<< 14) |||
    (regime.walkShareability <<< 12) ||| (regime.walkOuter <<< 10) ||| (regime.walkInner <<< 8) |||
    (regime.startLevel.sl0 <<< 6) ||| regime.t0sz

def vtcrEl2 (regime : Stage2Regime) (vmidBits : VmidBits) : Option UInt64 :=
  if !regime.valid then none else some (vtcrWord regime vmidBits)

def decodeVtcrEl2 (v : UInt64) : Option (Stage2Regime × VmidBits) :=
  if v &&& VTCR_RES1 = 0 ∨ v &&& ((1 : UInt64) <<< 32) ≠ 0 then none
  else
    match Granule.fromTg0 ((v >>> 14) &&& 0b11), StartLevel.fromSl0 ((v >>> 6) &&& 0b11),
        PaSize.fromPs ((v >>> 16) &&& 0b111) with
    | some granule, some startLevel, some paSize =>
        let regime : Stage2Regime :=
          { granule := granule
            ipaBits := 64 - (v &&& 0x3f).toUInt32
            startLevel := startLevel
            paSize := paSize
            walkShareability := (v >>> 12) &&& 0b11
            walkOuter := (v >>> 10) &&& 0b11
            walkInner := (v >>> 8) &&& 0b11 }
        let vmidBits := if (v >>> 19) &&& 1 = 0 then VmidBits.b8 else VmidBits.b16
        if regime.valid then some (regime, vmidBits) else none
    | _, _, _ => none

/-- The parts of a regime that the register has room for. -/
structure Encodable (r : Stage2Regime) : Prop where
  page : 12 < r.ipaBits.toNat
  small : r.ipaBits.toNat ≤ 48
  shareability : r.walkShareability.toNat < 2 ^ 2
  inner : r.walkInner.toNat < 2 ^ 2
  outer : r.walkOuter.toNat < 2 ^ 2

theorem encodable_of_valid {r : Stage2Regime} (valid : r.valid = true) : Encodable r := by
  simp only [Stage2Regime.valid, Bool.and_eq_true, decide_eq_true_eq, gt_iff_lt,
    UInt32.le_iff_toNat_le, UInt32.lt_iff_toNat_lt, UInt64.le_iff_toNat_le] at valid
  obtain ⟨⟨⟨⟨⟨⟨small, page⟩, -⟩, -⟩, shareability⟩, inner⟩, outer⟩ := valid
  have least : 12 ≤ r.granule.pageBits.toNat := by cases r.granule <;> decide
  exact ⟨least.trans_lt page, small, Nat.lt_succ_of_le shareability, Nat.lt_succ_of_le inner,
    Nat.lt_succ_of_le outer⟩

theorem Encodable.t0sz_lt {r : Stage2Regime} (room : Encodable r) : r.t0sz.toNat < 2 ^ 6 := by
  have page := room.page
  rw [Stage2Regime.toNat_t0sz room.small]
  omega

/-- The fields of the register, each beside the others. -/
structure VtcrFields (r : Stage2Regime) (bits : VmidBits) (v : UInt64) : Prop where
  t0sz : v &&& 0x3f = r.t0sz
  sl0 : (v >>> 6) &&& 0b11 = r.startLevel.sl0
  inner : (v >>> 8) &&& 0b11 = r.walkInner
  outer : (v >>> 10) &&& 0b11 = r.walkOuter
  shareability : (v >>> 12) &&& 0b11 = r.walkShareability
  tg0 : (v >>> 14) &&& 0b11 = r.granule.tg0
  ps : (v >>> 16) &&& 0b111 = r.paSize.ps
  vs : (v >>> 19) &&& 0b1 = bits.vs
  res1 : (v >>> 31) &&& 0b1 = 0b1
  classic : v &&& ((1 : UInt64) <<< 32) = 0

theorem vtcrWord_fields {r : Stage2Regime} (room : Encodable r) (bits : VmidBits) :
    VtcrFields r bits (vtcrWord r bits) := by
  have confined : ∀ {f k : UInt64} {width : Nat} (s : UInt64), k.toNat = 2 ^ width - 1 →
      f.toNat < 2 ^ width → Bits.Within (f <<< s) (k <<< s) :=
    fun s mask small => Bits.within_shift (Bits.within_low mask small) s
  have flag : Bits.Within VTCR_RES1 VTCR_RES1 := UInt64.and_self
  have ps := @confined r.paSize.ps 0b111 3 16 rfl (PaSize.ps_lt _)
  have vs := @confined bits.vs 0b1 1 19 rfl (VmidBits.vs_lt _)
  have tg0 := @confined r.granule.tg0 0b11 2 14 rfl (Granule.tg0_lt _)
  have share := @confined r.walkShareability 0b11 2 12 rfl room.shareability
  have outer := @confined r.walkOuter 0b11 2 10 rfl room.outer
  have inner := @confined r.walkInner 0b11 2 8 rfl room.inner
  have sl0 := @confined r.startLevel.sl0 0b11 2 6 rfl (StartLevel.sl0_lt _)
  have t0sz : Bits.Within r.t0sz 0x3f := @Bits.within_low _ _ 6 rfl room.t0sz_lt
  -- What is written before each field, and what after it.
  have beforeVs := Bits.within_or flag ps
  have beforeTg0 := Bits.within_or beforeVs vs
  have beforeShare := Bits.within_or beforeTg0 tg0
  have beforeOuter := Bits.within_or beforeShare share
  have beforeInner := Bits.within_or beforeOuter outer
  have beforeSl0 := Bits.within_or beforeInner inner
  have beforeT0sz := Bits.within_or beforeSl0 sl0
  have afterInner := Bits.within_or sl0 t0sz
  have afterOuter := Bits.within_or inner afterInner
  have afterShare := Bits.within_or outer afterOuter
  have afterTg0 := Bits.within_or share afterShare
  have afterVs := Bits.within_or tg0 afterTg0
  have afterPs := Bits.within_or vs afterVs
  constructor
  · have split : vtcrWord r bits = (r.t0sz &&& (0x3f : UInt64)) |||
      (VTCR_RES1 ||| (r.paSize.ps <<< 16) |||
        (bits.vs <<< 19) ||| (r.granule.tg0 <<< 14) ||| (r.walkShareability <<< 12) |||
        (r.walkOuter <<< 10) ||| (r.walkInner <<< 8) ||| (r.startLevel.sl0 <<< 6)) := by
      have kept : r.t0sz &&& (0x3f : UInt64) = r.t0sz := t0sz
      rw [kept, UInt64.or_comm r.t0sz]
      rfl
    exact (Bits.field_low split beforeT0sz (by decide)).trans t0sz
  · exact Bits.read_field (by simp only [vtcrWord, UInt64.or_assoc]) beforeSl0 t0sz (by decide)
      (by decide) rfl (StartLevel.sl0_lt _) (by decide) (by decide)
  · exact Bits.read_field (by simp only [vtcrWord, UInt64.or_assoc]) beforeInner afterInner
      (by decide)
      (by decide) rfl room.inner (by decide) (by decide)
  · exact Bits.read_field (by simp only [vtcrWord, UInt64.or_assoc]) beforeOuter afterOuter
      (by decide)
      (by decide) rfl room.outer (by decide) (by decide)
  · exact Bits.read_field (by simp only [vtcrWord, UInt64.or_assoc]) beforeShare afterShare
      (by decide)
      (by decide) rfl room.shareability (by decide) (by decide)
  · exact Bits.read_field (by simp only [vtcrWord, UInt64.or_assoc]) beforeTg0 afterTg0 (by decide)
      (by decide) rfl (Granule.tg0_lt _) (by decide) (by decide)
  · exact Bits.read_field (by simp only [vtcrWord, UInt64.or_assoc]) flag afterPs (by decide)
      (by decide) rfl (PaSize.ps_lt _) (by decide) (by decide)
  · exact Bits.read_field (by simp only [vtcrWord, UInt64.or_assoc]) beforeVs afterVs (by decide)
      (by decide) rfl (VmidBits.vs_lt _) (by decide) (by decide)
  · have nothing : Bits.Within 0 0 := UInt64.and_self
    have split : vtcrWord r bits = (0 : UInt64) |||
      ((0b1 : UInt64) <<< 31 ||| (r.paSize.ps <<< 16 |||
        (bits.vs <<< 19 ||| (r.granule.tg0 <<< 14 ||| (r.walkShareability <<< 12 |||
          (r.walkOuter <<< 10 ||| (r.walkInner <<< 8 ||| (r.startLevel.sl0 <<< 6 |||
            r.t0sz)))))))) := by
      simp only [vtcrWord, VTCR_RES1, UInt64.or_assoc, UInt64.zero_or]
    exact @Bits.read_field _ _ 0b1 _ _ _ 0b1 31 1 split nothing (Bits.within_or ps afterPs)
      (by decide)
      (by decide) rfl (by decide) (by decide) (by decide)
  · have whole : Bits.Within (vtcrWord r bits) _ := Bits.within_or beforeT0sz t0sz
    rw [← whole, UInt64.and_assoc]
    exact UInt64.and_zero

theorem VtcrFields.has_res1 {r : Stage2Regime} {bits : VmidBits} {v : UInt64}
    (fields : VtcrFields r bits v) : v &&& VTCR_RES1 ≠ 0 := by
  intro absent
  have shifted : (v &&& VTCR_RES1) >>> 31 = 0b1 := by
    rw [UInt64.shiftRight_and]
    exact fields.res1
  rw [absent] at shifted
  exact absurd shifted (by decide)

/-- The register decodes to the regime and the width that it was made of. -/
theorem decodeVtcrEl2_vtcrEl2 {r : Stage2Regime} {bits : VmidBits} {v : UInt64}
    (encoded : vtcrEl2 r bits = some v) : decodeVtcrEl2 v = some (r, bits) := by
  unfold vtcrEl2 at encoded
  cases valid : r.valid with
  | false =>
      rw [valid] at encoded
      cases encoded
  | true =>
      rw [valid] at encoded
      cases encoded
      have room := encodable_of_valid valid
      have fields := vtcrWord_fields room bits
      have width : (if bits.vs = 0 then VmidBits.b8 else VmidBits.b16) = bits := by
        cases bits <;> rfl
      have present : ¬(vtcrWord r bits &&& VTCR_RES1 = 0 ∨
          vtcrWord r bits &&& ((1 : UInt64) <<< 32) ≠ 0) :=
        not_or.mpr ⟨fields.has_res1, fun set => set fields.classic⟩
      rw [decodeVtcrEl2, if_neg present]
      simp only [fields.t0sz, fields.sl0, fields.inner, fields.outer, fields.shareability,
        fields.tg0,
        fields.ps, fields.vs, Granule.fromTg0_tg0, StartLevel.fromSl0_sl0, PaSize.fromPs_ps,
        Stage2Regime.sub_t0sz room.small, width, valid, if_true]

end Baleen.Arm64
