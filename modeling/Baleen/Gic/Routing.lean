import Baleen.Lib.Bits
import Baleen.Gic.Widths
import Baleen.Gic.Mediation

/-!
# Which vCPUs an interrupt names

A guest names the targets of an SGI in the value it writes, and the one target of an SPI in a
register of its distributor.  Both are decoded from 64 bits that the guest chose, and both are
predicates of an affinity: the caller offers the affinities of the vCPUs that there are.
-/

namespace Baleen.Gic

namespace Sgi

def INTID_SHIFT : UInt64 := 24
def INTID_MASK : UInt64 := 0xf
def IRM_BIT : UInt64 := (1 : UInt64) <<< 47
def AFF1_SHIFT : UInt64 := 16
def AFF2_SHIFT : UInt64 := 32
def AFF3_SHIFT : UInt64 := 56
def AFF_BYTE : UInt64 := 0xff
def RS_SHIFT : UInt64 := 40
def RS_MASK : UInt64 := 0xf
def TARGET_LIST_MASK : UInt64 := 0xffff
def TARGETS_PER_RANGE : UInt64 := 16
def AFF0_MASK : UInt64 := 0xff

structure SgiTargets where
  intid : UInt32
  broadcast : Bool
  sender : UInt64
  cluster : UInt64
  rangeBase : UInt64
  list : UInt64
  deriving DecidableEq, Repr

def decode (value sender : UInt64) : SgiTargets :=
  let aff1 := (value >>> AFF1_SHIFT) &&& AFF_BYTE
  let aff2 := (value >>> AFF2_SHIFT) &&& AFF_BYTE
  let aff3 := (value >>> AFF3_SHIFT) &&& AFF_BYTE
  { intid := ((value >>> INTID_SHIFT) &&& INTID_MASK).toUInt32
    broadcast := value &&& IRM_BIT ≠ 0
    sender := sender
    cluster := aff1 <<< 8 ||| aff2 <<< 16 ||| aff3 <<< 24
    rangeBase := ((value >>> RS_SHIFT) &&& RS_MASK) * TARGETS_PER_RANGE
    list := value &&& TARGET_LIST_MASK }

def SgiTargets.targets (t : SgiTargets) (aff : UInt64) : Bool :=
  if t.broadcast then aff ≠ t.sender
  else if aff &&& ~~~AFF0_MASK ≠ t.cluster then false
  else
    let aff0 := aff &&& AFF0_MASK
    if aff0 < t.rangeBase ∨ aff0 ≥ t.rangeBase + TARGETS_PER_RANGE then false
    else t.list &&& ((1 : UInt64) <<< (aff0 - t.rangeBase)) ≠ 0

variable {value sender aff : UInt64}

theorem toNat_intid : (decode value sender).intid.toNat = value.toNat / 2 ^ 24 % 2 ^ 4 := by
  have mask : INTID_MASK.toNat = 2 ^ 4 - 1 := rfl
  have field : ((value >>> INTID_SHIFT) &&& INTID_MASK).toNat = value.toNat / 2 ^ 24 % 2 ^ 4 :=
    Bits.toNat_field (by decide) mask
  rw [decode, UInt64.toNat_toUInt32, field]
  omega

/-- An SGI is one of the first sixteen interrupts. -/
theorem intid_lt : (decode value sender).intid.toNat < 16 := by
  rw [toNat_intid]
  exact Nat.mod_lt _ (by decide)

theorem broadcast_iff : (decode value sender).broadcast = true ↔ value.toNat.testBit 47 = true := by
  rw [decode, decide_eq_true_iff]
  exact Bits.and_one_shift_ne_zero (n := 47) (by decide)

theorem toNat_cluster : (decode value sender).cluster.toNat =
    value.toNat / 2 ^ 16 % 2 ^ 8 * 2 ^ 8 + value.toNat / 2 ^ 32 % 2 ^ 8 * 2 ^ 16 +
      value.toNat / 2 ^ 56 % 2 ^ 8 * 2 ^ 24 := by
  have byte : AFF_BYTE.toNat = 2 ^ 8 - 1 := rfl
  have narrow : ∀ n, n % 2 ^ 8 < 2 ^ 8 := fun n => Nat.mod_lt _ (by decide)
  have aff1 : ((value >>> AFF1_SHIFT) &&& AFF_BYTE).toNat = value.toNat / 2 ^ 16 % 2 ^ 8 :=
    Bits.toNat_field (by decide) byte
  have aff2 : ((value >>> AFF2_SHIFT) &&& AFF_BYTE).toNat = value.toNat / 2 ^ 32 % 2 ^ 8 :=
    Bits.toNat_field (by decide) byte
  have aff3 : ((value >>> AFF3_SHIFT) &&& AFF_BYTE).toNat = value.toNat / 2 ^ 56 % 2 ^ 8 :=
    Bits.toNat_field (by decide) byte
  have first : (((value >>> AFF1_SHIFT) &&& AFF_BYTE) <<< 8).toNat =
      value.toNat / 2 ^ 16 % 2 ^ 8 * 2 ^ 8 := by
    have placed := Bits.toNat_or_shift (a := 0) (f := (value >>> AFF1_SHIFT) &&& AFF_BYTE) (s := 8)
      8 (by decide) (by decide) (by rw [aff1]; exact narrow _) (by decide)
    rw [UInt64.zero_or, aff1] at placed
    rw [placed]
    exact Nat.zero_add _
  have second : (((value >>> AFF1_SHIFT) &&& AFF_BYTE) <<< 8 |||
      ((value >>> AFF2_SHIFT) &&& AFF_BYTE) <<< 16).toNat =
      value.toNat / 2 ^ 16 % 2 ^ 8 * 2 ^ 8 + value.toNat / 2 ^ 32 % 2 ^ 8 * 2 ^ 16 := by
    rw [Bits.toNat_or_shift 8 (by decide) ?below (by rw [aff2]; exact narrow _) (by decide),
      first, aff2]
    · rfl
    case below =>
      have := narrow (value.toNat / 2 ^ 16)
      rw [first]
      change _ < 2 ^ 16
      omega
  rw [decode, Bits.toNat_or_shift 8 (by decide) ?below (by rw [aff3]; exact narrow _)
    (by decide), second, aff3]
  · rfl
  case below =>
    have := narrow (value.toNat / 2 ^ 16)
    have := narrow (value.toNat / 2 ^ 32)
    rw [second]
    change _ < 2 ^ 24
    omega

theorem toNat_rangeBase :
    (decode value sender).rangeBase.toNat = value.toNat / 2 ^ 40 % 2 ^ 4 * 16 := by
  have mask : RS_MASK.toNat = 2 ^ 4 - 1 := rfl
  have field : ((value >>> RS_SHIFT) &&& RS_MASK).toNat = value.toNat / 2 ^ 40 % 2 ^ 4 :=
    Bits.toNat_field (by decide) mask
  have small : value.toNat / 2 ^ 40 % 2 ^ 4 < 2 ^ 4 := Nat.mod_lt _ (by decide)
  rw [decode, UInt64.toNat_mul, field]
  change _ * 16 % 2 ^ 64 = _
  omega

/-- The bytes of an affinity are those that a value names, and its lowest is in the list. -/
structure Listed (value aff : Nat) : Prop where
  aff1 : aff / 2 ^ 8 % 2 ^ 8 = value / 2 ^ 16 % 2 ^ 8
  aff2 : aff / 2 ^ 16 % 2 ^ 8 = value / 2 ^ 32 % 2 ^ 8
  aff3 : aff / 2 ^ 24 = value / 2 ^ 56 % 2 ^ 8
  range : aff % 2 ^ 8 / 16 = value / 2 ^ 40 % 2 ^ 4
  list : value.testBit (aff % 16) = true

theorem cluster_iff : aff &&& ~~~AFF0_MASK = (decode value sender).cluster ↔
    aff.toNat / 2 ^ 8 % 2 ^ 8 = value.toNat / 2 ^ 16 % 2 ^ 8 ∧
      aff.toNat / 2 ^ 16 % 2 ^ 8 = value.toNat / 2 ^ 32 % 2 ^ 8 ∧
      aff.toNat / 2 ^ 24 = value.toNat / 2 ^ 56 % 2 ^ 8 := by
  have mask : (~~~AFF0_MASK).toNat = (2 ^ 56 - 1) * 2 ^ 8 := rfl
  have bound := aff.toNat_lt
  rw [← UInt64.toNat_inj, Bits.toNat_and_mask mask, toNat_cluster]
  omega

theorem targets_listed (single : (decode value sender).broadcast = false) :
    (decode value sender).targets aff = true ↔ Listed value.toNat aff.toNat := by
  have byte : AFF0_MASK.toNat = 2 ^ 8 - 1 := rfl
  have aff0 : (aff &&& AFF0_MASK).toNat = aff.toNat % 2 ^ 8 := by
    rw [UInt64.toNat_and, byte, Nat.and_two_pow_sub_one_eq_mod]
  have span : ((decode value sender).rangeBase + TARGETS_PER_RANGE).toNat =
      value.toNat / 2 ^ 40 % 2 ^ 4 * 16 + 16 := by
    rw [UInt64.toNat_add, toNat_rangeBase]
    change (_ + 16) % 2 ^ 64 = _
    omega
  rw [SgiTargets.targets, single, if_neg Bool.false_ne_true]
  by_cases named : aff &&& ~~~AFF0_MASK = (decode value sender).cluster
  case neg =>
    rw [if_pos named]
    refine ⟨nofun, fun listed => absurd ?_ named⟩
    exact cluster_iff.mpr ⟨listed.aff1, listed.aff2, listed.aff3⟩
  obtain ⟨aff1, aff2, aff3⟩ := cluster_iff.mp named
  rw [if_neg (not_not.mpr named)]
  dsimp only
  simp only [UInt64.lt_iff_toNat_lt, ge_iff_le, UInt64.le_iff_toNat_le, span, aff0, toNat_rangeBase]
  split_ifs with outside
  · refine ⟨nofun, fun listed => absurd listed.range ?_⟩
    omega
  · rw [not_or] at outside
    have low : aff.toNat % 16 < 16 := Nat.mod_lt _ (by decide)
    have position : (aff &&& AFF0_MASK) - (decode value sender).rangeBase =
        UInt64.ofNat (aff.toNat % 16) := by
      have above : (decode value sender).rangeBase ≤ aff &&& AFF0_MASK := by
        rw [UInt64.le_iff_toNat_le, toNat_rangeBase, aff0]
        omega
      apply UInt64.toNat_inj.mp
      rw [UInt64.toNat_sub_of_le _ _ above, aff0, toNat_rangeBase,
        UInt64.toNat_ofNat_of_lt' (show aff.toNat % 16 < 2 ^ 64 by omega)]
      omega
    have listMask : TARGET_LIST_MASK.toNat = 2 ^ 16 - 1 := rfl
    have bit : (value &&& TARGET_LIST_MASK).toNat.testBit (aff.toNat % 16) =
        value.toNat.testBit (aff.toNat % 16) := by
      rw [UInt64.toNat_and, listMask, Nat.and_two_pow_sub_one_eq_mod, Nat.testBit_mod_two_pow,
        decide_eq_true low, Bool.true_and]
    rw [position, decide_eq_true_iff]
    constructor
    · intro set
      refine ⟨aff1, aff2, aff3, ?_, bit.symm.trans ((Bits.and_one_shift_ne_zero (by omega)).mp set)⟩
      omega
    · intro listed
      exact (Bits.and_one_shift_ne_zero (by omega)).mpr (bit.trans listed.list)

/-- The meaning of a written value, for every affinity. -/
theorem targets_iff : (decode value sender).targets aff = true ↔
    if value.toNat.testBit 47 then aff ≠ sender else Listed value.toNat aff.toNat := by
  cases broadcast : (decode value sender).broadcast with
  | true =>
      rw [broadcast_iff.mp broadcast, if_pos rfl, SgiTargets.targets, broadcast, if_pos rfl,
        decide_eq_true_iff]
      rfl
  | false =>
      have single : value.toNat.testBit 47 = false := by
        rw [← Bool.not_eq_true, ← @broadcast_iff value sender, broadcast]
        exact Bool.false_ne_true
      rw [single, if_neg Bool.false_ne_true, targets_listed broadcast]

/-- What a value says of the vCPU with an index: its row of sixteen and its place in the row. -/
structure Names (value target : Nat) : Prop where
  cluster : value / 2 ^ 16 % 2 ^ 8 = 0 ∧ value / 2 ^ 32 % 2 ^ 8 = 0 ∧ value / 2 ^ 56 % 2 ^ 8 = 0
  row : value / 2 ^ 40 % 2 ^ 4 = target / 16
  place : value.testBit (target % 16) = true

theorem listed_iff_names {value target : Nat} (few : target < 256) :
    Listed value target ↔ Names value target := by
  constructor
  · rintro ⟨aff1, aff2, aff3, range, list⟩
    refine ⟨⟨?_, ?_, ?_⟩, ?_, list⟩ <;> omega
  · rintro ⟨⟨aff1, aff2, aff3⟩, row, place⟩
    refine ⟨?_, ?_, ?_, ?_, place⟩ <;> omega

theorem toNat_vcpuAffinity {v : Nat} (few : v < 256) : (vcpuAffinity v).toNat = v :=
  UInt64.toNat_ofNat_of_lt' (show v < 2 ^ 64 by omega)

theorem vcpuAffinity_inj {v w : Nat} (few : v < 256) (few' : w < 256) :
    vcpuAffinity v = vcpuAffinity w ↔ v = w := by
  rw [← UInt64.toNat_inj, toNat_vcpuAffinity few, toNat_vcpuAffinity few']

theorem targets_vcpu {s t : Nat} (few : s < 256) (few' : t < 256) :
    (decode value (vcpuAffinity s)).targets (vcpuAffinity t) = true ↔
      if value.toNat.testBit 47 then t ≠ s else Names value.toNat t := by
  rw [targets_iff]
  split_ifs
  · exact not_congr (vcpuAffinity_inj few' few)
  · rw [toNat_vcpuAffinity few', listed_iff_names few']

/-- The value that names an interrupt and places of a row. -/
def encode (intid row list : Nat) : UInt64 := UInt64.ofNat (list + intid * 2 ^ 24 + row * 2 ^ 40)

section Encode

variable {intid row list : Nat} (fifteen : intid < 16) (rows : row < 16) (places : list < 2 ^ 16)

include fifteen rows places

theorem toNat_encode : (encode intid row list).toNat = list + intid * 2 ^ 24 + row * 2 ^ 40 :=
  UInt64.toNat_ofNat_of_lt' (show list + intid * 2 ^ 24 + row * 2 ^ 40 < 2 ^ 64 by omega)

theorem testBit_encode {k : Nat} (low : k < 16) :
    (encode intid row list).toNat.testBit k = list.testBit k := by
  have whole : list + intid * 2 ^ 24 + row * 2 ^ 40 =
      2 ^ 16 * (intid * 2 ^ 8 + row * 2 ^ 24) + list := by omega
  rw [toNat_encode fifteen rows places, whole, Nat.testBit_two_pow_mul_add _ places, if_pos low]

theorem single_encode : (encode intid row list).toNat.testBit 47 = false := by
  apply Nat.testBit_lt_two_pow
  rw [toNat_encode fifteen rows places]
  omega

theorem names_encode {target : Nat} :
    Names (encode intid row list).toNat target ↔
      row = target / 16 ∧ list.testBit (target % 16) = true := by
  have low : target % 16 < 16 := Nat.mod_lt _ (by decide)
  have place := testBit_encode fifteen rows places low
  have whole := toNat_encode fifteen rows places
  constructor
  · rintro ⟨-, row', place'⟩
    refine ⟨?_, place ▸ place'⟩
    omega
  · rintro ⟨row', place'⟩
    refine ⟨⟨?_, ?_, ?_⟩, ?_, place.trans place'⟩ <;> omega

end Encode

/-- Every value names its interrupt and its vCPUs by its fields, and every interrupt and every
set of vCPUs of one row are named by some value. -/
theorem meaning (s : Nat) (few : s < 256) :
    (∀ value : UInt64,
      (decode value (vcpuAffinity s)).intid.toNat = value.toNat / 2 ^ 24 % 2 ^ 4 ∧
      ∀ t < 256, (decode value (vcpuAffinity s)).targets (vcpuAffinity t) = true ↔
        if value.toNat.testBit 47 then t ≠ s else Names value.toNat t) ∧
    ∀ intid < 16, ∀ row < 16, ∀ places < 2 ^ 16, ∃ value : UInt64,
      (decode value (vcpuAffinity s)).intid.toNat = intid ∧
      ∀ t < 256, (decode value (vcpuAffinity s)).targets (vcpuAffinity t) = true ↔
        t / 16 = row ∧ places.testBit (t % 16) = true := by
  constructor
  · intro value
    exact ⟨toNat_intid, fun t few' => targets_vcpu few few'⟩
  · intro intid fifteen row rows places small
    refine ⟨encode intid row places, ?_, fun t few' => ?_⟩
    · rw [toNat_intid, toNat_encode fifteen rows small]
      omega
    · rw [targets_vcpu few few', single_encode fifteen rows small, if_neg Bool.false_ne_true,
        names_encode fifteen rows small, eq_comm]

theorem meaning_boot : ∃ value : UInt64, ∀ t < 256,
    (decode value (vcpuAffinity 0)).targets (vcpuAffinity t) = true ↔
      t / 16 = 0 ∧ Nat.testBit 0b10 (t % 16) = true := by
  obtain ⟨-, complete⟩ := meaning 0 (by decide)
  obtain ⟨value, -, named⟩ := complete 2 (by decide) 0 (by decide) 0b10 (by decide)
  exact ⟨value, named⟩

end Sgi

namespace Irouter

def IRM_BIT : UInt64 := (1 : UInt64) <<< 31
def AFF_LOW_MASK : UInt64 := 0x00ffffff
def AFF3_SHIFT : UInt64 := 32
def AFF_BYTE : UInt64 := 0xff
def PACKED_AFF3_SHIFT : UInt64 := 24

structure SpiRoute where
  anyOfN : Bool
  affinity : UInt64
  deriving DecidableEq, Repr

def decode (value : UInt64) : SpiRoute where
  anyOfN := value &&& IRM_BIT ≠ 0
  affinity := (value &&& AFF_LOW_MASK) |||
    (((value >>> AFF3_SHIFT) &&& AFF_BYTE) <<< PACKED_AFF3_SHIFT)

def SpiRoute.targets (route : SpiRoute) (aff : UInt64) : Bool :=
  !route.anyOfN && aff == route.affinity

variable {value aff : UInt64}

theorem anyOfN_iff : (decode value).anyOfN = true ↔ value.toNat.testBit 31 = true := by
  rw [decode, decide_eq_true_iff]
  exact Bits.and_one_shift_ne_zero (n := 31) (by decide)

theorem toNat_affinity : (decode value).affinity.toNat =
    value.toNat % 2 ^ 24 + value.toNat / 2 ^ 32 % 2 ^ 8 * 2 ^ 24 := by
  have byte : AFF_BYTE.toNat = 2 ^ 8 - 1 := rfl
  have low : AFF_LOW_MASK.toNat = 2 ^ 24 - 1 := rfl
  have aff3 : ((value >>> AFF3_SHIFT) &&& AFF_BYTE).toNat = value.toNat / 2 ^ 32 % 2 ^ 8 :=
    Bits.toNat_field (by decide) byte
  have rest : (value &&& AFF_LOW_MASK).toNat = value.toNat % 2 ^ 24 := by
    rw [UInt64.toNat_and, low, Nat.and_two_pow_sub_one_eq_mod]
  rw [decode, Bits.toNat_or_shift 8 (by decide) ?below ?narrow (by decide), rest, aff3]
  · rfl
  case below =>
    rw [rest]
    exact Nat.mod_lt _ (by decide)
  case narrow =>
    rw [aff3]
    exact Nat.mod_lt _ (by decide)

/-- The meaning of a routing value, for every affinity. -/
theorem targets_iff : (decode value).targets aff = true ↔ value.toNat.testBit 31 = false ∧
    aff.toNat = value.toNat % 2 ^ 24 + value.toNat / 2 ^ 32 % 2 ^ 8 * 2 ^ 24 := by
  rw [SpiRoute.targets, Bool.and_eq_true, Bool.not_eq_true', ← Bool.not_eq_true, anyOfN_iff,
    Bool.not_eq_true, beq_iff_eq, ← UInt64.toNat_inj, toNat_affinity]

end Irouter

/-- The value that a write gives to the routing register of an SPI. -/
def GicLayout.reroutes (layout : GicLayout) (intid : UInt32) (w : Write) : Option UInt64 :=
  if 32 ≤ intid.toNat ∧ intid.toNat < 288 ∧ 0x6000 + 8 * intid.toNat < layout.gicdLen.toNat ∧
      layout.gicdBase.toNat + (0x6000 + 8 * intid.toNat) = w.ipa.toNat then
    some w.value
  else none

/-- What the last of the writes to the register wrote, if there is one. -/
def GicLayout.lastRouted (layout : GicLayout) (intid : UInt32) (writes : List Write) :
    Option UInt64 :=
  (writes.filterMap (layout.reroutes intid)).getLast?

/-- The vCPU of an affinity value, if it does not leave the choice open. -/
def routedTo (value : UInt64) : Option Nat :=
  if value.toNat.testBit 31 then none
  else some (value.toNat % 2 ^ 24 + value.toNat / 2 ^ 32 % 2 ^ 8 * 2 ^ 24)

theorem Irouter.targets_vcpu {value : UInt64} {v : Nat} (few : v < 256) :
    (Irouter.decode value).targets (vcpuAffinity v) = true ↔ routedTo value = some v := by
  rw [Irouter.targets_iff, Sgi.toNat_vcpuAffinity few, routedTo]
  cases value.toNat.testBit 31 with
  | true => simp
  | false => simp [eq_comm]

/-- The address of a routing register of the distributor. -/
theorem GicLayout.frameOf_router {layout : GicLayout} {vcpus : Nat} (ipa : UInt64) {place : Nat}
    (valid : layout.Valid vcpus) (few : vcpus ≤ 255) (small : place < 0x10000) :
    (∃ off, layout.frameOf ipa vcpus = some (.dist, off) ∧ off.toNat = place) ↔
      place < layout.gicdLen.toNat ∧ layout.gicdBase.toNat + place = ipa.toNat := by
  constructor
  · rintro ⟨off, decoded, rfl⟩
    obtain ⟨-, inside, start⟩ := (frameOf_eq_some valid few).mp decoded
    exact ⟨inside, start.symm⟩
  · rintro ⟨mapped, address⟩
    have offset : (UInt64.ofNat place).toNat = place :=
      UInt64.toNat_ofNat_of_lt' (show place < 2 ^ 64 by omega)
    refine ⟨_, (frameOf_eq_some valid few).mpr ?_, offset⟩
    rw [offset]
    exact ⟨trivial, mapped, address.symm⟩

namespace VirtGic

variable {vcpus : Nat} {g g' : VirtGic vcpus} {off value : UInt64} {intid : UInt32} {i : Nat}

def spiRoute (g : VirtGic vcpus) (intid : UInt32) : Option Irouter.SpiRoute :=
  let i := intid.toNat
  if FIRST_SPI ≤ i ∧ i < NUM_INTIDS then
    some (Irouter.decode (g.irouter[i - FIRST_SPI]?.getD 0))
  else none

theorem irouter_distBankWrite (g : VirtGic vcpus) (off value : UInt64) :
    (g.distBankWrite off value).2.irouter = g.irouter := by
  unfold distBankWrite distConfigWrite setEnabled
  dsimp only
  split
  · rfl
  · split
    · rfl
    · split
      · rfl
      · split
        · rfl
        · split
          · rfl
          · split
            · rfl
            · split <;> rfl

theorem irouter_distWrite (inside : i < 256) (g : VirtGic vcpus) (off value : UInt64) :
    (g.distWrite off value).2.irouter[i]? =
      if off.toNat = 0x6100 + 8 * i then some value else g.irouter[i]? := by
  have bounded : i < NUM_INTIDS - FIRST_SPI := inside
  unfold distWrite
  cases named : irouterIndex off with
  | some j =>
      obtain ⟨-, place⟩ := irouterIndex_eq_some.mp named
      dsimp only
      rw [Vector.getElem?_setIfInBounds]
      by_cases same : j = i
      · subst same
        rw [if_pos rfl, if_pos bounded, if_pos place]
      · have elsewhere : off.toNat ≠ 0x6100 + 8 * i := by omega
        rw [if_neg same, if_neg elsewhere]
  | none =>
      have elsewhere : off.toNat ≠ 0x6100 + 8 * i := by
        intro place
        rw [irouterIndex_eq_some.mpr ⟨inside, place⟩] at named
        cases named
      rw [if_neg elsewhere]
      dsimp only
      split
      · rfl
      · split
        · rfl
        · rw [irouter_distBankWrite]

theorem irouter_redistWrite (g : VirtGic vcpus) (n : Nat) (off : UInt64) (value : UInt32) :
    (g.redistWrite n off value).2.irouter = g.irouter := by
  unfold redistWrite setBank
  cases g.redist[n]? with
  | none => rfl
  | some bank =>
      dsimp only
      split_ifs <;> rfl

theorem irouter_sgiWrite (g : VirtGic vcpus) (n : Nat) (off : UInt64) (value : UInt32) :
    (g.sgiWrite n off value).2.irouter = g.irouter := by
  unfold sgiWrite setBank
  cases g.redist[n]? with
  | none => rfl
  | some bank =>
      dsimp only
      split_ifs <;> rfl

theorem irouter_frameWrite (inside : i < 256) (g : VirtGic vcpus) (frame : GicFrame)
    (off value : UInt64) : (g.frameWrite frame off value).2.irouter[i]? =
      if frame = .dist ∧ off.toNat = 0x6100 + 8 * i then some value else g.irouter[i]? := by
  cases frame with
  | dist => simp only [frameWrite, irouter_distWrite inside, true_and]
  | redist n => simp [frameWrite, irouter_redistWrite]
  | sgi n => simp [frameWrite, irouter_sgiWrite]

theorem irouter_mmioWrite (inside : i < 256) (g : VirtGic vcpus) (ipa size value : UInt64) :
    (g.mmioWrite ipa size value).2.irouter[i]? =
      match g.layout.frameOf ipa vcpus with
      | none => g.irouter[i]?
      | some (frame, off) =>
          if frame = .dist ∧ off.toNat = 0x6100 + 8 * i then some value else g.irouter[i]? := by
  unfold mmioWrite
  cases g.layout.frameOf ipa vcpus with
  | none => rfl
  | some place =>
      obtain ⟨frame, off⟩ := place
      have written := irouter_frameWrite inside g frame off value
      dsimp only
      cases result : g.frameWrite frame off value with
      | mk answer g' =>
          rw [result] at written
          cases answer with
          | some newly => exact written
          | none => exact written

theorem spiRoute_write {layout : GicLayout} (valid : layout.Valid vcpus) (few : vcpus ≤ 255)
    (own : g.layout = layout) (spi : 32 ≤ intid.toNat ∧ intid.toNat < 288) (w : Write) :
    (g.write w).2.spiRoute intid =
      ((layout.reroutes intid w).map Irouter.decode).or (g.spiRoute intid) := by
  subst own
  have inside : intid.toNat - 32 < 256 := by omega
  have spi' : FIRST_SPI ≤ intid.toNat ∧ intid.toNat < NUM_INTIDS := spi
  have index : 0x6100 + 8 * (intid.toNat - 32) = 0x6000 + 8 * intid.toNat := by omega
  have bounded : 0x6000 + 8 * intid.toNat < 0x10000 := by omega
  have home := GicLayout.frameOf_router w.ipa valid few bounded
  have word : (g.write w).2.irouter[intid.toNat - 32]? =
      (g.layout.reroutes intid w).or g.irouter[intid.toNat - 32]? := by
    by_cases addressed : ∃ off, g.layout.frameOf w.ipa vcpus = some (.dist, off) ∧
        off.toNat = 0x6000 + 8 * intid.toNat
    · obtain ⟨mapped, address⟩ := home.mp addressed
      obtain ⟨off, decoded, place⟩ := addressed
      rw [GicLayout.reroutes, if_pos ⟨spi.1, spi.2, mapped, address⟩, write,
        irouter_mmioWrite inside, decoded]
      exact if_pos ⟨rfl, place.trans index.symm⟩
    · have missed : ¬(32 ≤ intid.toNat ∧ intid.toNat < 288 ∧
          0x6000 + 8 * intid.toNat < g.layout.gicdLen.toNat ∧
          g.layout.gicdBase.toNat + (0x6000 + 8 * intid.toNat) = w.ipa.toNat) :=
        fun addressed' => addressed (home.mpr addressed'.2.2)
      rw [GicLayout.reroutes, if_neg missed, write, irouter_mmioWrite inside]
      cases decoded : g.layout.frameOf w.ipa vcpus with
      | none => rfl
      | some place =>
          obtain ⟨frame, off⟩ := place
          refine if_neg ?_
          rintro ⟨rfl, place⟩
          exact addressed ⟨off, decoded, place.trans index⟩
  rw [spiRoute, spiRoute, if_pos spi', if_pos spi']
  change some (Irouter.decode ((g.write w).2.irouter[intid.toNat - 32]?.getD 0)) = _
  rw [word]
  cases g.layout.reroutes intid w <;> rfl

theorem spiRoute_run {layout : GicLayout} (valid : layout.Valid vcpus) (few : vcpus ≤ 255)
    (spi : 32 ≤ intid.toNat ∧ intid.toNat < 288) (writes : List Write) :
    (run (new layout : VirtGic vcpus) writes).spiRoute intid =
      some (Irouter.decode ((layout.lastRouted intid writes).getD 0)) := by
  induction writes using List.reverseRecOn with
  | nil =>
      have spi' : FIRST_SPI ≤ intid.toNat ∧ intid.toNat < NUM_INTIDS := spi
      have bounded : intid.toNat - FIRST_SPI < NUM_INTIDS - FIRST_SPI := by omega
      change (new layout : VirtGic vcpus).spiRoute intid = _
      rw [spiRoute, if_pos spi', new, Vector.getElem?_replicate, if_pos bounded]
      rfl
  | append_singleton writes w ih =>
      have last : run (new layout : VirtGic vcpus) (writes ++ [w]) =
          ((run (new layout : VirtGic vcpus) writes).write w).2 := by
        simp only [run, List.foldl_append, List.foldl_cons, List.foldl_nil]
      have own := (run_spec valid few writes).1
      rw [last, spiRoute_write valid few own spi, ih, GicLayout.lastRouted, GicLayout.lastRouted,
        List.filterMap_append]
      cases named : layout.reroutes intid w with
      | none => simp [named]
      | some value => simp [named]

/-- Where an SPI goes is decided by the last write to its own register, and it names at most one
vCPU: the one whose affinity was written, nobody when the choice was left open, and the first one
as long as the guest has written nothing.  No other interrupt has a route. -/
theorem spiRoute_history {layout : GicLayout} (few : vcpus ≤ 255)
    (accepted : layout.validate vcpus = true) (writes : List Write) (intid : UInt32) :
    (32 ≤ intid.toNat ∧ intid.toNat < 288 → ∃ route,
      (run (new layout : VirtGic vcpus) writes).spiRoute intid = some route ∧
        ∀ v < vcpus, route.targets (vcpuAffinity v) = true ↔
          (layout.lastRouted intid writes).elim (some 0) routedTo = some v) ∧
    (¬(32 ≤ intid.toNat ∧ intid.toNat < 288) →
      (run (new layout : VirtGic vcpus) writes).spiRoute intid = none) := by
  have valid := GicLayout.valid_of_validate accepted
  constructor
  · intro spi
    refine ⟨_, spiRoute_run valid few spi writes, fun v inside => ?_⟩
    rw [Irouter.targets_vcpu (by omega)]
    cases layout.lastRouted intid writes with
    | some value => exact Iff.rfl
    | none =>
        have boot : routedTo 0 = some 0 := by decide
        exact Eq.congr_left boot
  · intro other
    exact if_neg other

theorem spiRoute_history_moved : ∃ route,
    (run (new ⟨0x08000000, 0x10000, 0x080a0000, 0x080e0000⟩ : VirtGic 2)
      [⟨0x08006108, 8, 1⟩]).spiRoute 33 = some route ∧
      route.targets (vcpuAffinity 1) = true ∧ ¬route.targets (vcpuAffinity 0) = true := by
  obtain ⟨routed, -⟩ := @spiRoute_history 2 ⟨0x08000000, 0x10000, 0x080a0000, 0x080e0000⟩
    (by decide) (by decide) [⟨0x08006108, 8, 1⟩] 33
  obtain ⟨route, found, named⟩ := routed (by decide)
  exact ⟨route, found, (named 1 (by decide)).mpr (by decide),
    fun named' => absurd ((named 0 (by decide)).mp named') (by decide)⟩

end VirtGic

end Baleen.Gic
