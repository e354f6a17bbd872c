import Baleen.Lib.Bits

/-!
# The Stage-2 translation regime

The parameters under which a walker reads a table, shared by the CPU and by the devices.
-/

namespace Baleen.Arm64

inductive Granule where
  | k4
  | k16
  | k64
  deriving DecidableEq, Repr

namespace Granule

def pageBits : Granule → UInt32
  | .k4 => 12
  | .k16 => 14
  | .k64 => 16

def levelBits (g : Granule) : UInt32 := g.pageBits - 3

end Granule

inductive StartLevel where
  | l0
  | l1
  | l2
  | l3
  deriving DecidableEq, Repr

namespace StartLevel

def number : StartLevel → UInt32
  | .l0 => 0
  | .l1 => 1
  | .l2 => 2
  | .l3 => 3

def sl0 : StartLevel → UInt64
  | .l2 => 0b00
  | .l1 => 0b01
  | .l0 => 0b10
  | .l3 => 0b11

def fromSl0 (v : UInt64) : Option StartLevel :=
  if v = 0b00 then some .l2
  else if v = 0b01 then some .l1
  else if v = 0b10 then some .l0
  else if v = 0b11 then some .l3
  else none

theorem sl0_lt (level : StartLevel) : level.sl0.toNat < 2 ^ 2 := by cases level <;> decide

theorem fromSl0_sl0 (level : StartLevel) : fromSl0 level.sl0 = some level := by cases level <;> rfl

def span (level : StartLevel) (g : Granule) : UInt32 :=
  g.pageBits + (3 - level.number) * g.levelBits + g.levelBits

end StartLevel

inductive PaSize where
  | b32
  | b36
  | b40
  | b42
  | b44
  | b48
  | b52
  deriving DecidableEq, Repr

namespace PaSize

def ps : PaSize → UInt64
  | .b32 => 0b000
  | .b36 => 0b001
  | .b40 => 0b010
  | .b42 => 0b011
  | .b44 => 0b100
  | .b48 => 0b101
  | .b52 => 0b110

def fromPs (v : UInt64) : Option PaSize :=
  if v = 0b000 then some .b32
  else if v = 0b001 then some .b36
  else if v = 0b010 then some .b40
  else if v = 0b011 then some .b42
  else if v = 0b100 then some .b44
  else if v = 0b101 then some .b48
  else if v = 0b110 then some .b52
  else none

theorem ps_lt (size : PaSize) : size.ps.toNat < 2 ^ 3 := by cases size <;> decide

theorem fromPs_ps (size : PaSize) : fromPs size.ps = some size := by cases size <;> rfl

end PaSize

/-- How many bits of identifier the CPU tags its translations with. -/
inductive VmidBits where
  | b8
  | b16
  deriving DecidableEq, Repr

def VmidBits.count : VmidBits → UInt32
  | .b8 => (1 : UInt32) <<< 8
  | .b16 => (1 : UInt32) <<< 16

structure Stage2Regime where
  granule : Granule
  ipaBits : UInt32
  startLevel : StartLevel
  paSize : PaSize
  walkShareability : UInt64
  walkInner : UInt64
  walkOuter : UInt64
  deriving DecidableEq, Repr

namespace Stage2Regime

/-- The bits that the level below the start level resolves. -/
def lower (r : Stage2Regime) : UInt32 := r.startLevel.span r.granule - r.granule.levelBits

def valid (r : Stage2Regime) : Bool :=
  r.ipaBits ≤ 48 && r.ipaBits > r.granule.pageBits && r.ipaBits ≤ r.startLevel.span r.granule &&
    r.ipaBits > r.lower && r.walkShareability ≤ 0b11 && r.walkInner ≤ 0b11 && r.walkOuter ≤ 0b11

def t0sz (r : Stage2Regime) : UInt64 := 64 - r.ipaBits.toUInt64

theorem toNat_t0sz {r : Stage2Regime} (small : r.ipaBits.toNat ≤ 48) :
    r.t0sz.toNat = 64 - r.ipaBits.toNat := by
  have size : (64 : UInt64).toNat = 64 := rfl
  rw [t0sz, UInt64.toNat_sub_of_le _ _ (UInt64.le_iff_toNat_le.mpr ?_), UInt32.toNat_toUInt64, size]
  rw [UInt32.toNat_toUInt64, size]
  omega

/-- The size is read back from the shrink. -/
theorem sub_t0sz {r : Stage2Regime} (small : r.ipaBits.toNat ≤ 48) :
    64 - r.t0sz.toUInt32 = r.ipaBits := by
  have narrow : r.t0sz.toUInt32.toNat = 64 - r.ipaBits.toNat := by
    rw [UInt64.toNat_toUInt32, toNat_t0sz small]
    omega
  have size : (64 : UInt32).toNat = 64 := rfl
  apply UInt32.toNat_inj.mp
  rw [UInt32.toNat_sub_of_le _ _ (UInt32.le_iff_toNat_le.mpr ?_), narrow, size]
  · omega
  · rw [narrow, size]
    omega

def tableAlign (r : Stage2Regime) : UInt64 :=
  let size := ((1 : UInt64) <<< (r.ipaBits - r.lower).toUInt64) * 8
  if size < 64 then 64 else size

end Stage2Regime

def BALEEN_STAGE2 : Stage2Regime := ⟨.k4, 39, .l1, .b40, 0b11, 0b01, 0b01⟩

def BALEEN_VMID_BITS : VmidBits := .b8

def vttbr (l1Pa vmid : UInt64) : UInt64 := l1Pa ||| (vmid <<< 48)

def vttbrVmid (v : UInt64) (bits : VmidBits) : UInt16 :=
  ((v >>> 48).toUInt32 &&& (bits.count - 1)).toUInt16

end Baleen.Arm64
