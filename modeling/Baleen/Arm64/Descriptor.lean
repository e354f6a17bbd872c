import Baleen.Lib.Bits
import Baleen.Stage2.LeafMap

/-!
# Stage-2 descriptor words

The words a 4 KiB-granule Stage-2 walker reads, and the two readings of them: the
attributes the encoder writes, and what a decoder recovers.
-/

namespace Baleen.Arm64

open Stage2 (Perm)

inductive MemoryType where
  | normalWbIsh
  | normalNonCacheable
  | deviceNGnRnE
  deriving DecidableEq, Repr

namespace MemoryType

def shareabilityBits : MemoryType → UInt64
  | .normalWbIsh => (0b11 : UInt64) <<< 8
  | .normalNonCacheable => (0b00 : UInt64) <<< 8
  | .deviceNGnRnE => (0b00 : UInt64) <<< 8

def memAttr : MemoryType → UInt64
  | .normalWbIsh => 0b1111
  | .normalNonCacheable => 0b0101
  | .deviceNGnRnE => 0b0000

def stage2LeafBits (t : MemoryType) : UInt64 := (t.memAttr <<< 2) ||| t.shareabilityBits

end MemoryType

namespace Desc

def TABLE : UInt64 := 0b11
def PAGE : UInt64 := 0b11
def BLOCK : UInt64 := 0b01
/-- The output address of a table or a page. -/
def ADDR_4K : UInt64 := 0x0000fffffffff000
/-- The output address of a 2 MiB block. -/
def ADDR_2M : UInt64 := 0x0000ffffffe00000
def AF : UInt64 := (1 : UInt64) <<< 10
def LEAF_COMMON : UInt64 := MemoryType.normalWbIsh.stage2LeafBits ||| AF
def S2AP_RW : UInt64 := (0b11 : UInt64) <<< 6
def S2AP_RO : UInt64 := (0b01 : UInt64) <<< 6
/-- Execute-never. -/
def XN : UInt64 := (1 : UInt64) <<< 54
def BLOCK_ROX : UInt64 := BLOCK ||| LEAF_COMMON ||| S2AP_RO
def PAGE_RW : UInt64 := PAGE ||| LEAF_COMMON ||| S2AP_RW ||| XN
def PAGE_RO : UInt64 := PAGE ||| LEAF_COMMON ||| S2AP_RO ||| XN
def PAGE_RX : UInt64 := PAGE ||| LEAF_COMMON ||| S2AP_RO
def BLOCK_RW : UInt64 := BLOCK ||| LEAF_COMMON ||| S2AP_RW ||| XN
def BLOCK_RO : UInt64 := BLOCK ||| LEAF_COMMON ||| S2AP_RO ||| XN
/-- The one writable and executable descriptor. -/
def BLOCK_RW_X : UInt64 := BLOCK ||| LEAF_COMMON ||| S2AP_RW
def BLOCK_RX : UInt64 := BLOCK ||| LEAF_COMMON ||| S2AP_RO
def BLOCK_DEVICE : UInt64 :=
  BLOCK ||| MemoryType.deviceNGnRnE.stage2LeafBits ||| AF ||| S2AP_RW ||| XN

end Desc

/-- What a leaf descriptor means: `perm` is its access, never `rx`. -/
structure Decoded where
  pa : UInt64
  perm : Perm
  xn : Bool
  deriving DecidableEq, Repr

structure DecodedDevice where
  pa : UInt64
  xn : Bool
  deriving DecidableEq, Repr

def leafAccessXn (perm : Perm) (wxExempt : Bool) : Perm × Bool :=
  match perm with
  | .ro => (.ro, true)
  | .rw => (.rw, !wxExempt)
  | .rx => (.ro, false)

def pageLeafAttrs : Perm → UInt64
  | .rw => Desc.PAGE_RW
  | .ro => Desc.PAGE_RO
  | .rx => Desc.PAGE_RX

def blockLeafAttrs (perm : Perm) (wxExempt : Bool) : UInt64 :=
  match perm, wxExempt with
  | .rw, false => Desc.BLOCK_RW
  | .rw, true => Desc.BLOCK_RW_X
  | .ro, _ => Desc.BLOCK_RO
  | .rx, _ => Desc.BLOCK_RX

def decodePerm (d : UInt64) : Option Perm :=
  if (d >>> 6) &&& 0b11 = 0b11 then some .rw
  else if (d >>> 6) &&& 0b11 = 0b01 then some .ro
  else none

/-- A leaf of the given type bits and output-address mask. -/
def decodeLeaf (type mask d : UInt64) : Option Decoded :=
  if d &&& 0b11 ≠ type then none
  else (decodePerm d).map fun perm => ⟨d &&& mask, perm, d &&& Desc.XN ≠ 0⟩

def decodePage (d : UInt64) : Option Decoded := decodeLeaf Desc.PAGE Desc.ADDR_4K d

def decodeBlock (d : UInt64) : Option Decoded := decodeLeaf Desc.BLOCK Desc.ADDR_2M d

def decodeTable (d : UInt64) : Option UInt64 :=
  if d &&& 0b11 ≠ Desc.TABLE then none else some (d &&& Desc.ADDR_4K)

def decodeDeviceBlock (d : UInt64) : Option DecodedDevice :=
  if d &&& 0b11 ≠ Desc.BLOCK then none
  else if (d >>> 2) &&& 0b1111 ≠ 0 then none
  else some ⟨d &&& Desc.ADDR_2M, d &&& Desc.XN ≠ 0⟩

@[simp] theorem decodeTable_zero : decodeTable 0 = none := by decide

@[simp] theorem decodeBlock_zero : decodeBlock 0 = none := by decide

@[simp] theorem decodePage_zero : decodePage 0 = none := by decide

@[simp] theorem decodeDeviceBlock_zero : decodeDeviceBlock 0 = none := by decide

/-- A word is at most one of a table and a block. -/
theorem decodeBlock_of_table {d pa : UInt64} (table : decodeTable d = some pa) :
    decodeBlock d = none := by
  simp only [decodeTable, ite_not] at table
  split_ifs at table with bits
  rw [decodeBlock, decodeLeaf, if_pos]
  rw [bits]
  decide

/-- The type bits, the access and the execute bit of a written word come from its attributes. -/
theorem decodeLeaf_word {type mask attrs a : UInt64} (bits : mask &&& 0b11 = 0)
    (access : (mask >>> 6) &&& 0b11 = 0) (execute : mask &&& Desc.XN = 0)
    (apart : attrs &&& mask = 0) :
    decodeLeaf type mask (a &&& mask ||| attrs) =
      if attrs &&& 0b11 ≠ type then none
      else (decodePerm attrs).map fun perm => ⟨a &&& mask, perm, attrs &&& Desc.XN ≠ 0⟩ := by
  simp only [decodeLeaf, decodePerm, Bits.attribute_field bits, Bits.attribute_field execute,
    Bits.attribute_shifted access, Bits.address_field apart]

theorem decodeTable_word (a : UInt64) :
    decodeTable (a &&& Desc.ADDR_4K ||| Desc.TABLE) = some (a &&& Desc.ADDR_4K) := by
  have bits : Desc.ADDR_4K &&& 0b11 = 0 := by decide
  have apart : Desc.TABLE &&& Desc.ADDR_4K = 0 := by decide
  rw [decodeTable, Bits.attribute_field bits, Bits.address_field apart]
  rfl

theorem decodePage_word (a : UInt64) (perm : Perm) :
    decodePage (a &&& Desc.ADDR_4K ||| pageLeafAttrs perm) =
      some ⟨a &&& Desc.ADDR_4K, (leafAccessXn perm false).1, (leafAccessXn perm false).2⟩ := by
  cases perm <;>
    exact (decodeLeaf_word (by decide) (by decide) (by decide) (by decide)).trans rfl

theorem decodeBlock_word (a : UInt64) (perm : Perm) (wxExempt : Bool) :
    decodeBlock (a &&& Desc.ADDR_2M ||| blockLeafAttrs perm wxExempt) =
      some ⟨a &&& Desc.ADDR_2M, (leafAccessXn perm wxExempt).1,
        (leafAccessXn perm wxExempt).2⟩ := by
  cases perm <;> cases wxExempt <;>
    exact (decodeLeaf_word (by decide) (by decide) (by decide) (by decide)).trans rfl

theorem decodeBlock_image (a : UInt64) :
    decodeBlock (a &&& Desc.ADDR_2M ||| Desc.BLOCK_ROX) = some ⟨a &&& Desc.ADDR_2M, .ro, false⟩ :=
  (decodeLeaf_word (by decide) (by decide) (by decide) (by decide)).trans rfl

theorem decodeBlock_device (a : UInt64) :
    decodeBlock (a &&& Desc.ADDR_2M ||| Desc.BLOCK_DEVICE) =
      some ⟨a &&& Desc.ADDR_2M, .rw, true⟩ :=
  (decodeLeaf_word (by decide) (by decide) (by decide) (by decide)).trans rfl

theorem decodeDeviceBlock_word (a : UInt64) :
    decodeDeviceBlock (a &&& Desc.ADDR_2M ||| Desc.BLOCK_DEVICE) =
      some ⟨a &&& Desc.ADDR_2M, true⟩ := by
  have bits : Desc.ADDR_2M &&& 0b11 = 0 := by decide
  have attributes : (Desc.ADDR_2M >>> 2) &&& 0b1111 = 0 := by decide
  have execute : Desc.ADDR_2M &&& Desc.XN = 0 := by decide
  have apart : Desc.BLOCK_DEVICE &&& Desc.ADDR_2M = 0 := by decide
  rw [decodeDeviceBlock, Bits.attribute_field bits, Bits.attribute_shifted attributes,
    Bits.attribute_field execute, Bits.address_field apart]
  rfl

end Baleen.Arm64
