import Baleen.Lib.Checks
import Baleen.Arm64.Descriptor
import Baleen.Stage2.Check

/-!
# Where the tables live and what they map

The physical facts the encoder is given, and the structural conditions under which the
descriptors it writes and the addresses a walker computes describe the same mapping.
Addresses are 64-bit words: sums and products wrap as they do in the source.
-/

namespace Baleen.Arm64

open Stage2 (Perm TABLE_ENTRIES)

structure Layout where
  l1Pa : UInt64
  l2CodePa : UInt64
  l2DataPa : UInt64
  l3DataPa : UInt64
  l2SupPa : UInt64
  l2DevPa : UInt64
  guestImagePa : Option UInt64
  dataIpaBase : UInt64
  dataPaBase : UInt64
  frameSize : UInt64
  supIpaBase : UInt64
  supPaBase : UInt64
  deviceBase : UInt64
  /-- No device window when zero. -/
  deviceLen : UInt64
  /-- Whether a writable super leaf is emitted executable. -/
  supWxExempt : Bool
  supFrames : UInt64
  deriving DecidableEq, Repr

def BLOCK_SIZE : UInt64 := 0x200000

def PAGE_SIZE : UInt64 := BLOCK_SIZE / UInt64.ofNat TABLE_ENTRIES

def L1_ENTRY_SIZE : UInt64 := BLOCK_SIZE * UInt64.ofNat TABLE_ENTRIES

def ADDRESSABLE : UInt64 := L1_ENTRY_SIZE * UInt64.ofNat TABLE_ENTRIES

def MAX_TABLE_PA : UInt64 := (1 : UInt64) <<< 48

def frameAddr (base frameSize : UInt64) (m : UInt32) : UInt64 := base + m.toUInt64 * frameSize

/-- The nine index bits of an address from bit `shift` on. -/
def indexOf (shift a : UInt64) : Nat := ((a >>> shift) &&& 0x1ff).toNat

inductive EncodingViolation where
  | regionsCollide (l1Index : Nat)
  | windowsOverlap (space : String)
  | deviceWindowUnaligned (base len : UInt64)
  | windowUnaligned (window : String) (base align : UInt64)
  | regionCrossesL1 (l1Index : Nat) (span : UInt64)
  | tableUnnameable (table : String) (pa : UInt64)
  | granuleNotEmitted (frameSize : UInt64)
  | badDeviceBlock (index : Nat) (desc : UInt64)
  | badTableEntry (table : String) (index : Nat) (found : Option UInt64) (expected : UInt64)
  | badImageBlock (found : Option Decoded) (expectedPa : UInt64)
  | badLeaf (mfn : UInt32) (found : Option Decoded) (expected : Option (UInt64 × Perm))
  | spuriousDescriptor (table : String) (index : Nat) (desc : UInt64)
  deriving DecidableEq, Repr

structure Region where
  l1Index : Nat
  ipa : UInt64
  pa : UInt64
  span : UInt64
  deriving DecidableEq, Repr

namespace Layout

def superSize (l : Layout) : UInt64 := UInt64.ofNat TABLE_ENTRIES * l.frameSize

def superPa (l : Layout) (m : UInt32) : UInt64 := frameAddr l.supPaBase l.superSize m

def superIpa (l : Layout) (m : UInt32) : UInt64 := frameAddr l.supIpaBase l.superSize m

def framePa (l : Layout) (m : UInt32) : UInt64 := frameAddr l.dataPaBase l.frameSize m

def codeL1 (l : Layout) : Option Nat := l.guestImagePa.map (indexOf 30)

def codeL2 (l : Layout) : Option Nat := l.guestImagePa.map (indexOf 21)

def dataL1 (l : Layout) : Nat := indexOf 30 l.dataIpaBase

def dataL2 (l : Layout) : Nat := indexOf 21 l.dataIpaBase

def supL1 (l : Layout) : Nat := indexOf 30 l.supIpaBase

def devL1 (l : Layout) : Option Nat :=
  if 0 < l.deviceLen then some (indexOf 30 l.deviceBase) else none

def aligned (window : String) (base align : UInt64) : Except EncodingViolation Unit :=
  Checks.require (base % align = 0) (.windowUnaligned window base align)

def nameable (table : String) (pa : UInt64) : Except EncodingViolation Unit :=
  Checks.require (pa < MAX_TABLE_PA ∧ pa % PAGE_SIZE = 0) (.tableUnnameable table pa)

def imageRegion (l : Layout) : Option Region :=
  l.guestImagePa.map fun pa => ⟨indexOf 30 pa, pa, pa, BLOCK_SIZE⟩

def dataRegion (l : Layout) : Region :=
  ⟨l.dataL1, l.dataIpaBase, l.dataPaBase, UInt64.ofNat TABLE_ENTRIES * l.frameSize⟩

def supRegion (l : Layout) : Region :=
  ⟨l.supL1, l.supIpaBase, l.supPaBase, l.supFrames * l.superSize⟩

def devRegion (l : Layout) : Option Region :=
  l.devL1.map fun l1 => ⟨l1, l.deviceBase, l.deviceBase, l.deviceLen⟩

def regions (l : Layout) : List (Option Region) :=
  [l.imageRegion, some l.dataRegion, some l.supRegion, l.devRegion]

/-- The regions that are present. -/
def present (l : Layout) : List Region := l.regions.filterMap id

/-- One region must not leave the `L1` entry its base sits in. -/
def inOneEntry (r : Region) : Except EncodingViolation Unit :=
  Checks.require (¬(ADDRESSABLE ≤ r.ipa ∨ ADDRESSABLE - r.ipa < r.span ∨
    L1_ENTRY_SIZE < r.ipa % L1_ENTRY_SIZE + r.span)) (.regionCrossesL1 r.l1Index r.span)

def overlaps (a alen b blen : UInt64) : Prop := a < b + blen ∧ b < a + alen

instance (a alen b blen : UInt64) : Decidable (overlaps a alen b blen) :=
  inferInstanceAs (Decidable (_ ∧ _))

def apart (a b : Region) : Except EncodingViolation Unit := do
  Checks.require (a.l1Index ≠ b.l1Index) (.regionsCollide a.l1Index)
  Checks.require (¬overlaps a.ipa a.span b.ipa b.span) (.windowsOverlap "ipa")
  Checks.require (¬overlaps a.pa a.span b.pa b.span) (.windowsOverlap "pa")

def imageAligned (l : Layout) : Except EncodingViolation Unit :=
  match l.guestImagePa with
  | some pa => aligned "guest image" pa BLOCK_SIZE
  | none => pure ()

def deviceAligned (l : Layout) : Except EncodingViolation Unit :=
  if 0 < l.deviceLen then aligned "device" l.deviceBase BLOCK_SIZE else pure ()

def validate (l : Layout) : Except EncodingViolation Unit := do
  Checks.require (l.deviceLen % BLOCK_SIZE = 0) (.deviceWindowUnaligned l.deviceBase l.deviceLen)
  Checks.require (l.frameSize = PAGE_SIZE) (.granuleNotEmitted l.frameSize)
  aligned "data ipa" l.dataIpaBase BLOCK_SIZE
  aligned "data pa" l.dataPaBase PAGE_SIZE
  aligned "super ipa" l.supIpaBase BLOCK_SIZE
  aligned "super pa" l.supPaBase BLOCK_SIZE
  l.imageAligned
  l.deviceAligned
  nameable "l1" l.l1Pa
  nameable "l2_code" l.l2CodePa
  nameable "l2_data" l.l2DataPa
  nameable "l3_data" l.l3DataPa
  nameable "l2_sup" l.l2SupPa
  nameable "l2_dev" l.l2DevPa
  forM l.present inOneEntry
  Checks.pairwise apart l.present

end Layout

end Baleen.Arm64
