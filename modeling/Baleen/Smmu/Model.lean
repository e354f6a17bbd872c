import Baleen.Lib.Slice
import Baleen.Lib.Checks
import Baleen.Arm64.Regime
import Baleen.Arm64.Tables
import Baleen.Accounts

/-!
# The stream table of the SMMU

Every transaction of a device carries a stream identifier, which indexes a linear table of
eight-word entries.  The whole table is derived from the device assignment: an entry binds
a stream to the Stage-2 tables of the domain that holds its device.
-/

namespace Baleen.Smmu

open Arm64 (Stage2Regime StartLevel PaSize Granule Reach Layout)
open Device (DevId)

def STE_WORDS : Nat := 8
def STE_V : UInt64 := 1
def STE_CONFIG_SHIFT : UInt64 := 1
def STE_CONFIG_MASK : UInt64 := 0b111
def CONFIG_NOT_ABORT : UInt8 := 0b100
def CONFIG_BYPASS : UInt8 := 0b100
def CONFIG_S1 : UInt8 := 0b101
def CONFIG_S2 : UInt8 := 0b110
def CONFIG_NESTED : UInt8 := 0b111
def STE_SHCFG_INCOMING : UInt64 := (0b01 : UInt64) <<< 44
def MAX_LOG2SIZE : UInt32 := 16

inductive StreamVerdict where
  | outOfRange
  | invalid
  | configAbort
  | bypass
  | stage1Only
  | stage2Only
  | nested
  deriving DecidableEq, Repr

def StreamVerdict.permits : StreamVerdict → Bool
  | .outOfRange | .invalid | .configAbort => false
  | .bypass | .stage1Only | .stage2Only | .nested => true

inductive SteError where
  | badRegime
  | granuleNotEmitted
  | unalignedTable
  | tableAddressTooLarge
  deriving DecidableEq, Repr

inductive StreamTableError where
  | sidOutOfRange
  | tableTooSmall
  | badBinding (e : SteError)
  deriving DecidableEq, Repr

def tableWords (log2size : UInt32) : Option Nat :=
  if log2size > MAX_LOG2SIZE then none else some (2 ^ log2size.toNat * STE_WORDS)

def decode (word0 : UInt64) : StreamVerdict :=
  if word0 &&& STE_V = 0 then .invalid
  else
    let config := ((word0 >>> STE_CONFIG_SHIFT) &&& STE_CONFIG_MASK).toUInt8
    if config &&& CONFIG_NOT_ABORT = 0 then .configAbort
    else if config = CONFIG_BYPASS then .bypass
    else if config = CONFIG_S1 then .stage1Only
    else if config = CONFIG_S2 then .stage2Only
    else if config = CONFIG_NESTED then .nested
    else .configAbort

def entryOffset (wordsLen : Nat) (log2size sid : UInt32) : Option Nat :=
  match tableWords log2size with
  | none => none
  | some needed =>
      if wordsLen < needed then none
      else if 2 ^ log2size.toNat ≤ sid.toNat then none
      else some (sid.toNat * STE_WORDS)

def verdict (words : List UInt64) (log2size sid : UInt32) : StreamVerdict :=
  match entryOffset words.length log2size sid with
  | none => .outOfRange
  | some off => decode ((words[off]?).getD 0)

def initDeny (words : List UInt64) : List UInt64 := words.map fun _ => 0

/-- Whether the storage holds the table. -/
def fits (words : List UInt64) (log2size : UInt32) : Bool :=
  match tableWords log2size with
  | none => false
  | some needed => needed ≤ words.length

def bind (log2size sid : UInt32) (ste : List UInt64) : Op (List UInt64) StreamTableError Unit := do
  Op.ensure (fun words => fits words log2size) .tableTooSmall
  let words ← Op.read
  match entryOffset words.length log2size sid with
  | none => Op.fail .sidOutOfRange
  | some off => Op.modify fun words => Slice.write words off ste

def STE2_S2VMID_MASK : UInt64 := 0xffff
def STE2_S2T0SZ_SHIFT : UInt64 := 32
def STE2_S2SL0_SHIFT : UInt64 := 38
def STE2_S2IR0_SHIFT : UInt64 := 40
def STE2_S2OR0_SHIFT : UInt64 := 42
def STE2_S2SH0_SHIFT : UInt64 := 44
def STE2_S2TG_SHIFT : UInt64 := 46
def STE2_S2PS_SHIFT : UInt64 := 48
def STE2_S2AA64 : UInt64 := (1 : UInt64) <<< 51
def STE2_S2PTW : UInt64 := (1 : UInt64) <<< 54
def STE2_S2R : UInt64 := (1 : UInt64) <<< 58
def STE3_S2TTB_MASK : UInt64 := 0x000ffffffffffff0

/-- The table, the identifier and the regime a stream is translated under. -/
structure Stage2Binding where
  s2ttb : UInt64
  vmid : UInt16
  regime : Stage2Regime
  deriving DecidableEq, Repr

def steWord2 (b : Stage2Binding) : UInt64 :=
  (b.vmid.toUInt64 &&& STE2_S2VMID_MASK) ||| (b.regime.t0sz <<< STE2_S2T0SZ_SHIFT) |||
    (b.regime.startLevel.sl0 <<< STE2_S2SL0_SHIFT) ||| (b.regime.walkInner <<< STE2_S2IR0_SHIFT) |||
    (b.regime.walkOuter <<< STE2_S2OR0_SHIFT) |||
      (b.regime.walkShareability <<< STE2_S2SH0_SHIFT) |||
    ((0b00 : UInt64) <<< STE2_S2TG_SHIFT) ||| (b.regime.paSize.ps <<< STE2_S2PS_SHIFT) |||
    STE2_S2AA64 ||| STE2_S2PTW ||| STE2_S2R

def stage2Ste (b : Stage2Binding) : Except SteError (List UInt64) := do
  Checks.require (b.regime.valid = true) .badRegime
  Checks.require (b.regime.granule = .k4) .granuleNotEmitted
  Checks.require (b.s2ttb >>> 52 = 0) .tableAddressTooLarge
  Checks.require (b.s2ttb % b.regime.tableAlign = 0) .unalignedTable
  return [STE_V ||| (CONFIG_S2.toUInt64 <<< STE_CONFIG_SHIFT), STE_SHCFG_INCOMING, steWord2 b,
    b.s2ttb &&& STE3_S2TTB_MASK, 0, 0, 0, 0]

/-- The regime that the third word of an entry names. -/
def decodeRegime (w2 : UInt64) : Option Stage2Regime :=
  match StartLevel.fromSl0 ((w2 >>> STE2_S2SL0_SHIFT) &&& 0b11),
      PaSize.fromPs ((w2 >>> STE2_S2PS_SHIFT) &&& 0b111) with
  | some startLevel, some paSize =>
      some { granule := .k4
             ipaBits := 64 - ((w2 >>> STE2_S2T0SZ_SHIFT) &&& 0x3f).toUInt32
             startLevel := startLevel
             paSize := paSize
             walkShareability := (w2 >>> STE2_S2SH0_SHIFT) &&& 0b11
             walkInner := (w2 >>> STE2_S2IR0_SHIFT) &&& 0b11
             walkOuter := (w2 >>> STE2_S2OR0_SHIFT) &&& 0b11 }
  | _, _ => none

def decodeStage2Binding (ste : List UInt64) : Option Stage2Binding :=
  if ste.length < STE_WORDS then none
  else if decode ((ste[0]?).getD 0) ≠ .stage2Only then none
  else
    let w2 := (ste[2]?).getD 0
    if w2 &&& STE2_S2AA64 = 0 then none
    else if (w2 >>> STE2_S2TG_SHIFT) &&& 0b11 ≠ 0b00 then none
    else
      match decodeRegime w2 with
      | none => none
      | some regime =>
          if regime.valid then
            some ⟨(ste[3]?).getD 0 &&& STE3_S2TTB_MASK, (w2 &&& STE2_S2VMID_MASK).toUInt16, regime⟩
          else none

def stage2BindingAt (words : List UInt64) (log2size sid : UInt32) : Option Stage2Binding :=
  match entryOffset words.length log2size sid with
  | none => none
  | some off => decodeStage2Binding (Slice.read words off STE_WORDS)

def bindStage2 (log2size sid : UInt32) (b : Stage2Binding) :
    Op (List UInt64) StreamTableError Unit :=
  match stage2Ste b with
  | .error e => Op.fail (.badBinding e)
  | .ok ste => bind log2size sid ste

inductive DeriveError where
  | streamMapTooShort
  | bindingMapTooShort
  | streamAliased (a b : DevId)
  | noBinding (holder : DomId)
  | sidOutOfRange (sid : UInt32)
  | unencodable (e : SteError)
  | tableTooSmall
  deriving DecidableEq, Repr

section Derivation

variable (devices : Device.System) (streamOf : List UInt32)
    (bindingOf : List (Option Stage2Binding))

/-- The holder of the first device that carries the stream. -/
def holderOfStream (sid : UInt32) : Option DomId :=
  ((List.range devices.deviceCount).find? fun dev => streamOf[dev]? = some sid).bind fun dev =>
    devices.holderOf (UInt16.ofNat dev)

def intendedBinding (sid : UInt32) : Option Stage2Binding :=
  (holderOfStream devices streamOf sid).bind fun holder => (bindingOf[holder.toNat]?).join

def streamsDistinct : Except DeriveError Unit :=
  Checks.pairwise (fun a b => Checks.require (streamOf[a]? ≠ streamOf[b]?)
    (.streamAliased (UInt16.ofNat a) (UInt16.ofNat b))) (List.range devices.deviceCount)

def deriveFailure (sid : UInt32) : StreamTableError → DeriveError
  | .badBinding e => .unencodable e
  | .sidOutOfRange => .sidOutOfRange sid
  | .tableTooSmall => .tableTooSmall

/-- Refuse, leaving every stream denied. -/
def deny (e : DeriveError) : Op (List UInt64) DeriveError Unit := do
  Op.modify initDeny
  Op.fail e

/-- The body of the loop over the devices.  A holder is a domain of the system, so the map
of bindings covers it. -/
def bindDevice (log2size : UInt32) (dev : Nat) : Op (List UInt64) DeriveError Unit :=
  match devices.holderOf (UInt16.ofNat dev) with
  | none => return ()
  | some holder =>
      match (bindingOf[holder.toNat]?).join with
      | none => deny (.noBinding holder)
      | some binding => do
          let sid := (streamOf[dev]?).getD 0
          match ← Op.attempt (bindStage2 log2size sid binding) with
          | .ok () => return ()
          | .error e => deny (deriveFailure sid e)

def bindDevices (log2size : UInt32) : List Nat → Op (List UInt64) DeriveError Unit
  | [] => return ()
  | dev :: rest => do
      bindDevice devices streamOf bindingOf log2size dev
      bindDevices log2size rest

def deriveStreamTable (log2size : UInt32) : Op (List UInt64) DeriveError Unit := do
  Op.modify initDeny
  Op.ensure (fun words => fits words log2size) .tableTooSmall
  Op.ensure (fun _ => devices.deviceCount ≤ streamOf.length) .streamMapTooShort
  Op.ensure (fun _ => devices.numDomains ≤ bindingOf.length) .bindingMapTooShort
  match streamsDistinct devices streamOf with
  | .error e => deny e
  | .ok () => bindDevices devices streamOf bindingOf log2size (List.range devices.deviceCount)

end Derivation

inductive HandleError where
  | ste (e : SteError)
  | vttbrNarrowerThanSte (l1Pa : UInt64)
  deriving DecidableEq, Repr

structure Stage2Handles where
  vttbr : UInt64
  binding : Stage2Binding
  deriving DecidableEq, Repr

def stage2Handles (layout : Layout) (vmid : UInt64) : Except HandleError Stage2Handles :=
  if layout.l1Pa ≥ Arm64.MAX_TABLE_PA then .error (.vttbrNarrowerThanSte layout.l1Pa)
  else
    let v := Arm64.vttbr layout.l1Pa vmid
    let binding : Stage2Binding :=
      ⟨layout.l1Pa, Arm64.vttbrVmid v Arm64.BALEEN_VMID_BITS, Arm64.BALEEN_STAGE2⟩
    match stage2Ste binding with
    | .error e => .error (.ste e)
    | .ok _ => .ok ⟨v, binding⟩

def deviceReach (words : List UInt64) (log2size sid : UInt32) (ipa : UInt64)
    (fetch : UInt64 → UInt64 → UInt64) : Option Reach :=
  match stage2BindingAt words log2size sid with
  | none => none
  | some binding => Arm64.walk binding.s2ttb ipa fetch

end Baleen.Smmu
