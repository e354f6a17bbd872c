import Baleen.Lib.Words

/-!
# The emulated interrupt controller

The distributor and one redistributor for each vCPU, as registers that a guest reads and
writes through trapped accesses.  A write that no register claims is reported with the frame
and the offset, and a successful one tells how many interrupts it newly enabled.
-/

namespace Baleen.Gic

def NUM_INTIDS : Nat := 288
def WORDS : Nat := NUM_INTIDS / 32
def FIRST_SPI : Nat := 32

def GICD_CTLR : UInt64 := 0x0000
def GICD_TYPER : UInt64 := 0x0004
def GICD_IIDR : UInt64 := 0x0008
def GICD_TYPER2 : UInt64 := 0x000c
def GICD_IGROUPR : UInt64 := 0x0080
def GICD_ISENABLER : UInt64 := 0x0100
def GICD_ICENABLER : UInt64 := 0x0180
def GICD_ISPENDR : UInt64 := 0x0200
def GICD_ICPENDR : UInt64 := 0x0280
def GICD_ISACTIVER : UInt64 := 0x0300
def GICD_ICACTIVER : UInt64 := 0x0380
def GICD_IPRIORITYR : UInt64 := 0x0400
def GICD_ICFGR : UInt64 := 0x0c00
def GICD_IROUTER : UInt64 := 0x6000
def GICD_PIDR2 : UInt64 := 0xffe8

/-- The size of one redistributor frame. -/
def GICR_FRAME : UInt64 := 0x10000
def GICR_FRAMES : UInt64 := 2
def GICR_CTLR : UInt64 := 0x0000
def GICR_IIDR : UInt64 := 0x0004
def GICR_TYPER : UInt64 := 0x0008
def GICR_WAKER : UInt64 := 0x0014
def GICR_PIDR2 : UInt64 := 0xffe8
def GICR_IGROUPR0 : UInt64 := 0x0080
def GICR_ISENABLER0 : UInt64 := 0x0100
def GICR_ICENABLER0 : UInt64 := 0x0180
def GICR_ISPENDR0 : UInt64 := 0x0200
def GICR_ICPENDR0 : UInt64 := 0x0280
def GICR_ISACTIVER0 : UInt64 := 0x0300
def GICR_ICACTIVER0 : UInt64 := 0x0380
def GICR_IPRIORITYR : UInt64 := 0x0400
def GICR_ICFGR0 : UInt64 := 0x0c00
def GICR_ICFGR1 : UInt64 := 0x0c04

def CTLR_ARE_NS : UInt32 := (1 : UInt32) <<< 4
def CTLR_WRITABLE : UInt32 := 0b11
def GICD_TYPER_NO_1_OF_N : UInt32 := (1 : UInt32) <<< 25
def GICD_TYPER_VALUE : UInt32 :=
  UInt32.ofNat (NUM_INTIDS / 32 - 1) ||| ((9 : UInt32) <<< 19) ||| GICD_TYPER_NO_1_OF_N
def BALEEN_IIDR : UInt32 := 0x00005ba1
def PIDR2_GICV3 : UInt32 := (3 : UInt32) <<< 4
def GICR_TYPER_LAST : UInt64 := (1 : UInt64) <<< 4
def GICR_TYPER_PROC_SHIFT : UInt64 := 8
def GICR_TYPER_AFF_SHIFT : UInt64 := 32
def WAKER_PROCESSOR_SLEEP : UInt32 := (1 : UInt32) <<< 1
def WAKER_CHILDREN_ASLEEP : UInt32 := (1 : UInt32) <<< 2

def vcpuAffinity (vcpu : Nat) : UInt64 := UInt64.ofNat vcpu

structure GicLayout where
  gicdBase : UInt64
  gicdLen : UInt64
  gicrRdBase : UInt64
  gicrEnd : UInt64
  deriving DecidableEq, Repr

inductive GicFrame where
  | dist
  | redist (n : Nat)
  | sgi (n : Nat)
  deriving DecidableEq, Repr

def GicFrame.name : GicFrame → String
  | .dist => "GICD"
  | .redist _ => "GICR"
  | .sgi _ => "GICR_SGI"

namespace GicLayout

/-- The sums are checked ones of 64-bit words. -/
def validate (layout : GicLayout) (vcpus : Nat) : Bool :=
  let gicdEnd := layout.gicdBase.toNat + layout.gicdLen.toNat
  let span := vcpus * (GICR_FRAMES * GICR_FRAME).toNat
  let need := layout.gicrRdBase.toNat + span
  0 < vcpus && gicdEnd < 2 ^ 64 && gicdEnd ≤ layout.gicrRdBase.toNat && span < 2 ^ 64 &&
    need < 2 ^ 64 && need ≤ layout.gicrEnd.toNat

def inWindow (layout : GicLayout) (ipa : UInt64) : Bool :=
  (layout.gicdBase ≤ ipa && ipa < layout.gicdBase + layout.gicdLen) ||
    (layout.gicrRdBase ≤ ipa && ipa < layout.gicrEnd)

/-- The frame of an address, and the offset in it. -/
def frameOf (layout : GicLayout) (ipa : UInt64) (vcpus : Nat) : Option (GicFrame × UInt64) :=
  if !layout.inWindow ipa then none
  else if ipa < layout.gicrRdBase then some (.dist, ipa - layout.gicdBase)
  else
    let off := ipa - layout.gicrRdBase
    let pair := GICR_FRAMES * GICR_FRAME
    let n := off / pair
    if UInt64.ofNat vcpus ≤ n then none
    else
      let within := off % pair
      if within < GICR_FRAME then some (.redist n.toNat, within)
      else some (.sgi n.toNat, within - GICR_FRAME)

end GicLayout

/-- An access that no register claims. -/
structure Unhandled where
  frame : String
  offset : UInt64
  deriving DecidableEq, Repr

def irouterIndex (off : UInt64) : Option Nat :=
  let first := GICD_IROUTER + 8 * UInt64.ofNat FIRST_SPI
  let last := GICD_IROUTER + 8 * UInt64.ofNat NUM_INTIDS
  if off < first ∨ last ≤ off ∨ off % 8 ≠ 0 then none else some ((off - first) / 8).toNat

/-- The word of a bank of `count` words that an offset names. -/
def wordIndex (off base : UInt64) (count : Nat) : Option Nat :=
  if off < base ∨ base + 4 * UInt64.ofNat count ≤ off ∨ off % 4 ≠ 0 then none
  else some ((off - base) / 4).toNat

inductive DistWord where
  | spi (w : Nat)
  | bankedRes0
  | elsewhere
  deriving DecidableEq, Repr

def distWord (off base : UInt64) (count intidsPerWord : Nat) : DistWord :=
  match wordIndex off base count with
  | some w => if FIRST_SPI / intidsPerWord ≤ w then .spi w else .bankedRes0
  | none => .elsewhere

def distWordIndex (off base : UInt64) (count intidsPerWord : Nat) : Option Nat :=
  match distWord off base count intidsPerWord with
  | .spi w => some w
  | .bankedRes0 => none
  | .elsewhere => none

/-- The banks with their words, and the interrupts that one word covers. -/
def distBanks : List (UInt64 × Nat × Nat) :=
  [(GICD_IGROUPR, WORDS, 32), (GICD_ISENABLER, WORDS, 32), (GICD_ICENABLER, WORDS, 32),
    (GICD_ISPENDR, WORDS, 32), (GICD_ICPENDR, WORDS, 32), (GICD_ISACTIVER, WORDS, 32),
    (GICD_ICACTIVER, WORDS, 32), (GICD_ICFGR, NUM_INTIDS / 16, 16)]

/-- Whether an offset is a copy of a register that the redistributors have. -/
def distBankedRes0 (off : UInt64) : Bool :=
  (distBanks.any fun (base, count, per) => distWord off base count per = .bankedRes0) ||
    (GICD_IPRIORITYR ≤ off && off < GICD_IPRIORITYR + UInt64.ofNat FIRST_SPI)

/-- Whether an offset is in one of the banks of pending and active bits. -/
def distPendingOrActive (off : UInt64) : Bool :=
  (distWordIndex off GICD_ISPENDR WORDS 32).isSome ||
    (distWordIndex off GICD_ICPENDR WORDS 32).isSome ||
    (distWordIndex off GICD_ISACTIVER WORDS 32).isSome ||
    (distWordIndex off GICD_ICACTIVER WORDS 32).isSome

/-- The number of bits set. -/
def countOnes (x : UInt32) : Nat := (List.range 32).countP fun k => x.toNat.testBit k

/-- The first byte of the word that a byte offset falls in. -/
def wordStart (off : UInt64) : Nat := (off &&& ~~~3).toNat

/-- Four bytes of a bank, the lowest first. -/
def getBytes {n : Nat} (bank : Vector UInt8 n) (base : Nat) : UInt64 :=
  (List.range 4).foldl (fun v k =>
    v ||| ((bank[base + k]?.getD 0).toUInt64 <<< UInt64.ofNat (8 * k))) 0

def putBytes {n : Nat} (bank : Vector UInt8 n) (base : Nat) (value : UInt64) : Vector UInt8 n :=
  (List.range 4).foldl (fun bank k =>
    bank.setIfInBounds (base + k) (value >>> UInt64.ofNat (8 * k)).toUInt8) bank

/-- The registers of one redistributor. -/
structure RedistBank where
  asleep : Bool
  enabled : UInt32
  group : UInt32
  priority : Vector UInt8 FIRST_SPI
  icfgr : Vector UInt32 (FIRST_SPI / 16)
  deriving DecidableEq, Repr

def RedistBank.AT_RESET : RedistBank where
  asleep := true
  enabled := 0
  group := 0
  priority := Vector.replicate _ 0
  icfgr := Vector.replicate _ 0

structure VirtGic (vcpus : Nat) where
  layout : GicLayout
  ctlr : UInt32
  redist : Vector RedistBank vcpus
  enabled : Vector UInt32 WORDS
  group : Vector UInt32 WORDS
  priority : Vector UInt8 NUM_INTIDS
  icfgr : Vector UInt32 (NUM_INTIDS / 16)
  irouter : Vector UInt64 (NUM_INTIDS - FIRST_SPI)
  deriving DecidableEq, Repr

namespace VirtGic

variable {vcpus : Nat}

def new (layout : GicLayout) : VirtGic vcpus where
  layout := layout
  ctlr := 0
  redist := Vector.replicate _ RedistBank.AT_RESET
  enabled := Vector.replicate _ 0
  group := Vector.replicate _ 0
  priority := Vector.replicate _ 0
  icfgr := Vector.replicate _ 0
  irouter := Vector.replicate _ 0

/-- Whether a word has a bit set. -/
def bitSet (word : UInt32) (k : Nat) : Bool := word &&& ((1 : UInt32) <<< UInt32.ofNat k) ≠ 0

def isEnabled (g : VirtGic vcpus) (vcpu : Nat) (intid : UInt32) : Bool :=
  let i := intid.toNat
  if NUM_INTIDS ≤ i then false
  else if i < FIRST_SPI then
    match g.redist[vcpu]? with
    | some r => bitSet r.enabled i
    | none => false
  else bitSet (g.enabled[i / 32]?.getD 0) (i % 32)

def gicrTyper (vcpus n : Nat) : UInt64 :=
  let last := if n + 1 = vcpus then GICR_TYPER_LAST else 0
  last ||| (UInt64.ofNat n <<< GICR_TYPER_PROC_SHIFT) ||| (vcpuAffinity n <<< GICR_TYPER_AFF_SHIFT)

def distBankRead (g : VirtGic vcpus) (off : UInt64) : Option UInt64 :=
  if distBankedRes0 off then some 0
  else
    match distWordIndex off GICD_IGROUPR WORDS 32 with
    | some w => some (g.group[w]?.getD 0).toUInt64
    | none =>
        match distWordIndex off GICD_ISENABLER WORDS 32 with
        | some w => some (g.enabled[w]?.getD 0).toUInt64
        | none =>
            match distWordIndex off GICD_ICENABLER WORDS 32 with
            | some w => some (g.enabled[w]?.getD 0).toUInt64
            | none =>
                if distPendingOrActive off then some 0
                else
                  match distWordIndex off GICD_ICFGR (NUM_INTIDS / 16) 16 with
                  | some w => some (g.icfgr[w]?.getD 0).toUInt64
                  | none =>
                      if GICD_IPRIORITYR + UInt64.ofNat FIRST_SPI ≤ off ∧
                          off < GICD_IPRIORITYR + UInt64.ofNat NUM_INTIDS then
                        some (getBytes g.priority (wordStart (off - GICD_IPRIORITYR)))
                      else none

def distRead (g : VirtGic vcpus) (off : UInt64) : Option UInt64 :=
  match irouterIndex off with
  | some i => some (g.irouter[i]?.getD 0)
  | none =>
      if off = GICD_CTLR then some (g.ctlr ||| CTLR_ARE_NS).toUInt64
      else if off = GICD_TYPER then some GICD_TYPER_VALUE.toUInt64
      else if off = GICD_IIDR then some BALEEN_IIDR.toUInt64
      else if off = GICD_TYPER2 then some 0
      else if off = GICD_PIDR2 then some PIDR2_GICV3.toUInt64
      else g.distBankRead off

def redistRead (g : VirtGic vcpus) (n : Nat) (off : UInt64) : Option UInt64 :=
  match g.redist[n]? with
  | none => none
  | some bank =>
      if off = GICR_CTLR then some 0
      else if off = GICR_IIDR then some BALEEN_IIDR.toUInt64
      else if off = GICR_TYPER then some (gicrTyper vcpus n)
      else if off = GICR_WAKER then
        some (if bank.asleep then (WAKER_PROCESSOR_SLEEP ||| WAKER_CHILDREN_ASLEEP).toUInt64 else 0)
      else if off = GICR_PIDR2 then some PIDR2_GICV3.toUInt64
      else none

def sgiRead (g : VirtGic vcpus) (n : Nat) (off : UInt64) : Option UInt64 :=
  match g.redist[n]? with
  | none => none
  | some bank =>
      if off = GICR_IGROUPR0 then some bank.group.toUInt64
      else if off = GICR_ISENABLER0 ∨ off = GICR_ICENABLER0 then some bank.enabled.toUInt64
      else if off = GICR_ISPENDR0 ∨ off = GICR_ICPENDR0 ∨ off = GICR_ISACTIVER0 ∨
          off = GICR_ICACTIVER0 then some 0
      else if off = GICR_ICFGR0 then some (bank.icfgr[0]?.getD 0).toUInt64
      else if off = GICR_ICFGR1 then some (bank.icfgr[1]?.getD 0).toUInt64
      else if GICR_IPRIORITYR ≤ off ∧ off < GICR_IPRIORITYR + UInt64.ofNat FIRST_SPI then
        some (getBytes bank.priority (wordStart (off - GICR_IPRIORITYR)))
      else none

/-- The size is not consulted. -/
def mmioRead (g : VirtGic vcpus) (ipa _size : UInt64) : Except Unhandled UInt64 :=
  match g.layout.frameOf ipa vcpus with
  | none => .error ⟨"outside every emulated GIC frame", ipa⟩
  | some (frame, off) =>
      let answer :=
        match frame with
        | .dist => g.distRead off
        | .redist n => g.redistRead n off
        | .sgi n => g.sgiRead n off
      match answer with
      | some v => .ok v
      | none => .error ⟨frame.name, off⟩

/-- Set enable bits in a word, with the number of those that were clear. -/
def setEnabled (g : VirtGic vcpus) (w : Nat) (bits : UInt32) : Nat × VirtGic vcpus :=
  let old := g.enabled[w]?.getD 0
  (countOnes (bits &&& ~~~old), { g with enabled := g.enabled.setIfInBounds w (old ||| bits) })

/-- The banks that hold no enable bits and no groups. -/
def distConfigWrite (g : VirtGic vcpus) (off value : UInt64) : Option Nat × VirtGic vcpus :=
  if distPendingOrActive off then (some 0, g)
  else
    match distWordIndex off GICD_ICFGR (NUM_INTIDS / 16) 16 with
    | some w => (some 0, { g with icfgr := g.icfgr.setIfInBounds w value.toUInt32 })
    | none =>
        if GICD_IPRIORITYR + UInt64.ofNat FIRST_SPI ≤ off ∧
            off < GICD_IPRIORITYR + UInt64.ofNat NUM_INTIDS then
          (some 0, { g with
            priority := putBytes g.priority (wordStart (off - GICD_IPRIORITYR)) value })
        else (none, g)

/-- The banked registers of the distributor. -/
def distBankWrite (g : VirtGic vcpus) (off value : UInt64) : Option Nat × VirtGic vcpus :=
  let v := value.toUInt32
  if distBankedRes0 off then (some 0, g)
  else
    match distWordIndex off GICD_IGROUPR WORDS 32 with
    | some w => (some 0, { g with group := g.group.setIfInBounds w v })
    | none =>
        match distWordIndex off GICD_ISENABLER WORDS 32 with
        | some w => (some (g.setEnabled w v).1, (g.setEnabled w v).2)
        | none =>
            match distWordIndex off GICD_ICENABLER WORDS 32 with
            | some w =>
                let old := g.enabled[w]?.getD 0
                (some 0, { g with enabled := g.enabled.setIfInBounds w (old &&& ~~~v) })
            | none => g.distConfigWrite off value

/-- The number of interrupts newly enabled, or nothing if no register claims the offset. -/
def distWrite (g : VirtGic vcpus) (off value : UInt64) : Option Nat × VirtGic vcpus :=
  match irouterIndex off with
  | some i => (some 0, { g with irouter := g.irouter.setIfInBounds i value })
  | none =>
      if off = GICD_CTLR then (some 0, { g with ctlr := value.toUInt32 &&& CTLR_WRITABLE })
      else if off = GICD_TYPER ∨ off = GICD_IIDR ∨ off = GICD_TYPER2 ∨ off = GICD_PIDR2 then
        (some 0, g)
      else g.distBankWrite off value

def setBank (g : VirtGic vcpus) (n : Nat) (bank : RedistBank) : VirtGic vcpus :=
  { g with redist := g.redist.setIfInBounds n bank }

def redistWrite (g : VirtGic vcpus) (n : Nat) (off : UInt64) (value : UInt32) :
    Option Nat × VirtGic vcpus :=
  match g.redist[n]? with
  | none => (none, g)
  | some bank =>
      if off = GICR_WAKER then
        (some 0, g.setBank n { bank with asleep := value &&& WAKER_PROCESSOR_SLEEP ≠ 0 })
      else if off = GICR_CTLR ∨ off = GICR_IIDR ∨ off = GICR_TYPER ∨ off = GICR_PIDR2 then
        (some 0, g)
      else (none, g)

def sgiWrite (g : VirtGic vcpus) (n : Nat) (off : UInt64) (value : UInt32) :
    Option Nat × VirtGic vcpus :=
  match g.redist[n]? with
  | none => (none, g)
  | some bank =>
      if off = GICR_IGROUPR0 then (some 0, g.setBank n { bank with group := value })
      else if off = GICR_ISENABLER0 then
        (some (countOnes (value &&& ~~~bank.enabled)),
          g.setBank n { bank with enabled := bank.enabled ||| value })
      else if off = GICR_ICENABLER0 then
        (some 0, g.setBank n { bank with enabled := bank.enabled &&& ~~~value })
      else if off = GICR_ISPENDR0 ∨ off = GICR_ICPENDR0 ∨ off = GICR_ISACTIVER0 ∨
          off = GICR_ICACTIVER0 then (some 0, g)
      else if off = GICR_ICFGR0 then
        (some 0, g.setBank n { bank with icfgr := bank.icfgr.setIfInBounds 0 value })
      else if off = GICR_ICFGR1 then
        (some 0, g.setBank n { bank with icfgr := bank.icfgr.setIfInBounds 1 value })
      else if GICR_IPRIORITYR ≤ off ∧ off < GICR_IPRIORITYR + UInt64.ofNat FIRST_SPI then
        (some 0, g.setBank n { bank with
          priority := putBytes bank.priority (wordStart (off - GICR_IPRIORITYR)) value.toUInt64 })
      else (none, g)

def frameWrite (g : VirtGic vcpus) (frame : GicFrame) (off value : UInt64) :
    Option Nat × VirtGic vcpus :=
  match frame with
  | .dist => g.distWrite off value
  | .redist n => g.redistWrite n off value.toUInt32
  | .sgi n => g.sgiWrite n off value.toUInt32

/-- The size is not consulted. -/
def mmioWrite (g : VirtGic vcpus) (ipa _size value : UInt64) :
    Except Unhandled Nat × VirtGic vcpus :=
  match g.layout.frameOf ipa vcpus with
  | none => (.error ⟨"outside every emulated GIC frame", ipa⟩, g)
  | some (frame, off) =>
      match g.frameWrite frame off value with
      | (some newly, g') => (.ok newly, g')
      | (none, g') => (.error ⟨frame.name, off⟩, g')

end VirtGic

end Baleen.Gic
