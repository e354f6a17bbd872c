import Baleen.Arm64.Layout

/-!
# Encoding the leaf maps and walking the tables

The encoder writes one domain's six tables, the walker reads descriptors from memory,
and `windowReach` says what an address must reach from the windows alone.  The checker
reads the emitted tables back.
-/

namespace Baleen.Arm64

open Stage2 (Perm TABLE_ENTRIES)

/-- One 4 KiB table of descriptors. -/
abbrev Table := Vector UInt64 TABLE_ENTRIES

namespace Table

def blank : Table := Vector.replicate TABLE_ENTRIES 0

def word (t : Table) (i : Nat) : UInt64 := (t[i]?).getD 0

def store (t : Table) (i : Nat) (w : UInt64) : Table := t.setIfInBounds i w

end Table

structure Tables where
  l1 : Table
  l2Code : Table
  l2Data : Table
  l3Data : Table
  l2Sup : Table
  l2Dev : Table
  deriving DecidableEq, Repr

def Tables.blank : Tables := ⟨.blank, .blank, .blank, .blank, .blank, .blank⟩

section Encoding

variable (l : Layout)

def tableEntry (pa : UInt64) : UInt64 := pa &&& Desc.ADDR_4K ||| Desc.TABLE

def encodeImage (t : Tables) : Tables :=
  match l.guestImagePa with
  | none => t
  | some imagePa =>
      { t with
        l1 := t.l1.store (indexOf 30 imagePa) (tableEntry l.l2CodePa)
        l2Code := t.l2Code.store (indexOf 21 imagePa)
          (imagePa &&& Desc.ADDR_2M ||| Desc.BLOCK_ROX) }

/-- The write, if any, that one leaf of a map asks for. -/
def storeLeaf (index : Nat → Nat) (descriptor : Nat → Perm → UInt64) (t : Table)
    (entry : Option Perm × Nat) : Table :=
  match entry.1 with
  | none => t
  | some perm => t.store (index entry.2) (descriptor entry.2 perm)

def pageDescriptor (m : Nat) (perm : Perm) : UInt64 :=
  l.framePa (UInt32.ofNat m) &&& Desc.ADDR_4K ||| pageLeafAttrs perm

def superIndex (m : Nat) : Nat := indexOf 21 (l.superIpa (UInt32.ofNat m))

def superDescriptor (m : Nat) (perm : Perm) : UInt64 :=
  l.superPa (UInt32.ofNat m) &&& Desc.ADDR_2M ||| blockLeafAttrs perm l.supWxExempt

def encodeData (leaves : List (Option Perm)) (t : Tables) : Tables :=
  { t with
    l1 := t.l1.store l.dataL1 (tableEntry l.l2DataPa)
    l2Data := t.l2Data.store l.dataL2 (tableEntry l.l3DataPa)
    l3Data := (leaves.zipIdx.take TABLE_ENTRIES).foldl (storeLeaf id (pageDescriptor l)) .blank }

def encodeSupers (supers : List (Option Perm)) (t : Tables) : Tables :=
  { t with
    l1 := t.l1.store l.supL1 (tableEntry l.l2SupPa)
    l2Sup := (supers.zipIdx.take TABLE_ENTRIES).foldl
      (storeLeaf (superIndex l) (superDescriptor l)) .blank }

/-- The loop over the blocks from `a` up to `stop`. -/
def deviceBlocks (stop : UInt64) : Nat → UInt64 → Table → Table
  | 0, _, t => t
  | fuel + 1, a, t =>
      if a < stop then
        deviceBlocks stop fuel (a + BLOCK_SIZE)
          (t.store (indexOf 21 a) (a &&& Desc.ADDR_2M ||| Desc.BLOCK_DEVICE))
      else t

def encodeDevice (t : Tables) : Tables :=
  if 0 < l.deviceLen then
    { t with
      l1 := t.l1.store (indexOf 30 l.deviceBase) (tableEntry l.l2DevPa)
      l2Dev := deviceBlocks (l.deviceBase + l.deviceLen) ((l.deviceLen / BLOCK_SIZE).toNat + 1)
        l.deviceBase .blank }
  else { t with l2Dev := .blank }

def encode (leaves supers : List (Option Perm)) (t : Tables) : Tables :=
  encodeDevice l (encodeSupers l supers (encodeData l leaves (encodeImage l t)))

end Encoding

/-- Where an address lands, and under what access. -/
structure Reach where
  pa : UInt64
  perm : Perm
  xn : Bool
  deriving DecidableEq, Repr

def Reach.writable (r : Reach) : Bool := r.perm.writable

def walk (l1Pa ipa : UInt64) (fetch : UInt64 → UInt64 → UInt64) : Option Reach :=
  if ADDRESSABLE ≤ ipa then none
  else
    match decodeTable (fetch l1Pa ((ipa >>> 30) &&& 0x1ff)) with
    | none => none
    | some l2Pa =>
        match decodeBlock (fetch l2Pa ((ipa >>> 21) &&& 0x1ff)) with
        | some block => some ⟨block.pa ||| (ipa &&& (BLOCK_SIZE - 1)), block.perm, block.xn⟩
        | none =>
            match decodeTable (fetch l2Pa ((ipa >>> 21) &&& 0x1ff)) with
            | none => none
            | some l3Pa =>
                (decodePage (fetch l3Pa ((ipa >>> 12) &&& 0x1ff))).map fun page =>
                  ⟨page.pa ||| (ipa &&& (PAGE_SIZE - 1)), page.perm, page.xn⟩

/-- Memory that holds exactly the tables of one layout, and zero elsewhere. -/
def Tables.fetch (t : Tables) (l : Layout) (pa i : UInt64) : UInt64 :=
  if pa = l.l1Pa then t.l1.word i.toNat
  else if pa = l.l2CodePa then t.l2Code.word i.toNat
  else if pa = l.l2DataPa then t.l2Data.word i.toNat
  else if pa = l.l3DataPa then t.l3Data.word i.toNat
  else if pa = l.l2SupPa then t.l2Sup.word i.toNat
  else if pa = l.l2DevPa then t.l2Dev.word i.toNat
  else 0

def inWindow (base span ipa : UInt64) : Prop := base ≤ ipa ∧ ipa - base < span

instance (base span ipa : UInt64) : Decidable (inWindow base span ipa) :=
  inferInstanceAs (Decidable (_ ∧ _))

/-- The leaf of a window of frames of `size` bytes that covers the address. -/
def leafReach (base size : UInt64) (leaves : List (Option Perm)) (paOf : UInt32 → UInt64)
    (wxExempt : Bool) (ipa : UInt64) : Option Reach :=
  let off := ipa - base
  let m := (off / size).toUInt32
  (leaves[m.toNat]?).join.map fun perm =>
    ⟨paOf m + off % size, (leafAccessXn perm wxExempt).1, (leafAccessXn perm wxExempt).2⟩

def windowReach (l : Layout) (leaves supers : List (Option Perm)) (ipa : UInt64) : Option Reach :=
  if l.guestImagePa.any fun imagePa => inWindow imagePa BLOCK_SIZE ipa then some ⟨ipa, .ro, false⟩
  else if inWindow l.dataIpaBase (UInt64.ofNat TABLE_ENTRIES * l.frameSize) ipa then
    leafReach l.dataIpaBase l.frameSize leaves l.framePa false ipa
  else if inWindow l.supIpaBase (l.supFrames * l.superSize) ipa then
    leafReach l.supIpaBase l.superSize supers l.superPa l.supWxExempt ipa
  else if 0 < l.deviceLen ∧ inWindow l.deviceBase l.deviceLen ipa then some ⟨ipa, .rw, true⟩
  else none

section Verification

variable (l : Layout) (t : Tables)

def deadExcept (table : Table) (live : List Nat) (name : String) : Except EncodingViolation Unit :=
  forM (List.range TABLE_ENTRIES) fun i =>
    Checks.require (table.word i = 0 ∨ i ∈ live) (.spuriousDescriptor name i (table.word i))

/-- The `L1` slots that must be live, with the table each must name. -/
def rootEntries : List (Nat × UInt64) :=
  [some (l.dataL1, l.l2DataPa &&& Desc.ADDR_4K), some (l.supL1, l.l2SupPa &&& Desc.ADDR_4K),
    l.codeL1.map fun i => (i, l.l2CodePa &&& Desc.ADDR_4K),
    l.devL1.map fun i => (i, l.l2DevPa &&& Desc.ADDR_4K)].filterMap id

def names (table : Table) (name : String) (index : Nat) (expected : UInt64) :
    Except EncodingViolation Unit :=
  Checks.require (decodeTable (table.word index) = some expected)
    (.badTableEntry name index (decodeTable (table.word index)) expected)

def verifyRoot : Except EncodingViolation Unit := do
  forM (rootEntries l) fun entry => names t.l1 "l1" entry.1 entry.2
  deadExcept t.l1 ((rootEntries l).map Prod.fst) "l1"

def verifyImage : Except EncodingViolation Unit :=
  match l.guestImagePa, l.codeL2 with
  | some imagePa, some codeL2 => do
      Checks.require
        (decodeBlock (t.l2Code.word codeL2) = some ⟨imagePa &&& Desc.ADDR_2M, .ro, false⟩)
        (.badImageBlock (decodeBlock (t.l2Code.word codeL2)) (imagePa &&& Desc.ADDR_2M))
      deadExcept t.l2Code [codeL2] "l2_code"
  | _, _ => deadExcept t.l2Code [] "l2_code"

def verifyData : Except EncodingViolation Unit := do
  names t.l2Data "l2_data" l.dataL2 (l.l3DataPa &&& Desc.ADDR_4K)
  deadExcept t.l2Data [l.dataL2] "l2_data"

/-- The leaf that a map asks for at frame `m`. -/
def wantedLeaf (leaves : List (Option Perm)) (paOf : UInt32 → UInt64) (mask : UInt64)
    (wxExempt : Bool) (m : Nat) : Option Decoded :=
  (leaves[m]?).join.map fun perm =>
    ⟨paOf (UInt32.ofNat m) &&& mask, (leafAccessXn perm wxExempt).1, (leafAccessXn perm wxExempt).2⟩

/-- A slot that differs from the leaf asked for is spurious when none is. -/
def leafMatches (name : String) (table : Table) (index m : Nat) (found want : Option Decoded) :
    Except EncodingViolation Unit :=
  Checks.require (found = want)
    (if want.isNone ∧ table.word index ≠ 0 then .spuriousDescriptor name index (table.word index)
    else .badLeaf (UInt32.ofNat m) found (want.map fun d => (d.pa, d.perm)))

def verifyLeaves (leaves : List (Option Perm)) : Except EncodingViolation Unit :=
  forM (List.range TABLE_ENTRIES) fun m =>
    leafMatches "l3_data" t.l3Data m m (decodePage (t.l3Data.word m))
      (wantedLeaf leaves l.framePa Desc.ADDR_4K false m)

def verifySupers (supers : List (Option Perm)) : Except EncodingViolation Unit :=
  forM (List.range TABLE_ENTRIES) fun m =>
    leafMatches "l2_sup" t.l2Sup (superIndex l m) m (decodeBlock (t.l2Sup.word (superIndex l m)))
      (wantedLeaf supers l.superPa Desc.ADDR_2M l.supWxExempt m)

/-- The address that slot `index` of the device table covers. -/
def deviceSlot (index : Nat) : UInt64 :=
  (l.deviceBase &&& ~~~(BLOCK_SIZE * UInt64.ofNat TABLE_ENTRIES - 1)) +
    UInt64.ofNat index * BLOCK_SIZE

def wantedDevice (index : Nat) : Option DecodedDevice :=
  if 0 < l.deviceLen ∧ l.deviceBase ≤ deviceSlot l index ∧
      deviceSlot l index < l.deviceBase + l.deviceLen then
    some ⟨deviceSlot l index &&& Desc.ADDR_2M, true⟩
  else none

def verifyDevices : Except EncodingViolation Unit :=
  forM (List.range TABLE_ENTRIES) fun i =>
    Checks.require (decodeDeviceBlock (t.l2Dev.word i) = wantedDevice l i)
      (if (wantedDevice l i).isNone ∧ t.l2Dev.word i ≠ 0 then
        .spuriousDescriptor "l2_dev" i (t.l2Dev.word i)
      else .badDeviceBlock i (t.l2Dev.word i))

def verifyEncoding (leaves supers : List (Option Perm)) : Except EncodingViolation Unit := do
  l.validate
  verifyRoot l t
  verifyImage l t
  verifyData l t
  verifyLeaves l t leaves
  verifySupers l t supers
  verifyDevices l t

end Verification

end Baleen.Arm64
