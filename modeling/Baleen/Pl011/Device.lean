import Baleen.Lib.Counter
import Baleen.Pl011.Needle

/-!
# The emulated UART

The registers that a guest drives instead of the real UART, and the device that is deployed for each
guest: it counts what the guest does and watches what the guest transmits.  Everything the device
reports is decided by the accesses alone.
-/

namespace Baleen.Pl011

namespace Reg

def DR : UInt64 := 0x000
def RSR_ECR : UInt64 := 0x004
def FR : UInt64 := 0x018
def ILPR : UInt64 := 0x020
def IBRD : UInt64 := 0x024
def FBRD : UInt64 := 0x028
def LCR_H : UInt64 := 0x02c
def CR : UInt64 := 0x030
def IFLS : UInt64 := 0x034
def IMSC : UInt64 := 0x038
def RIS : UInt64 := 0x03c
def MIS : UInt64 := 0x040
def DMACR : UInt64 := 0x048
def PERIPH_ID0 : UInt64 := 0xfe0
def PCELL_ID0 : UInt64 := 0xff0

end Reg

def FR_STATIC : UInt32 := (1 : UInt32) <<< 7 ||| (1 : UInt32) <<< 4
def RIS_STATIC : UInt32 := (1 : UInt32) <<< 5
def IFLS_RESET : UInt32 := 0x12

/-- The peripheral and cell identification words. -/
def ID : Vector UInt32 8 := #v[0x11, 0x10, 0x14, 0x00, 0x0d, 0xf0, 0x05, 0xb1]

def ID_BLOCK_BYTES : UInt64 := 16

structure VirtPl011 where
  cr : UInt32
  lcrH : UInt32
  ibrd : UInt32
  fbrd : UInt32
  ifls : UInt32
  imsc : UInt32
  ilpr : UInt32
  dmacr : UInt32
  deriving DecidableEq, Repr

namespace VirtPl011

def new : VirtPl011 := ⟨0, 0, 0, 0, IFLS_RESET, 0, 0, 0⟩

def inIdBlock (offset : UInt64) : Prop :=
  (Reg.PERIPH_ID0 ≤ offset ∧ offset < Reg.PERIPH_ID0 + ID_BLOCK_BYTES) ∨
    (Reg.PCELL_ID0 ≤ offset ∧ offset < Reg.PCELL_ID0 + ID_BLOCK_BYTES)

instance (offset : UInt64) : Decidable (inIdBlock offset) := inferInstanceAs (Decidable (_ ∨ _))

/-- Where an offset that the guest chooses points into the table. -/
def idIndex (offset : UInt64) : UInt64 :=
  if offset < Reg.PCELL_ID0 then (offset - Reg.PERIPH_ID0) / 4
  else 4 + (offset - Reg.PCELL_ID0) / 4

def readId (offset : UInt64) : UInt32 :=
  if inIdBlock offset then ID[(idIndex offset).toNat]?.getD 0 else 0

theorem idIndex_inside {offset : UInt64} (inside : inIdBlock offset) :
    (idIndex offset).toNat < 8 := by
  simp only [idIndex, inIdBlock, Reg.PERIPH_ID0, Reg.PCELL_ID0, ID_BLOCK_BYTES,
    UInt64.le_iff_toNat_le, UInt64.lt_iff_toNat_lt] at inside ⊢
  split_ifs with first
  all_goals
    simp only [UInt64.toNat_add, UInt64.toNat_sub, UInt64.toNat_div, UInt64.reduceToNat,
      UInt64.reduceAdd] at *
    omega

def readWord (d : VirtPl011) (offset : UInt64) : UInt32 :=
  if offset = Reg.DR then 0
  else if offset = Reg.RSR_ECR then 0
  else if offset = Reg.FR then FR_STATIC
  else if offset = Reg.ILPR then d.ilpr
  else if offset = Reg.IBRD then d.ibrd
  else if offset = Reg.FBRD then d.fbrd
  else if offset = Reg.LCR_H then d.lcrH
  else if offset = Reg.CR then d.cr
  else if offset = Reg.IFLS then d.ifls
  else if offset = Reg.IMSC then d.imsc
  else if offset = Reg.RIS then RIS_STATIC
  else if offset = Reg.MIS then RIS_STATIC &&& d.imsc
  else if offset = Reg.DMACR then d.dmacr
  else readId offset

/-- A read of some bytes takes them out of the word they lie in. -/
def mmioRead (d : VirtPl011) (offset bytes : UInt64) : UInt64 :=
  let word := (d.readWord (offset &&& ~~~3)).toUInt64
  let lane := (offset &&& 3) * 8
  let mask := if bytes = 1 then 0xff else if bytes = 2 then 0xffff else 0xffffffff
  (word >>> lane) &&& mask

/-- The byte that is transmitted, if any, and the device after the write. -/
def mmioWrite (d : VirtPl011) (offset value : UInt64) : Option UInt8 × VirtPl011 :=
  if offset = Reg.DR then (some value.toUInt8, d)
  else if offset = Reg.ILPR then (none, { d with ilpr := value.toUInt32 })
  else if offset = Reg.IBRD then (none, { d with ibrd := value.toUInt32 })
  else if offset = Reg.FBRD then (none, { d with fbrd := value.toUInt32 })
  else if offset = Reg.LCR_H then (none, { d with lcrH := value.toUInt32 })
  else if offset = Reg.CR then (none, { d with cr := value.toUInt32 })
  else if offset = Reg.IFLS then (none, { d with ifls := value.toUInt32 })
  else if offset = Reg.IMSC then (none, { d with imsc := value.toUInt32 })
  else if offset = Reg.DMACR then (none, { d with dmacr := value.toUInt32 })
  else (none, d)

/-- The registers that keep what is written to them. -/
def kept : List UInt64 :=
  [Reg.ILPR, Reg.IBRD, Reg.FBRD, Reg.LCR_H, Reg.CR, Reg.IFLS, Reg.IMSC, Reg.DMACR]

/-- A write changes the register at its own offset and no other. -/
theorem readWord_mmioWrite {r : UInt64} (register : r ∈ kept) (d : VirtPl011)
    (offset value : UInt64) :
    (d.mmioWrite offset value).2.readWord r =
      if offset = r then value.toUInt32 else d.readWord r := by
  by_cases other : offset ∈ Reg.DR :: kept
  · simp only [kept, List.mem_cons, List.not_mem_nil, or_false] at register other
    rcases register with rfl | rfl | rfl | rfl | rfl | rfl | rfl | rfl <;>
      rcases other with rfl | rfl | rfl | rfl | rfl | rfl | rfl | rfl | rfl <;> rfl
  · have missed : (d.mmioWrite offset value).2 = d := by
      simp only [kept, List.mem_cons, not_or] at other
      obtain ⟨dr, ilpr, ibrd, fbrd, lcrH, cr, ifls, imsc, dmacr, -⟩ := other
      rw [mmioWrite, if_neg dr, if_neg ilpr, if_neg ibrd, if_neg fbrd, if_neg lcrH, if_neg cr,
        if_neg ifls, if_neg imsc, if_neg dmacr]
    have apart : offset ≠ r := by
      rintro rfl
      exact other (List.mem_cons_of_mem _ register)
    rw [missed, if_neg apart]

theorem transmitted_mmioWrite (d : VirtPl011) (offset value : UInt64) :
    (d.mmioWrite offset value).1 = if offset = Reg.DR then some value.toUInt8 else none := by
  unfold mmioWrite
  split_ifs <;> rfl

end VirtPl011

structure DeployedPl011 where
  dev : VirtPl011
  needle : NeedleMatcher
  traps : UInt64
  drWrites : UInt64
  deriving DecidableEq, Repr

inductive Access where
  | read (offset bytes : UInt64)
  | write (offset value : UInt64)

namespace DeployedPl011

def new : DeployedPl011 := ⟨.new, ⟨NEEDLE, 0, false⟩, 0, 0⟩

def mmioRead (d : DeployedPl011) (offset bytes : UInt64) : UInt64 × DeployedPl011 :=
  (d.dev.mmioRead offset bytes, { d with traps := d.traps + 1 })

/-- `none` is a panic of the matcher. -/
def mmioWrite (d : DeployedPl011) (offset value : UInt64) : Option (Option UInt8 × DeployedPl011) :=
  let d := { d with traps := d.traps + 1 }
  match d.dev.mmioWrite offset value with
  | (none, dev) => some (none, { d with dev := dev })
  | (some byte, dev) => do
      let needle ← d.needle.feed byte
      return (some byte, { d with dev := dev, needle := needle, drWrites := d.drWrites + 1 })

/-- The matcher of a device that is within its needle never reads past it. -/
theorem mmioWrite_within {d : DeployedPl011} (within : d.needle.WithinNeedle)
    (offset value : UInt64) :
    ∃ sent d', d.mmioWrite offset value = some (sent, d') ∧ d'.needle.WithinNeedle := by
  unfold mmioWrite
  dsimp only
  cases d.dev.mmioWrite offset value with
  | mk sent dev =>
      cases sent with
      | none => exact ⟨_, _, rfl, within⟩
      | some byte =>
          obtain ⟨needle, fed, kept, -, -⟩ := NeedleMatcher.feed_within within byte
          dsimp only
          rw [fed]
          exact ⟨_, _, rfl, kept⟩

/-- Whether the marker went through, and how much the guest did. -/
def witness (d : DeployedPl011) : Bool × UInt64 × UInt64 :=
  (d.needle.saw && 0 < d.drWrites, d.traps, d.drWrites)

def access (d : DeployedPl011) : Access → Option DeployedPl011
  | .read offset bytes => some (d.mmioRead offset bytes).2
  | .write offset value => (d.mmioWrite offset value).map Prod.snd

def accesses (d : DeployedPl011) (items : List Access) : Option DeployedPl011 :=
  items.foldlM access d

/-- The byte that an access puts on the line. -/
def transmits : Access → Option UInt8
  | .read _ _ => none
  | .write offset value => if offset = Reg.DR then some value.toUInt8 else none

/-- The value that an access leaves in a register. -/
def writes (r : UInt64) : Access → Option UInt32
  | .read _ _ => none
  | .write offset value => if offset = r then some value.toUInt32 else none

/-- What the device holds after a history of accesses. -/
structure Recorded (items : List Access) (d : DeployedPl011) : Prop where
  traps : d.traps = Counter.word items.length
  drWrites : d.drWrites = Counter.word (items.filterMap transmits).length
  tracks : d.needle.Tracks (items.filterMap transmits)
  needle : d.needle.needle = NEEDLE
  register : ∀ r ∈ VirtPl011.kept,
    d.dev.readWord r = (items.filterMap (writes r)).getLast?.getD (VirtPl011.new.readWord r)

variable {items : List Access} {d : DeployedPl011}

theorem recorded_new : Recorded [] new := by
  have created : NeedleMatcher.new NEEDLE = some ⟨NEEDLE, 0, false⟩ := rfl
  exact ⟨rfl, rfl, NeedleMatcher.new_tracks created, rfl, fun _ _ => rfl⟩

theorem register_concat {r : UInt64} {word word' : UInt32} (item : Access)
    (before : word = (items.filterMap (writes r)).getLast?.getD (VirtPl011.new.readWord r))
    (after : word' = (writes r item).getD word) :
    word' = ((items ++ [item]).filterMap (writes r)).getLast?.getD (VirtPl011.new.readWord r) := by
  rw [after, List.filterMap_append]
  cases written : writes r item with
  | none => simpa [written] using before
  | some value => simp [written]

theorem recorded_access (recorded : Recorded items d) (item : Access) :
    ∃ d', d.access item = some d' ∧ Recorded (items ++ [item]) d' := by
  have counted : d.traps + 1 = Counter.word (items ++ [item]).length := by
    rw [recorded.traps, List.length_append, List.length_singleton, Counter.word_add,
      Counter.word_one]
  cases item with
  | read offset bytes =>
      have silent : (items ++ [Access.read offset bytes]).filterMap transmits =
          items.filterMap transmits := by
        rw [List.filterMap_append]
        exact List.append_nil _
      refine ⟨_, rfl, counted, ?_, ?_, recorded.needle, fun r member => ?_⟩
      · rw [silent]
        exact recorded.drWrites
      · rw [silent]
        exact recorded.tracks
      · exact register_concat _ (recorded.register r member) rfl
  | write offset value =>
      have registers : ∀ r ∈ VirtPl011.kept, (d.dev.mmioWrite offset value).2.readWord r =
          (writes r (Access.write offset value)).getD (d.dev.readWord r) := by
        intro r member
        rw [VirtPl011.readWord_mmioWrite member, writes]
        split_ifs <;> rfl
      have sent := VirtPl011.transmitted_mmioWrite d.dev offset value
      have stream : (items ++ [Access.write offset value]).filterMap transmits =
          items.filterMap transmits ++ (d.dev.mmioWrite offset value).1.toList := by
        rw [List.filterMap_append, sent]
        split_ifs with data <;> simp [transmits, data]
      rw [access, mmioWrite]
      dsimp only
      cases written : d.dev.mmioWrite offset value with
      | mk byte dev =>
          rw [written] at registers stream
          cases byte with
          | none =>
              refine ⟨_, rfl, counted, ?_, ?_, recorded.needle, fun r member => ?_⟩
              · rw [stream]
                simpa using recorded.drWrites
              · rw [stream]
                simpa using recorded.tracks
              · exact register_concat _ (recorded.register r member) (registers r member)
          | some byte =>
              obtain ⟨needle, fed, -, same, -⟩ :=
                NeedleMatcher.feed_within recorded.tracks.within byte
              have steady : Overlap.SteadyBorders d.needle.needle := by
                rw [recorded.needle]
                decide
              dsimp only
              rw [fed]
              refine ⟨_, rfl, counted, ?_, ?_, same.trans recorded.needle, fun r member => ?_⟩
              · rw [stream, List.length_append, recorded.drWrites, Counter.word_add]
                rfl
              · rw [stream]
                exact NeedleMatcher.feed_tracks recorded.tracks steady fed
              · exact register_concat _ (recorded.register r member) (registers r member)

theorem recorded_accesses (items : List Access) :
    ∃ d, accesses new items = some d ∧ Recorded items d := by
  induction items using List.reverseRecOn with
  | nil => exact ⟨new, rfl, recorded_new⟩
  | append_singleton items item ih =>
      obtain ⟨d, ran, recorded⟩ := ih
      obtain ⟨d', accessed, recorded'⟩ := recorded_access recorded item
      refine ⟨d', ?_, recorded'⟩
      rw [accesses] at ran ⊢
      rw [List.foldlM_append, ran]
      simpa using accessed

/-- Whatever a guest does to its UART, the device never panics: the matcher stays within its needle,
no read leaves the table of identification words, and no counter overflows.  It reports the marker
exactly if that was transmitted, and keeps in every register what was last written there. -/
theorem witness_history (small : items.length < 2 ^ 64) : ∃ d, accesses new items = some d ∧
    (∀ offset bytes, .read offset bytes ∈ items → VirtPl011.inIdBlock (offset &&& ~~~3) →
      (VirtPl011.idIndex (offset &&& ~~~3)).toNat < 8) ∧
    (d.witness.1 = true ↔ NEEDLE <:+: items.filterMap transmits) ∧
    d.witness.2.1.toNat = items.length ∧
    d.witness.2.2.toNat = (items.filterMap transmits).length ∧
    ∀ r ∈ VirtPl011.kept,
      d.dev.readWord r = (items.filterMap (writes r)).getLast?.getD (VirtPl011.new.readWord r) := by
  obtain ⟨d, ran, recorded⟩ := recorded_accesses items
  have sent_small : (items.filterMap transmits).length < 2 ^ 64 :=
    Nat.lt_of_le_of_lt (List.length_filterMap_le ..) small
  have traps : d.traps.toNat = items.length := by
    rw [recorded.traps, Counter.toNat_word small]
  have drWrites : d.drWrites.toNat = (items.filterMap transmits).length := by
    rw [recorded.drWrites, Counter.toNat_word sent_small]
  refine ⟨d, ran, fun _ _ _ => VirtPl011.idIndex_inside, ?_, traps, drWrites, recorded.register⟩
  have saw := recorded.tracks.saw_iff
  rw [recorded.needle] at saw
  rw [witness, Bool.and_eq_true, saw, decide_eq_true_iff, UInt64.lt_iff_toNat_lt, drWrites]
  refine and_iff_left_of_imp fun marker => ?_
  exact Nat.lt_of_lt_of_le (by decide) marker.length_le

/-- A guest that sets up its UART, looks at what kind it is, and transmits the marker. -/
def greeting : List Access :=
  .write Reg.CR 0x301 :: .read Reg.PERIPH_ID0 4 ::
    NEEDLE.map fun byte => .write Reg.DR byte.toUInt64

theorem witness_history_greeting : ∃ d, accesses new greeting = some d ∧ d.witness.1 = true ∧
    d.witness.2.1.toNat = 17 ∧ d.witness.2.2.toNat = 15 ∧ d.dev.readWord Reg.CR = 0x301 := by
  obtain ⟨d, ran, -, saw, traps, drWrites, register⟩ := @witness_history greeting (by decide)
  exact ⟨d, ran, saw.mpr (by decide), traps, drWrites, register Reg.CR (by decide)⟩

end DeployedPl011

end Baleen.Pl011
