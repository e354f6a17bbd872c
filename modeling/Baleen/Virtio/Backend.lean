import Baleen.Hypervisor.Model
import Baleen.Virtio.Transport

/-!
# The virtio backends

The backend of the control domain walks the queue of a guest when the driver kicks the
device.  Every address comes from the guest, so each access passes the grant gate and then
the bounds of the data window.
-/

namespace Baleen.Virtio

open P2m (Mfn)

def VIRTIO_DOM : DomId := 1
def VIRTIO_BACKEND : DomId := 0
def DATA_IPA_BASE : UInt64 := 0x80000000
def FRAME_SIZE : UInt64 := 0x1000
def VIRTQ_DESC_SIZE : UInt64 := 16
def VIRTQ_AVAIL_IDX_OFF : UInt64 := 2
def VIRTQ_AVAIL_RING_OFF : UInt64 := 4
def VIRTQ_USED_IDX_OFF : UInt64 := 2
def VIRTQ_USED_RING_OFF : UInt64 := 4
def VIRTQ_USED_ELEM_SIZE : UInt64 := 8
def VIRTQ_DESC_F_NEXT : UInt16 := 1
def VIRTQ_DESC_F_WRITE : UInt16 := 2
def VIRTIO_BLK_T_IN : UInt32 := 0
def VIRTIO_BLK_T_OUT : UInt32 := 1
def VIRTIO_BLK_S_OK : UInt8 := 0
def VIRTIO_BLK_S_IOERR : UInt8 := 1
def BLK_HDR_SIZE : UInt64 := 16
def BLK_HDR_SECTOR_OFF : UInt64 := 8
def MAX_TX : UInt32 := 256

/-- The bytes that the linker script reserves for the data frames. -/
def DATA_WINDOW : Nat := 0x200000

/-- A copy between the backend and `len` bytes at an offset of the data window. -/
structure Access where
  write : Bool
  offset : Nat
  len : Nat
  deriving DecidableEq, Repr

/-- What a kick can read and write: the registers of the device at the window, the data
frames by their offset, the disk, and what the backends report. -/
structure Machine where
  dev : Transport
  ram : Nat → UInt8
  disk : BlkDisk
  tenant : Fin N_TENANTS
  output : List UInt8
  ungrantedRefused : Bool
  blkUngrantedRefused : Bool
  drainedOk : Bool
  accesses : List Access

/-- The backend gave an access up. -/
inductive Refused where
  | refused
  deriving DecidableEq, Repr

/-- A little-endian integer. -/
def fromLeBytes (bytes : List UInt8) : Nat := bytes.foldr (fun b rest => b.toNat + 256 * rest) 0

def toLeBytes (width value : Nat) : List UInt8 :=
  (List.range width).map fun i => UInt8.ofNat (value / 256 ^ i)

/-- The offset of an address in the data window, if `len` bytes fit there.  The sum cannot
wrap: an overflow is out of bounds as well. -/
def ipaToPa (gpa : UInt64) (len : Nat) : Option Nat :=
  if gpa < DATA_IPA_BASE then none
  else if DATA_WINDOW < (gpa - DATA_IPA_BASE).toNat + len then none
  else some (gpa - DATA_IPA_BASE).toNat

def guestRead (gpa : UInt64) (len : Nat) : Op Machine Refused (List UInt8) :=
  match ipaToPa gpa len with
  | none => Op.fail .refused
  | some offset => do
      Op.modify fun m => { m with accesses := ⟨false, offset, len⟩ :: m.accesses }
      let m ← Op.read
      return (List.range len).map fun i => m.ram (offset + i)

/-- Memory with bytes copied over it. -/
def overwrite (ram : Nat → UInt8) (offset : Nat) (bytes : List UInt8) (a : Nat) : UInt8 :=
  if offset ≤ a then (bytes[a - offset]?).getD (ram a) else ram a

def guestWrite (gpa : UInt64) (bytes : List UInt8) : Op Machine Refused Unit :=
  match ipaToPa gpa bytes.length with
  | none => Op.fail .refused
  | some offset =>
      Op.modify fun m =>
        { m with
          accesses := ⟨true, offset, bytes.length⟩ :: m.accesses
          ram := overwrite m.ram offset bytes }

def gpaToMfn (gpa : UInt64) : Option Mfn :=
  if gpa < DATA_IPA_BASE then none else some ((gpa - DATA_IPA_BASE) / FRAME_SIZE).toUInt32

def refuse {α : Type} : Op Machine Refused α := do
  Op.modify fun m => { m with ungrantedRefused := true }
  Op.fail .refused

section Gated

variable (hv : Hypervisor)

def backendAuthorize (gpa len : UInt64) (writable : Bool) : Op Machine Refused Unit :=
  match gpaToMfn gpa with
  | none => refuse
  | some mfn =>
      if FRAME_SIZE < (gpa &&& (FRAME_SIZE - 1)) + len then refuse
      else if hv.grant.authorizes VIRTIO_DOM VIRTIO_BACKEND mfn writable then return ()
      else refuse

def backendRead (gpa : UInt64) (len : Nat) : Op Machine Refused (List UInt8) := do
  backendAuthorize hv gpa (UInt64.ofNat len) false
  guestRead gpa len

def backendWrite (gpa : UInt64) (bytes : List UInt8) : Op Machine Refused Unit := do
  backendAuthorize hv gpa (UInt64.ofNat bytes.length) true
  guestWrite gpa bytes

def backendReadU16 (gpa : UInt64) : Op Machine Refused UInt16 := do
  let bytes ← backendRead hv gpa 2
  return UInt16.ofNat (fromLeBytes bytes)

def backendReadU32 (gpa : UInt64) : Op Machine Refused UInt32 := do
  let bytes ← backendRead hv gpa 4
  return UInt32.ofNat (fromLeBytes bytes)

def backendReadU64 (gpa : UInt64) : Op Machine Refused UInt64 := do
  let bytes ← backendRead hv gpa 8
  return UInt64.ofNat (fromLeBytes bytes)

/-- Two reads that are both made before either result is looked at. -/
def bothReads {α β : Type} (first : Op Machine Refused α) (second : Op Machine Refused β) :
    Op Machine Refused (α × β) := do
  let a ← Op.attempt first
  let b ← Op.attempt second
  match a, b with
  | .ok a, .ok b => return (a, b)
  | _, _ => Op.fail .refused

/-- Hand the used ring an entry for the request at `head`. -/
def retire (num head : UInt16) (written : UInt32) : Op Machine Refused Unit := do
  let dev := (← Op.read).dev
  let usedSlot := (dev.usedIdx % num).toUInt64
  let elem := dev.queueDevice + VIRTQ_USED_RING_OFF + usedSlot * VIRTQ_USED_ELEM_SIZE
  Op.ignore (backendWrite hv elem (toLeBytes 4 head.toNat))
  Op.ignore (backendWrite hv (elem + 4) (toLeBytes 4 written.toNat))
  Op.modify fun m => { m with dev := { m.dev with usedIdx := m.dev.usedIdx + 1 } }
  Op.ignore (backendWrite hv (dev.queueDevice + VIRTQ_USED_IDX_OFF)
    (toLeBytes 2 (dev.usedIdx + 1).toNat))
  Op.modify fun m => { m with dev := { m.dev with lastAvailIdx := m.dev.lastAvailIdx + 1 } }

/-- The body of the loop over the available ring: read the head of the next request, serve
it, and retire it with the length it reports. -/
def serveNext (serve : UInt16 → UInt16 → Op Machine Refused UInt32) (num : UInt16) :
    Op Machine Refused Unit := do
  let dev := (← Op.read).dev
  let slot := (dev.lastAvailIdx % num).toUInt64
  let head ← backendReadU16 hv (dev.queueDriver + VIRTQ_AVAIL_RING_OFF + slot * 2)
  let written ← serve num head
  retire hv num head written

/-- The loop.  Each round moves the cursor by one, so it meets the index within `2 ^ 16`. -/
def serveAll (serve : UInt16 → UInt16 → Op Machine Refused UInt32) (num availIdx : UInt16) :
    Nat → Op Machine Refused Unit
  | 0 => return ()
  | fuel + 1 => do
      let m ← Op.read
      if m.dev.lastAvailIdx = availIdx then return ()
      else
        serveNext hv serve num
        serveAll serve num availIdx fuel

/-- A kick of a queue whose requests are served by `serve`; `done` follows a full walk. -/
def handleNotify (serve : UInt16 → UInt16 → Op Machine Refused UInt32) (done : Machine → Machine) :
    Op Machine Refused Unit := do
  let dev := (← Op.read).dev
  let num := dev.queueNum.toUInt16
  if !dev.queueLive || num = 0 then return ()
  else
    let availIdx ← backendReadU16 hv (dev.queueDriver + VIRTQ_AVAIL_IDX_OFF)
    serveAll hv serve num availIdx (2 ^ 16)
    Op.modify fun m =>
      done { m with dev := { m.dev with interruptStatus := m.dev.interruptStatus ||| 1 } }

def backendDrainToConsole (addr : UInt64) (len : UInt32) : Op Machine Refused UInt32 := do
  let len := min len MAX_TX
  match ← Op.attempt (backendRead hv addr len.toNat) with
  | .error _ => return 0
  | .ok bytes =>
      Op.modify fun m => { m with output := m.output ++ bytes }
      return len

/-- The descriptor at `head`, drained to the console. -/
def drainEntry (_num head : UInt16) : Op Machine Refused UInt32 := do
  let desc := (← Op.read).dev.queueDesc + head.toUInt64 * VIRTQ_DESC_SIZE
  let (addr, len) ← bothReads (backendReadU64 hv desc) (backendReadU32 hv (desc + 8))
  backendDrainToConsole hv addr len

def handleVirtioNotify : Op Machine Refused Unit :=
  handleNotify hv (drainEntry hv) fun m => { m with drainedOk := true }

structure BlkDesc where
  addr : UInt64
  len : UInt32
  flags : UInt16
  next : UInt16
  deriving DecidableEq, Repr

def backendReadDesc (descTable : UInt64) (index num : UInt16) : Op Machine Refused BlkDesc :=
  if num ≤ index then Op.fail .refused
  else do
    let d := descTable + index.toUInt64 * VIRTQ_DESC_SIZE
    let addr ← backendReadU64 hv d
    let len ← backendReadU32 hv (d + 8)
    let flags ← backendReadU16 hv (d + 12)
    let next ← backendReadU16 hv (d + 14)
    return ⟨addr, len, flags, next⟩

def blkRefuse : Op Machine Refused UInt8 := do
  Op.modify fun m => { m with blkUngrantedRefused := true }
  return VIRTIO_BLK_S_IOERR

/-- Copy a sector into the guest's buffer. -/
def serveIn (sector : Fin DISK_SECTORS) (addr : UInt64) (n : Nat) : Op Machine Refused UInt8 := do
  match ← Op.attempt (backendAuthorize hv addr (UInt64.ofNat n) true) with
  | .error _ => blkRefuse
  | .ok () => do
      let m ← Op.read
      let data := (m.disk.read m.tenant sector).toList.take n
      match ← Op.attempt (guestWrite addr data) with
      | .error _ => return VIRTIO_BLK_S_IOERR
      | .ok () =>
          Op.modify fun m => { m with output := m.output ++ data.takeWhile (· ≠ 0) }
          return VIRTIO_BLK_S_OK

/-- Copy the guest's buffer into the tenant's overlay. -/
def serveOut (sector : Fin DISK_SECTORS) (addr : UInt64) (n : Nat) : Op Machine Refused UInt8 := do
  match ← Op.attempt (backendAuthorize hv addr (UInt64.ofNat n) false) with
  | .error _ => blkRefuse
  | .ok () =>
      match ← Op.attempt (guestRead addr n) with
      | .error _ => return VIRTIO_BLK_S_IOERR
      | .ok bytes =>
          Op.modify fun m => { m with disk := m.disk.write m.tenant sector bytes }
          return VIRTIO_BLK_S_OK

/-- The status of a request for the data descriptor `d1`. -/
def serveData (typ : UInt32) (sector : UInt64) (d1 : BlkDesc) : Op Machine Refused UInt8 :=
  let n := min d1.len.toNat SECTOR_SIZE
  let dataWritable := d1.flags &&& VIRTQ_DESC_F_WRITE ≠ 0
  if inside : sector.toNat < DISK_SECTORS then
    if typ = VIRTIO_BLK_T_IN ∧ dataWritable then serveIn hv ⟨sector.toNat, inside⟩ d1.addr n
    else if typ = VIRTIO_BLK_T_OUT ∧ ¬dataWritable then serveOut hv ⟨sector.toNat, inside⟩ d1.addr n
    else return VIRTIO_BLK_S_IOERR
  else return VIRTIO_BLK_S_IOERR

/-- The chain of header, data and status at `head`. -/
def processBlkRequest (descTable : UInt64) (num head : UInt16) : Op Machine Refused Unit := do
  let d0 ← backendReadDesc hv descTable head num
  if d0.flags &&& VIRTQ_DESC_F_NEXT = 0 ∨ d0.len.toUInt64 < BLK_HDR_SIZE then Op.fail .refused
  else
    let (typ, sector) ← bothReads (backendReadU32 hv d0.addr)
      (backendReadU64 hv (d0.addr + BLK_HDR_SECTOR_OFF))
    let d1 ← backendReadDesc hv descTable d0.next num
    if d1.flags &&& VIRTQ_DESC_F_NEXT = 0 then Op.fail .refused
    else
      let d2 ← backendReadDesc hv descTable d1.next num
      let status ← serveData hv typ sector d1
      Op.ignore (backendWrite hv d2.addr [status])

/-- A request that is given up is retired like any other, and reports no length. -/
def blkEntry (num head : UInt16) : Op Machine Refused UInt32 := do
  let m ← Op.read
  Op.ignore (processBlkRequest hv m.dev.queueDesc num head)
  return 0

def handleVirtioBlkNotify : Op Machine Refused Unit := handleNotify hv (blkEntry hv) id

end Gated

end Baleen.Virtio
