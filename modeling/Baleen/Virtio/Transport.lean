import Baleen.Lib.Words

/-!
# The virtio-mmio registers

The register file that a driver programs, shared by the console and the block device, and
the copy-on-write disk behind the block device.
-/

namespace Baleen.Virtio

namespace Reg

def MAGIC_VALUE : UInt64 := 0x000
def VERSION : UInt64 := 0x004
def DEVICE_ID : UInt64 := 0x008
def VENDOR_ID : UInt64 := 0x00c
def DEVICE_FEATURES : UInt64 := 0x010
def DEVICE_FEATURES_SEL : UInt64 := 0x014
def DRIVER_FEATURES : UInt64 := 0x020
def DRIVER_FEATURES_SEL : UInt64 := 0x024
def QUEUE_SEL : UInt64 := 0x030
def QUEUE_NUM_MAX : UInt64 := 0x034
def QUEUE_NUM : UInt64 := 0x038
def QUEUE_READY : UInt64 := 0x044
def QUEUE_NOTIFY : UInt64 := 0x050
def INTERRUPT_STATUS : UInt64 := 0x060
def INTERRUPT_ACK : UInt64 := 0x064
def STATUS : UInt64 := 0x070
def QUEUE_DESC_LOW : UInt64 := 0x080
def QUEUE_DESC_HIGH : UInt64 := 0x084
def QUEUE_DRIVER_LOW : UInt64 := 0x090
def QUEUE_DRIVER_HIGH : UInt64 := 0x094
def QUEUE_DEVICE_LOW : UInt64 := 0x0a0
def QUEUE_DEVICE_HIGH : UInt64 := 0x0a4

end Reg

def MAGIC : UInt32 := 0x74726976
def VERSION_V2 : UInt32 := 2
def DEVICE_ID_CONSOLE : UInt32 := 3
def DEVICE_ID_BLK : UInt32 := 2
def VENDOR : UInt32 := 0x4c414256
def VERSION_1_WORD1_MASK : UInt32 := 1
def STATUS_DRIVER_OK : UInt32 := 4
def STATUS_FEATURES_OK : UInt32 := 8
def QUEUE_NUM_MAX_VAL : UInt32 := 8
def BLK_CONFIG_CAPACITY : UInt64 := 0x100

/-- The registers both devices have. -/
structure Transport where
  deviceFeaturesSel : UInt32 := 0
  driverFeaturesSel : UInt32 := 0
  driverFeatures0 : UInt32 := 0
  driverFeatures1 : UInt32 := 0
  queueSel : UInt32 := 0
  queueNum : UInt32 := 0
  queueReady : UInt32 := 0
  queueDesc : UInt64 := 0
  queueDriver : UInt64 := 0
  queueDevice : UInt64 := 0
  status : UInt32 := 0
  interruptStatus : UInt32 := 0
  usedIdx : UInt16 := 0
  lastAvailIdx : UInt16 := 0
  deriving DecidableEq, Repr

namespace Transport

def queueLive (t : Transport) : Bool := t.status &&& STATUS_DRIVER_OK ≠ 0 && t.queueReady = 1

/-- The registers below the configuration space. -/
def mmioRead (t : Transport) (deviceId : UInt32) (offset : UInt64) : UInt32 :=
  if offset = Reg.MAGIC_VALUE then MAGIC
  else if offset = Reg.VERSION then VERSION_V2
  else if offset = Reg.DEVICE_ID then deviceId
  else if offset = Reg.VENDOR_ID then VENDOR
  else if offset = Reg.DEVICE_FEATURES then if t.deviceFeaturesSel = 1 then 1 else 0
  else if offset = Reg.QUEUE_NUM_MAX then QUEUE_NUM_MAX_VAL
  else if offset = Reg.QUEUE_READY then t.queueReady
  else if offset = Reg.INTERRUPT_STATUS then t.interruptStatus
  else if offset = Reg.STATUS then t.status
  else 0

def setLow (old : UInt64) (value : UInt32) : UInt64 :=
  old &&& ~~~(0xffffffff : UInt64) ||| value.toUInt64

def setHigh (old : UInt64) (value : UInt32) : UInt64 :=
  old &&& (0xffffffff : UInt64) ||| value.toUInt64 <<< 32

/-- The device takes `FEATURES_OK` back when the driver did not accept the version. -/
def writeStatus (t : Transport) (value : UInt32) : Transport :=
  if value &&& STATUS_FEATURES_OK ≠ 0 ∧ t.driverFeatures1 &&& VERSION_1_WORD1_MASK = 0 then
    { t with status := value &&& ~~~STATUS_FEATURES_OK }
  else { t with status := value }

/-- A register write, and whether it was a kick. -/
def mmioWrite (t : Transport) (offset : UInt64) (value : UInt32) : Transport × Bool :=
  if offset = Reg.DEVICE_FEATURES_SEL then ({ t with deviceFeaturesSel := value }, false)
  else if offset = Reg.DRIVER_FEATURES_SEL then ({ t with driverFeaturesSel := value }, false)
  else if offset = Reg.DRIVER_FEATURES then
    if t.driverFeaturesSel &&& 1 = 0 then ({ t with driverFeatures0 := value }, false)
    else ({ t with driverFeatures1 := value }, false)
  else if offset = Reg.QUEUE_SEL then ({ t with queueSel := value }, false)
  else if offset = Reg.QUEUE_NUM then ({ t with queueNum := value }, false)
  else if offset = Reg.QUEUE_READY then ({ t with queueReady := value }, false)
  else if offset = Reg.QUEUE_DESC_LOW then ({ t with queueDesc := setLow t.queueDesc value }, false)
  else if offset = Reg.QUEUE_DESC_HIGH then
    ({ t with queueDesc := setHigh t.queueDesc value }, false)
  else if offset = Reg.QUEUE_DRIVER_LOW then
    ({ t with queueDriver := setLow t.queueDriver value }, false)
  else if offset = Reg.QUEUE_DRIVER_HIGH then
    ({ t with queueDriver := setHigh t.queueDriver value }, false)
  else if offset = Reg.QUEUE_DEVICE_LOW then
    ({ t with queueDevice := setLow t.queueDevice value }, false)
  else if offset = Reg.QUEUE_DEVICE_HIGH then
    ({ t with queueDevice := setHigh t.queueDevice value }, false)
  else if offset = Reg.STATUS then (t.writeStatus value, false)
  else if offset = Reg.INTERRUPT_ACK then
    ({ t with interruptStatus := t.interruptStatus &&& ~~~value }, false)
  else (t, offset = Reg.QUEUE_NOTIFY)

end Transport

structure VirtioConsole where
  transport : Transport := {}
  deriving DecidableEq, Repr

namespace VirtioConsole

def mmioRead (d : VirtioConsole) (offset : UInt64) : UInt32 :=
  d.transport.mmioRead DEVICE_ID_CONSOLE offset

def mmioWrite (d : VirtioConsole) (offset : UInt64) (value : UInt32) : VirtioConsole × Bool :=
  (⟨(d.transport.mmioWrite offset value).1⟩, (d.transport.mmioWrite offset value).2)

end VirtioConsole

def SECTOR_SIZE : Nat := 512
def DISK_SECTORS : Nat := 4
def N_TENANTS : Nat := 2

structure VirtioBlk where
  transport : Transport := {}
  capacity : UInt64 := UInt64.ofNat DISK_SECTORS
  deriving DecidableEq, Repr

namespace VirtioBlk

def mmioRead (d : VirtioBlk) (offset : UInt64) : UInt32 :=
  if offset = BLK_CONFIG_CAPACITY then d.capacity.toUInt32
  else if offset = BLK_CONFIG_CAPACITY + 4 then (d.capacity >>> 32).toUInt32
  else d.transport.mmioRead DEVICE_ID_BLK offset

/-- Unlike the console, a status of zero resets the device. -/
def mmioWrite (d : VirtioBlk) (offset : UInt64) (value : UInt32) : VirtioBlk × Bool :=
  if offset = Reg.STATUS ∧ value = 0 then ({}, false)
  else ({ d with transport := (d.transport.mmioWrite offset value).1 },
    (d.transport.mmioWrite offset value).2)

end VirtioBlk

abbrev Sector := Vector UInt8 SECTOR_SIZE

/-- Bytes at the start of a sector that is zero otherwise. -/
def Sector.padded (bytes : List UInt8) : Sector := Vector.ofFn fun i => (bytes[i.val]?).getD 0

/-- A template all tenants share, under one overlay for each. -/
structure BlkDisk where
  template : Vector Sector DISK_SECTORS
  overlay : Vector (Vector Sector DISK_SECTORS) N_TENANTS
  dirty : Vector (Vector Bool DISK_SECTORS) N_TENANTS
  deriving DecidableEq, Repr

namespace BlkDisk

def new : BlkDisk :=
  ⟨.replicate _ (.replicate _ 0), .replicate _ (.replicate _ (.replicate _ 0)),
    .replicate _ (.replicate _ false)⟩

def seedTemplate (d : BlkDisk) (sector : Fin DISK_SECTORS) (bytes : List UInt8) : BlkDisk :=
  { d with template := d.template.set sector (Sector.padded bytes) }

def read (d : BlkDisk) (tenant : Fin N_TENANTS) (sector : Fin DISK_SECTORS) : Sector :=
  if d.dirty[tenant][sector] then d.overlay[tenant][sector] else d.template[sector]

def write (d : BlkDisk) (tenant : Fin N_TENANTS) (sector : Fin DISK_SECTORS) (bytes : List UInt8) :
    BlkDisk :=
  { d with
    overlay := d.overlay.set tenant (d.overlay[tenant].set sector (Sector.padded bytes))
    dirty := d.dirty.set tenant (d.dirty[tenant].set sector true) }

def discardOverlay (d : BlkDisk) (tenant : Fin N_TENANTS) : BlkDisk :=
  { d with
    overlay := d.overlay.set tenant (.replicate _ (.replicate _ 0))
    dirty := d.dirty.set tenant (.replicate _ false) }

end BlkDisk

end Baleen.Virtio
