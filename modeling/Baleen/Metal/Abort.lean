import Baleen.Pl011.Device
import Baleen.Gic.Mediation

/-!
# What a trap says

The words in which the hardware reports why a guest trapped, as the handlers read them, and the two
devices of a guest that an abort may be about.
-/

namespace Baleen.Metal

open Gic

def EC_DATA_ABORT : UInt64 := 0x24
def EC_SYSREG : UInt64 := 0x18
def EC_WFX : UInt64 := 0x01
def EC_HVC : UInt64 := 0x16

def ISS_SYSREG_FIELDS : UInt64 := 0x003fffff
def ISS_ICC_SGI1R_EL1_WRITE : UInt64 :=
  (3 : UInt64) <<< 20 ||| (5 : UInt64) <<< 17 ||| (12 : UInt64) <<< 10 ||| (11 : UInt64) <<< 1

structure DataAbort where
  isv : Bool
  sas : UInt64
  srt : Nat
  sf : Bool
  wnr : Bool
  fnv : Bool
  s1ptw : Bool
  deriving DecidableEq, Repr

namespace DataAbort

def decode (esr : UInt64) : DataAbort :=
  let iss := esr &&& 0x01ffffff
  { isv := (iss >>> 24) &&& 1 ≠ 0
    sas := (iss >>> 22) &&& 0b11
    srt := ((iss >>> 16) &&& 0x1f).toNat
    sf := (iss >>> 15) &&& 1 ≠ 0
    wnr := (iss >>> 6) &&& 1 ≠ 0
    fnv := (iss >>> 10) &&& 1 ≠ 0
    s1ptw := (iss >>> 7) &&& 1 ≠ 0 }

def accessBytes (a : DataAbort) : UInt64 := 1 <<< a.sas

def valueMask (a : DataAbort) : UInt64 :=
  if a.sas = 0 then 0xff else if a.sas = 1 then 0xffff else if a.sas = 2 then 0xffffffff
  else 0xffffffffffffffff

/-- Neither device can tell what was accessed, or how. -/
def undecodable (a : DataAbort) : Bool := !a.isv || a.fnv || a.s1ptw

end DataAbort

def pageIpa (hpfar : UInt64) : UInt64 := (hpfar &&& 0x00000ffffffffff0) <<< 8

def fullIpa (hpfar far : UInt64) : UInt64 := pageIpa hpfar ||| (far &&& 0xfff)

def PSCI_VERSION_FID : UInt64 := 0x84000000
def PSCI_FEATURES_FID : UInt64 := 0x8400000a
def PSCI_SYSTEM_OFF_FID : UInt64 := 0x84000008
def PSCI_CPU_ON_FID : UInt64 := 0xc4000003
def PSCI_VERSION_1_1 : UInt64 := 0x00010001
def PSCI_SUCCESS : UInt64 := 0
def PSCI_NOT_SUPPORTED : UInt64 := 0xffffffffffffffff
def PSCI_INVALID_PARAMETERS : UInt64 := 0xfffffffffffffffe
def PSCI_ALREADY_ON : UInt64 := 0xfffffffffffffffc
def PSCI_INVALID_ADDRESS : UInt64 := 0xfffffffffffffff7

def MPIDR_HWID_BITMASK : UInt64 := 0xff00ffffff

structure DeployedGic (V : Nat) where
  dev : VirtGic V
  traps : UInt64
  enables : UInt64
  deriving DecidableEq, Repr

namespace DeployedGic

variable {V : Nat}

def new (layout : GicLayout) : DeployedGic V := ⟨.new layout, 0, 0⟩

def mmioRead (d : DeployedGic V) (ipa size : UInt64) : Except Unhandled UInt64 × DeployedGic V :=
  (d.dev.mmioRead ipa size, { d with traps := d.traps + 1 })

def mmioWrite (d : DeployedGic V) (ipa size value : UInt64) :
    Except Unhandled Unit × DeployedGic V :=
  let d := { d with traps := d.traps + 1 }
  match d.dev.mmioWrite ipa size value with
  | (.ok newly, dev) => (.ok (), { d with dev := dev, enables := d.enables + UInt64.ofNat newly })
  | (.error unhandled, dev) => (.error unhandled, { d with dev := dev })

end DeployedGic

def VPL011_BASE : UInt64 := 0x09000000
def VPL011_SIZE : UInt64 := 0x1000

def inVpl011Window (ipa : UInt64) : Bool :=
  VPL011_BASE ≤ ipa && ipa < VPL011_BASE + VPL011_SIZE

end Baleen.Metal
