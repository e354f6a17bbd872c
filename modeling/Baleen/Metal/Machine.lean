import Mathlib.Logic.Function.Basic
import Baleen.Gic.Routing
import Baleen.Lib.Counter
import Baleen.Metal.Bank
import Baleen.Metal.Role

/-!
# The machine of the real guests

One physical CPU that carries the vCPUs of several guests in turn: its registers, the contexts of
the vCPUs that are not on it, and their pending sets.  A guest sends interrupts to vCPUs of its
own, the physical timer is forwarded to the vCPU that runs, and a switch exchanges everything that
one vCPU has on the physical CPU for what another one had.  The exact value of every counter is
kept; the 64-bit word that is read is `Counter.word` of it.
-/

namespace Baleen.Metal

open Gic

/-- The system registers of a context, the program counter and the processor state first. -/
inductive CtxReg where
  | elrEl2 | spsrEl2 | spEl0 | spEl1 | sctlrEl1 | ttbr0El1 | ttbr1El1 | tcrEl1 | mairEl1 | amairEl1
  | contextidrEl1 | vbarEl1 | esrEl1 | farEl1 | elrEl1 | spsrEl1 | parEl1 | tpidrEl0 | tpidrroEl0
  | tpidrEl1 | cpacrEl1 | cntkctlEl1 | cntvCvalEl0 | cntvCtlEl0 | mdscrEl1
  deriving DecidableEq, Repr

def POISON : UInt64 := 0xdeadbeefdeadbeef

structure FpCtx where
  v : Vector UInt64 64
  fpcr : UInt64
  fpsr : UInt64
  deriving DecidableEq, Repr

def FpCtx.ZERO : FpCtx := ⟨Vector.replicate _ 0, 0, 0⟩

def FpCtx.POISON : FpCtx where
  v := Vector.replicate _ Metal.POISON
  fpcr := (1 : UInt64) <<< 25 ||| (1 : UInt64) <<< 24 ||| (0b11 : UInt64) <<< 22
  fpsr := (1 : UInt64) <<< 7 ||| (1 : UInt64) <<< 4 ||| (1 : UInt64) <<< 3 |||
    (1 : UInt64) <<< 2 ||| (1 : UInt64) <<< 1 ||| 1

/-- The virtual interrupt state: the list registers and active priorities that there are. -/
structure VgicCtx (lrs aps : Nat) where
  lr : List UInt64
  vmcr : UInt64
  apr : Vector (Vector UInt64 aps) 2
  sized : lr.length = lrs
  deriving DecidableEq, Repr

section Vgic

variable {lrs aps : Nat}

def VgicCtx.ZERO : VgicCtx lrs aps where
  lr := List.replicate lrs 0
  vmcr := 0
  apr := Vector.replicate _ (Vector.replicate _ 0)
  sized := List.length_replicate

/-- Free registers, everything masked, every priority active. -/
def VgicCtx.poisonLive : VgicCtx lrs aps where
  lr := List.replicate lrs 0
  vmcr := 0
  apr := Vector.replicate _ (Vector.replicate _ 0xffffffffffffffff)
  sized := List.length_replicate

def VgicCtx.withBank (c : VgicCtx lrs aps) (bank : List UInt64) (same : bank.length = c.lr.length) :
    VgicCtx lrs aps := { c with lr := bank, sized := same.trans c.sized }

end Vgic

structure VcpuCtx (lrs aps : Nat) where
  x : Vector UInt64 31
  regs : CtxReg → UInt64
  vgic : VgicCtx lrs aps
  fp : FpCtx

def SPSR_EL2_LINUX : UInt64 := (0b0101 : UInt64) ||| (0b1111 : UInt64) <<< 6

namespace VcpuCtx

variable {lrs aps : Nat}

def new : VcpuCtx lrs aps := ⟨Vector.replicate _ 0, fun _ => 0, .ZERO, .ZERO⟩

def setReg (c : VcpuCtx lrs aps) (reg : CtxReg) (value : UInt64) : VcpuCtx lrs aps :=
  { c with regs := Function.update c.regs reg value }

/-- A new context with an entry point, a first argument and the state to start in. -/
def seedBoot (entry x0 spsr sctlr : UInt64) : VcpuCtx lrs aps :=
  let c : VcpuCtx lrs aps := new
  (({ c with x := c.x.set 0 x0 }.setReg .elrEl2 entry).setReg .spsrEl2 spsr).setReg .sctlrEl1 sctlr

/-- The general registers are in the trap frame, where no poison is written. -/
def poison (c : VcpuCtx lrs aps) : VcpuCtx lrs aps where
  x := c.x
  regs := fun _ => POISON
  vgic := .poisonLive
  fp := .POISON

def withBank (c : VcpuCtx lrs aps) (bank : List UInt64) (same : bank.length = c.vgic.lr.length) :
    VcpuCtx lrs aps := { c with vgic := c.vgic.withBank bank same }

/-- The list registers. -/
def bank (c : VcpuCtx lrs aps) : List UInt64 := c.vgic.lr

end VcpuCtx

def MPIDR_RES1 : UInt64 := (1 : UInt64) <<< 31

def guestMpidr (vcpu : Nat) : UInt64 := MPIDR_RES1 ||| vcpuAffinity vcpu

/-- What became of the targets that interrupts of one kind named. -/
structure Dispositions where
  named : Nat
  delivered : Nat
  deferred : Nat
  routed : Nat
  deriving DecidableEq, Repr

structure Tally where
  sgi : Dispositions
  spi : Dispositions
  unroutable : Nat
  affinityCollisions : Nat
  drained : Nat
  maintTaken : Nat
  timerForwarded : Nat
  timerDeferred : Nat
  hwReleased : Nat
  timerDeactivated : Nat
  handovers : Nat
  switches : Nat
  fpForeign : Nat
  apForeign : Nat
  fpRestoreVerified : Nat
  apRestoreVerified : Nat
  deriving DecidableEq, Repr

def Dispositions.ZERO : Dispositions := ⟨0, 0, 0, 0⟩

def Tally.ZERO : Tally := ⟨.ZERO, .ZERO, 0, 0, 0, 0, 0, 0, 0, 0, 0, 0, 0, 0, 0, 0⟩

inductive Kind where
  | sgi
  | spi
  deriving DecidableEq, Repr

def Tally.disposed (t : Tally) : Kind → Dispositions
  | .sgi => t.sgi
  | .spi => t.spi

def Tally.dispose (t : Tally) (kind : Kind) (f : Dispositions → Dispositions) : Tally :=
  match kind with
  | .sgi => { t with sgi := f t.sgi }
  | .spi => { t with spi := f t.spi }

/-- A physical interrupt of this CPU at the redistributor. -/
structure Ppi where
  enabled : Bool
  active : Bool
  deriving DecidableEq, Repr

structure Machine (G V lrs aps : Nat) where
  /-- The vCPU that runs. -/
  current : Role G V
  /-- The registers of the physical CPU, those of the trap frame included. -/
  live : VcpuCtx lrs aps
  /-- Whether the refill interrupt is armed. -/
  underflow : Bool
  timer : Ppi
  vttbrEl2 : UInt64
  vmpidrEl2 : UInt64
  vttbr : Fin G → UInt64
  ctx : Role G V → VcpuCtx lrs aps
  seeded : Role G V → Bool
  pending : Role G V → PendingSet
  tally : Fin G → Tally
  dispatchedNonboot : Nat

namespace Machine

variable {G V lrs aps : Nat}

/-- Count something for the guest of a slot. -/
def count (slot : Fin G) (f : Tally → Tally) (m : Machine G V lrs aps) : Machine G V lrs aps :=
  { m with tally := Function.update m.tally slot (f (m.tally slot)) }

def setLive (c : VcpuCtx lrs aps) (m : Machine G V lrs aps) : Machine G V lrs aps :=
  { m with live := c }

def setPending (who : Role G V) (set : PendingSet) (m : Machine G V lrs aps) :
    Machine G V lrs aps :=
  { m with pending := Function.update m.pending who set }

def setCtx (who : Role G V) (c : VcpuCtx lrs aps) (m : Machine G V lrs aps) : Machine G V lrs aps :=
  { m with ctx := Function.update m.ctx who c }

def affinity (r : Role G V) : UInt64 := vcpuAffinity r.vcpu

theorem length_inject_live (intid : UInt32) (c : VcpuCtx lrs aps) :
    (inject intid c.bank).2.length = c.vgic.lr.length := length_inject

/-- Into a list register of the vCPU that runs, or into its pending set. -/
def deliverOrDeferVint (kind : Kind) (intid : UInt32) (m : Machine G V lrs aps) :
    Machine G V lrs aps :=
  let slot := m.current.guest
  let m := m.count slot (·.dispose kind fun d => { d with named := d.named + 1 })
  if (inject intid m.live.bank).1 then
    (m.setLive
      (m.live.withBank (inject intid m.live.bank).2 (length_inject_live intid m.live))).count
      slot (·.dispose kind fun d => { d with delivered := d.delivered + 1 })
  else if ((m.pending m.current).mark intid).1 then
    let m := m.setPending m.current ((m.pending m.current).mark intid).2
    { m.count slot (·.dispose kind fun d => { d with deferred := d.deferred + 1 }) with
      underflow := true }
  else m

/-- Into the pending set of a vCPU that does not run. -/
def markSibling (kind : Kind) (own : Role G V) (intid : UInt32) (m : Machine G V lrs aps) :
    Machine G V lrs aps :=
  if ((m.pending own).mark intid).1 then
    (m.setPending own ((m.pending own).mark intid).2).count m.current.guest
      (·.dispose kind fun d => { d with named := d.named + 1, routed := d.routed + 1 })
  else m

/-- One target of an interrupt. -/
def deliverTo (kind : Kind) (intid : UInt32) (own : Role G V) (m : Machine G V lrs aps) :
    Machine G V lrs aps :=
  if own.vcpu = m.current.vcpu then m.deliverOrDeferVint kind intid
  else m.markSibling kind own intid

/-- Count the vCPUs of other guests that have an affinity that is named. -/
def noteAffinityCollisions (names : UInt64 → Bool) (m : Machine G V lrs aps) :
    Machine G V lrs aps :=
  let slot := m.current.guest
  let collisions := (Role.census G V).countP fun r => r.guest != slot && names (affinity r)
  if 0 < collisions then
    m.count slot fun t => { t with affinityCollisions := t.affinityCollisions + collisions }
  else m

def sendSgi (value : UInt64) (m : Machine G V lrs aps) : Machine G V lrs aps :=
  let decoded := Sgi.decode value (affinity m.current)
  m.current.ownVcpus.foldl
    (fun m own => if decoded.targets (affinity own) then m.deliverTo .sgi decoded.intid own else m)
    (m.noteAffinityCollisions decoded.targets)

def deliverSpi (route : Irouter.SpiRoute) (intid : UInt32) (m : Machine G V lrs aps) :
    Machine G V lrs aps :=
  let slot := m.current.guest
  match m.current.ownVcpus.find? fun own => route.targets (affinity own) with
  | some own => (m.noteAffinityCollisions route.targets).deliverTo .spi intid own
  | none =>
      (m.noteAffinityCollisions route.targets).count slot fun t =>
        { t with unroutable := t.unroutable + 1 }

theorem length_flush_live (who : Role G V) (m : Machine G V lrs aps) :
    (flushPendingToLrs m.live.bank (m.pending who)).1.length = m.live.vgic.lr.length :=
  (flush_spec m.live.bank (m.pending who)).length

/-- Refill the list registers from a pending set. -/
def flushPending (who : Role G V) (m : Machine G V lrs aps) : Machine G V lrs aps :=
  let flushed := flushPendingToLrs m.live.bank (m.pending who)
  let refilled := (m.setLive (m.live.withBank flushed.1 (length_flush_live who m))).setPending who
    flushed.2.1
  { refilled.count who.guest fun t => { t with drained := t.drained + flushed.2.2 } with
    underflow := !flushed.2.1.isEmpty }

def VTIMER_INTID : UInt32 := 27
def MAINT_INTID : UInt32 := 25
def HYP_TIMER_INTID : UInt32 := 26

theorem length_injectHw_live (c : VcpuCtx lrs aps) :
    (injectHw VTIMER_INTID VTIMER_INTID c.bank).2.length = c.vgic.lr.length := by
  obtain ⟨lr, -, -, -, -, injected⟩ := injectHw_spec VTIMER_INTID (by decide)
  rw [injected]
  exact length_place

/-- The timer of the guest, which is `wanted` if the vCPU that runs has enabled it.  Reading its
number has made it active. -/
def takeTimer (wanted : Bool) (m : Machine G V lrs aps) : Machine G V lrs aps :=
  let slot := m.current.guest
  if !wanted then { m with timer := ⟨false, false⟩ }
  else
    let m := { m with timer := { m.timer with active := true } }
    if (injectHw VTIMER_INTID VTIMER_INTID m.live.bank).1 then
      (m.setLive (m.live.withBank (injectHw VTIMER_INTID VTIMER_INTID m.live.bank).2
        (length_injectHw_live m.live))).count slot fun t =>
          { t with timerForwarded := t.timerForwarded + 1 }
    else m.count slot fun t => { t with timerDeferred := t.timerDeferred + 1 }

def takeMaintenance (m : Machine G V lrs aps) : Machine G V lrs aps :=
  let slot := m.current.guest
  (m.count slot fun t => { t with maintTaken := t.maintTaken + 1 }).flushPending m.current

/-- Keep the registers of the vCPU that leaves. -/
def saveOutgoing (m : Machine G V lrs aps) : Machine G V lrs aps := m.setCtx m.current m.live

theorem length_release (c : VcpuCtx lrs aps) :
    (releaseHardwareMappings c.bank).2.length = c.vgic.lr.length := by
  rw [releaseHardwareMappings_eq]
  exact List.length_map demote

/-- Take the physical interrupts out of the context that was saved. -/
def releaseOutgoing (m : Machine G V lrs aps) : Machine G V lrs aps :=
  let cur := m.current
  let released := releaseHardwareMappings (m.ctx cur).bank
  (m.setCtx cur ((m.ctx cur).withBank released.2 (length_release (m.ctx cur)))).count cur.guest
    fun t => { t with
      handovers := t.handovers + 1
      hwReleased := t.hwReleased + released.1.toNat }

/-- Disable and deactivate the timer, and count it if it was active. -/
def releaseForwardedTimer (m : Machine G V lrs aps) : Machine G V lrs aps :=
  let slot := m.current.guest
  let wasActive := m.timer.active
  let m := { m with timer := ⟨false, false⟩ }
  if wasActive then m.count slot fun t => { t with timerDeactivated := t.timerDeactivated + 1 }
  else m

/-- Count the switches that find another vCPU's values in the registers. -/
def noteForeign (next : Role G V) (m : Machine G V lrs aps) : Machine G V lrs aps :=
  m.count next.guest fun t => { t with
    fpForeign := t.fpForeign + if (m.ctx m.current).fp ≠ (m.ctx next).fp then 1 else 0
    apForeign := t.apForeign + if m.live.vgic.apr ≠ (m.ctx next).vgic.apr then 1 else 0 }

def poisonLive (m : Machine G V lrs aps) : Machine G V lrs aps := m.setLive m.live.poison

/-- Everything the vCPU had, its guest's address space and its own identity. -/
def restoreIncoming (next : Role G V) (m : Machine G V lrs aps) : Machine G V lrs aps :=
  { m.setLive (m.ctx next) with
    vttbrEl2 := m.vttbr next.guest
    vmpidrEl2 := guestMpidr next.vcpu }

def verifyRestored (next : Role G V) (m : Machine G V lrs aps) : Machine G V lrs aps :=
  m.count next.guest fun t => { t with
    fpRestoreVerified := t.fpRestoreVerified + if m.live.fp = (m.ctx next).fp then 1 else 0
    apRestoreVerified := t.apRestoreVerified +
      if m.live.vgic.apr = (m.ctx next).vgic.apr then 1 else 0 }

/-- The physical CPU belongs to `next` from here on. -/
def setCurrent (next : Role G V) (wants : Bool) (m : Machine G V lrs aps) : Machine G V lrs aps :=
  { m.count next.guest fun t => { t with switches := t.switches + 1 } with
    timer := { m.timer with enabled := wants }
    current := next
    dispatchedNonboot := m.dispatchedNonboot + if next.isBoot then 0 else 1 }

def leave (m : Machine G V lrs aps) : Machine G V lrs aps :=
  m.saveOutgoing.releaseOutgoing.releaseForwardedTimer

def enter (next : Role G V) (wants : Bool) (m : Machine G V lrs aps) : Machine G V lrs aps :=
  (((m.restoreIncoming next).verifyRestored next).flushPending next).setCurrent next wants

/-- Nothing when the context of `next` was never seeded: the machine is parked.  The incoming vCPU
`wants` the timer if it has enabled it in the distributor of its guest. -/
def switchContext (next : Role G V) (wants : Bool) (m : Machine G V lrs aps) :
    Option (Machine G V lrs aps) :=
  let left := (m.leave.noteForeign next).poisonLive
  if left.seeded next then some (left.enter next wants) else none

/-- The context that a vCPU is started with. -/
def seed (own : Role G V) (entry contextId sctlr : UInt64) (m : Machine G V lrs aps) :
    Machine G V lrs aps :=
  { m.setCtx own (.seedBoot entry contextId SPSR_EL2_LINUX sctlr) with
    seeded := Function.update m.seeded own true }

def setPpiEnabled (enabled : Bool) (m : Machine G V lrs aps) : Machine G V lrs aps :=
  { m with timer := { m.timer with enabled := enabled } }

/-- Before the guest of a slot is entered as the first one; the others have an entry point and a
first argument. -/
def boot [NeZero V] (slot : Fin G) (live : VcpuCtx lrs aps) (vttbr : Fin G → UInt64)
    (images : Fin G → UInt64 × UInt64) (sctlr : UInt64) : Machine G V lrs aps where
  current := ⟨slot, 0⟩
  live := { live with vgic := .ZERO }
  underflow := false
  timer := ⟨true, false⟩
  vttbrEl2 := vttbr slot
  vmpidrEl2 := guestMpidr 0
  vttbr := vttbr
  ctx r :=
    if r.isBoot && r.guest != slot then
      .seedBoot (images r.guest).1 (images r.guest).2 SPSR_EL2_LINUX sctlr
    else .new
  seeded r := r.isBoot
  pending _ := .new
  tally _ := .ZERO
  dispatchedNonboot := 0

end Machine

end Baleen.Metal
