import Baleen.Hypervisor.Model
import Baleen.Part.Model
import Baleen.Metal.Abort
import Baleen.Metal.Events

/-!
# The host

The handlers that run when a guest traps or a physical interrupt arrives, over the machine, the
devices of the guests, and the hypervisor that decides who runs.  The hypervisor is asked before
anything is switched, and whatever it refuses parks the machine, as does every other situation that
the handlers rule out.  Counters are kept exactly, and read as words.
-/

namespace Baleen.Metal

open Gic Pl011 Sched

def PCPU0 : Pcpu := 0
def WITNESS_SPI : UInt32 := 33
def MAX_PEER_FAULTS : UInt64 := 4096

/-- No two vCPUs of a guest have one identity. -/
def affinitiesAreDistinct (V : Nat) : Bool :=
  (List.range V).all fun i => (List.range V).all fun j =>
    decide (i < j) == false ||
      vcpuAffinity i &&& MPIDR_HWID_BITMASK != vcpuAffinity j &&& MPIDR_HWID_BITMASK

/-- What is fixed when the host is compiled, with what is checked of it there. -/
structure Plan (G V : Nat) where
  part : Part.Partition
  layout : GicLayout
  config : Config
  wellFormed : part.isWellFormed = true
  numGuests : part.numGuests.toNat = G
  vcpusPerGuest : part.vcpusPerGuest.toNat = V
  valid : layout.validate V = true
  room : V ≤ config.vcpusPerDomain
  carried : 0 < config.numPcpus
  distinct : affinitiesAreDistinct V = true

inductive Retirement where
  | live
  | poweredOff
  | faulted
  deriving DecidableEq, Repr

structure VcpuBooks where
  blocked : Nat
  blockedReadbackOk : Nat
  woken : Nat
  offlinedWhileBlocked : Nat
  deriving DecidableEq, Repr

structure GuestBooks where
  wfiTraps : Nat
  wfiYields : Nat
  secondariesSeeded : Nat
  secondariesAdmitted : Nat
  cpuOnRefused : Nat
  peerFaults : Nat
  deriving DecidableEq, Repr

structure Host (G V lrs aps : Nat) where
  hv : Hypervisor
  machine : Machine G V lrs aps
  vgic : Fin G → DeployedGic V
  vpl011 : Fin G → DeployedPl011
  retirement : Fin G → Retirement
  spiWitnessArmed : Fin G → Bool
  spiWitnessFired : Fin G → Bool
  sctlrAtBoot : UInt64
  vcpuBooks : Role G V → VcpuBooks
  guestBooks : Fin G → GuestBooks
  preempts : Nat
  wakeSweeps : Nat
  sliceExpiries : Nat

/-- Why the machine stopped. -/
inductive Halt (G V lrs aps : Nat) where
  | refused (e : HvError)
  | noneRunnable
  | noContext
  /-- An access to a peer's memory was refused, but the refusal proves nothing. -/
  | unproven
  | unexpected (intid : UInt32)
  /-- The matcher of a UART read past its needle. -/
  | panicked
  | endOfBoot (last : Host G V lrs aps)

/-- What the host is told by the hardware, and what happens while a guest runs.  A handler that
needs the time reads `now`; `proven` is what the first access to a peer's memory shows: that it is
unmapped in the image of the guest that faults and maps to itself in the peer's, and that the
peer's memory, which the peer may write, begins with the payload that was put there. -/
inductive Trap (aps : Nat) where
  | sync (now : Ticks) (proven : Bool) (esr far hpfar : UInt64)
  | irq (now : Ticks) (intid : UInt32)
  | interface (k : Nat) (state : LrState)
  | compute (x : Vector UInt64 31) (regs : CtxReg → UInt64) (fp : FpCtx) (vmcr : UInt64)
      (apr : Vector (Vector UInt64 aps) 2)

variable {G V lrs aps : Nat}

/-- The number of the vCPU in the hypervisor. -/
def Role.model (r : Role G V) : Vcpu := UInt32.ofNat r.vcpu

def schedulerRun (next : Role G V) (now : Ticks) : HvCall := .schedRun next.model PCPU0 now

namespace Machine

def readX (m : Machine G V lrs aps) (i : Nat) : UInt64 := m.live.x[i]?.getD 0

/-- Writes past the last register are dropped. -/
def writeX (i : Nat) (value : UInt64) (m : Machine G V lrs aps) : Machine G V lrs aps :=
  m.compute (m.live.x.setIfInBounds i value) m.live.regs m.live.fp m.live.vgic.vmcr m.live.vgic.apr

def advanceElr (m : Machine G V lrs aps) : Machine G V lrs aps :=
  m.compute m.live.x (Function.update m.live.regs .elrEl2 (m.live.regs .elrEl2 + 4)) m.live.fp
    m.live.vgic.vmcr m.live.vgic.apr

end Machine

namespace Host

def setMachine (m : Machine G V lrs aps) (h : Host G V lrs aps) : Host G V lrs aps :=
  { h with machine := m }

def advanceElr (h : Host G V lrs aps) : Host G V lrs aps := h.setMachine h.machine.advanceElr

def writeX (i : Nat) (value : UInt64) (h : Host G V lrs aps) : Host G V lrs aps :=
  h.setMachine (h.machine.writeX i value)

/-- The value of an access, with register 31 read as zero. -/
def accessValue (a : DataAbort) (h : Host G V lrs aps) : UInt64 :=
  (if a.srt < 31 then h.machine.readX a.srt else 0) &&& a.valueMask

def accessResult (a : DataAbort) (value : UInt64) (h : Host G V lrs aps) : Host G V lrs aps :=
  if a.srt < 31 then h.writeX a.srt (if a.sf then value else value &&& 0xffffffff) else h

def countVcpu (r : Role G V) (f : VcpuBooks → VcpuBooks) (h : Host G V lrs aps) :
    Host G V lrs aps :=
  { h with vcpuBooks := Function.update h.vcpuBooks r (f (h.vcpuBooks r)) }

def countGuest (slot : Fin G) (f : GuestBooks → GuestBooks) (h : Host G V lrs aps) :
    Host G V lrs aps :=
  { h with guestBooks := Function.update h.guestBooks slot (f (h.guestBooks slot)) }

theorem guestBooks_countGuest (slot : Fin G) (f : GuestBooks → GuestBooks) (h : Host G V lrs aps) :
    (h.countGuest slot f).guestBooks slot = f (h.guestBooks slot) := Function.update_self ..

def setVgic (slot : Fin G) (d : DeployedGic V) (h : Host G V lrs aps) : Host G V lrs aps :=
  { h with vgic := Function.update h.vgic slot d }

/-- Whether a vCPU has enabled an interrupt in the distributor of its guest. -/
def wants (r : Role G V) (intid : UInt32) (h : Host G V lrs aps) : Bool :=
  (h.vgic r.guest).dev.isEnabled r.vcpu intid

def setRetirement (slot : Fin G) (why : Retirement) (h : Host G V lrs aps) : Host G V lrs aps :=
  { h with retirement := Function.update h.retirement slot why }

end Host

namespace Plan

open Host

variable (plan : Plan G V)

def slotDom (slot : Fin G) : DomId := plan.part.domOf (UInt64.ofNat slot)

def guestOwning (ipa : UInt64) : Option Nat := (plan.part.ownerOf ipa).map UInt64.toNat

def stateOf (h : Host G V lrs aps) (r : Role G V) : Option RunState :=
  h.hv.sched.stateOf (plan.slotDom r.guest) r.model

/-- A call that the hypervisor must accept. -/
def schedOn (slot : Fin G) (call : HvCall) (h : Host G V lrs aps) :
    Except (Halt G V lrs aps) (Host G V lrs aps) :=
  match Hypervisor.dispatch (plan.slotDom slot) call h.hv with
  | (.ok _, hv) => .ok { h with hv := hv }
  | (.error e, _) => .error (.refused e)

def wakeOne (h : Host G V lrs aps) (r : Role G V) : Except (Halt G V lrs aps) (Host G V lrs aps) :=
  if plan.stateOf h r ≠ some .blocked then .ok h
  else do
    let h ← plan.schedOn r.guest (.schedWake r.model) h
    return h.countVcpu r fun b => { b with woken := b.woken + 1 }

def wakeBlockedVcpus (h : Host G V lrs aps) : Except (Halt G V lrs aps) (Host G V lrs aps) :=
  (Role.census G V).foldlM plan.wakeOne { h with wakeSweeps := h.wakeSweeps + 1 }

def nextRunnable (cur : Role G V) (h : Host G V lrs aps) : Option (Role G V) :=
  cur.rotation.find? fun r => plan.stateOf h r = some .runnable

def switchContext (next : Role G V) (h : Host G V lrs aps) :
    Except (Halt G V lrs aps) (Host G V lrs aps) :=
  match h.machine.switchContext next (h.wants next Machine.VTIMER_INTID) with
  | some m => .ok (h.setMachine m)
  | none => .error .noContext

/-- The hypervisor's leave, then the switch. -/
def runNext (next : Role G V) (now : Ticks) (h : Host G V lrs aps) :
    Except (Halt G V lrs aps) (Host G V lrs aps) := do
  let h ← plan.schedOn next.guest (schedulerRun next now) h
  switchContext next h

def preemptThroughTheScheduler (now : Ticks) (h : Host G V lrs aps) :
    Except (Halt G V lrs aps) (Host G V lrs aps) := do
  let cur := h.machine.current
  let h := { h with preempts := h.preempts + 1 }
  let h ← plan.schedOn cur.guest (.schedPreempt cur.model now) h
  let h ← plan.wakeBlockedVcpus h
  match plan.nextRunnable cur h with
  | none => .error .noneRunnable
  | some next => plan.runNext next now h

def offlineOne (now : Ticks) (h : Host G V lrs aps) (own : Role G V) :
    Except (Halt G V lrs aps) (Host G V lrs aps) :=
  let state := plan.stateOf h own
  if state = some .offline then .ok h
  else
    let h := if state = some .blocked then
        h.countVcpu own fun b => { b with offlinedWhileBlocked := b.offlinedWhileBlocked + 1 }
      else h
    plan.schedOn own.guest (.schedOffline own.model now) h

/-- Whether somebody took over. -/
def retireAndHandOver (now : Ticks) (why : Retirement) (h : Host G V lrs aps) :
    Except (Halt G V lrs aps) (Bool × Host G V lrs aps) := do
  let cur := h.machine.current
  let h ← cur.ownVcpus.foldlM (plan.offlineOne now) (h.setRetirement cur.guest why)
  let h ← plan.wakeBlockedVcpus h
  match plan.nextRunnable cur h with
  | none => return (false, h)
  | some next => return (true, ← plan.runNext next now h)

/-- A retirement that nobody takes over from ends the boot. -/
def retire (now : Ticks) (why : Retirement) (h : Host G V lrs aps) :
    Except (Halt G V lrs aps) (Host G V lrs aps) := do
  match ← plan.retireAndHandOver now why h with
  | (true, h) => return h
  | (false, h) => .error (.endOfBoot h)

def faultRetire (now : Ticks) (h : Host G V lrs aps) :
    Except (Halt G V lrs aps) (Host G V lrs aps) :=
  plan.retire now .faulted h

def armSpiWitness (route : Option Irouter.SpiRoute) (h : Host G V lrs aps) : Host G V lrs aps :=
  match route with
  | none => h
  | some route =>
      if route.targets (vcpuAffinity 0) then h
      else { h with spiWitnessArmed :=
        Function.update h.spiWitnessArmed h.machine.current.guest true }

def maybeFireSpiWitness (h : Host G V lrs aps) : Host G V lrs aps :=
  let running := h.machine.current
  let slot := running.guest
  if !h.spiWitnessArmed slot || h.spiWitnessFired slot then h
  else
    match (h.vgic slot).dev.spiRoute WITNESS_SPI with
    | none => h
    | some route =>
        if !h.wants running WITNESS_SPI || route.targets (Machine.affinity running) then h
        else
          { h with spiWitnessFired := Function.update h.spiWitnessFired slot true }.setMachine
            (h.machine.deliverSpi route WITNESS_SPI)

def cpuOn (targetMpidr entry contextId : UInt64) (h : Host G V lrs aps) :
    Except (Halt G V lrs aps) (UInt64 × Host G V lrs aps) :=
  let slot := h.machine.current.guest
  let refuse (code : UInt64) := Except.ok (code, h.countGuest slot fun b =>
    { b with cpuOnRefused := b.cpuOnRefused + 1 })
  let want := targetMpidr &&& MPIDR_HWID_BITMASK
  match h.machine.current.ownVcpus.find? fun o =>
      guestMpidr o.vcpu &&& MPIDR_HWID_BITMASK = want with
  | none => refuse PSCI_INVALID_PARAMETERS
  | some own =>
      if plan.guestOwning entry ≠ some slot then refuse PSCI_INVALID_ADDRESS
      else if plan.stateOf h own ≠ some .offline then refuse PSCI_ALREADY_ON
      else do
        let h := h.setMachine (h.machine.seed own entry contextId h.sctlrAtBoot)
        let h := h.countGuest slot fun b => { b with secondariesSeeded := b.secondariesSeeded + 1 }
        let h ← plan.schedOn slot (.schedAdmit own.model) h
        let h := h.countGuest slot fun b =>
          { b with secondariesAdmitted := b.secondariesAdmitted + 1 }
        return (PSCI_SUCCESS, h)

def handlePsci (now : Ticks) (h : Host G V lrs aps) :
    Except (Halt G V lrs aps) (Host G V lrs aps) :=
  let x := h.machine.readX
  if x 0 = PSCI_VERSION_FID then .ok (h.writeX 0 PSCI_VERSION_1_1)
  else if x 0 = PSCI_FEATURES_FID then
    .ok (h.writeX 0
      (if x 1 = PSCI_SYSTEM_OFF_FID ∨ x 1 = PSCI_CPU_ON_FID then 0 else PSCI_NOT_SUPPORTED))
  else if x 0 = PSCI_SYSTEM_OFF_FID then plan.retire now .poweredOff h
  else if x 0 = PSCI_CPU_ON_FID then do
    let (code, h) ← plan.cpuOn (x 1) (x 2) (x 3) h
    return h.writeX 0 code
  else .ok (h.writeX 0 PSCI_NOT_SUPPORTED)

def handleLinuxWfi (now : Ticks) (h : Host G V lrs aps) :
    Except (Halt G V lrs aps) (Host G V lrs aps) :=
  let running := h.machine.current
  let h := h.countGuest running.guest fun b => { b with wfiTraps := b.wfiTraps + 1 }
  let h := (maybeFireSpiWitness h).advanceElr
  match plan.nextRunnable running h with
  -- It waits for an interrupt in the host, and goes on.
  | none => .ok h
  | some peer => do
      let h ← plan.schedOn running.guest (.schedBlock running.model now) h
      let h := h.countVcpu running fun b => { b with blocked := b.blocked + 1 }
      let h := if plan.stateOf h running = some .blocked then
          h.countVcpu running fun b => { b with blockedReadbackOk := b.blockedReadbackOk + 1 }
        else h
      let h ← plan.schedOn peer.guest (schedulerRun peer now) h
      let h := h.countGuest running.guest fun b => { b with wfiYields := b.wfiYields + 1 }
      switchContext peer h

def handleLinuxSysregTrap (now : Ticks) (esr : UInt64) (h : Host G V lrs aps) :
    Except (Halt G V lrs aps) (Host G V lrs aps) :=
  let iss := esr &&& 0x01ffffff
  if iss &&& ISS_SYSREG_FIELDS = ISS_ICC_SGI1R_EL1_WRITE ∧ iss &&& 1 = 0 then
    let rt := ((iss >>> 5) &&& 0x1f).toNat
    let value := if rt < 31 then h.machine.readX rt else 0
    .ok (h.setMachine (h.machine.sendSgi value)).advanceElr
  else plan.faultRetire now h

def handleVgicAccess (now : Ticks) (a : DataAbort) (ipa : UInt64) (h : Host G V lrs aps) :
    Except (Halt G V lrs aps) (Host G V lrs aps) :=
  if a.undecodable then plan.faultRetire now h
  else
    let running := h.machine.current
    let slot := running.guest
    if a.wnr then
      let (outcome, dev) := (h.vgic slot).mmioWrite ipa a.accessBytes (h.accessValue a)
      let h := h.setVgic slot dev
      let h := h.setMachine (h.machine.setPpiEnabled (h.wants running Machine.VTIMER_INTID))
      let h := armSpiWitness (dev.dev.spiRoute WITNESS_SPI) h
      match outcome with
      | .ok () => .ok h.advanceElr
      | .error _ => plan.faultRetire now h
    else
      let (outcome, dev) := (h.vgic slot).mmioRead ipa a.accessBytes
      let h := h.setVgic slot dev
      match outcome with
      | .ok value => .ok (h.accessResult a value).advanceElr
      | .error _ => plan.faultRetire now h

def handlePeerFault (now : Ticks) (proven : Bool) (h : Host G V lrs aps) :
    Except (Halt G V lrs aps) (Host G V lrs aps) :=
  let faulting := h.machine.current.guest
  let h := h.countGuest faulting fun b => { b with peerFaults := b.peerFaults + 1 }
  let n := Counter.word (h.guestBooks faulting).peerFaults
  if MAX_PEER_FAULTS < n then plan.faultRetire now h
  else if n = 1 ∧ proven = false then .error .unproven
  else .ok h.advanceElr

def handleVpl011Access (now : Ticks) (a : DataAbort) (ipa : UInt64) (h : Host G V lrs aps) :
    Except (Halt G V lrs aps) (Host G V lrs aps) :=
  let slot := h.machine.current.guest
  let offset := ipa - VPL011_BASE
  if a.undecodable then plan.faultRetire now h
  else if offset % a.accessBytes ≠ 0 then plan.faultRetire now h
  else if a.wnr then
    match (h.vpl011 slot).mmioWrite offset (h.accessValue a) with
    | none => .error .panicked
    | some (_, dev) => .ok { h with vpl011 := Function.update h.vpl011 slot dev }.advanceElr
  else
    let (value, dev) := (h.vpl011 slot).mmioRead offset a.accessBytes
    .ok ({ h with vpl011 := Function.update h.vpl011 slot dev }.accessResult a value).advanceElr

def handleLinuxDataAbort (now : Ticks) (proven : Bool) (esr far hpfar : UInt64)
    (h : Host G V lrs aps) : Except (Halt G V lrs aps) (Host G V lrs aps) :=
  let a := DataAbort.decode esr
  let ipa := fullIpa hpfar far
  if plan.layout.inWindow ipa then plan.handleVgicAccess now a ipa h
  else if (plan.guestOwning ipa).any (· ≠ h.machine.current.guest.val) then
    plan.handlePeerFault now proven h
  else if !inVpl011Window ipa then plan.faultRetire now h
  else plan.handleVpl011Access now a ipa h

def handleLinuxSync (now : Ticks) (proven : Bool) (esr far hpfar : UInt64) (h : Host G V lrs aps) :
    Except (Halt G V lrs aps) (Host G V lrs aps) :=
  let ec := (esr >>> 26) &&& 0x3f
  if ec = EC_DATA_ABORT then plan.handleLinuxDataAbort now proven esr far hpfar h
  else if ec = EC_WFX ∧ esr &&& 1 = 0 then plan.handleLinuxWfi now h
  else if ec = EC_SYSREG then plan.handleLinuxSysregTrap now esr h
  else if ec = EC_HVC then plan.handlePsci now h
  else plan.faultRetire now h

def handleLinuxIrq (now : Ticks) (intid : UInt32) (h : Host G V lrs aps) :
    Except (Halt G V lrs aps) (Host G V lrs aps) :=
  if intid = Machine.HYP_TIMER_INTID then
    plan.preemptThroughTheScheduler now { h with sliceExpiries := h.sliceExpiries + 1 }
  else if intid = Machine.VTIMER_INTID then
    .ok (h.setMachine (h.machine.takeTimer (h.wants h.machine.current intid)))
  else if intid = Machine.MAINT_INTID then .ok (h.setMachine h.machine.takeMaintenance)
  else if 1020 ≤ intid then .ok h
  else .error (.unexpected intid)

def step (h : Host G V lrs aps) : Trap aps → Except (Halt G V lrs aps) (Host G V lrs aps)
  | .sync now proven esr far hpfar => plan.handleLinuxSync now proven esr far hpfar h
  | .irq now intid => plan.handleLinuxIrq now intid h
  | .interface k state => .ok (h.setMachine (h.machine.useInterface k state))
  | .compute x regs fp vmcr apr => .ok (h.setMachine (h.machine.compute x regs fp vmcr apr))

def run (traps : List (Trap aps)) (h : Host G V lrs aps) :
    Except (Halt G V lrs aps) (Host G V lrs aps) :=
  traps.foldlM plan.step h

/-- The calls that build the domain of a slot: its window, one table of leaves after another. -/
def modelCalls (slot : Fin G) : List (DomId × HvCall) :=
  let guest := plan.slotDom slot
  let slots := P2m.TABLE_SLOTS
  let first := plan.part.firstFrame (UInt64.ofNat slot)
  let firstTable := plan.part.firstTable (UInt64.ofNat slot)
  (Part.DOM0, .domainCreate guest false) ::
    (List.range plan.part.tablesPerGuest.toNat).flatMap fun t =>
      let table := firstTable.toUInt32 + UInt32.ofNat t
      (guest, .p2mAllocate table) :: (guest, .p2mPin table .l2) ::
        ((List.range slots).takeWhile fun k =>
            t * slots + k < plan.part.framesPerGuest.toNat).flatMap fun k =>
            let m := first.toUInt32 + UInt32.ofNat (t * slots + k)
            [(guest, .p2mAllocate m), (guest, .p2mLink table (UInt32.ofNat k) m true true false)]

/-- Every call must be accepted. -/
def dispatchAll : List (DomId × HvCall) → Hypervisor → Except HvError Hypervisor
  | [], hv => .ok hv
  | (caller, call) :: rest, hv =>
      match Hypervisor.dispatch caller call hv with
      | (.ok _, hv') => dispatchAll rest hv'
      | (.error e, _) => .error e

def buildModel : Except HvError Hypervisor :=
  dispatchAll ((List.finRange G).flatMap plan.modelCalls) (Hypervisor.new plan.config)

def admitBoot [NeZero V] (h : Host G V lrs aps) (slot : Fin G) :
    Except (Halt G V lrs aps) (Host G V lrs aps) :=
  plan.schedOn slot (.schedAdmit (⟨slot, 0⟩ : Role G V).model) h

def start (hv : Hypervisor) (machine : Machine G V lrs aps) (sctlr : UInt64) :
    Host G V lrs aps where
  hv := hv
  machine := machine
  vgic _ := .new plan.layout
  vpl011 _ := .new
  retirement _ := .live
  spiWitnessArmed _ := false
  spiWitnessFired _ := false
  sctlrAtBoot := sctlr
  vcpuBooks _ := ⟨0, 0, 0, 0⟩
  guestBooks _ := ⟨0, 0, 0, 0, 0, 0⟩
  preempts := 0
  wakeSweeps := 0
  sliceExpiries := 0

/-- Build the domains, admit the boot vCPU of each, and run the one of `slot`. -/
def boot [NeZero V] (now : Ticks) (slot : Fin G) (live : VcpuCtx lrs aps) (vttbr : Fin G → UInt64)
    (images : Fin G → UInt64 × UInt64) (sctlr : UInt64) :
    Except (Halt G V lrs aps) (Host G V lrs aps) := do
  let hv ← plan.buildModel.mapError .refused
  let h := plan.start hv (.boot slot live vttbr images sctlr) sctlr
  let h ← (List.finRange G).foldlM plan.admitBoot h
  plan.schedOn slot (schedulerRun (⟨slot, 0⟩ : Role G V) now) h

end Plan

end Baleen.Metal
