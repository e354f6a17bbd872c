import Baleen.Accounts
import Baleen.Sched.Model
import Baleen.Grant.Model
import Baleen.P2m.Model

/-!
# The integrated core

One state that owns every subsystem, the typed hypercalls routed into it, and the
seams between subsystems: page references behind grant mappings, wake-ups behind
event delivery, consent behind foreign page-table entries, and the life and
authority of domains.  The release build is modelled: a debug assertion changes no
state.
-/

namespace Baleen

open Evtchn (Port Virq EvtchnError)
open Sched (Pcpu SchedError)
open Grant (GrantRef GrantHandle GrantError Unmapped)
open P2m (Mfn PageType PtLevel P2mError)
open Device (DevId DeviceError)
open Credit (HvCore HError)

inductive HvCall where
  | creditGrant (amount : UInt32)
  | creditSpend (amount : UInt32)
  | evtchnAllocUnbound (remote : DomId)
  | evtchnBindInterdomain (remote : DomId) (remotePort : Port)
  | evtchnBindVirq (vcpu : Vcpu) (virq : Virq)
  | evtchnBindIpi (vcpu : Vcpu)
  | evtchnClose (port : Port)
  | evtchnSend (port : Port)
  | evtchnMask (port : Port)
  | evtchnUnmask (port : Port)
  | evtchnConsume (port : Port)
  | grantAccess (gref : GrantRef) (grantee : DomId) (frame : Mfn) (readonly : Bool)
  | grantEndAccess (gref : GrantRef)
  | grantMap (grantor : DomId) (gref : GrantRef) (writable : Bool)
  | grantUnmap (handle : GrantHandle)
  | grantCopy (grantor : DomId) (gref : GrantRef) (write : Bool)
  | schedAdmit (vcpu : Vcpu)
  | schedRun (vcpu : Vcpu) (pcpu : Pcpu) (now : Ticks)
  | schedPreempt (vcpu : Vcpu) (now : Ticks)
  | schedBlock (vcpu : Vcpu) (now : Ticks)
  | schedWake (vcpu : Vcpu)
  | schedOffline (vcpu : Vcpu) (now : Ticks)
  | schedSetAffinity (target : DomId) (vcpu : Vcpu) (affinity : Nat)
  | p2mAllocate (mfn : Mfn)
  | p2mFree (mfn : Mfn)
  | p2mPin (mfn : Mfn) (level : PtLevel)
  | p2mUnpin (mfn : Mfn)
  | p2mLink (parent : Mfn) (slot : UInt32) (child : Mfn) (writable leaf execute : Bool)
  | p2mUnlink (parent : Mfn) (slot : UInt32)
  | domainCreate (target : DomId) (mayCreate : Bool)
  | domainDestroy (target : DomId) (now : Ticks)
  | controlGrant (target recipient : DomId)
  | controlRevoke (target holder : DomId)
  | deviceAssign (dev : DevId) (recipient : DomId)
  | deviceRelease (dev : DevId) (holder : DomId)
  deriving DecidableEq, Repr

inductive HvOutcome where
  | done
  | balance (amount : Nat)
  | port (port : Port)
  | handle (handle : GrantHandle)
  | pending (was : Bool)
  deriving DecidableEq, Repr

inductive HvError where
  | badDomain
  | credit (e : HError)
  | evtchn (e : EvtchnError)
  | grant (e : GrantError)
  | sched (e : SchedError)
  | p2m (e : P2mError)
  | device (e : DeviceError)
  | staleGrant
  | unauthorized
  | denied
  | notAlive
  | alreadyAlive
  deriving DecidableEq, Repr

inductive DomainLife where
  | dead
  | live
  deriving DecidableEq, Repr

/-- How a holder came to control a target: not at all, by creating it, or by
delegation from another holder. -/
inductive Control where
  | absent
  | root
  | via (delegator : DomId)
  deriving DecidableEq, Repr

structure Hypervisor where
  credit : List HvCore
  evtchn : Evtchn.System
  grant : Grant.System
  sched : Sched.System
  p2m : P2m.System
  device : Device.System
  life : List DomainLife
  mayCreate : List Bool
  /-- The row of a holder has one cell for each target. -/
  controls : Grid Control
  deriving DecidableEq, Repr

inductive Transition where
  | guest (caller : DomId) (call : HvCall)
  | raiseVcpuVirq (dom : DomId) (vcpu : Vcpu) (virq : Virq)
  deriving DecidableEq, Repr

inductive TransitionOutcome where
  | guest (outcome : HvOutcome)
  | raiseVcpuVirq (deliverable : Bool)
  deriving DecidableEq, Repr

/-- The sizes a hypervisor is built with. -/
structure Config where
  numDomains : Nat
  portsPerDomain : Nat
  grantsPerDomain : Nat
  vcpusPerDomain : Nat
  numPcpus : Nat
  numFrames : Nat
  numDevices : Nat
  deriving DecidableEq, Repr

namespace Hypervisor

def new (c : Config) : Hypervisor where
  credit := List.replicate c.numDomains HvCore.new
  evtchn := Evtchn.System.new c.numDomains c.portsPerDomain
  grant := Grant.System.new c.numDomains c.grantsPerDomain
  sched := Sched.System.new c.numDomains c.vcpusPerDomain c.numPcpus
  p2m := P2m.System.new c.numDomains c.numFrames
  device := Device.System.new c.numDomains c.numDevices
  life := (List.range c.numDomains).map fun d => if d = 0 then .live else .dead
  mayCreate := (List.range c.numDomains).map fun d => d = 0
  controls := Grid.fill c.numDomains c.numDomains .absent

def domainCount (hv : Hypervisor) : Nat := hv.credit.length

/-- The domains a loop over `0..domain_count() as DomId` visits. -/
def doms (hv : Hypervisor) : List DomId := Words.range16 hv.domainCount

def lifeOf (hv : Hypervisor) (dom : DomId) : Option DomainLife := hv.life[dom.toNat]?

def isLive (hv : Hypervisor) (dom : DomId) : Bool := hv.lifeOf dom = some .live

def mayCreateOf (hv : Hypervisor) (dom : DomId) : Bool := (hv.mayCreate[dom.toNat]?).getD false

def controlEdge (hv : Hypervisor) (holder target : DomId) : Control :=
  (hv.controls.get? holder.toNat target.toNat).getD .absent

def holdsControl (hv : Hypervisor) (holder target : DomId) : Bool :=
  hv.controlEdge holder target ≠ .absent

def setControl (hv : Hypervisor) (holder target : DomId) (c : Control) : Hypervisor :=
  { hv with controls := hv.controls.set holder.toNat target.toNat c }

section Components

variable {α : Type}

def onEvtchn (x : Op Evtchn.System EvtchnError α) : Op Hypervisor HvError α :=
  Op.zoom (·.evtchn) (fun hv s => { hv with evtchn := s }) .evtchn x

def onGrant (x : Op Grant.System GrantError α) : Op Hypervisor HvError α :=
  Op.zoom (·.grant) (fun hv s => { hv with grant := s }) .grant x

def onSched (x : Op Sched.System SchedError α) : Op Hypervisor HvError α :=
  Op.zoom (·.sched) (fun hv s => { hv with sched := s }) .sched x

def onP2m (x : Op P2m.System P2mError α) : Op Hypervisor HvError α :=
  Op.zoom (·.p2m) (fun hv s => { hv with p2m := s }) .p2m x

def onDevice (x : Op Device.System DeviceError α) : Op Hypervisor HvError α :=
  Op.zoom (·.device) (fun hv s => { hv with device := s }) .device x

end Components

/-- Run an operation on the caller's credit account. -/
def onCredit (caller : DomId) (x : Op HvCore HError Nat) : Op Hypervisor HvError Nat := do
  let hv ← Op.read
  match hv.credit[caller.toNat]? with
  | none => Op.fail .badDomain
  | some c =>
      Op.modify fun hv => { hv with credit := hv.credit.set caller.toNat (x c).2 }
      Op.query fun _ => (x c).1.mapError .credit

/-- Take the page reference behind a mapping. -/
def acquirePage (frame : Mfn) (writable : Bool) : Op P2m.System P2mError Unit :=
  if writable then P2m.System.getType frame .writable else P2m.System.get frame

/-- Give back the page reference behind a mapping. -/
def releasePage (u : Unmapped) : Op P2m.System P2mError Unit :=
  if u.writable then P2m.System.putType u.frame .writable else P2m.System.put u.frame

def grantMap (caller grantor : DomId) (gref : GrantRef) (writable : Bool) :
    Op Hypervisor HvError HvOutcome := do
  let frame ← Op.query fun hv =>
    match hv.grant.grantedFrame grantor gref with
    | some frame => .ok frame
    | none => .error (.grant .wrongState)
  Op.ensure (fun hv => hv.p2m.ownerOf frame = some grantor) .staleGrant
  let handle ← onGrant (Grant.System.map caller grantor gref writable)
  match ← Op.attempt (onP2m (acquirePage frame writable)) with
  | .ok () => return .handle handle
  | .error e =>
      Op.ignore (onGrant (Grant.System.unmap caller handle))
      Op.fail e

def grantUnmap (caller : DomId) (handle : GrantHandle) : Op Hypervisor HvError HvOutcome := do
  let unmapped ← onGrant (Grant.System.unmap caller handle)
  Op.ignore (onP2m (releasePage unmapped))
  return .done

def p2mLink (caller : DomId) (parent : Mfn) (slot : UInt32) (child : Mfn)
    (writable leaf execute : Bool) : Op Hypervisor HvError HvOutcome := do
  Op.ensure (fun hv =>
    match hv.p2m.ownerOf child with
    | some owner => owner = caller || hv.grant.authorizes owner caller child writable
    | none => true) .unauthorized
  onP2m (P2m.System.link caller parent slot child writable leaf execute)
  return .done

def grantCopy (caller grantor : DomId) (gref : GrantRef) (write : Bool) :
    Op Hypervisor HvError HvOutcome := do
  Op.ensure (fun hv =>
    match hv.grant.grantedFrame grantor gref with
    | some frame => hv.p2m.ownerOf frame = some grantor
    | none => true) .staleGrant
  Op.query fun hv => (hv.grant.copy caller grantor gref write).mapError .grant
  return .done

def grantEndAccess (caller : DomId) (gref : GrantRef) : Op Hypervisor HvError HvOutcome := do
  Op.ensure (fun hv =>
    match hv.grant.grantEntry caller gref with
    | some a => !hv.p2m.isForeignLinkedBy a.frame a.grantee
    | none => true) (.grant .inUse)
  onGrant (Grant.System.endAccess caller gref)
  return .done

def wakeIfDeliverable (dom : DomId) (port : Port) (hv : Hypervisor) : Hypervisor :=
  if hv.evtchn.deliverable dom port then
    match hv.evtchn.notifyTarget dom port with
    | some vcpu => { hv with sched := (Sched.System.wake dom vcpu hv.sched).2 }
    | none => hv
  else hv

def evtchnSend (caller : DomId) (port : Port) : Op Hypervisor HvError HvOutcome := do
  onEvtchn (Evtchn.System.send caller port)
  Op.modify fun hv =>
    match hv.evtchn.sendTarget caller port with
    | some (tdom, tport) => hv.wakeIfDeliverable tdom tport
    | none => hv
  return .done

def raiseVcpuVirq (dom : DomId) (vcpu : Vcpu) (virq : Virq) : Op Hypervisor HvError Bool := do
  let port ← onEvtchn (Evtchn.System.raiseVirq dom vcpu virq)
  Op.modify (wakeIfDeliverable dom port)
  let hv ← Op.read
  return hv.evtchn.deliverable dom port

def evtchnUnmask (caller : DomId) (port : Port) : Op Hypervisor HvError HvOutcome := do
  onEvtchn (Evtchn.System.unmask caller port)
  Op.modify (wakeIfDeliverable caller port)
  return .done

/-- Whether a vCPU is one that a block would accept. -/
def wouldBlock : Option Sched.RunState → Bool
  | some (.running _) => true
  | some .runnable => true
  | _ => false

def schedBlock (caller : DomId) (vcpu : Vcpu) (now : Ticks) : Op Hypervisor HvError HvOutcome := do
  let hv ← Op.read
  if wouldBlock (hv.sched.stateOf caller vcpu) && hv.evtchn.hasDeliverableFor caller vcpu then
    return .done
  else
    onSched (Sched.System.block caller vcpu now)
    return .done

def rejectDeadTarget (target : DomId) : Op Hypervisor HvError Unit :=
  Op.ensure (fun hv => hv.lifeOf target ≠ some .dead) .notAlive

def checkBindVcpu (caller : DomId) (vcpu : Vcpu) : Op Hypervisor HvError Unit :=
  Op.ensure (fun hv => !(decide (caller.toNat < hv.sched.domainCount) &&
    decide (hv.sched.vcpuCount caller ≤ vcpu.toNat))) (.sched .badVcpu)

/-- Whether a domain id names a slot. -/
def inRange (dom : DomId) : Op Hypervisor HvError Unit :=
  Op.ensure (fun hv => dom.toNat < hv.domainCount) .badDomain

/-- Whether `caller` may act on `target` as a whole: it is itself, or it controls it. -/
def selfOrControls (caller target : DomId) : Op Hypervisor HvError Unit :=
  Op.ensure (fun hv => caller = target || hv.holdsControl caller target) .denied

def schedSetAffinity (caller target : DomId) (vcpu : Vcpu) (affinity : Nat) :
    Op Hypervisor HvError HvOutcome := do
  inRange target
  selfOrControls caller target
  onSched (Sched.System.setAffinity target vcpu affinity)
  return .done

/-- The control at a position of the matrix. -/
def controlAt (controls : Grid Control) (holder target : Nat) : Control :=
  (controls.get? holder target).getD .absent

/-- Whether the edge at a position is delegated by a domain that no longer holds one. -/
def orphaned (controls : Grid Control) (holder target : Nat) : Bool :=
  match controlAt controls holder target with
  | .via parent => controlAt controls parent.toNat target = .absent
  | _ => false

/-- Clear the edge at `(target, holder)` if it is orphaned, noting the change. -/
def prune (swept : Grid Control × Bool) (cell : Nat × Nat) : Grid Control × Bool :=
  if orphaned swept.1 cell.2 cell.1 then (swept.1.set cell.2 cell.1 .absent, true) else swept

/-- All `(target, holder)` positions, in the order of the nested loop. -/
def cells (n : Nat) : List (Nat × Nat) :=
  (List.range n).flatMap fun t => (List.range n).map fun h => (t, h)

/-- One pass over the matrix. -/
def sweepPass (n : Nat) (controls : Grid Control) : Grid Control × Bool :=
  (cells n).foldl prune (controls, false)

/-- Pass until nothing changes, at most `fuel` times. -/
def sweepUntilStable (n : Nat) : Nat → Grid Control → Grid Control
  | 0, controls => controls
  | fuel + 1, controls =>
      if (sweepPass n controls).2 then sweepUntilStable n fuel (sweepPass n controls).1
      else (sweepPass n controls).1

/-- Every changing pass removes an edge, so there are at most as many as cells. -/
def sweepOrphanedControlEdges (hv : Hypervisor) : Hypervisor :=
  { hv with
    controls := sweepUntilStable hv.domainCount (hv.domainCount * hv.domainCount + 1) hv.controls }

/-- Walk at most `steps` delegators up from `node`, looking for `caller`. -/
def climbsTo (hv : Hypervisor) (caller target : DomId) : Nat → DomId → Bool
  | 0, _ => false
  | steps + 1, node =>
      if node = caller then true
      else
        match hv.controlEdge node target with
        | .via parent => climbsTo hv caller target steps parent
        | _ => false

def controlSubtreeContains (hv : Hypervisor) (caller node target : DomId) : Bool :=
  hv.climbsTo caller target (hv.domainCount + 1) node

def controlGrant (caller target recipient : DomId) : Op Hypervisor HvError HvOutcome := do
  inRange target
  inRange recipient
  Op.ensure (·.holdsControl caller target) .denied
  Op.ensure (fun _ => recipient ≠ target) .denied
  Op.ensure (·.isLive recipient) .notAlive
  let hv ← Op.read
  if hv.holdsControl recipient target then return .done
  else
    Op.modify (·.setControl recipient target (.via caller))
    return .done

def controlRevoke (caller target holder : DomId) : Op Hypervisor HvError HvOutcome := do
  inRange target
  inRange holder
  Op.ensure (·.holdsControl caller target) .denied
  Op.ensure (·.controlSubtreeContains caller holder target) .denied
  Op.modify (·.setControl holder target .absent)
  Op.modify sweepOrphanedControlEdges
  return .done

def deviceAssign (caller : DomId) (dev : DevId) (recipient : DomId) :
    Op Hypervisor HvError HvOutcome := do
  inRange recipient
  Op.ensure (·.holdsControl caller recipient) .denied
  rejectDeadTarget recipient
  onDevice (Device.System.assign dev recipient)
  return .done

def deviceRelease (caller : DomId) (dev : DevId) (holder : DomId) :
    Op Hypervisor HvError HvOutcome := do
  inRange holder
  selfOrControls caller holder
  onDevice (Device.System.release dev holder)
  return .done

def domainCreate (caller target : DomId) (mayCreate : Bool) : Op Hypervisor HvError HvOutcome := do
  inRange target
  Op.ensure (·.mayCreateOf caller) .denied
  Op.ensure (fun hv => hv.lifeOf target = some .dead) .alreadyAlive
  Op.modify fun hv => { hv with
    life := hv.life.set target.toNat .live
    mayCreate := hv.mayCreate.set target.toNat mayCreate }
  Op.modify (·.setControl caller target .root)
  return .done

/-- Give back the page references of drained mappings, with the result of each. -/
def mirror (released : List (Except GrantError Unmapped)) (p : P2m.System) :
    List (Except P2mError Unit) × P2m.System :=
  Op.sweep (fun r p =>
    match r with
    | .ok u => some (releasePage u p)
    | .error _ => none) released p

/-- The results of a teardown's sub-steps, which the source unwraps, asserts or
discards. -/
structure TeardownLog where
  closes : List (Except EvtchnError Unit)
  offlines : List (Except SchedError Unit)
  foreignUnmaps : List (Except GrantError Unmapped)
  foreignMirrors : List (Except P2mError Unit)
  inwardUnlinks : List (Except P2mError Unit)
  ownUnmaps : List (Except GrantError Unmapped)
  ownMirrors : List (Except P2mError Unit)
  revocations : List (Except GrantError Unit)
  unlinks : List (Except P2mError Unit)
  unpins : List (Except P2mError Unit)
  frees : List (Except P2mError Unit)
  inboundRevocations : List (Except GrantError Unit)

/-- The grant tables and the page accounting while a domain is torn down. -/
structure Memory where
  grant : Grant.System
  p2m : P2m.System

/-- Break every foreign reference into `target`'s frames. -/
def forceReclaim (target : DomId) (m : Memory) :
    (List (Except GrantError Unmapped) × List (Except P2mError Unit) ×
      List (Except P2mError Unit)) × Memory :=
  let drained := Grant.System.drainForeignMapsOf target m.grant
  let mirrored := mirror drained.1 m.p2m
  let unlinked := P2m.System.unlinkAllInto target mirrored.2
  ((drained.1, mirrored.1, unlinked.1), ⟨drained.2, unlinked.2⟩)

/-- Release every mapping `target` holds. -/
def releaseOwn (target : DomId) (m : Memory) :
    (List (Except GrantError Unmapped) × List (Except P2mError Unit)) × Memory :=
  let drained := Grant.System.drainMapsOf target m.grant
  let mirrored := mirror drained.1 m.p2m
  ((drained.1, mirrored.1), ⟨drained.2, mirrored.2⟩)

/-- Clear the row and the column of `target`. -/
def clearControls (target : DomId) (hv : Hypervisor) : Hypervisor :=
  { hv with
    controls := (List.range hv.domainCount).foldl (fun c h =>
      (c.set h target.toNat .absent).set target.toNat h .absent) hv.controls }

def teardown (target : DomId) (now : Ticks) (hv : Hypervisor) : TeardownLog × Hypervisor :=
  let closed := Evtchn.System.closeAll target hv.evtchn
  let offlined := Sched.System.offlineAll target now hv.sched
  let reclaimed := forceReclaim target ⟨hv.grant, hv.p2m⟩
  let released := releaseOwn target reclaimed.2
  let revoked := Grant.System.revokeAll target released.2.grant
  let unlinked := P2m.System.unlinkAll target released.2.p2m
  let unpinned := P2m.System.unpinAll target unlinked.2
  let freed := P2m.System.freeAll target unpinned.2
  let withdrawn := Grant.System.revokeGrantsTo target revoked.2
  let log : TeardownLog :=
    { closes := closed.1
      offlines := offlined.1
      foreignUnmaps := reclaimed.1.1
      foreignMirrors := reclaimed.1.2.1
      inwardUnlinks := reclaimed.1.2.2
      ownUnmaps := released.1.1
      ownMirrors := released.1.2
      revocations := revoked.1
      unlinks := unlinked.1
      unpins := unpinned.1
      frees := freed.1
      inboundRevocations := withdrawn.1 }
  let emptied : Hypervisor :=
    { hv with
      evtchn := Evtchn.System.clearUnboundInto target closed.2
      sched := offlined.2
      grant := withdrawn.2
      p2m := freed.2
      device := Device.System.releaseAllOf target hv.device
      life := hv.life.set target.toNat .dead
      mayCreate := hv.mayCreate.set target.toNat false }
  (log, (emptied.clearControls target).sweepOrphanedControlEdges)

def domainDestroy (caller target : DomId) (now : Ticks) : Op Hypervisor HvError HvOutcome := do
  inRange caller
  inRange target
  selfOrControls caller target
  Op.modify fun hv => (hv.teardown target now).2
  return .done

def route (caller : DomId) (call : HvCall) : Op Hypervisor HvError HvOutcome := do
  inRange caller
  Op.ensure (·.isLive caller) .notAlive
  match call with
  | .creditGrant amount => return .balance (← onCredit caller (HvCore.grantCredit amount))
  | .creditSpend amount => return .balance (← onCredit caller (HvCore.spendCredit amount))
  | .evtchnAllocUnbound remote =>
      rejectDeadTarget remote
      return .port (← onEvtchn (Evtchn.System.allocUnbound caller remote))
  | .evtchnBindInterdomain remote remotePort =>
      return .port (← onEvtchn (Evtchn.System.bindInterdomain caller remote remotePort))
  | .evtchnBindVirq vcpu virq =>
      checkBindVcpu caller vcpu
      return .port (← onEvtchn (Evtchn.System.bindVirq caller vcpu virq))
  | .evtchnBindIpi vcpu =>
      checkBindVcpu caller vcpu
      return .port (← onEvtchn (Evtchn.System.bindIpi caller vcpu))
  | .evtchnClose port => onEvtchn (Evtchn.System.close caller port); return .done
  | .evtchnSend port => evtchnSend caller port
  | .evtchnMask port => onEvtchn (Evtchn.System.mask caller port); return .done
  | .evtchnUnmask port => evtchnUnmask caller port
  | .evtchnConsume port => return .pending (← onEvtchn (Evtchn.System.consume caller port))
  | .grantAccess gref grantee frame readonly =>
      rejectDeadTarget grantee
      onGrant (Grant.System.grantAccess caller gref grantee frame readonly)
      return .done
  | .grantEndAccess gref => grantEndAccess caller gref
  | .grantMap grantor gref writable => grantMap caller grantor gref writable
  | .grantUnmap handle => grantUnmap caller handle
  | .grantCopy grantor gref write => grantCopy caller grantor gref write
  | .schedAdmit vcpu => onSched (Sched.System.admitVcpu caller vcpu); return .done
  | .schedRun vcpu pcpu now => onSched (Sched.System.run caller vcpu pcpu now); return .done
  | .schedPreempt vcpu now => onSched (Sched.System.preempt caller vcpu now); return .done
  | .schedBlock vcpu now => schedBlock caller vcpu now
  | .schedWake vcpu => onSched (Sched.System.wake caller vcpu); return .done
  | .schedOffline vcpu now => onSched (Sched.System.offline caller vcpu now); return .done
  | .schedSetAffinity target vcpu affinity => schedSetAffinity caller target vcpu affinity
  | .p2mAllocate mfn => onP2m (P2m.System.allocate caller mfn); return .done
  | .p2mFree mfn => onP2m (P2m.System.free caller mfn); return .done
  | .p2mPin mfn level => onP2m (P2m.System.pin caller mfn level); return .done
  | .p2mUnpin mfn => onP2m (P2m.System.unpin caller mfn); return .done
  | .p2mLink parent slot child writable leaf execute =>
      p2mLink caller parent slot child writable leaf execute
  | .p2mUnlink parent slot => onP2m (P2m.System.unlink caller parent slot); return .done
  | .domainCreate target mayCreate => domainCreate caller target mayCreate
  | .domainDestroy target now => domainDestroy caller target now
  | .controlGrant target recipient => controlGrant caller target recipient
  | .controlRevoke target holder => controlRevoke caller target holder
  | .deviceAssign dev recipient => deviceAssign caller dev recipient
  | .deviceRelease dev holder => deviceRelease caller dev holder

def dispatch (caller : DomId) (call : HvCall) : Op Hypervisor HvError HvOutcome :=
  route caller call

def apply : Transition → Op Hypervisor HvError TransitionOutcome
  | .guest caller call => do return .guest (← dispatch caller call)
  | .raiseVcpuVirq dom vcpu virq => do return .raiseVcpuVirq (← raiseVcpuVirq dom vcpu virq)

end Hypervisor

end Baleen
