import Baleen.Hypervisor.Model

/-!
# The checked invariant

The executable check of the integrated core: the checks of each subsystem, credit
conservation, and the scan of the seams between them.
-/

namespace Baleen

open Evtchn (Port)
open Grant (GrantRef)
open P2m (Mfn)

inductive CrossViolation where
  | unbackedGrantMap (grantor : DomId) (gref : GrantRef)
  | misownedGrantMap (grantor : DomId) (gref : GrantRef)
  | lostWakeup (dom : DomId) (vcpu : Vcpu)
  | unauthorizedForeignLink (parent child : Mfn)
  | deadDomainNotClean (dom : DomId)
  | deadDomainReferenced (dom : DomId)
  | deadDomainMayCreate (dom : DomId)
  | controlEdgeDeadEndpoint (holder target : DomId)
  | controlEdgeOrphaned (holder target : DomId)
  deriving DecidableEq, Repr

namespace Hypervisor

def isCleanShell (hv : Hypervisor) (target : DomId) : Bool :=
  ((hv.evtchn.ports target).all fun p => hv.evtchn.stateOf target p = some .free) &&
  ((hv.sched.vcpus target).all fun v => hv.sched.stateOf target v = some .offline) &&
  ((hv.grant.grefs target).all fun g => !hv.grant.isGranted target g) &&
  !hv.grant.holdsAnyMap target &&
  (hv.p2m.mfns.all fun m => hv.p2m.ownerOf m ≠ some target)

def isUnreferenced (hv : Hypervisor) (target : DomId) : Bool :=
  !hv.grant.anyGrantTo target && !hv.evtchn.anyUnboundInto target &&
    !hv.device.anyDeviceOf target

/-- 32-bit saturating addition. -/
def saturatingAdd (a b : Nat) : Nat := min (a + b) (2 ^ 32 - 1)

def mapsOverFrame (hv : Hypervisor) (frame : Mfn) : Nat × Nat :=
  hv.grant.allRefs.foldl (fun total slot =>
    if hv.grant.grantedFrame slot.1 slot.2 = some frame then
      (saturatingAdd total.1 ((hv.grant.mapCount slot.1 slot.2).getD 0),
        saturatingAdd total.2 ((hv.grant.writableMapCount slot.1 slot.2).getD 0))
    else total) (0, 0)

/-- The breach, if any, behind the mappings of one grant. -/
def grantBacking (hv : Hypervisor) (slot : DomId × GrantRef) : Option CrossViolation :=
  match hv.grant.grantEntry slot.1 slot.2 with
  | none => none
  | some a =>
      if a.maps = 0 then none
      else if hv.p2m.ownerOf a.frame ≠ some slot.1 then some (.misownedGrantMap slot.1 slot.2)
      else if (hv.p2m.refs a.frame).getD 0 < (hv.mapsOverFrame a.frame).1 ∨
          (hv.p2m.typeRefs a.frame .writable).getD 0 < (hv.mapsOverFrame a.frame).2 then
        some (.unbackedGrantMap slot.1 slot.2)
      else none

/-- Every port of every domain, in the order a nested loop visits them. -/
def allPorts (hv : Hypervisor) : List (DomId × Port) :=
  (Words.range16 hv.evtchn.domainCount).flatMap fun dom =>
    (hv.evtchn.ports dom).map fun port => (dom, port)

/-- The breach, if any, of event delivery at one port. -/
def wakeup (hv : Hypervisor) (slot : DomId × Port) : Option CrossViolation :=
  if hv.evtchn.deliverable slot.1 slot.2 then
    match hv.evtchn.notifyTarget slot.1 slot.2 with
    | none => none
    | some vcpu =>
        if hv.sched.stateOf slot.1 vcpu = some .blocked then some (.lostWakeup slot.1 vcpu)
        else none
  else none

/-- The breach, if any, at one page-table entry. -/
def linkConsent (hv : Hypervisor) (edge : Mfn × UInt32 × Mfn × Bool × Bool × Bool) :
    Option CrossViolation :=
  match hv.p2m.ownerOf edge.2.2.1, hv.p2m.ownerOf edge.1 with
  | some childOwner, some parentOwner =>
      if childOwner ≠ parentOwner ∧
          !hv.grant.authorizes childOwner parentOwner edge.2.2.1 edge.2.2.2.1 then
        some (.unauthorizedForeignLink edge.1 edge.2.2.1)
      else none
  | _, _ => none

/-- The breach, if any, at one dead slot. -/
def deadShell (hv : Hypervisor) (dom : DomId) : Option CrossViolation :=
  if hv.lifeOf dom = some .dead then
    if !hv.isCleanShell dom then some (.deadDomainNotClean dom)
    else if !hv.isUnreferenced dom then some (.deadDomainReferenced dom)
    else if hv.mayCreateOf dom then some (.deadDomainMayCreate dom)
    else none
  else none

/-- Every pair of domains, in the order a nested loop visits them. -/
def allEdges (hv : Hypervisor) : List (DomId × DomId) :=
  hv.doms.flatMap fun holder => hv.doms.map fun target => (holder, target)

/-- The breach, if any, in the liveness of one control edge. -/
def edgeEndpoints (hv : Hypervisor) (edge : DomId × DomId) : Option CrossViolation :=
  if hv.holdsControl edge.1 edge.2 ∧
      (hv.lifeOf edge.1 ≠ some .live ∨ hv.lifeOf edge.2 ≠ some .live) then
    some (.controlEdgeDeadEndpoint edge.1 edge.2)
  else none

/-- Whether the delegators of `holder` lead to a root within `steps` hops. -/
def tracesToRoot (hv : Hypervisor) (target : DomId) : Nat → DomId → Bool
  | steps, holder =>
      match hv.controlEdge holder target with
      | .root => true
      | .absent => false
      | .via parent =>
          match steps with
          | 0 => false
          | steps + 1 => tracesToRoot hv target steps parent

/-- The breach, if any, in the provenance of one control edge. -/
def edgeProvenance (hv : Hypervisor) (edge : DomId × DomId) : Option CrossViolation :=
  if hv.holdsControl edge.1 edge.2 ∧ !hv.tracesToRoot edge.2 hv.domainCount edge.1 then
    some (.controlEdgeOrphaned edge.1 edge.2)
  else none

def firstCrossViolation (hv : Hypervisor) : Option CrossViolation :=
  hv.grant.allRefs.findSome? hv.grantBacking <|>
  hv.allPorts.findSome? hv.wakeup <|>
  hv.p2m.linkEdges.findSome? hv.linkConsent <|>
  hv.doms.findSome? hv.deadShell <|>
  hv.allEdges.findSome? hv.edgeEndpoints <|>
  hv.allEdges.findSome? hv.edgeProvenance

def invariantsHold (hv : Hypervisor) : Bool :=
  hv.evtchn.invariantsHold && hv.grant.invariantsHold && hv.sched.invariantsHold &&
    hv.p2m.invariantsHold && hv.credit.all (·.invariantsHold) && hv.firstCrossViolation.isNone

end Hypervisor

end Baleen
