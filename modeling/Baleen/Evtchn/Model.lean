import Baleen.Lib.Words
import Baleen.Lib.Grid
import Baleen.Lib.Op

/-!
# Event channels

The port tables of all domains in one system: ports are half-open, connected to a
peer, bound to a virtual IRQ or to a vCPU, and carry a pending and a mask bit.
An `unwrap` of the source that a preceding lookup (or the reciprocity invariant)
makes safe is a write to that cell.
-/

namespace Baleen

/-- A domain identifier. -/
abbrev DomId := UInt16
/-- A virtual CPU identifier, scoped to a domain. -/
abbrev Vcpu := UInt32

namespace Evtchn

/-- A port identifier, scoped to a domain. -/
abbrev Port := UInt32
/-- A virtual IRQ number. -/
abbrev Virq := UInt8

inductive PortState where
  | free
  | unbound (remote : DomId)
  | interdomain (remote : DomId) (remotePort : Port)
  | virq (vcpu : Vcpu) (virq : Virq)
  | ipi (vcpu : Vcpu)
  deriving DecidableEq, Repr

structure EventChannel where
  state : PortState
  pending : Bool
  masked : Bool
  deriving DecidableEq, Repr

def EventChannel.FREE : EventChannel := ⟨.free, false, false⟩

/-- One row of ports for each domain. -/
structure System where
  domains : Grid EventChannel
  deriving DecidableEq, Repr

inductive EvtchnError where
  | badDomain
  | badPort
  | noFreePort
  | wrongState
  | virqInUse
  deriving DecidableEq, Repr

inductive Violation where
  | freePortHasSignal (dom port : Nat)
  | reciprocityBroken (dom port : Nat)
  | unboundGhostDomain (dom port : Nat)
  | duplicateVirq (dom port : Nat)
  deriving DecidableEq, Repr

namespace System

def new (numDomains portsPerDomain : Nat) : System :=
  ⟨Grid.fill numDomains portsPerDomain .FREE⟩

def domain (s : System) (dom : DomId) : Except EvtchnError (List EventChannel) :=
  match s.domains[dom.toNat]? with
  | some ports => .ok ports
  | none => .error .badDomain

def chan (s : System) (dom : DomId) (port : Port) : Except EvtchnError EventChannel :=
  match s.domain dom with
  | .error e => .error e
  | .ok ports =>
      match ports[port.toNat]? with
      | some c => .ok c
      | none => .error .badPort

/-- The channel at a port, without the reason for its absence. -/
def chan? (s : System) (dom : DomId) (port : Port) : Option EventChannel :=
  s.domains.get? dom.toNat port.toNat

def setChan (s : System) (dom : DomId) (port : Port) (c : EventChannel) : System :=
  ⟨s.domains.set dom.toNat port.toNat c⟩

def domainCount (s : System) : Nat := s.domains.length

def portCount (s : System) (dom : DomId) : Nat := s.domains.width dom.toNat

/-- The ports a loop over `0..port_count(dom) as Port` visits. -/
def ports (s : System) (dom : DomId) : List Port := Words.range32 (s.portCount dom)

/-- The first free port, its index written back as a 32-bit port. -/
def findFree (s : System) (dom : DomId) : Except EvtchnError Port :=
  match s.domain dom with
  | .error e => .error e
  | .ok ports =>
      match ports.findIdx? fun c => c.state = .free with
      | some i => .ok (UInt32.ofNat i)
      | none => .error .noFreePort

def allocUnbound (dom remote : DomId) : Op System EvtchnError Port := do
  let _ ← Op.query (·.domain remote)
  let port ← Op.query (·.findFree dom)
  let c ← Op.query (·.chan dom port)
  Op.modify (·.setChan dom port { c with state := .unbound remote })
  return port

/-- Whether a channel is half-open and waiting for exactly `dom`. -/
def awaits (dom : DomId) (c : EventChannel) : Bool := c.state = .unbound dom

def bindInterdomain (dom remote : DomId) (remotePort : Port) : Op System EvtchnError Port := do
  let peer ← Op.query (·.chan remote remotePort)
  Op.ensure (fun _ => awaits dom peer) .wrongState
  let port ← Op.query (·.findFree dom)
  Op.modify (·.setChan dom port ⟨.interdomain remote remotePort, false, false⟩)
  Op.modify (·.setChan remote remotePort ⟨.interdomain dom port, false, false⟩)
  return port

def bindVirq (dom : DomId) (vcpu : Vcpu) (virq : Virq) : Op System EvtchnError Port := do
  let ports ← Op.query (·.domain dom)
  Op.ensure (fun _ => !ports.any fun c => c.state = .virq vcpu virq) .virqInUse
  let port ← Op.query (·.findFree dom)
  let c ← Op.query (·.chan dom port)
  Op.modify (·.setChan dom port { c with state := .virq vcpu virq })
  return port

def bindIpi (dom : DomId) (vcpu : Vcpu) : Op System EvtchnError Port := do
  let port ← Op.query (·.findFree dom)
  let c ← Op.query (·.chan dom port)
  Op.modify (·.setChan dom port { c with state := .ipi vcpu })
  return port

/-- What closing a port does to its peer: an interdomain peer falls back to a
half-open port naming the closer. -/
def disconnect (s : System) (dom : DomId) (c : EventChannel) : System :=
  match c.state with
  | .interdomain remote remotePort => s.setChan remote remotePort ⟨.unbound dom, false, false⟩
  | _ => s

def close (dom : DomId) (port : Port) : Op System EvtchnError Unit := do
  let c ← Op.query (·.chan dom port)
  Op.ensure (fun _ => c.state ≠ .free) .wrongState
  Op.modify (·.disconnect dom c)
  Op.modify (·.setChan dom port .FREE)

/-- The port a send signals: the peer of an interdomain port, an IPI port itself. -/
def sendTarget (s : System) (dom : DomId) (port : Port) : Option (DomId × Port) :=
  match s.chan dom port with
  | .error _ => none
  | .ok c =>
      match c.state with
      | .interdomain remote remotePort => some (remote, remotePort)
      | .ipi _ => some (dom, port)
      | _ => none

/-- Set the pending bit of a port. -/
def raise (s : System) (dom : DomId) (port : Port) : System :=
  match s.chan dom port with
  | .error _ => s
  | .ok c => s.setChan dom port { c with pending := true }

def send (dom : DomId) (port : Port) : Op System EvtchnError Unit := do
  let _ ← Op.query (·.chan dom port)
  let target ← Op.query fun s =>
    match s.sendTarget dom port with
    | some target => .ok target
    | none => .error .wrongState
  Op.modify (·.raise target.1 target.2)

/-- The port bound to `(vcpu, virq)`, its index written back as a 32-bit port. -/
def virqPort (s : System) (dom : DomId) (vcpu : Vcpu) (virq : Virq) : Except EvtchnError Port :=
  match s.domain dom with
  | .error e => .error e
  | .ok ports =>
      match ports.findIdx? fun c => c.state = .virq vcpu virq with
      | some i => .ok (UInt32.ofNat i)
      | none => .error .wrongState

def raiseVirq (dom : DomId) (vcpu : Vcpu) (virq : Virq) : Op System EvtchnError Port := do
  let port ← Op.query (·.virqPort dom vcpu virq)
  Op.modify (·.raise dom port)
  return port

def setMasked (dom : DomId) (port : Port) (value : Bool) : Op System EvtchnError Unit := do
  let c ← Op.query (·.chan dom port)
  Op.ensure (fun _ => c.state ≠ .free) .wrongState
  Op.modify (·.setChan dom port { c with masked := value })

def mask (dom : DomId) (port : Port) : Op System EvtchnError Unit := setMasked dom port true

def unmask (dom : DomId) (port : Port) : Op System EvtchnError Unit := setMasked dom port false

def consume (dom : DomId) (port : Port) : Op System EvtchnError Bool := do
  let c ← Op.query (·.chan dom port)
  Op.ensure (fun _ => c.state ≠ .free) .wrongState
  Op.modify (·.setChan dom port { c with pending := false })
  return c.pending

def deliverable (s : System) (dom : DomId) (port : Port) : Bool :=
  match s.chan dom port with
  | .error _ => false
  | .ok c => c.pending && !c.masked

/-- The vCPU a delivery on this port wakes. -/
def notifyTarget (s : System) (dom : DomId) (port : Port) : Option Vcpu :=
  match s.chan dom port with
  | .error _ => none
  | .ok c =>
      match c.state with
      | .virq vcpu _ => some vcpu
      | .ipi vcpu => some vcpu
      | .interdomain _ _ => some 0
      | .unbound _ => some 0
      | .free => none

def hasDeliverableFor (s : System) (dom : DomId) (vcpu : Vcpu) : Bool :=
  (s.ports dom).any fun port => s.deliverable dom port && s.notifyTarget dom port = some vcpu

def stateOf (s : System) (dom : DomId) (port : Port) : Option PortState :=
  (s.chan? dom port).map (·.state)

def anyUnboundInto (s : System) (target : DomId) : Bool :=
  (Words.range16 s.domainCount).any fun dom =>
    (s.ports dom).any fun port => s.stateOf dom port = some (.unbound target)

/-- Close every port of `dom`, with the result of each close. -/
def closeAll (dom : DomId) (s : System) : List (Except EvtchnError Unit) × System :=
  Op.sweep (fun port s =>
    if s.stateOf dom port ≠ some .free then some (close dom port s) else none) (s.ports dom) s

/-- Free the ports of one domain that await `target`. -/
def clearRow (target dom : DomId) (s : System) : System :=
  (s.ports dom).foldl (fun s port =>
    if s.stateOf dom port = some (.unbound target) then s.setChan dom port .FREE else s) s

def clearUnboundInto (target : DomId) (s : System) : System :=
  (Words.range16 s.domainCount).foldl (fun s dom => s.clearRow target dom) s

/-- The state of the port at a position of the table. -/
def stateAt (s : System) (d p : Nat) : Option PortState := (s.domains.get? d p).map (·.state)

/-- Whether the peer of a port points back at position `(d, p)`. -/
def pointsBack (d p : Nat) : Option PortState → Bool
  | some (.interdomain r q) => r.toNat = d ∧ q.toNat = p
  | _ => false

/-- The breach, if any, at one port. -/
def violationAt (s : System) (d p : Nat) (c : EventChannel) : Option Violation :=
  match c.state with
  | .free => if c.pending || c.masked then some (.freePortHasSignal d p) else none
  | .interdomain remote remotePort =>
      if pointsBack d p (s.stateAt remote.toNat remotePort.toNat) then none
      else some (.reciprocityBroken d p)
  | .unbound remote =>
      if s.domains.length ≤ remote.toNat then some (.unboundGhostDomain d p) else none
  | .virq vcpu virq =>
      if (List.range (s.domains.width d)).any fun q =>
          q ≠ p ∧ s.stateAt d q = some (.virq vcpu virq)
      then some (.duplicateVirq d p) else none
  | .ipi _ => none

def firstViolation (s : System) : Option Violation :=
  (List.range s.domains.length).findSome? fun d =>
    (List.range (s.domains.width d)).findSome? fun p =>
      (s.domains.get? d p).bind (s.violationAt d p)

def invariantsHold (s : System) : Bool := s.firstViolation.isNone

end System

end Evtchn

end Baleen
