import Baleen.Hypervisor.Memory
import Baleen.Evtchn.Ports
import Baleen.Sched.Cpus

/-!
# What a transition can do

`Effect` lists every change that a successful call can make, with the guards under
which it makes it, and `Rejected` what a failed call leaves behind.  Invariants are
proved over these two and never unfold a call.
-/

namespace Baleen

open Evtchn (Port Virq EventChannel PortState)
open Grant (GrantRef Mapping Access Unmapped)
open P2m (Mfn FrameInfo Link)
open Device (DevId)
open Credit (HvCore)

/-- The domain whose authority a transition uses. -/
def Transition.actor : Transition → DomId
  | .guest caller _ => caller
  | .raiseVcpuVirq dom _ _ => dom

namespace Hypervisor

/-- The ports that an actor can signal. -/
inductive Signals (s : Evtchn.System) (actor : DomId) : DomId × Port → Prop where
  | peer {port remote remotePort} {c : EventChannel} (found : s.chan? actor port = some c)
      (state : c.state = .interdomain remote remotePort) : Signals s actor (remote, remotePort)
  | own {port} {c : EventChannel} (found : s.chan? actor port = some c) (busy : c.state ≠ .free) :
      Signals s actor (actor, port)
  | virq {port vcpu virq} (found : s.virqPort actor vcpu virq = .ok port) :
      Signals s actor (actor, port)

/-- At most the bits of one port differ. -/
def Marked (target : DomId × Port) (s s' : Evtchn.System) : Prop :=
  s' = s ∨ ∃ c c', s.chan? target.1 target.2 = some c ∧ c'.state = c.state ∧
    s' = s.setChan target.1 target.2 c'

/-- A port was marked, and its vCPU woken if the mark made it deliverable. -/
inductive Signalled (actor : DomId) (hv : Hypervisor) : Hypervisor → Prop where
  | mk {target s'} (signals : Signals hv.evtchn actor target)
      (marked : Marked target hv.evtchn s') :
      Signalled actor hv (wakeIfDeliverable target.1 target.2 { hv with evtchn := s' })

/-- The vCPU exists, if the scheduler knows the domain at all. -/
def Bindable (hv : Hypervisor) (dom : DomId) (vcpu : Vcpu) : Prop :=
  dom.toNat < hv.sched.domainCount → vcpu.toNat < hv.sched.vcpuCount dom

/-- The states in which a port can be opened. -/
inductive Opens (hv : Hypervisor) (actor : DomId) : PortState → Prop where
  | unbound {remote} (known : remote.toNat < hv.evtchn.domainCount)
      (alive : hv.lifeOf remote ≠ some .dead) : Opens hv actor (.unbound remote)
  | virq {vcpu virq} (bindable : hv.Bindable actor vcpu)
      (unbound : hv.evtchn.Unbound actor vcpu virq) : Opens hv actor (.virq vcpu virq)
  | ipi {vcpu} (bindable : hv.Bindable actor vcpu) : Opens hv actor (.ipi vcpu)

/-- What a successful call of a live actor does. -/
inductive Effect (actor : DomId) (hv : Hypervisor) : Hypervisor → Prop where
  | idle : Effect actor hv hv
  | credit {c c'} (found : hv.credit[actor.toNat]? = some c)
      (conserved : c.invariantsHold = true → c'.invariantsHold = true) :
      Effect actor hv { hv with credit := hv.credit.set actor.toNat c' }
  | openPort {port c state} (free : hv.evtchn.findFree actor = .ok port)
      (found : hv.evtchn.chan? actor port = some c) (opens : Opens hv actor state) :
      Effect actor hv { hv with evtchn := hv.evtchn.setChan actor port { c with state := state } }
  | connect {port remote remotePort peer} (free : hv.evtchn.findFree actor = .ok port)
      (found : hv.evtchn.chan? remote remotePort = some peer)
      (awaits : peer.state = .unbound actor) :
      Effect actor hv { hv with
        evtchn :=
          (hv.evtchn.setChan actor port ⟨.interdomain remote remotePort, false, false⟩).setChan
            remote remotePort ⟨.interdomain actor port, false, false⟩ }
  | closePort {port c} (found : hv.evtchn.chan? actor port = some c) (busy : c.state ≠ .free) :
      Effect actor hv { hv with
        evtchn := (hv.evtchn.disconnect actor c).setChan actor port .FREE }
  | mark {port c c'} (found : hv.evtchn.chan? actor port = some c) (busy : c.state ≠ .free)
      (same : c'.state = c.state) (quieter : (c'.pending && !c'.masked) = true →
        (c.pending && !c.masked) = true) :
      Effect actor hv { hv with evtchn := hv.evtchn.setChan actor port c' }
  | signal {hv'} (signalled : Signalled actor hv hv') : Effect actor hv hv'
  | sched {who vcpu c c' s'} (moved : Sched.System.Moved who vcpu c c' hv.sched s')
      (permitted : who = actor ∨ hv.holdsControl actor who = true ∧ c'.state = c.state)
      (awake : c'.state = .blocked →
        c.state = .blocked ∨ hv.evtchn.hasDeliverableFor who vcpu = false) :
      Effect actor hv { hv with sched := s' }
  | grantAccess {gref grantee frame readonly} (known : grantee.toNat < hv.grant.domainCount)
      (alive : hv.lifeOf grantee ≠ some .dead) (free : hv.grant.entryAt actor gref = some .free) :
      Effect actor hv { hv with
        grant := hv.grant.setEntry actor gref (.access ⟨grantee, frame, readonly, 0, 0⟩) }
  | endAccess {gref a} (active : hv.grant.grantEntry actor gref = some a) (unmapped : a.maps = 0)
      (unused : hv.p2m.isForeignLinkedBy a.frame a.grantee = false) :
      Effect actor hv { hv with grant := hv.grant.setEntry actor gref .free }
  | map {m a i g'} (mapped : Grant.System.Mapped m a hv.grant g') (grants : g'.Consistent)
      (holder : m.grantee = actor) (addressed : a.grantee = actor)
      (known : hv.p2m.info a.frame = some i) (owner : i.owner = m.grantor)
      (accepted : i.Accepts (Unmapped.ref ⟨a.frame, m.writable⟩)) :
      Effect actor hv { hv with
        grant := g'
        p2m := hv.p2m.setFrame a.frame
          (.allocated (i.bump (Unmapped.ref ⟨a.frame, m.writable⟩))) }
  | unmap {m a g' p'} (released : Grant.System.Released m a hv.grant g')
    (holder : m.grantee = actor)
      (kept : P2m.System.Kept (· = a.frame) hv.p2m p') (links : p'.links = hv.p2m.links)
      (sound : Sound [] g' p') : Effect actor hv { hv with grant := g', p2m := p' }
  | frame {m f} (before : hv.p2m.ownerOf m = some actor ∨ hv.p2m.ownerOf m = none)
      (after : ∀ {i}, P2m.System.infoOf f = some i → i.owner = actor)
      (sound : Sound [] hv.grant (hv.p2m.setFrame m f)) :
      Effect actor hv { hv with p2m := hv.p2m.setFrame m f }
  | link {l p'} (linked : P2m.System.Linked l hv.p2m p')
      (mine : hv.p2m.ownerOf l.parent = some actor)
      (consent : ∀ {co}, hv.p2m.ownerOf l.child = some co →
        co = actor ∨ hv.grant.authorizes co actor l.child l.writable = true)
      (sound : Sound [] hv.grant p') : Effect actor hv { hv with p2m := p' }
  | unlink {l p'} (isLive : l ∈ hv.p2m.live) (unlinked : P2m.System.Unlinked l hv.p2m p')
      (mine : hv.p2m.ownerOf l.parent = some actor)
      (sound : Sound [] hv.grant p') : Effect actor hv { hv with p2m := p' }
  | create {target mayCreate} (inside : target.toNat < hv.domainCount)
      (creator : hv.mayCreateOf actor = true) (dead : hv.lifeOf target = some .dead) :
      Effect actor hv (setControl { hv with
        life := hv.life.set target.toNat .live
        mayCreate := hv.mayCreate.set target.toNat mayCreate } actor target .root)
  | destroy {target now} (inside : target.toNat < hv.domainCount)
      (permitted : actor = target ∨ hv.holdsControl actor target = true) :
      Effect actor hv (hv.teardown target now).2
  | delegate {target recipient} (inside : target.toNat < hv.domainCount)
      (inside' : recipient.toNat < hv.domainCount) (held : hv.holdsControl actor target = true)
      (apart : recipient ≠ target) (alive : hv.isLive recipient = true)
      (fresh : hv.holdsControl recipient target = false) :
      Effect actor hv (hv.setControl recipient target (.via actor))
  | revoke {target holder} (inside : target.toNat < hv.domainCount)
      (inside' : holder.toNat < hv.domainCount) (held : hv.holdsControl actor target = true)
      (below : hv.controlSubtreeContains actor holder target = true) :
      Effect actor hv (hv.setControl holder target .absent).sweepOrphanedControlEdges
  | assign {dev recipient} (inside : recipient.toNat < hv.domainCount)
      (held : hv.holdsControl actor recipient = true) (alive : hv.lifeOf recipient ≠ some .dead)
      (free : hv.device.holders[dev.toNat]? = some none) :
      Effect actor hv { hv with device := hv.device.setHolder dev (some recipient) }
  | release {dev holder} (inside : holder.toNat < hv.domainCount)
      (permitted : actor = holder ∨ hv.holdsControl actor holder = true)
      (assigned : hv.device.holders[dev.toNat]? = some (some holder)) :
      Effect actor hv { hv with device := hv.device.setHolder dev none }

/-- A successful transition. -/
inductive Step (hv : Hypervisor) : Transition → Hypervisor → Prop where
  | call {caller call hv'} (inside : caller.toNat < hv.domainCount)
      (alive : hv.isLive caller = true) (effect : Effect caller hv hv') :
      Step hv (.guest caller call) hv'
  | virq {dom vcpu virq hv'} (signalled : Signalled dom hv hv') :
      Step hv (.raiseVcpuVirq dom vcpu virq) hv'

/-- A failed transition: the grant tables may have a new inactive record, and a frame
without a page-table type a new stale level. -/
structure Rejected (hv hv' : Hypervisor) : Prop where
  others : hv' = { hv with grant := hv'.grant, p2m := hv'.p2m }
  entries : hv'.grant.domains = hv.grant.domains
  mappings : hv'.grant.live = hv.grant.live
  frames : P2m.System.SameButStale hv.p2m hv'.p2m
  sound : Sound [] hv'.grant hv'.p2m

/-- What holds of every state, whatever its sizes. -/
structure Regular (hv : Hypervisor) : Prop where
  memory : Sound [] hv.grant hv.p2m
  sched : hv.sched.Consistent

theorem Rejected.refl {hv : Hypervisor} (regular : Regular hv) : Rejected hv hv :=
  ⟨rfl, rfl, rfl, .refl _, regular.memory⟩

end Hypervisor

end Baleen
