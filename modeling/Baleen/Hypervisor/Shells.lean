import Baleen.Hypervisor.Delegation
import Baleen.Hypervisor.Check
import Baleen.Evtchn.Teardown

/-!
# Dead slots and waiting events

A dead slot is an empty shell that nothing refers to, and no vCPU is blocked while an
event waits for it.  Both are kept by every step of a hypervisor whose port tables are
no larger than the port numbers can address.
-/

namespace Baleen

namespace Evtchn

/-- The vCPU that a delivery on a port in this state wakes. -/
def PortState.notify : PortState → Option Vcpu
  | .virq vcpu _ => some vcpu
  | .ipi vcpu => some vcpu
  | .interdomain _ _ => some 0
  | .unbound _ => some 0
  | .free => none

/-- Whether the port's event would be delivered. -/
def EventChannel.waits (c : EventChannel) : Bool := c.pending && !c.masked

namespace System

variable {s s' : System} {d : DomId} {p : Port} {c : EventChannel}

theorem deliverable_eq (found : s.chan? d p = some c) : s.deliverable d p = c.waits := by
  rw [deliverable, chan_of_chan? found]
  rfl

theorem notifyTarget_eq (found : s.chan? d p = some c) : s.notifyTarget d p = c.state.notify := by
  rw [notifyTarget, chan_of_chan? found]
  cases state : c.state <;> simp only [state, PortState.notify]

theorem deliverable_iff :
    s.deliverable d p = true ↔ ∃ c, s.chan? d p = some c ∧ c.waits = true := by
  rcases chan_cases s d p with ⟨c, found, -⟩ | ⟨missing, e, failed⟩
  · rw [deliverable_eq found]
    simp [found]
  · simp [deliverable, failed, missing]

/-- Nothing waits for the vCPU at a port the loop visits. -/
theorem not_waits_of_hasDeliverableFor {v : Vcpu} (none : s.hasDeliverableFor d v = false)
    (member : p ∈ s.ports d) (found : s.chan? d p = some c) (waits : c.waits = true) :
    c.state.notify ≠ some v := by
  intro notified
  unfold hasDeliverableFor at none
  rw [List.any_eq_false] at none
  refine none p member ?_
  rw [deliverable_eq found, notifyTarget_eq found, waits, notified]
  simp

/-- The ports of `d` are free, and no port awaits it. -/
structure Vacant (s : System) (d : DomId) : Prop where
  free : ∀ p ∈ s.ports d, s.stateOf d p = some .free
  unawaited : ∀ e ∈ Words.range16 s.domainCount, ∀ p ∈ s.ports e,
    s.stateOf e p ≠ some (.unbound d)

/-- Ports may change as long as they neither open a port of `d` nor wait for it. -/
theorem Vacant.rewired (vacant : Vacant s d) (sizes : SameSizes s s')
    (ports : ∀ e p, s'.chan? e p = s.chan? e p ∨ ∃ c, s'.chan? e p = some c ∧
      (p ∈ s.ports e → (e = d → c.state = .free) ∧
        (e ∈ Words.range16 s.domainCount → c.state ≠ .unbound d))) : Vacant s' d where
  free := by
    intro p member
    rw [sizes.ports] at member
    rcases ports d p with same | ⟨c, after, allowed⟩
    · unfold stateOf
      rw [same]
      exact vacant.free p member
    · unfold stateOf
      rw [after, Option.map_some, (allowed member).1 rfl]
  unawaited := by
    intro e known p member
    rw [sizes.ports] at member
    rw [sizes.domainCount] at known
    rcases ports e p with same | ⟨c, after, allowed⟩
    · unfold stateOf
      rw [same]
      exact vacant.unawaited e known p member
    · unfold stateOf
      rw [after, Option.map_some]
      exact fun awaits => (allowed member).2 known (Option.some.inj awaits)

end System

end Evtchn

namespace Hypervisor

open Evtchn (Port EventChannel)
open Evtchn.System (Vacant)
open Grant (GrantRef Mapping Access)
open P2m (Mfn)

variable {hv hv' : Hypervisor} {actor d : DomId}

/-- No vCPU is blocked while an event waits for it at a port the loops visit. -/
structure Awake (s : Evtchn.System) (k : Sched.System) : Prop where
  safe : ∀ {d p c v}, p ∈ s.ports d → s.chan? d p = some c → c.waits = true →
    c.state.notify = some v → k.stateOf d v ≠ some .blocked

variable {s s' : Evtchn.System} {k k' : Sched.System}

/-- Fewer waiting events, fewer blocked vCPUs. -/
theorem Awake.quieter (awake : Awake s k) (sizes : Evtchn.System.SameSizes s s')
    (ports : ∀ {d p c'}, s'.chan? d p = some c' → c'.waits = true →
      ∃ c, s.chan? d p = some c ∧ c.state = c'.state ∧ c.waits = true)
    (vcpus : ∀ {d v}, k'.stateOf d v = some .blocked → k.stateOf d v = some .blocked) :
    Awake s' k' := by
  refine ⟨fun {d p c' v} member found waits notified blocked => ?_⟩
  obtain ⟨c, before, state, waited⟩ := ports found waits
  rw [sizes.ports] at member
  exact awake.safe member before waited (by rw [state]; exact notified) (vcpus blocked)

/-- A vCPU moves, and blocks only where nothing waits for it. -/
theorem Awake.moved {who : DomId} {v : Vcpu} {c c' : Sched.VirtualCpu} (awake : Awake s k)
    (moved : Sched.System.Moved who v c c' k k')
    (blocks : c'.state = .blocked → c.state = .blocked ∨ s.hasDeliverableFor who v = false) :
    Awake s k' := by
  refine ⟨fun {d p e w} member found waits notified => ?_⟩
  rw [moved.stateOf]
  split_ifs with here
  · obtain ⟨rfl, rfl⟩ := here
    intro blocked
    rcases blocks (Option.some.inj blocked) with was | none
    · refine awake.safe member found waits notified ?_
      rw [Sched.System.stateOf, moved.found, Option.map_some, was]
    · exact Evtchn.System.not_waits_of_hasDeliverableFor none member found waits notified
  · exact awake.safe member found waits notified

/-- Nothing in the memory subsystems belongs to `d` or names it. -/
structure Bare (g : Grant.System) (p : P2m.System) (d : DomId) : Prop where
  grants : ∀ r ∈ g.grefs d, g.grantEntry d r = none
  mappings : ∀ m ∈ g.live, m.grantee ≠ d
  inbound : ∀ slot ∈ g.allRefs, g.granteeOf slot.1 slot.2 ≠ some d
  frames : ∀ m ∈ p.mfns, p.ownerOf m ≠ some d

/-- Nothing of `d` was added. -/
theorem Bare.less {g g' : Grant.System} {p p' : P2m.System} (bare : Bare g p d)
    (sizes : Grant.System.SameSizes g g') (frameCount : p'.frameCount = p.frameCount)
    (grants : ∀ {r a}, g'.grantEntry d r = some a → g.grantEntry d r ≠ none)
    (mappings : ∀ {m}, m ∈ g'.live → m.grantee = d → m ∈ g.live)
    (inbound : ∀ {e r a}, g'.grantEntry e r = some a → a.grantee = d →
      ∃ b, g.grantEntry e r = some b ∧ b.grantee = d)
    (frames : ∀ {m}, p'.ownerOf m = some d → p.ownerOf m = some d) : Bare g' p' d where
  grants := by
    intro r member
    rw [sizes.grefs] at member
    by_contra present
    obtain ⟨a, active⟩ := Option.ne_none_iff_exists'.mp present
    exact grants active (bare.grants r member)
  mappings m isLive mine := bare.mappings m (mappings isLive mine) mine
  inbound := by
    intro slot member named
    rw [sizes.allRefs] at member
    obtain ⟨a, active, mine⟩ := Option.map_eq_some_iff.mp named
    obtain ⟨b, before, mine'⟩ := inbound active mine
    refine bare.inbound slot member ?_
    rw [Grant.System.granteeOf, before, Option.map_some, mine']
  frames := by
    intro m member mine
    rw [P2m.System.mfns_of_frameCount frameCount] at member
    exact bare.frames m member (frames mine)

structure Shell (hv : Hypervisor) (d : DomId) : Prop where
  events : Vacant hv.evtchn d
  vcpus : ∀ v ∈ hv.sched.vcpus d, hv.sched.stateOf d v = some .offline
  memory : Bare hv.grant hv.p2m d
  devices : ∀ dev : Nat, hv.device.holders[dev]? ≠ some (some d)
  mayCreate : hv.mayCreateOf d = false

/-- A vCPU of a shell that moves stays offline. -/
theorem vcpus_moved {who : DomId} {v : Vcpu} {c c' : Sched.VirtualCpu}
    (offline : ∀ v ∈ k.vcpus d, k.stateOf d v = some .offline)
    (moved : Sched.System.Moved who v c c' k k')
    (still : who = d → c.state = .offline → c'.state = .offline) :
    ∀ v ∈ k'.vcpus d, k'.stateOf d v = some .offline := by
  intro w member
  rw [moved.sizes.vcpus] at member
  rw [moved.stateOf]
  split_ifs with here
  · obtain ⟨rfl, rfl⟩ := here
    have before := offline v member
    rw [Sched.System.stateOf, moved.found, Option.map_some] at before
    rw [still rfl (Option.some.inj before)]
  · exact offline w member

structure Tidy (hv : Hypervisor) : Prop where
  domains : hv.evtchn.domainCount = hv.domainCount
  bounded : hv.evtchn.Bounded
  ports : hv.evtchn.Consistent
  awake : Awake hv.evtchn hv.sched
  shells : ∀ {d}, hv.lifeOf d = some .dead → Shell hv d
  credit : ∀ c ∈ hv.credit, c.invariantsHold = true

theorem ne_of_dead (alive : hv.isLive actor = true) (dead : hv.lifeOf d = some .dead) :
    d ≠ actor := by
  rintro rfl
  have live : hv.lifeOf d = some .live := isLive_iff.mp alive
  rw [live] at dead
  cases dead

namespace Tidy

/-- A change of the port tables alone. -/
theorem rewire (tidy : Tidy hv) {s' : Evtchn.System} (consistent : s'.Consistent)
    (sizes : Evtchn.System.SameSizes hv.evtchn s') (awake : Awake s' hv.sched)
    (vacant : ∀ {d}, hv.lifeOf d = some .dead → Vacant hv.evtchn d → Vacant s' d) :
    Tidy { hv with evtchn := s' } where
  domains := sizes.domainCount.trans tidy.domains
  bounded := tidy.bounded.of_sizes sizes
  ports := consistent
  awake := awake
  shells dead :=
    have shell := tidy.shells dead
    ⟨vacant dead shell.events, shell.vcpus, shell.memory, shell.devices, shell.mayCreate⟩
  credit := tidy.credit

/-- A change of the memory subsystems alone. -/
theorem remap (tidy : Tidy hv) {g' : Grant.System} {p' : P2m.System}
    (bare : ∀ {d}, hv.lifeOf d = some .dead → Bare hv.grant hv.p2m d → Bare g' p' d) :
    Tidy { hv with grant := g', p2m := p' } where
  domains := tidy.domains
  bounded := tidy.bounded
  ports := tidy.ports
  awake := tidy.awake
  shells dead :=
    have shell := tidy.shells dead
    ⟨shell.events, shell.vcpus, bare dead shell.memory, shell.devices, shell.mayCreate⟩
  credit := tidy.credit

/-- A move of one vCPU. -/
theorem reschedule (tidy : Tidy hv) {who : DomId} {v : Vcpu} {c c' : Sched.VirtualCpu}
    {k' : Sched.System} (moved : Sched.System.Moved who v c c' hv.sched k')
    (blocks : c'.state = .blocked →
      c.state = .blocked ∨ hv.evtchn.hasDeliverableFor who v = false)
    (still : hv.lifeOf who = some .dead → c.state = .offline → c'.state = .offline) :
    Tidy { hv with sched := k' } where
  domains := tidy.domains
  bounded := tidy.bounded
  ports := tidy.ports
  awake := tidy.awake.moved moved blocks
  shells dead :=
    have shell := tidy.shells dead
    ⟨shell.events, vcpus_moved shell.vcpus moved fun same => still (same ▸ dead), shell.memory,
      shell.devices, shell.mayCreate⟩
  credit := tidy.credit

/-- Rewriting one port whose event does not wait afterwards. -/
theorem setPort (tidy : Tidy hv) {e : DomId} {port : Port} {c c' : EventChannel}
    (found : hv.evtchn.chan? e port = some c)
    (consistent : (hv.evtchn.setChan e port c').Consistent)
    (quiet : c'.waits = true → c.state = c'.state ∧ c.waits = true)
    (vacant : ∀ {d}, hv.lifeOf d = some .dead → port ∈ hv.evtchn.ports e →
      (e = d → c'.state = .free) ∧
        (e ∈ Words.range16 hv.evtchn.domainCount → c'.state ≠ .unbound d)) :
    Tidy { hv with evtchn := hv.evtchn.setChan e port c' } := by
  refine tidy.rewire consistent (.setChan ..) (tidy.awake.quieter (.setChan ..) ?_ id) ?_
  · intro d p x after waits
    rw [Evtchn.System.chan?_setChan found] at after
    split_ifs at after with here
    · obtain ⟨rfl, rfl⟩ := here
      cases after
      obtain ⟨state, waited⟩ := quiet waits
      exact ⟨c, found, state, waited⟩
    · exact ⟨x, after, rfl, waits⟩
  · intro d dead old
    refine old.rewired (.setChan ..) ?_
    intro x p
    rw [Evtchn.System.chan?_setChan found]
    split_ifs with here
    · obtain ⟨rfl, rfl⟩ := here
      exact .inr ⟨c', rfl, vacant dead⟩
    · exact .inl rfl

/-- A port of a dead slot that the loops visit is free. -/
theorem port_free (tidy : Tidy hv) (dead : hv.lifeOf d = some .dead) {p : Port}
    {c : EventChannel} (found : hv.evtchn.chan? d p = some c) (member : p ∈ hv.evtchn.ports d) :
    c.state = .free := by
  have free := (tidy.shells dead).events.free p member
  rw [Evtchn.System.stateOf, found, Option.map_some] at free
  exact Option.some.inj free

end Tidy

/-- A signalled port is in use. -/
theorem Signals.busy {s : Evtchn.System} {target : DomId × Port} (bounded : s.Bounded)
    (consistent : s.Consistent) (signals : Signals s actor target) :
    ∃ c, s.chan? target.1 target.2 = some c ∧ c.state ≠ .free := by
  cases signals with
  | peer found state =>
      obtain ⟨c, present, back⟩ := consistent.reciprocal found state
      exact ⟨c, present, by simp [back]⟩
  | own found busy => exact ⟨_, found, busy⟩
  | virq found =>
      obtain ⟨c, present, bound⟩ := Evtchn.System.virqPort_bound bounded found
      exact ⟨c, present, by simp [bound]⟩

/-- The signalled table has new bits on one port that is in use, and its old states. -/
theorem Marked.of_present {s s' : Evtchn.System} {target : DomId × Port} {c : EventChannel}
    (marked : Marked target s s') (found : s.chan? target.1 target.2 = some c) :
    ∃ c', c'.state = c.state ∧ s' = s.setChan target.1 target.2 c' := by
  rcases marked with rfl | ⟨x, c', found', state, rfl⟩
  · refine ⟨c, rfl, ?_⟩
    unfold Evtchn.System.setChan
    rw [Grid.set_present found]
  · rw [found] at found'
    cases found'
    exact ⟨c', state, rfl⟩

section Signalled

variable {e : DomId} {port : Port} {c c' : EventChannel} (tidy : Tidy hv)
  (found : hv.evtchn.chan? e port = some c)

include tidy found

theorem Tidy.vacant_marked (state : c'.state = c.state) (busy : c.state ≠ .free)
    (dead : hv.lifeOf d = some .dead) : Vacant (hv.evtchn.setChan e port c') d := by
  have old := (tidy.shells dead).events
  refine old.rewired (.setChan ..) ?_
  intro x p
  rw [Evtchn.System.chan?_setChan found]
  split_ifs with same
  · obtain ⟨rfl, rfl⟩ := same
    refine .inr ⟨c', rfl, fun member => ⟨?_, fun known => ?_⟩⟩
    · rintro rfl
      exact absurd (tidy.port_free dead found member) busy
    · rw [state]
      have unawaited := old.unawaited e known port member
      rw [Evtchn.System.stateOf, found] at unawaited
      exact fun awaits => unawaited (by rw [Option.map_some, awaits])
  · exact .inl rfl

/-- Only a vCPU that the marked port notifies can be blocked with an event waiting. -/
theorem Tidy.waits_marked {p : Port} {x : EventChannel} {v : Vcpu}
    (member : p ∈ (hv.evtchn.setChan e port c').ports d)
    (present : (hv.evtchn.setChan e port c').chan? d p = some x) (waits : x.waits = true)
    (notified : x.state.notify = some v) (blocked : hv.sched.stateOf d v = some .blocked) :
    e = d ∧ port = p ∧ x = c' := by
  rw [Evtchn.System.chan?_setChan found] at present
  split_ifs at present with same
  · cases present
    exact ⟨same.1, same.2, rfl⟩
  · rw [(Evtchn.System.SameSizes.setChan ..).ports] at member
    exact absurd blocked (tidy.awake.safe member present waits notified)

end Signalled

theorem Tidy.signalled (tidy : Tidy hv) (signalled : Signalled actor hv hv') : Tidy hv' := by
  obtain @⟨target, s', signals, marked⟩ := signalled
  obtain ⟨c, found, busy⟩ := signals.busy tidy.bounded tidy.ports
  obtain ⟨c', state, rfl⟩ := marked.of_present found
  have here : (hv.evtchn.setChan target.1 target.2 c').chan? target.1 target.2 = some c' :=
    (Evtchn.System.chan?_setChan found c' target.1 target.2).trans (if_pos ⟨rfl, rfl⟩)
  have consistent := tidy.ports.remark found state busy
  rcases wakeIfDeliverable_cases { hv with evtchn := hv.evtchn.setChan target.1 target.2 c' }
    target.1 target.2 with ⟨same, unblocked⟩ | ⟨vcpu, k, k', blocked, -, notified, moved, woken⟩
  · rw [same]
    refine tidy.rewire consistent (.setChan ..) ⟨?_⟩
      fun dead _ => tidy.vacant_marked found state busy dead
    intro d p x v member present waits notified blocked
    obtain ⟨rfl, rfl, rfl⟩ := tidy.waits_marked found member present waits notified blocked
    refine unblocked ?_ v ?_ blocked
    · exact (Evtchn.System.deliverable_eq here).trans waits
    · exact (Evtchn.System.notifyTarget_eq here).trans notified
  · rw [woken]
    have notified : c'.state.notify = some vcpu :=
      (Evtchn.System.notifyTarget_eq here).symm.trans notified
    exact {
      domains := (Evtchn.System.SameSizes.setChan ..).domainCount.trans tidy.domains
      bounded := tidy.bounded.of_sizes (.setChan ..)
      ports := consistent
      awake := by
        refine ⟨fun {d p x v} member present waits notified' => ?_⟩
        rw [moved.stateOf]
        split_ifs with same
        · simp
        · intro blocked'
          obtain ⟨rfl, rfl, rfl⟩ := tidy.waits_marked found member present waits notified' blocked'
          rw [notified] at notified'
          exact same ⟨rfl, Option.some.inj notified'⟩
      shells := by
        intro d dead
        have shell := tidy.shells dead
        refine ⟨tidy.vacant_marked found state busy dead, vcpus_moved shell.vcpus moved ?_,
          shell.memory, shell.devices, shell.mayCreate⟩
        intro _ offline
        rw [blocked] at offline
        cases offline
      credit := tidy.credit }

end Hypervisor

end Baleen
