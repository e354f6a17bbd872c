import Baleen.Sim.Surface
import Baleen.Hypervisor.Destroy

/-!
# Local respect

A transition moves the surface of another domain only through an authorized channel.
The channels are stated once more without the loops that look for them: what a domain
names and what it borrows.
-/

namespace Baleen.Noninterference

open Evtchn (Port EventChannel)
open Grant (GrantRef Mapping Access)
open P2m (Mfn Frame FrameInfo Link)
open Hypervisor (Regular Sound Tidy Effect Signalled Signals Step Reachable Rejected)

variable {hv hv' : Hypervisor} {a b : DomId}

/-- The domains that `b` may act on as a whole. -/
def Acts (hv : Hypervisor) (b d : DomId) : Prop := b = d ∨ hv.holdsControl b d = true

/-- `a` refers to `d` in a grant or in a port. -/
inductive Names (hv : Hypervisor) (a d : DomId) : Prop where
  | grant {r x} (active : hv.grant.grantEntry a r = some x) (grantee : x.grantee = d)
  | unbound {p c} (found : hv.evtchn.chan? a p = some c) (state : c.state = .unbound d)
  | interdomain {p c q} (found : hv.evtchn.chan? a p = some c) (state : c.state = .interdomain d q)

/-- `a` maps a frame of `d`, or links one into its own tables. -/
inductive Borrows (hv : Hypervisor) (a d : DomId) : Prop where
  | mapping {m} (isLive : m ∈ hv.grant.live) (holder : m.grantee = a) (grantor : m.grantor = d)
  | entry {l} (isLive : l ∈ hv.p2m.live) (parent : hv.p2m.ownerOf l.parent = some a)
      (child : hv.p2m.ownerOf l.child = some d)

/-- No channel leads from `b` to `a`. -/
structure Apart (hv : Hypervisor) (b a : DomId) : Prop where
  other : ∀ {d}, Acts hv b d → d ≠ a
  names : ∀ {d}, Acts hv b d → ¬Names hv a d
  borrows : ∀ {d}, Acts hv b d → ¬Borrows hv a d
  creates : hv.mayCreateOf b = true → hv.isLive a = true

theorem Acts.self (hv : Hypervisor) (b : DomId) : Acts hv b b := .inl rfl

theorem SamePorts.setChan {s s' : Evtchn.System} {d : DomId} (same : SamePorts a s s')
    (other : d ≠ a) (p : Port) (c : EventChannel) : SamePorts a s (s'.setChan d p c) where
  count := by rw [Evtchn.System.portCount_setChan, same.count]
  chan q := by
    have apart : d.toNat = a.toNat → p.toNat ≠ q.toNat :=
      fun same => absurd (UInt16.toNat_inj.mp same) other
    rw [← same.chan]
    exact Grid.get?_set_other apart

theorem SameGrants.setEntry {d : DomId} (g : Grant.System) (other : d ≠ a) (r : GrantRef)
    (e : Grant.GrantEntry) : SameGrants a g (g.setEntry d r e) where
  count := by simp
  rows q := by
    unfold Grant.System.grantEntry
    rw [Grant.System.entryAt_setEntry, if_neg fun here => other here.1]
  held _ _ := .rfl

theorem SameVcpus.moved {k k' : Sched.System} {d : DomId} {v : Vcpu} {c c' : Sched.VirtualCpu}
    (moved : Sched.System.Moved d v c c' k k') (other : d ≠ a) : SameVcpus a k k' where
  count := moved.sizes.vcpuCount a
  vcpu w := by rw [moved.vcpu?, if_neg fun here => other here.1]

theorem SamePages.kept {touched : Mfn → Prop} {p p' : P2m.System}
    (kept : P2m.System.Kept touched p p') (apart : ∀ {m}, touched m → p.ownerOf m ≠ some a)
    (entries : ∀ l : Link, p.ownerOf l.parent = some a → (l ∈ p'.live ↔ l ∈ p.live)) :
    SamePages a p p' where
  frameCount := kept.frameCount
  owner m := by rw [kept.owner]
  frames m mine := by rw [kept.other m fun here => apart here mine]
  entries := entries

theorem SamePages.setFrame (p : P2m.System) {m : Mfn} {f : P2m.Frame}
    (before : p.ownerOf m ≠ some a) (after : (p.setFrame m f).ownerOf m ≠ some a) :
    SamePages a p (p.setFrame m f) where
  frameCount := P2m.System.frameCount_setFrame ..
  owner k := by
    by_cases here : m = k
    · subst here
      exact iff_of_false after before
    · rw [Hypervisor.ownerOf_setFrame_other here]
  frames k mine := by
    rw [P2m.System.info_setFrame_other]
    rintro rfl
    exact before mine
  entries _ _ := .rfl

theorem Untouched.rewire {s : Evtchn.System} (ports : SamePorts a hv.evtchn s) :
    Untouched a hv { hv with evtchn := s } := { Untouched.refl hv with ports }

theorem Untouched.reschedule {k : Sched.System} (vcpus : SameVcpus a hv.sched k) :
    Untouched a hv { hv with sched := k } := { Untouched.refl hv with vcpus }

theorem Untouched.remap {g : Grant.System} {p : P2m.System} (grants : SameGrants a hv.grant g)
    (pages : SamePages a hv.p2m p) : Untouched a hv { hv with grant := g, p2m := p } :=
  { Untouched.refl hv with grants, pages }

theorem SameDevices.setHolder {s : Device.System} {dev : Device.DevId} {old new : Option DomId}
    (found : s.holders[dev.toNat]? = some old) (before : old ≠ some a) (after : new ≠ some a) :
    SameDevices a s (s.setHolder dev new) where
  count := List.length_set
  holder e := by
    unfold Device.System.holderOf Device.System.setHolder
    rw [List.getElem?_set]
    split_ifs with here inside
    · rw [← here, found]
      exact iff_of_false after before
    · rw [← here, found]
      exact iff_of_false (by simp) before
    · rfl

theorem SameDevices.releaseAllOf (s : Device.System) {d : DomId} (other : d ≠ a) :
    SameDevices a s (Device.System.releaseAllOf d s) where
  count := List.length_map _
  holder e := by
    unfold Device.System.holderOf Device.System.releaseAllOf
    rw [List.getElem?_map]
    cases s.holders[e.toNat]? with
    | none => rfl
    | some slot =>
        rw [Option.map_some, Option.getD_some, Option.getD_some]
        split_ifs with held
        · rw [held]
          exact iff_of_false (by simp) (by simpa using other)
        · rfl

theorem SameGrants.mapped {m : Mapping} {x : Access} {g g' : Grant.System}
    (mapped : Grant.System.Mapped m x g g') (holder : m.grantee ≠ a) (grantor : m.grantor ≠ a) :
    SameGrants a g g' where
  count := mapped.entryCount a
  rows r := by rw [mapped.grantEntry, if_neg fun here => grantor here.1]
  held m' mine := by
    rw [mapped.live_perm.mem_iff, List.mem_cons, or_iff_right]
    rintro rfl
    exact holder mine

theorem SameGrants.released {m : Mapping} {x : Access} {g g' : Grant.System}
    (released : Grant.System.Released m x g g') (holder : m.grantee ≠ a)
    (grantor : m.grantor ≠ a) : SameGrants a g g' where
  count := released.entryCount a
  rows r := by rw [released.grantEntry, if_neg fun here => grantor here.1]
  held m' mine := by
    rw [released.live_perm.mem_iff, List.mem_cons, or_iff_right]
    rintro rfl
    exact holder mine

section Steps

variable (apart : Apart hv b a)

include apart

/-- The far end of a port of `b` is not `a`'s. -/
theorem Apart.peer (ports : hv.evtchn.Consistent) {p q : Port} {c : EventChannel} {d : DomId}
    (found : hv.evtchn.chan? b p = some c) (state : c.state = .interdomain d q) : d ≠ a := by
  rintro rfl
  obtain ⟨c', found', state'⟩ := ports.reciprocal found state
  exact apart.names (.self hv b) (.interdomain found' state')

theorem Apart.signals (ports : hv.evtchn.Consistent) {target : DomId × Port}
    (signals : Signals hv.evtchn b target) : target.1 ≠ a := by
  cases signals with
  | peer found state => exact apart.peer ports found state
  | own _ _ => exact apart.other (.self hv b)
  | virq _ => exact apart.other (.self hv b)

theorem Apart.signalled (ports : hv.evtchn.Consistent) (signalled : Signalled b hv hv') :
    Untouched a hv hv' := by
  obtain @⟨target, s', signals, marked⟩ := signalled
  have other := apart.signals ports signals
  have rung : SamePorts a hv.evtchn s' := by
    rcases marked with rfl | ⟨c, c', -, -, rfl⟩
    · exact .refl _
    · exact (SamePorts.refl _).setChan other ..
  rcases Hypervisor.wakeIfDeliverable_cases { hv with evtchn := s' } target.1 target.2 with
    ⟨same, -⟩ | ⟨vcpu, c, k', -, -, -, moved, woken⟩
  · rw [same]
    exact .rewire rung
  · rw [woken]
    exact { Untouched.rewire rung with vcpus := .moved moved other }

/-- A grant of `a` does not address `b`. -/
theorem Apart.consent {frame : Mfn} {writable : Bool} (grants : hv.grant.Consistent) :
    hv.grant.authorizes a b frame writable = false := by
  by_contra granted
  rw [Bool.not_eq_false, grants.authorizes_iff] at granted
  obtain ⟨r, x, active, grantee, -⟩ := granted
  exact apart.names (.self hv b) (.grant active grantee)

theorem Apart.destroy (regular : Regular hv) (tidy : Tidy hv) (delegated : hv.Delegated)
    {target : DomId} (acts : Acts hv b target) (inside : target.toNat < hv.domainCount)
    (now : Ticks) : Untouched a hv (hv.teardown target now).2 := by
  have spared := Hypervisor.teardown_spared regular tidy delegated inside now
  have shape := Hypervisor.teardown_sameShape regular target now
  obtain ⟨-, reclaimed⟩ := Hypervisor.teardown_memory regular.memory target now
  have other : a ≠ target := (apart.other acts).symm
  have unnamed := apart.names acts
  have unborrowed := apart.borrows acts
  have memory := regular.memory
  -- A frame of `a` carries no reference of `target`, nor a reference on `target`'s frames.
  have frame : ∀ {m}, hv.p2m.ownerOf m = some a → ¬Hypervisor.FrameOf target hv m := by
    rintro m mine (owned | ⟨l, isLive, touches, rfl | rfl⟩ | ⟨mp, isLive, involved, granted⟩)
    · exact other (Option.some.inj (mine.symm.trans owned))
    · rcases touches with parent | child
      · exact other (Option.some.inj (mine.symm.trans parent))
      · exact unborrowed (.entry isLive mine child)
    · rcases touches with parent | child
      · have granted := memory.consent isLive mine parent other
        obtain ⟨r, x, active, grantee, -⟩ := memory.grants.authorizes_iff.mp granted
        exact unnamed (.grant active grantee)
      · exact other (Option.some.inj (mine.symm.trans child))
    · obtain ⟨x, active, rfl⟩ := Option.map_eq_some_iff.mp granted
      have owner := memory.owned isLive active
      obtain rfl : mp.grantor = a := Option.some.inj (owner.symm.trans mine)
      rcases involved with grantor | grantee
      · exact other grantor
      · obtain ⟨x', active', sameGrantee, -⟩ := memory.grants.backed isLive
        exact unnamed (.grant active' (sameGrantee.trans grantee))
  exact {
    alive := by
      unfold Hypervisor.isLive
      rw [spared.life other]
    balance := by
      unfold Hypervisor.balance
      rw [spared.credit]
    ports := by
      refine ⟨shape.ports.portCount a, fun p => spared.ports ?_⟩
      rintro (mine | ⟨c, found, state | ⟨q, state⟩⟩)
      · exact other mine
      · exact unnamed (.unbound found state)
      · exact unnamed (.interdomain found state)
    grants := by
      refine ⟨shape.grants.entryCount a, fun r => ?_, fun m mine => ?_⟩
      · unfold Grant.System.grantEntry
        rw [spared.grants]
        rintro (mine | ⟨x, active, grantee⟩)
        · exact other mine
        · exact unnamed (.grant active grantee)
      · rw [reclaimed.mappings]
        refine and_iff_left_of_imp fun isLive => ?_
        rintro (grantor | grantee)
        · exact unborrowed (.mapping isLive mine grantor)
        · exact other (mine.symm.trans grantee)
    vcpus := ⟨shape.vcpus.vcpuCount a, fun v => spared.vcpus other⟩
    pages := {
      frameCount := shape.frameCount
      owner := by
        intro m
        refine ⟨reclaimed.lost m a, fun mine => ?_⟩
        rw [(spared.owners fun owned => other (Option.some.inj (mine.symm.trans owned))).1, mine]
      frames := fun m mine => by rw [spared.frames (frame mine)]
      entries := by
        intro l mine
        rw [reclaimed.links, List.mem_filter, Bool.not_eq_true', Bool.eq_false_iff, ne_eq,
          Hypervisor.straddles_iff]
        refine and_iff_left_of_imp fun isLive => ?_
        rintro (parent | child)
        · exact other (Option.some.inj (mine.symm.trans parent))
        · exact unborrowed (.entry isLive mine child) }
    devices := by
      rw [Hypervisor.teardown_device]
      exact .releaseAllOf hv.device other.symm }

theorem Apart.connected {port remotePort : Port} {remote : DomId} {peer : EventChannel}
    (found : hv.evtchn.chan? remote remotePort = some peer) (awaits : peer.state = .unbound b)
    (c c' : EventChannel) :
    SamePorts a hv.evtchn ((hv.evtchn.setChan b port c).setChan remote remotePort c') := by
  have far : remote ≠ a := by
    rintro rfl
    exact apart.names (.self hv b) (.unbound found awaits)
  exact ((SamePorts.refl _).setChan (apart.other (.self hv b)) ..).setChan far ..

theorem Apart.closed (ports : hv.evtchn.Consistent) {port : Port} {c : EventChannel}
    (found : hv.evtchn.chan? b port = some c) (c' : EventChannel) :
    SamePorts a hv.evtchn ((hv.evtchn.disconnect b c).setChan b port c') := by
  refine SamePorts.setChan ?_ (apart.other (.self hv b)) ..
  unfold Evtchn.System.disconnect
  split
  · next state => exact (SamePorts.refl _).setChan (apart.peer ports found state) ..
  · exact .refl _

/-- Whoever addresses a grant to `b` is not `a`. -/
theorem Apart.grantor {d : DomId} {r : GrantRef} {x : Access}
    (active : hv.grant.grantEntry d r = some x) (addressed : x.grantee = b) : d ≠ a := by
  rintro rfl
  exact apart.names (.self hv b) (.grant active addressed)

theorem Apart.mapped {m : Mapping} {x : Access} {i : FrameInfo} {g' : Grant.System}
    (mapped : Grant.System.Mapped m x hv.grant g') (holder : m.grantee = b)
    (addressed : x.grantee = b) (known : hv.p2m.info x.frame = some i) (owner : i.owner = m.grantor)
    (ref : P2m.ChildRef) : Untouched a hv
      { hv with grant := g', p2m := hv.p2m.setFrame x.frame (.allocated (i.bump ref)) } := by
  have far := apart.grantor mapped.active addressed
  have other := apart.other (.self hv b)
  refine .remap (.mapped mapped (holder ▸ other) far) (.setFrame _ ?_ ?_)
  · rw [P2m.System.ownerOf_of_info known, owner]
    simpa using far
  · rw [P2m.System.ownerOf_setFrame known (FrameInfo.bump_owner ..),
      P2m.System.ownerOf_of_info known, owner]
    simpa using far

theorem Apart.released (memory : Sound [] hv.grant hv.p2m) {m : Mapping} {x : Access}
    {g' : Grant.System} {p' : P2m.System} (released : Grant.System.Released m x hv.grant g')
    (holder : m.grantee = b) (kept : P2m.System.Kept (· = x.frame) hv.p2m p')
    (links : p'.links = hv.p2m.links) : Untouched a hv { hv with grant := g', p2m := p' } := by
  obtain ⟨x', active', grantee, -⟩ := memory.grants.backed released.mem_live
  have far := apart.grantor active' (grantee.trans holder)
  have other := apart.other (.self hv b)
  refine .remap (.released released (holder ▸ other) far) (.kept kept ?_ fun l _ => ?_)
  · rintro _ rfl
    rw [memory.owned released.mem_live released.active]
    simpa using far
  · unfold P2m.System.live
    rw [links]

theorem Apart.framed {m : Mfn} {f : Frame}
    (before : hv.p2m.ownerOf m = some b ∨ hv.p2m.ownerOf m = none)
    (after : ∀ {i}, P2m.System.infoOf f = some i → i.owner = b) :
    Untouched a hv { hv with p2m := hv.p2m.setFrame m f } := by
  have other := apart.other (.self hv b)
  refine .remap (.refl _) (.setFrame _ ?_ ?_)
  · rcases before with mine | free
    · rw [mine]
      simpa using other
    · simp [free]
  · intro owned
    obtain ⟨i, known, owner⟩ := P2m.System.ownerOf_eq_some.mp owned
    rw [P2m.System.info_setFrame, if_pos rfl] at known
    obtain ⟨_, -, fresh⟩ := Option.bind_eq_some_iff.mp known
    exact other ((after fresh).symm.trans owner)

/-- An entry of `b` changes, under a table of `b` and into a frame that `a` does not own. -/
theorem Apart.rewired {l : Link} {p' : P2m.System}
    (kept : P2m.System.Kept (fun m => m = l.parent ∨ m = l.child) hv.p2m p')
    (mine : hv.p2m.ownerOf l.parent = some b) (foreign : hv.p2m.ownerOf l.child ≠ some a)
    (others : ∀ l', l' ≠ l → (l' ∈ p'.live ↔ l' ∈ hv.p2m.live)) :
    Untouched a hv { hv with p2m := p' } := by
  have other := apart.other (.self hv b)
  refine .remap (.refl _) (.kept kept ?_ fun l' parent => ?_)
  · rintro _ (rfl | rfl) owned
    · exact other (Option.some.inj (mine.symm.trans owned))
    · exact foreign owned
  · refine others l' ?_
    rintro rfl
    exact other (Option.some.inj (mine.symm.trans parent))

theorem Apart.linked (memory : Sound [] hv.grant hv.p2m) {l : Link} {p' : P2m.System}
    (linked : P2m.System.Linked l hv.p2m p') (mine : hv.p2m.ownerOf l.parent = some b)
    (consent : ∀ {co}, hv.p2m.ownerOf l.child = some co →
      co = b ∨ hv.grant.authorizes co b l.child l.writable = true) :
    Untouched a hv { hv with p2m := p' } := by
  refine apart.rewired linked.kept mine (fun owned => ?_) fun l' apart' => ?_
  · rcases consent owned with same | granted
    · exact apart.other (.self hv b) same.symm
    · rw [apart.consent memory.grants] at granted
      cases granted
  · rw [linked.mem_iff, or_iff_right apart']

theorem Apart.unlinked (memory : Sound [] hv.grant hv.p2m) {l : Link} {p' : P2m.System}
    (isLive : l ∈ hv.p2m.live) (unlinked : P2m.System.Unlinked l hv.p2m p')
    (mine : hv.p2m.ownerOf l.parent = some b) : Untouched a hv { hv with p2m := p' } := by
  refine apart.rewired unlinked.kept mine (fun owned => ?_) fun l' apart' => ?_
  · have granted := memory.consent isLive owned mine (apart.other (.self hv b)).symm
    rw [apart.consent memory.grants] at granted
    cases granted
  · rw [unlinked.mem_iff, or_iff_right apart']

theorem Apart.created {target : DomId} (mayCreate : List Bool) (creator : hv.mayCreateOf b = true)
    (dead : hv.lifeOf target = some .dead) : Untouched a hv (Hypervisor.setControl { hv with
      life := hv.life.set target.toNat .live, mayCreate := mayCreate } b target .root) := by
  have other : target.toNat ≠ a.toNat := by
    intro same
    obtain rfl := UInt16.toNat_inj.mp same
    have life : hv.lifeOf target = some .live := Hypervisor.isLive_iff.mp (apart.creates creator)
    rw [dead] at life
    cases life
  refine { Untouched.refl hv with alive := ?_ }
  unfold Hypervisor.isLive Hypervisor.lifeOf
  rw [Hypervisor.setControl, List.getElem?_set_ne other]

theorem Apart.effect (regular : Regular hv) (tidy : Tidy hv)
    (delegated : hv.Delegated) (effect : Effect b hv hv') : Untouched a hv hv' := by
  have other : b ≠ a := apart.other (.self hv b)
  have memory := regular.memory
  cases effect with
  | idle => exact .refl hv
  | credit _ _ =>
      have apart : b.toNat ≠ a.toNat := fun same => other (UInt16.toNat_inj.mp same)
      refine { Untouched.refl hv with balance := ?_ }
      unfold Hypervisor.balance
      rw [List.getElem?_set_ne apart]
  | openPort _ _ _ => exact .rewire ((SamePorts.refl _).setChan other ..)
  | connect _ found awaits => exact .rewire (apart.connected found awaits ..)
  | closePort found _ => exact .rewire (apart.closed tidy.ports found _)
  | mark _ _ _ _ => exact .rewire ((SamePorts.refl _).setChan other ..)
  | signal signalled => exact apart.signalled tidy.ports signalled
  | sched moved permitted _ =>
      refine .reschedule (.moved moved (apart.other ?_))
      rcases permitted with rfl | ⟨held, -⟩
      · exact .self hv _
      · exact .inr held
  | grantAccess _ _ _ => exact .remap (.setEntry _ other ..) (.refl _)
  | endAccess _ _ _ => exact .remap (.setEntry _ other ..) (.refl _)
  | map mapped _ holder addressed known owner _ =>
      exact apart.mapped mapped holder addressed known owner _
  | unmap released holder kept links _ => exact apart.released memory released holder kept links
  | frame before after _ => exact apart.framed before after
  | link linked mine consent _ => exact apart.linked memory linked mine consent
  | unlink isLive unlinked mine _ => exact apart.unlinked memory isLive unlinked mine
  | create _ creator dead => exact apart.created _ creator dead
  | destroy inside permitted => exact apart.destroy regular tidy delegated permitted inside _
  | delegate _ _ _ _ _ _ => exact { Untouched.refl hv with }
  | revoke _ _ _ _ => exact { Untouched.refl hv with }
  | @assign dev recipient _ held _ free =>
      have far : recipient ≠ a := apart.other (.inr held)
      exact { Untouched.refl hv with devices := .setHolder free (by simp) (by simpa using far) }
  | @release dev holder _ permitted assigned =>
      have far : holder ≠ a := apart.other permitted
      exact { Untouched.refl hv with devices := .setHolder assigned (by simpa using far) (by simp) }

end Steps

/-- A rejection leaves nothing that a surface shows. -/
theorem Untouched.rejected (rejected : Rejected hv hv') : Untouched a hv hv' := by
  have view := rejected.sameView
  exact {
    alive := by
      unfold Hypervisor.isLive Hypervisor.lifeOf
      rw [view.life]
    balance := by
      unfold Hypervisor.balance
      rw [view.credit]
    ports := by
      rw [view.ports]
      exact .refl _
    grants := by
      refine ⟨?_, fun r => ?_, fun m _ => by rw [view.mappings]⟩
      · unfold Grant.System.entryCount
        rw [view.grants]
      · unfold Grant.System.grantEntry Grant.System.entryAt
        rw [view.grants]
    vcpus := by
      rw [view.vcpus]
      exact .refl _
    pages := {
      frameCount := view.frameCount
      owner := fun m => by rw [rejected.frames.owner]
      frames := fun m _ => view.frames m
      entries := fun l _ => by rw [view.links] }
    devices := by
      rw [view.devices]
      exact .refl _ }

theorem inside_of_signals {s : Evtchn.System} {target : DomId × Port}
    (signals : Signals s b target) :
    b.toNat < s.domainCount := by
  cases signals with
  | peer found _ => exact Grid.lt_length_of_get? found
  | own found _ => exact Grid.lt_length_of_get? found
  | virq found =>
      unfold Evtchn.System.virqPort Evtchn.System.domain at found
      by_contra outside
      have absent : s.domains[b.toNat]? = none := List.getElem?_eq_none (Nat.le_of_not_lt outside)
      rw [absent] at found
      cases found

theorem aGrantsTo_of_active {d : DomId} {r : GrantRef} {x : Access}
    (addressed : hv.grant.entryCount a < 2 ^ 32) (active : hv.grant.grantEntry a r = some x)
    (grantee : x.grantee = d) : aGrantsTo hv a d = true := by
  have inside : r.toNat < hv.grant.entryCount a :=
    Grid.lt_width_of_get? (Grant.System.grantEntry_eq_some.mp active)
  refine List.any_eq_true.mpr ⟨r, ?_, ?_⟩
  · rw [Grant.System.grefs, Words.mem_range32, Nat.mod_eq_of_lt addressed]
    exact inside
  · simpa [active] using grantee

theorem aPortToward_of_found {d : DomId} {p : Port} {c : EventChannel}
    (addressed : hv.evtchn.portCount a < 2 ^ 32) (found : hv.evtchn.chan? a p = some c)
    (toward : c.state = .unbound d ∨ ∃ q, c.state = .interdomain d q) :
    aPortToward hv a d = true := by
  have inside : p.toNat < hv.evtchn.portCount a := Grid.lt_width_of_get? found
  refine List.any_eq_true.mpr ⟨p, ?_, ?_⟩
  · rw [Evtchn.System.ports, Words.mem_range32, Nat.mod_eq_of_lt addressed]
    exact inside
  · rw [Evtchn.System.stateOf, found, Option.map_some]
    rcases toward with state | ⟨q, state⟩
    · simp [state]
    · simp [state]

theorem aBorrowsFrom_of_borrows {d : DomId} (grants : hv.grant.Consistent)
    (addressed : hv.grant.handleSlots a < 2 ^ 32) (borrows : Borrows hv a d) :
    aBorrowsFrom hv a d = true := by
  unfold aBorrowsFrom
  rw [Bool.or_eq_true]
  cases borrows with
  | @mapping m isLive holder grantor =>
      have inside := Grant.System.lt_handleSlots isLive
      rw [holder] at inside
      have small : m.handle < 2 ^ 32 := lt_trans inside addressed
      refine .inl (List.any_eq_true.mpr ⟨UInt32.ofNat m.handle, ?_, ?_⟩)
      · rw [Words.mem_range32, Words.toNat_ofNat32 small, Nat.mod_eq_of_lt addressed]
        exact inside
      · have name : m.name = (a, m.handle) := Prod.ext holder rfl
        have named := (Grant.System.mappingAt_eq_some grants).mpr ⟨m, isLive, name, rfl⟩
        rw [Words.toNat_ofNat32 small, named]
        exact decide_eq_true grantor
  | @entry l isLive parent child =>
      refine .inr (List.any_eq_true.mpr ⟨_, List.mem_map_of_mem isLive, ?_⟩)
      simp [parent, child]

/-- While no count is truncated, the loops find every channel. -/
theorem apart_of_unauthorized (delegated : hv.Delegated) (grants : hv.grant.Consistent)
    (domains : hv.domainCount < 2 ^ 16) (inside : b.toNat < hv.domainCount)
    (ports : hv.evtchn.portCount a < 2 ^ 32) (entries : hv.grant.entryCount a < 2 ^ 32)
    (handles : hv.grant.handleSlots a < 2 ^ 32)
    (unauthorized : Channels.full.authorized hv b a = false) : Apart hv b a := by
  simp only [Channels.authorized, Channels.full, Bool.true_and, Bool.or_eq_false_iff,
    decide_eq_false_iff_not] at unauthorized
  obtain ⟨⟨⟨⟨⟨⟨other, grant⟩, port⟩, control⟩, create⟩, reach⟩, borrow⟩ := unauthorized
  have visited : ∀ {d}, Acts hv b d → d ∈ hv.doms := by
    intro d acts
    rw [Hypervisor.doms, Words.mem_range16, Nat.mod_eq_of_lt domains]
    rcases acts with rfl | held
    · exact inside
    · exact (delegated.square.inside (Hypervisor.holdsControl_iff.mp held)).2
  have named : ∀ {d}, Acts hv b d → aGrantsTo hv a d = false ∧ aPortToward hv a d = false := by
    intro d acts
    rcases acts with rfl | held
    · exact ⟨grant, port⟩
    · have unreached := List.any_eq_false.mp reach d (visited (.inr held))
      simpa [held] using unreached
  exact {
    other := by
      rintro d (rfl | held) rfl
      · exact other rfl
      · rw [control] at held
        cases held
    names := by
      intro d acts names
      obtain ⟨ungranted, unported⟩ := named acts
      cases names with
      | grant active grantee =>
          rw [aGrantsTo_of_active entries active grantee] at ungranted
          cases ungranted
      | unbound found state =>
          rw [aPortToward_of_found ports found (.inl state)] at unported
          cases unported
      | interdomain found state =>
          rw [aPortToward_of_found ports found (.inr ⟨_, state⟩)] at unported
          cases unported
    borrows := by
      intro d acts borrows
      have unreached := List.any_eq_false.mp borrow d (visited acts)
      rw [aBorrowsFrom_of_borrows grants handles borrows, Bool.and_true, Bool.or_eq_true,
        decide_eq_true_eq, not_or] at unreached
      rcases acts with rfl | held
      · exact unreached.1 rfl
      · exact unreached.2 held
    creates := fun creator => by simpa [creator] using create }

section Runs

variable {c : Config} (reachable : Reachable c hv) (domains : c.numDomains < 2 ^ 16)
  (ports : c.portsPerDomain < 2 ^ 32) (grants : c.grantsPerDomain < 2 ^ 32)
  (handles : hv.grant.handleSlots a < 2 ^ 32)
  (unauthorized : Channels.full.authorized hv b a = false)

include reachable domains ports grants handles unauthorized

theorem apart_of_reachable (inside : b.toNat < hv.domainCount) : Apart hv b a := by
  have shape := reachable.sameShape
  refine apart_of_unauthorized reachable.delegated reachable.regular.memory.grants ?_ inside ?_ ?_
    handles unauthorized
  · rwa [reachable.domainCount]
  · rw [shape.ports.portCount, Hypervisor.new, Evtchn.System.portCount, Evtchn.System.new,
      Grid.width_fill]
    split_ifs
    · exact ports
    · decide
  · rw [shape.grants.entryCount, Hypervisor.new, Grant.System.entryCount, Grant.System.new,
      Grid.width_fill]
    split_ifs
    · exact grants
    · decide

theorem apart_of_signalled (signalled : Signalled b hv hv') : Apart hv b a := by
  refine apart_of_reachable reachable domains ports grants handles unauthorized ?_
  obtain @⟨_, _, signals, -⟩ := signalled
  exact (reachable.tidy (Nat.le_of_lt ports)).domains ▸ inside_of_signals signals

end Runs

/-- While no table is too large for the loops that look for the channels, only an
authorized actor moves a surface. -/
theorem local_respect (c : Config) (hv : Hypervisor) (reachable : Reachable c hv)
    (domains : c.numDomains < 2 ^ 16) (ports : c.portsPerDomain < 2 ^ 32)
    (grants : c.grantsPerDomain < 2 ^ 32) (a : DomId)
    (handles : hv.grant.handleSlots a < 2 ^ 32) (t : Transition)
    (unauthorized : Channels.full.authorized hv t.actor a = false) (linked : Mfn → DomId → Bool) :
    surface (Hypervisor.apply t hv).2 a linked = surface hv a linked := by
  have regular := reachable.regular
  have tidy := reachable.tidy (Nat.le_of_lt ports)
  have untouched : Untouched a hv (Hypervisor.apply t hv).2 := by
    refine Op.Yields.state ((Hypervisor.apply_spec regular t).mono ?_ ?_)
    · intro _ hv' step
      cases step with
      | call inside _ effect =>
          have apart :=
            apart_of_reachable reachable domains ports grants handles unauthorized inside
          exact apart.effect regular tidy reachable.delegated effect
      | virq signalled =>
          have apart :=
            apart_of_signalled reachable domains ports grants handles unauthorized signalled
          exact apart.signalled tidy.ports signalled
    · exact fun _ rejected => .rejected rejected
  exact untouched.surface regular (regular.apply t) linked

/-- Two domains that refer to each other in nothing. -/
theorem local_respect_strangers :
    let hv := Op.run Hypervisor.apply [.guest 0 (.domainCreate 1 false),
      .guest 0 (.domainCreate 2 false), .guest 2 (.p2mAllocate 0)]
      (Hypervisor.new ⟨3, 1, 1, 1, 1, 1, 0⟩)
    let t := Transition.guest 1 (.grantAccess 0 2 0 false)
    Channels.full.authorized hv 1 2 = false ∧
      surface (Hypervisor.apply t hv).2 2 (fun _ _ => false) = surface hv 2 fun _ _ => false :=
  ⟨by decide +kernel, local_respect ⟨3, 1, 1, 1, 1, 1, 0⟩ _ ⟨_, rfl⟩ (by decide) (by decide)
    (by decide) 2 (by decide +kernel) _ (by decide +kernel) _⟩

/-- Domain `0` grants its frame to domain `1` through the first of `k + 1` entries. -/
def lent (k : Nat) : Hypervisor where
  credit := [Credit.HvCore.new, Credit.HvCore.new]
  evtchn := ⟨[[.FREE], [.FREE]]⟩
  grant := ⟨[.access ⟨1, 0, false, 0, 0⟩ :: List.replicate k .free,
    .free :: List.replicate k .free], []⟩
  sched := Sched.System.new 2 1 1
  p2m := ⟨[.allocated ⟨0, 0, 0, 0, 0, .l1, false⟩], [], 2⟩
  device := Device.System.new 2 0
  life := [.live, .live]
  mayCreate := [true, false]
  controls := [[.absent, .root], [.absent, .absent]]

/-- Domain `1` has mapped the frame. -/
def lentAndMapped (k : Nat) : Hypervisor :=
  { lent k with
    grant := ⟨[.access ⟨1, 0, false, 1, 1⟩ :: List.replicate k .free,
      .free :: List.replicate k .free], [⟨true, 1, 0, 0, 0, true⟩]⟩
    p2m := ⟨[.allocated ⟨0, 1, 1, 0, 0, .l1, false⟩], [], 2⟩ }

theorem lent_reachable (k : Nat) : Reachable ⟨2, 1, k + 1, 1, 1, 1, 0⟩ (lent k) :=
  ⟨[.guest 0 (.domainCreate 1 false), .guest 0 (.p2mAllocate 0),
    .guest 0 (.grantAccess 0 1 0 false)], rfl⟩

theorem lent_map (k : Nat) :
    (Hypervisor.apply (.guest 1 (.grantMap 0 0 true)) (lent k)).2 = lentAndMapped k := rfl

/-- A loop over `2 ^ 32` entries visits none. -/
theorem grefs_wrapped {k : Nat} (wraps : k + 1 = 2 ^ 32) {row rest : List Grant.GrantEntry}
    {e : Grant.GrantEntry} {maps : List Mapping} (full : row = List.replicate k .free) :
    Grant.System.grefs ⟨[e :: row, rest], maps⟩ 0 = [] := by
  have count : Grant.System.entryCount ⟨[e :: row, rest], maps⟩ 0 = k + 1 := by
    show (e :: row).length = k + 1
    rw [full, List.length_cons, List.length_replicate]
  rw [Grant.System.grefs, count, wraps]
  rfl

theorem lent_unauthorized {k : Nat} (wraps : k + 1 = 2 ^ 32) :
    Channels.full.authorized (lent k) 1 0 = false := by
  have grants : ∀ d, aGrantsTo (lent k) 0 d = false := by
    intro d
    unfold aGrantsTo
    rw [show (lent k).grant.grefs 0 = [] from grefs_wrapped wraps rfl]
    rfl
  have ports : aPortToward (lent k) 0 1 = false := rfl
  have control : (lent k).holdsControl 1 0 = false := rfl
  have create : (lent k).mayCreateOf 1 = false := rfl
  have reach : teardownReachTo (lent k) 1 0 = false := by
    unfold teardownReachTo
    simp only [grants]
    rfl
  have borrow : teardownBorrowFrom (lent k) 1 0 = false := rfl
  simp only [Channels.authorized, grants, ports, control, create, reach, borrow]
  rfl

/-- The surfaces differ in the counters of the frame. -/
theorem surface_lent {k : Nat} (wraps : k + 1 = 2 ^ 32) (linked : Mfn → DomId → Bool) :
    surface (lent k) 0 linked ≠ surface (lentAndMapped k) 0 linked := by
  intro same
  have visited : (lent k).grant.grefs 0 = [] := grefs_wrapped wraps rfl
  have visited' : (lentAndMapped k).grant.grefs 0 = [] := grefs_wrapped wraps rfl
  have table : edges (lent k) 0 = [] := List.mergeSort_nil
  have table' : edges (lentAndMapped k) 0 = [] := List.mergeSort_nil
  have frames : (lent k).p2m.mfns.flatMap (frameWords (lent k) 0) = [1, 0, 0, 0, 0, 0, 0, 0] := rfl
  have frames' : (lentAndMapped k).p2m.mfns.flatMap (frameWords (lentAndMapped k) 0) =
      [1, 0, 1, 1, 0, 0, 1, 0] := rfl
  -- Everything else is the same.
  have alive : [((lentAndMapped k).isLive 0).toNat, ((lentAndMapped k).balance 0).getD 0, 0xD0000] =
    [((lent k).isLive 0).toNat, ((lent k).balance 0).getD 0, 0xD0000] := rfl
  have ports : ((lentAndMapped k).evtchn.ports 0).flatMap (portWords (lentAndMapped k) 0) =
      ((lent k).evtchn.ports 0).flatMap (portWords (lent k) 0) := rfl
  have held : (Words.range32 ((lentAndMapped k).grant.handleSlots 0)).flatMap
        (fun handle => heldWords (lentAndMapped k) 0 handle.toNat) =
      (Words.range32 ((lent k).grant.handleSlots 0)).flatMap
        fun handle => heldWords (lent k) 0 handle.toNat := rfl
  have cpus : ((lentAndMapped k).sched.vcpus 0).flatMap (vcpuWords (lentAndMapped k) 0) =
      ((lent k).sched.vcpus 0).flatMap (vcpuWords (lent k) 0) := rfl
  simp only [surface, visited, visited', table, table', frames, frames', alive, ports, held, cpus,
    List.append_assoc, List.append_cancel_left_eq] at same
  simp at same

/-- With `2 ^ 32` grant entries the loop that looks for a grant visits none, and a domain
moves the reference counts of another's frame without an authorized channel. -/
theorem local_respect_wrapped : ∃ hv : Hypervisor,
    Reachable ⟨2, 1, 2 ^ 32, 1, 1, 1, 0⟩ hv ∧ Channels.full.authorized hv 1 0 = false ∧
      ∀ linked, surface hv 0 linked ≠
        surface (Hypervisor.apply (.guest 1 (.grantMap 0 0 true)) hv).2 0 linked := by
  obtain ⟨k, wraps⟩ : ∃ k, k + 1 = 2 ^ 32 := ⟨2 ^ 32 - 1, by decide⟩
  rw [← wraps]
  refine ⟨lent k, lent_reachable k, lent_unauthorized wraps, fun linked => ?_⟩
  rw [lent_map]
  exact surface_lent wraps linked

end Baleen.Noninterference
