import Baleen.Hypervisor.Shells

/-!
# Every step keeps dead slots empty

The invariant of `Tidy` over all effects, teardown included, and over whole runs.
-/

namespace Baleen.Hypervisor

open Evtchn (Port EventChannel PortState)
open Evtchn.System (Vacant)
open Grant (GrantRef Mapping Access)
open P2m (Mfn)

variable {hv hv' : Hypervisor} {actor d : DomId}

namespace Tidy

theorem openPort (tidy : Tidy hv) (alive : hv.isLive actor = true) {port : Port}
    {c : EventChannel} {state : PortState} (free : hv.evtchn.findFree actor = .ok port)
    (found : hv.evtchn.chan? actor port = some c) (opens : Opens hv actor state) :
    Tidy { hv with evtchn := hv.evtchn.setChan actor port { c with state := state } } := by
  have idle : c.state = .free := by
    obtain ⟨c', found', idle⟩ := Evtchn.System.findFree_free tidy.bounded free
    rw [found] at found'
    cases found'
    exact idle
  obtain ⟨silent, -⟩ := tidy.ports.quiet found idle
  refine tidy.setPort found ?_ ?_ ?_
  · refine tidy.ports.rewrite found ?_ ?_ ?_ ?_ ?_
    · intro r q
      simp [idle]
    · rintro r q ⟨⟩
      cases opens
    · rintro ⟨⟩
      cases opens
    · rintro r ⟨⟩
      cases opens with
      | unbound known _ => exact known
    · rintro v i ⟨⟩
      cases opens with
      | virq _ unbound => exact unbound
  · intro waits
    simp [EventChannel.waits, silent] at waits
  · intro d dead _
    refine ⟨fun same => absurd same.symm (ne_of_dead alive dead), ?_⟩
    rintro - ⟨⟩
    cases opens with
    | unbound _ living => exact living dead

theorem connect (tidy : Tidy hv) (alive : hv.isLive actor = true) {port remotePort : Port}
    {remote : DomId} {peer : EventChannel} (free : hv.evtchn.findFree actor = .ok port)
    (found : hv.evtchn.chan? remote remotePort = some peer)
    (awaits : peer.state = .unbound actor) :
    Tidy { hv with
      evtchn :=
        (hv.evtchn.setChan actor port ⟨.interdomain remote remotePort, false, false⟩).setChan
          remote remotePort ⟨.interdomain actor port, false, false⟩ } := by
  obtain ⟨c, here, idle⟩ := Evtchn.System.findFree_free tidy.bounded free
  have read := Evtchn.System.chan?_connect here idle found awaits
  have sizes := (Evtchn.System.SameSizes.setChan hv.evtchn actor port
    ⟨.interdomain remote remotePort, false, false⟩).trans
      (.setChan _ remote remotePort ⟨.interdomain actor port, false, false⟩)
  refine tidy.rewire (tidy.ports.connect here idle found awaits) sizes
    (tidy.awake.quieter sizes ?_ id) ?_
  · intro d p x after waits
    rw [read] at after
    split_ifs at after
    · cases after
      cases waits
    · cases after
      cases waits
    · exact ⟨x, after, rfl, waits⟩
  · intro d dead old
    refine old.rewired sizes fun e p => ?_
    rw [read]
    split_ifs with atRemote atActor
    · obtain ⟨rfl, rfl⟩ := atRemote
      refine .inr ⟨_, rfl, fun member => ⟨?_, fun _ => by simp⟩⟩
      rintro rfl
      have freed := tidy.port_free dead found member
      rw [awaits] at freed
      cases freed
    · obtain ⟨rfl, rfl⟩ := atActor
      exact .inr ⟨_, rfl, fun _ => ⟨fun same => absurd same.symm (ne_of_dead alive dead),
        fun _ => by simp⟩⟩
    · exact .inl rfl

theorem closePort (tidy : Tidy hv) (alive : hv.isLive actor = true) {port : Port}
    {c : EventChannel} (found : hv.evtchn.chan? actor port = some c) :
    Tidy { hv with evtchn := (hv.evtchn.disconnect actor c).setChan actor port .FREE } := by
  have known : actor.toNat < hv.evtchn.domainCount := Grid.lt_length_of_get? found
  have read := Evtchn.System.chan?_close tidy.ports found
  have sizes := ((Evtchn.System.Closed.refl tidy.ports actor).close found known).sizes
  refine tidy.rewire (tidy.ports.close found known) sizes (tidy.awake.quieter sizes ?_ id) ?_
  · intro d p x after waits
    rw [read] at after
    split_ifs at after
    · cases after
      cases waits
    · cases after
      cases waits
    · exact ⟨x, after, rfl, waits⟩
  · intro d dead old
    refine old.rewired sizes fun e p => ?_
    rw [read]
    split_ifs with closed peer
    · exact .inr ⟨_, rfl, fun _ => ⟨fun _ => rfl, fun _ => by simp [EventChannel.FREE]⟩⟩
    · obtain ⟨z, present, back⟩ := tidy.ports.reciprocal found peer
      refine .inr ⟨_, rfl, fun member => ⟨?_, fun _ => ?_⟩⟩
      · rintro rfl
        have freed := tidy.port_free dead present member
        rw [back] at freed
        cases freed
      · simpa using (ne_of_dead alive dead).symm
    · exact .inl rfl

theorem mark (tidy : Tidy hv) {port : Port} {c c' : EventChannel}
    (found : hv.evtchn.chan? actor port = some c) (busy : c.state ≠ .free)
    (same : c'.state = c.state) (quieter : c'.waits = true → c.waits = true) :
    Tidy { hv with evtchn := hv.evtchn.setChan actor port c' } := by
  refine tidy.setPort found (tidy.ports.remark found same busy)
    (fun waits => ⟨same.symm, quieter waits⟩) ?_
  intro d dead member
  rw [same]
  refine ⟨?_, fun known awaits => ?_⟩
  · rintro rfl
    exact tidy.port_free dead found member
  · have unawaited := (tidy.shells dead).events.unawaited actor known port member
    rw [Evtchn.System.stateOf, found, Option.map_some, awaits] at unawaited
    exact unawaited rfl

theorem grantAccess (tidy : Tidy hv) (alive : hv.isLive actor = true) {gref : GrantRef}
    {grantee : DomId} {frame : Mfn} {readonly : Bool} (living : hv.lifeOf grantee ≠ some .dead)
    (free : hv.grant.entryAt actor gref = some .free) :
    Tidy { hv with
      grant := hv.grant.setEntry actor gref (.access ⟨grantee, frame, readonly, 0, 0⟩) } := by
  have read := Grant.System.grantEntry_setEntry free
  refine tidy.remap fun {d} dead bare =>
    bare.less (.setEntry ..) rfl ?_ (fun isLive _ => isLive) ?_ id
  · intro r a active
    rw [read, if_neg fun here => ne_of_dead alive dead here.1.symm] at active
    simp [active]
  · intro e r a active mine
    rw [read] at active
    split_ifs at active
    · cases active
      exact absurd dead (mine ▸ living)
    · exact ⟨a, active, mine⟩

theorem endAccess (tidy : Tidy hv) {gref : GrantRef} {a : Access}
    (active : hv.grant.grantEntry actor gref = some a) :
    Tidy { hv with grant := hv.grant.setEntry actor gref .free } := by
  have read := Grant.System.grantEntry_setEntry (Grant.System.grantEntry_eq_some.mp active)
  have before : ∀ {e r b}, (hv.grant.setEntry actor gref .free).grantEntry e r = some b →
      hv.grant.grantEntry e r = some b := by
    intro e r b after
    rw [read] at after
    split_ifs at after
    exact after
  refine tidy.remap fun {d} _ bare => bare.less (.setEntry ..) rfl ?_ (fun isLive _ => isLive) ?_ id
  · intro r b after
    simp [before after]
  · intro e r b after mine
    exact ⟨b, before after, mine⟩

/-- Mapping and unmapping keep the terms of every entry. -/
theorem sameTerms_bare {g g' : Grant.System} {p p' : P2m.System} (bare : Bare g p d)
    (terms : Grant.System.SameTerms g g') (sizes : Grant.System.SameSizes g g')
    (mappings : ∀ {m : Mapping}, m ∈ g'.live → m.grantee = d → m ∈ g.live)
    (frameCount : p'.frameCount = p.frameCount) (owners : ∀ m, p'.ownerOf m = p.ownerOf m) :
    Bare g' p' d := by
  have before : ∀ {e r a}, g'.grantEntry e r = some a →
      ∃ b, g.grantEntry e r = some b ∧ b.grantee = a.grantee := by
    intro e r a active
    have same := terms e r
    rw [active, Option.map_some, eq_comm, Option.map_eq_some_iff] at same
    obtain ⟨b, active', equal⟩ := same
    exact ⟨b, active', congrArg Prod.fst equal⟩
  refine bare.less sizes frameCount ?_ mappings ?_ fun {m} mine => (owners m).symm.trans mine
  · intro r a active
    obtain ⟨b, active', -⟩ := before active
    simp [active']
  · intro e r a active mine
    obtain ⟨b, active', same⟩ := before active
    exact ⟨b, active', same.trans mine⟩

/-- A frame changes hands only between the actor and the free pool. -/
theorem frame (tidy : Tidy hv) (alive : hv.isLive actor = true) {m : Mfn} {f : P2m.Frame}
    (after : ∀ {i}, P2m.System.infoOf f = some i → i.owner = actor) :
    Tidy { hv with p2m := hv.p2m.setFrame m f } := by
  refine tidy.remap fun {d} dead bare =>
    bare.less (.refl _) (by simp) (fun active => by simp [active])
    (fun isLive _ => isLive) (fun active mine => ⟨_, active, mine⟩) ?_
  intro m' mine
  obtain ⟨i, known, owner⟩ := P2m.System.ownerOf_eq_some.mp mine
  rw [P2m.System.info_setFrame] at known
  split_ifs at known with here
  · obtain ⟨_, _, fresh⟩ := Option.bind_eq_some_iff.mp known
    exact absurd (owner.symm.trans (after fresh)) (ne_of_dead alive dead)
  · exact P2m.System.ownerOf_eq_some.mpr ⟨i, known, owner⟩

/-- A change that keeps the grants and the owners. -/
theorem relink (tidy : Tidy hv) {touched : Mfn → Prop} {p' : P2m.System}
    (kept : P2m.System.Kept touched hv.p2m p') : Tidy { hv with p2m := p' } := by
  refine tidy.remap fun {d} _ bare => bare.less (.refl _) kept.frameCount
    (fun active => by simp [active]) (fun isLive _ => isLive)
    (fun active mine => ⟨_, active, mine⟩) ?_
  intro m mine
  rw [← kept.owner]
  exact mine

theorem create (tidy : Tidy hv) {creator target : DomId} {mayCreate : Bool} :
    Tidy (setControl { hv with
      life := hv.life.set target.toNat .live
      mayCreate := hv.mayCreate.set target.toNat mayCreate } creator target .root) where
  domains := tidy.domains
  bounded := tidy.bounded
  ports := tidy.ports
  awake := tidy.awake
  shells := by
    intro d dead
    have dead : (hv.life.set target.toNat .live)[d.toNat]? = some .dead := dead
    rw [List.getElem?_set] at dead
    split_ifs at dead with here
    · cases dead
    · have shell := tidy.shells dead
      refine ⟨shell.events, shell.vcpus, shell.memory, shell.devices, ?_⟩
      have kept : (hv.mayCreate.set target.toNat mayCreate)[d.toNat]? = hv.mayCreate[d.toNat]? :=
        List.getElem?_set_ne here
      exact (congrArg (·.getD false) kept).trans shell.mayCreate
  credit := tidy.credit

theorem setHolder (tidy : Tidy hv) {dev : Device.DevId} {holder : Option DomId}
    (living : ∀ {d}, holder = some d → hv.lifeOf d ≠ some .dead) :
    Tidy { hv with device := hv.device.setHolder dev holder } where
  domains := tidy.domains
  bounded := tidy.bounded
  ports := tidy.ports
  awake := tidy.awake
  shells := by
    intro d dead
    have shell := tidy.shells dead
    refine ⟨shell.events, shell.vcpus, shell.memory, ?_, shell.mayCreate⟩
    intro i held
    have held : (hv.device.holders.set dev.toNat holder)[i]? = some (some d) := held
    rw [List.getElem?_set] at held
    split_ifs at held
    · exact living (Option.some.inj held) dead
    · exact shell.devices i held
  credit := tidy.credit

end Tidy

/-- What a teardown does to the port tables. -/
structure PortsReclaimed (target : DomId) (s s' : Evtchn.System) : Prop where
  consistent : s'.Consistent
  sizes : Evtchn.System.SameSizes s s'
  vacant : Vacant s' target
  ports : ∀ e p, s'.chan? e p = s.chan? e p ∨
    (s'.chan? e p = some .FREE ∧ (e = target ∨ ∃ c, s.chan? e p = some c ∧
      (c.state = .unbound target ∨ ∃ q, c.state = .interdomain target q))) ∨
    (s'.chan? e p = some ⟨.unbound target, false, false⟩ ∧
      ∃ c q, s.chan? e p = some c ∧ c.state = .interdomain target q)

theorem teardown_ports (consistent : hv.evtchn.Consistent) {target : DomId}
    (known : target.toNat < hv.evtchn.domainCount) (now : Ticks) :
    (∀ r ∈ (hv.teardown target now).1.closes, r = .ok ()) ∧
      PortsReclaimed target hv.evtchn (hv.teardown target now).2.evtchn := by
  obtain ⟨closes, closed, freed⟩ := Evtchn.System.closeAll_spec consistent known
  obtain ⟨cleared, unawaited⟩ := Evtchn.System.clearUnboundInto_spec closed.consistent target
  have log : (hv.teardown target now).1.closes = (Evtchn.System.closeAll target hv.evtchn).1 := by
    simp only [teardown]
  rw [log, teardown_evtchn]
  refine ⟨closes, cleared.consistent, closed.sizes.trans cleared.sizes, ⟨?_, ?_⟩, ?_⟩
  · intro p member
    rw [cleared.sizes.ports, closed.sizes.ports] at member
    have inside : p.toNat < hv.evtchn.portCount target :=
      lt_of_lt_of_le (Words.mem_range32.mp member) (Nat.mod_le _ _)
    rw [← closed.sizes.portCount] at inside
    obtain ⟨c, present⟩ := Grid.exists_get? inside
    have free := freed p member c present
    rcases cleared.ports target p with same | ⟨-, after⟩
    · rw [Evtchn.System.stateOf, same]
      exact Evtchn.System.stateOf_eq_some.mpr ⟨c, present, free⟩
    · rw [Evtchn.System.stateOf, after]
      rfl
  · intro e known' p member
    rw [cleared.sizes.domainCount] at known'
    rw [cleared.sizes.ports] at member
    exact unawaited e known' p member
  · intro e p
    rcases cleared.ports e p with same | ⟨awaits, free⟩
    · rw [same]
      rcases closed.ports e p with same' | ⟨mine, free⟩ | ⟨c, q, found, state, after⟩
      · exact .inl same'
      · exact .inr (.inl ⟨free, .inl mine⟩)
      · exact .inr (.inr ⟨after, c, q, found, state⟩)
    · refine .inr (.inl ⟨free, ?_⟩)
      obtain ⟨x, present, state⟩ := Evtchn.System.stateOf_eq_some.mp awaits
      rcases closed.ports e p with same' | ⟨mine, -⟩ | ⟨c, q, found, state', -⟩
      · rw [same'] at present
        exact .inr ⟨x, present, .inl state⟩
      · exact .inl mine
      · exact .inr ⟨c, found, .inr ⟨q, state'⟩⟩

theorem Reclaimed.bare {g g' : Grant.System} {p p' : P2m.System} {target : DomId}
    (reclaimed : Reclaimed target g p g' p') : Bare g' p' target where
  grants r member := reclaimed.offers r (reclaimed.sizes.grefs target ▸ member)
  mappings m isLive mine := ((reclaimed.mappings m).mp isLive).2 (.inr mine)
  inbound slot member := reclaimed.inbound slot (reclaimed.sizes.allRefs ▸ member)
  frames m member :=
    reclaimed.freed m (P2m.System.mfns_of_frameCount reclaimed.frameCount ▸ member)

theorem Reclaimed.keeps_bare {g g' : Grant.System} {p p' : P2m.System} {target : DomId}
    (reclaimed : Reclaimed target g p g' p') (bare : Bare g p d) : Bare g' p' d := by
  refine bare.less reclaimed.sizes reclaimed.frameCount ?_ ?_ ?_ ?_
  · intro r a active
    obtain ⟨b, before, -⟩ := reclaimed.withdrawn active
    simp [before]
  · exact fun isLive _ => ((reclaimed.mappings _).mp isLive).1
  · intro e r a active mine
    obtain ⟨b, before, terms⟩ := reclaimed.withdrawn active
    exact ⟨b, before, (congrArg Prod.fst terms).trans mine⟩
  · exact fun mine => reclaimed.lost _ _ mine

theorem teardown_unassigned {target d : DomId} (now : Ticks) {dev : Nat}
    (before : hv.device.holders[dev]? ≠ some (some d) ∨ d = target) :
    (hv.teardown target now).2.device.holders[dev]? ≠ some (some d) := by
  intro held
  rw [teardown_device, Device.System.releaseAllOf, List.getElem?_map,
    Option.map_eq_some_iff] at held
  obtain ⟨slot, present, kept⟩ := held
  split_ifs at kept with mine
  subst kept
  rcases before with absent | rfl
  · exact absent present
  · exact mine rfl

section Teardown

variable (tidy : Tidy hv) (regular : Regular hv) {target : DomId}
  (inside : target.toNat < hv.domainCount) (now : Ticks)
include tidy regular inside

/-- Ports are freed or half open, and vCPUs go offline: nothing that waits finds a vCPU blocked. -/
theorem Tidy.teardown_awake :
    Awake (hv.teardown target now).2.evtchn (hv.teardown target now).2.sched := by
  obtain ⟨-, ports⟩ := teardown_ports tidy.ports (tidy.domains ▸ inside) now
  obtain ⟨-, offlined, -⟩ := Sched.System.offlineAll_spec regular.sched target now
  rw [← teardown_sched] at offlined
  refine tidy.awake.quieter ports.sizes ?_ ?_
  · intro e p c after waits
    rcases ports.ports e p with same | ⟨free, -⟩ | ⟨halfOpen, -⟩
    · exact ⟨c, same ▸ after, rfl, waits⟩
    · rw [free] at after
      cases after
      cases waits
    · rw [halfOpen] at after
      cases after
      cases waits
  · intro e v blocked
    by_cases mine : e = target
    · subst mine
      rcases offlined.states v with same | off
      · exact same ▸ blocked
      · rw [off] at blocked
        cases blocked
    · rw [Sched.System.stateOf, ← offlined.others e v mine]
      exact blocked

/-- The domain that is torn down is a shell. -/
theorem Tidy.teardown_shell : Shell (hv.teardown target now).2 target := by
  obtain ⟨-, ports⟩ := teardown_ports tidy.ports (tidy.domains ▸ inside) now
  obtain ⟨-, reclaimed⟩ := teardown_memory regular.memory target now
  obtain ⟨-, offlined, offline⟩ := Sched.System.offlineAll_spec regular.sched target now
  rw [← teardown_sched] at offlined offline
  refine ⟨ports.vacant, ?_, reclaimed.bare, fun dev => teardown_unassigned now (.inr rfl), ?_⟩
  · intro v member
    rw [offlined.sizes.vcpus] at member
    exact offline v member
  · rw [mayCreateOf, teardown_mayCreate, List.getElem?_set, if_pos rfl]
    split_ifs <;> rfl

/-- Another dead domain stays one. -/
theorem Tidy.teardown_other {d : DomId} (other : d ≠ target) (dead : hv.lifeOf d = some .dead) :
    Shell (hv.teardown target now).2 d := by
  obtain ⟨-, ports⟩ := teardown_ports tidy.ports (tidy.domains ▸ inside) now
  obtain ⟨-, reclaimed⟩ := teardown_memory regular.memory target now
  obtain ⟨-, offlined, -⟩ := Sched.System.offlineAll_spec regular.sched target now
  rw [← teardown_sched] at offlined
  have apart : target.toNat ≠ d.toNat := fun same => other (UInt16.toNat_inj.mp same.symm)
  have shell := tidy.shells dead
  refine ⟨shell.events.rewired ports.sizes ?_, ?_, reclaimed.keeps_bare shell.memory,
    fun dev => teardown_unassigned now (.inl (shell.devices dev)), ?_⟩
  · intro e p
    rcases ports.ports e p with same | ⟨free, -⟩ | ⟨halfOpen, c, q, found, state⟩
    · exact .inl same
    · exact .inr ⟨_, free, fun _ => ⟨fun _ => rfl, fun _ => by simp [EventChannel.FREE]⟩⟩
    · refine .inr ⟨_, halfOpen, fun member => ⟨?_, fun _ => by simpa using Ne.symm other⟩⟩
      rintro rfl
      have freed := tidy.port_free dead found member
      rw [state] at freed
      cases freed
  · intro v member
    rw [offlined.sizes.vcpus] at member
    rw [Sched.System.stateOf, offlined.others d v other]
    exact shell.vcpus v member
  · rw [mayCreateOf, teardown_mayCreate, List.getElem?_set_ne apart]
    exact shell.mayCreate

theorem Tidy.teardown : Tidy (hv.teardown target now).2 := by
  obtain ⟨-, ports⟩ := teardown_ports tidy.ports (tidy.domains ▸ inside) now
  exact {
    domains := by
      rw [ports.sizes.domainCount, tidy.domains, domainCount, domainCount, teardown_credit]
    bounded := tidy.bounded.of_sizes ports.sizes
    ports := ports.consistent
    awake := tidy.teardown_awake regular inside now
    shells := by
      intro d dead
      by_cases mine : d = target
      · subst mine
        exact tidy.teardown_shell regular inside now
      · refine tidy.teardown_other regular inside now mine ?_
        have apart : target.toNat ≠ d.toNat := fun same => mine (UInt16.toNat_inj.mp same.symm)
        rw [lifeOf, teardown_life, List.getElem?_set_ne apart] at dead
        exact dead
    credit := by
      rw [teardown_credit]
      exact tidy.credit }

end Teardown

theorem Tidy.effect (tidy : Tidy hv) (regular : Regular hv)
    (alive : hv.isLive actor = true) (effect : Effect actor hv hv') : Tidy hv' := by
  cases effect with
  | idle => exact tidy
  | @credit c c' found conserved =>
      refine ⟨tidy.domains.trans (by simp [domainCount]), tidy.bounded, tidy.ports, tidy.awake,
        ?_, ?_⟩
      · intro d dead
        have shell := tidy.shells dead
        exact ⟨shell.events, shell.vcpus, shell.memory, shell.devices, shell.mayCreate⟩
      · intro x member
        rcases List.mem_or_eq_of_mem_set member with old | rfl
        · exact tidy.credit x old
        · exact conserved (tidy.credit c (List.mem_of_getElem? found))
  | openPort free found opens => exact tidy.openPort alive free found opens
  | connect free found awaits => exact tidy.connect alive free found awaits
  | closePort found _ => exact tidy.closePort alive found
  | mark found busy same quieter => exact tidy.mark found busy same quieter
  | signal signalled => exact tidy.signalled signalled
  | sched moved permitted awake =>
      refine tidy.reschedule moved awake ?_
      intro dead offline
      rcases permitted with rfl | ⟨-, same⟩
      · exact absurd rfl (ne_of_dead alive dead)
      · exact same.trans offline
  | grantAccess _ living free => exact tidy.grantAccess alive living free
  | endAccess active _ _ => exact tidy.endAccess active
  | map mapped _ holder _ known _ _ =>
      refine tidy.remap fun {d} dead bare => Tidy.sameTerms_bare bare mapped.sameTerms
        ⟨mapped.domainCount, mapped.entryCount⟩ ?_ (by simp) ?_
      · intro m isLive mine
        rcases List.mem_cons.mp (mapped.live_perm.mem_iff.mp isLive) with rfl | old
        · exact absurd (mine.symm.trans holder) (ne_of_dead alive dead)
        · exact old
      · exact fun m => P2m.System.ownerOf_setFrame known (P2m.FrameInfo.bump_owner _ _)
  | unmap released _ kept _ _ =>
      refine tidy.remap fun {d} _ bare => Tidy.sameTerms_bare bare released.sameTerms
        ⟨released.domainCount, released.entryCount⟩ ?_ kept.frameCount kept.owner
      exact fun isLive _ => released.live_perm.mem_iff.mpr (List.mem_cons_of_mem _ isLive)
  | frame _ after _ => exact tidy.frame alive after
  | link linked _ _ _ => exact tidy.relink linked.kept
  | unlink _ unlinked _ _ => exact tidy.relink unlinked.kept
  | create _ _ _ => exact tidy.create
  | destroy inside _ => exact tidy.teardown regular inside _
  | delegate _ _ _ _ _ _ =>
      refine ⟨tidy.domains, tidy.bounded, tidy.ports, tidy.awake, fun {d} dead => ?_, tidy.credit⟩
      have shell := tidy.shells dead
      exact ⟨shell.events, shell.vcpus, shell.memory, shell.devices, shell.mayCreate⟩
  | revoke _ _ _ _ =>
      refine ⟨tidy.domains, tidy.bounded, tidy.ports, tidy.awake, fun {d} dead => ?_, tidy.credit⟩
      have shell := tidy.shells dead
      exact ⟨shell.events, shell.vcpus, shell.memory, shell.devices, shell.mayCreate⟩
  | assign _ _ living _ =>
      refine tidy.setHolder ?_
      rintro d ⟨⟩
      exact living
  | release _ _ _ =>
      refine tidy.setHolder ?_
      rintro d ⟨⟩

theorem Rejected.tidy (rejected : Rejected hv hv') (tidy : Tidy hv) : Tidy hv' := by
  rw [rejected.others]
  have entries : ∀ e r, hv'.grant.grantEntry e r = hv.grant.grantEntry e r := by
    intro e r
    unfold Grant.System.grantEntry Grant.System.entryAt
    rw [rejected.entries]
  refine tidy.remap fun {d} _ bare => bare.less ⟨?_, ?_⟩ rejected.frames.frameCount ?_ ?_ ?_ ?_
  · rw [Grant.System.domainCount, rejected.entries]
    rfl
  · intro e
    rw [Grant.System.entryCount, rejected.entries]
    rfl
  · intro r a active
    rw [← entries, active]
    simp
  · intro m isLive _
    rw [← rejected.mappings]
    exact isLive
  · intro e r a active mine
    exact ⟨a, (entries e r).symm.trans active, mine⟩
  · intro m mine
    rw [← rejected.frames.owner]
    exact mine

section New

variable (c : Config)

theorem new_chan? (d : DomId) (p : Port) : (Hypervisor.new c).evtchn.chan? d p =
    if d.toNat < c.numDomains ∧ p.toNat < c.portsPerDomain then some .FREE else none :=
  Grid.get?_fill ..

theorem new_vcpu? (d : DomId) (v : Vcpu) : (Hypervisor.new c).sched.vcpu? d v =
    if d.toNat < c.numDomains ∧ v.toNat < c.vcpusPerDomain then
      some { Sched.VirtualCpu.OFFLINE with affinity := Sched.fullMask c.numPcpus } else none :=
  Grid.get?_fill ..

theorem new_grantEntry (d : DomId) (r : GrantRef) :
    (Hypervisor.new c).grant.grantEntry d r = none := by
  unfold Grant.System.grantEntry Grant.System.entryAt
  simp only [Hypervisor.new, Grant.System.new, Grid.get?_fill]
  split_ifs <;> rfl

theorem new_ownerOf (m : Mfn) : (Hypervisor.new c).p2m.ownerOf m = none := by
  unfold P2m.System.ownerOf P2m.System.info
  simp only [Hypervisor.new, P2m.System.new, List.getElem?_replicate]
  split_ifs <;> rfl

theorem new_shell {d : DomId} (dead : (Hypervisor.new c).lifeOf d = some .dead) :
    Shell (Hypervisor.new c) d := by
  have life : ∃ i, (List.range c.numDomains)[d.toNat]? = some i ∧
      (if i = 0 then DomainLife.live else .dead) = .dead := by
    simpa [lifeOf, Hypervisor.new, List.getElem?_map] using dead
  obtain ⟨i, here, notFirst⟩ := life
  obtain ⟨inside, rfl⟩ : d.toNat < c.numDomains ∧ d.toNat = i := by
    obtain ⟨inside, value⟩ := List.getElem?_eq_some_iff.mp here
    exact ⟨by simpa using inside, by simpa using value⟩
  have notFirst : d.toNat ≠ 0 := fun first => by simp [first] at notFirst
  exact {
    events := by
      constructor
      · intro p member
        have small : p.toNat < c.portsPerDomain := by
          have visited := lt_of_lt_of_le (Words.mem_range32.mp member) (Nat.mod_le _ _)
          simpa [Hypervisor.new, Evtchn.System.portCount, Evtchn.System.new, Grid.width_fill,
            inside] using visited
        rw [Evtchn.System.stateOf, new_chan?, if_pos ⟨inside, small⟩]
        rfl
      · intro e _ p _
        rw [Evtchn.System.stateOf, new_chan?]
        split_ifs <;> simp [EventChannel.FREE]
    vcpus := by
      intro v member
      have small : v.toNat < c.vcpusPerDomain := by
        have visited := lt_of_lt_of_le (Words.mem_range32.mp member) (Nat.mod_le _ _)
        simpa [Hypervisor.new, Sched.System.vcpuCount, Sched.System.new, Grid.width_fill,
          inside] using visited
      rw [Sched.System.stateOf, new_vcpu?, if_pos ⟨inside, small⟩]
      rfl
    memory :=
      { grants := fun r _ => new_grantEntry c d r
        mappings := by simp [Hypervisor.new, Grant.System.new, Grant.System.live]
        inbound := by
          intro slot _
          rw [Grant.System.granteeOf, new_grantEntry]
          simp
        frames := by
          intro m _
          rw [new_ownerOf]
          simp }
    devices := by
      intro dev
      simp only [Hypervisor.new, Device.System.new, List.getElem?_replicate]
      split_ifs <;> simp
    mayCreate := by simp [mayCreateOf, Hypervisor.new, List.getElem?_map, here, notFirst] }

end New

theorem Tidy.new {c : Config} (ports : c.portsPerDomain ≤ 2 ^ 32) : Tidy (Hypervisor.new c) where
  domains := by simp [Hypervisor.new, Evtchn.System.new, Evtchn.System.domainCount, domainCount]
  bounded := by
    intro d
    simp only [Hypervisor.new, Evtchn.System.new, Evtchn.System.portCount, Grid.width_fill]
    split_ifs
    · exact ports
    · exact Nat.zero_le _
  ports := .new ..
  awake := by
    refine ⟨fun {d p c v} _ found waits _ => ?_⟩
    rw [new_chan?] at found
    split_ifs at found
    cases found
    cases waits
  shells := new_shell c
  credit := by
    intro x member
    simp only [Hypervisor.new, List.mem_replicate] at member
    rw [member.2]
    rfl

theorem Reachable.tidy {c : Config} (ports : c.portsPerDomain ≤ 2 ^ 32)
    (reachable : Reachable c hv) : Tidy hv := by
  refine reachable.preserved (Tidy.new ports) ?_ fun tidy rejected => rejected.tidy tidy
  rintro t hv hv' regular tidy (⟨-, alive, effect⟩ | signalled)
  · exact tidy.effect regular alive effect
  · exact tidy.signalled signalled

end Baleen.Hypervisor
