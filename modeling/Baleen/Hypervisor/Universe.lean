import Baleen.Hypervisor.AlikeCalls
import Baleen.Hypervisor.Delegation

/-!
# What a configuration fixes

The sizes of all tables, and the domain counts that subsystems keep of their own.  Two
runs of one configuration therefore never differ in them.
-/

namespace Baleen.Hypervisor

variable {hv hv' : Hypervisor} {actor : DomId} {c : Config}

structure SameUniverse (hv hv' : Hypervisor) : Prop where
  mayCreate : hv'.mayCreate.length = hv.mayCreate.length
  frameDomains : hv'.p2m.numDomains = hv.p2m.numDomains
  deviceDomains : hv'.device.numDomains = hv.device.numDomains
  deviceCount : hv'.device.deviceCount = hv.device.deviceCount

theorem SameUniverse.refl (hv : Hypervisor) : SameUniverse hv hv := ⟨rfl, rfl, rfl, rfl⟩

theorem SameUniverse.trans {hv'' : Hypervisor} (first : SameUniverse hv hv')
    (second : SameUniverse hv' hv'') : SameUniverse hv hv'' where
  mayCreate := second.mayCreate.trans first.mayCreate
  frameDomains := second.frameDomains.trans first.frameDomains
  deviceDomains := second.deviceDomains.trans first.deviceDomains
  deviceCount := second.deviceCount.trans first.deviceCount

theorem Signalled.sameUniverse (signalled : Signalled actor hv hv') : SameUniverse hv hv' := by
  obtain @⟨target, s', -, -⟩ := signalled
  rcases wakeIfDeliverable_cases { hv with evtchn := s' } target.1 target.2 with
    ⟨same, -⟩ | ⟨vcpu, c, k', -, -, -, -, woken⟩
  · rw [same]
    exact ⟨rfl, rfl, rfl, rfl⟩
  · rw [woken]
    exact ⟨rfl, rfl, rfl, rfl⟩

theorem setHolder_sameUniverse (hv : Hypervisor) (dev : Device.DevId) (holder : Option DomId) :
    SameUniverse hv { hv with device := hv.device.setHolder dev holder } := by
  refine ⟨rfl, rfl, rfl, ?_⟩
  simp [Device.System.setHolder, Device.System.deviceCount]

theorem teardown_sameUniverse (hv : Hypervisor) (target : DomId) (now : Ticks) :
    SameUniverse hv (hv.teardown target now).2 := by
  constructor
  · rw [teardown_mayCreate, List.length_set]
  · exact (teardown_keepsLevels target now hv).numDomains
  · rw [teardown_device]
    rfl
  · rw [teardown_device]
    simp [Device.System.releaseAllOf, Device.System.deviceCount]

theorem Effect.sameUniverse (effect : Effect actor hv hv') : SameUniverse hv hv' := by
  cases effect with
  | signal signalled => exact signalled.sameUniverse
  | unmap _ _ kept _ _ => exact ⟨rfl, kept.numDomains, rfl, rfl⟩
  | link linked _ _ _ => exact ⟨rfl, linked.kept.numDomains, rfl, rfl⟩
  | unlink _ unlinked _ _ => exact ⟨rfl, unlinked.kept.numDomains, rfl, rfl⟩
  | create _ _ _ => exact ⟨List.length_set, rfl, rfl, rfl⟩
  | destroy _ _ => exact teardown_sameUniverse ..
  | assign _ _ _ _ => exact setHolder_sameUniverse ..
  | release _ _ _ => exact setHolder_sameUniverse ..
  | _ => exact ⟨rfl, rfl, rfl, rfl⟩

theorem Rejected.sameUniverse (rejected : Rejected hv hv') : SameUniverse hv hv' := by
  rw [rejected.others]
  exact ⟨rfl, rejected.frames.numDomains, rfl, rfl⟩

theorem Reachable.sameUniverse (reachable : Reachable c hv) : SameUniverse (new c) hv := by
  refine reachable.preserved (.refl _) ?_ fun same rejected => same.trans rejected.sameUniverse
  rintro t hv hv' - same (⟨-, -, effect⟩ | signalled)
  · exact same.trans effect.sameUniverse
  · exact same.trans signalled.sameUniverse

/-- Devices are held by domains that exist. -/
structure Known (hv : Hypervisor) : Prop where
  inside : ∀ {dev : Nat} {d : DomId},
    hv.device.holders[dev]? = some (some d) → d.toNat < hv.domainCount

theorem Signalled.device (signalled : Signalled actor hv hv') : hv'.device = hv.device := by
  obtain @⟨target, s', -, -⟩ := signalled
  rcases wakeIfDeliverable_cases { hv with evtchn := s' } target.1 target.2 with
    ⟨same, -⟩ | ⟨vcpu, c, k', -, -, -, -, woken⟩
  · rw [same]
  · rw [woken]

theorem Known.effect (known : Known hv) (regular : Regular hv) (effect : Effect actor hv hv') :
    Known hv' := by
  have count := (effect.sameShape regular).domainCount
  constructor
  intro dev d held
  rw [count]
  cases effect with
  | signal signalled => exact known.inside (signalled.device ▸ held)
  | destroy _ _ =>
      rw [teardown_device, Device.System.releaseAllOf] at held
      simp only [List.getElem?_map, Option.map_eq_some_iff] at held
      obtain ⟨slot, stored, kept⟩ := held
      split_ifs at kept
      exact known.inside (kept ▸ stored)
  | assign inside _ _ _ =>
      have held : (hv.device.holders.set _ _)[dev]? = some (some d) := held
      rw [List.getElem?_set] at held
      split_ifs at held
      · obtain rfl := Option.some.inj (Option.some.inj held)
        exact inside
      · exact known.inside held
  | release _ _ _ =>
      have held : (hv.device.holders.set _ _)[dev]? = some (some d) := held
      rw [List.getElem?_set] at held
      split_ifs at held
      · cases held
      · exact known.inside held
  | _ => exact known.inside held

theorem Reachable.known (reachable : Reachable c hv) : Known hv := by
  refine reachable.preserved ?_ ?_ ?_
  · constructor
    intro dev d held
    have empty : (List.replicate c.numDevices (none : Option DomId))[dev]? = some (some d) := held
    rw [List.getElem?_replicate] at empty
    split_ifs at empty
    cases empty
  · rintro t hv hv' regular known (⟨-, -, effect⟩ | signalled)
    · exact known.effect regular effect
    · constructor
      intro dev d held
      rw [signalled.sameShape.domainCount]
      exact known.inside (signalled.device ▸ held)
  · intro hv hv' known rejected
    constructor
    intro dev d held
    rw [rejected.others] at held ⊢
    exact known.inside held

/-- Whoever holds a device is live. -/
theorem Reachable.holder_alive (reachable : Reachable c hv) (ports : c.portsPerDomain ≤ 2 ^ 32)
    {dev : Device.DevId} {d : DomId} (held : hv.device.holderOf dev = some d) :
    d.toNat < hv.domainCount ∧ hv.isLive d = true := by
  have held : hv.device.holders[dev.toNat]? = some (some d) := by
    unfold Device.System.holderOf at held
    cases found : hv.device.holders[dev.toNat]? with
    | none =>
        rw [found] at held
        cases held
    | some slot =>
        rw [found] at held
        exact congrArg some held
  have inside := reachable.known.inside held
  exact ⟨inside, reachable.alive_of_not_dead inside fun dead =>
    ((reachable.tidy ports).shells dead).devices dev.toNat held⟩

/-- The identifiers can name everything: every loop over them visits all. -/
structure Addressable (c : Config) : Prop where
  domains : c.numDomains < 2 ^ 16
  ports : c.portsPerDomain < 2 ^ 32
  grants : c.grantsPerDomain < 2 ^ 32
  vcpus : c.vcpusPerDomain < 2 ^ 32
  pcpus : c.numPcpus < 2 ^ 32
  frames : c.numFrames < 2 ^ 32

section Sizes

variable (reachable : Reachable c hv)

include reachable

theorem portCount_eq (d : DomId) :
    hv.evtchn.portCount d = if d.toNat < c.numDomains then c.portsPerDomain else 0 := by
  rw [reachable.sameShape.ports.portCount]
  exact Grid.width_fill ..

theorem entryCount_eq (d : DomId) :
    hv.grant.entryCount d = if d.toNat < c.numDomains then c.grantsPerDomain else 0 := by
  rw [reachable.sameShape.grants.entryCount]
  exact Grid.width_fill ..

theorem vcpuCount_eq (d : DomId) :
    hv.sched.vcpuCount d = if d.toNat < c.numDomains then c.vcpusPerDomain else 0 := by
  rw [reachable.sameShape.vcpus.vcpuCount]
  exact Grid.width_fill ..

theorem rows_eq : hv.evtchn.domainCount = c.numDomains ∧ hv.grant.domainCount = c.numDomains ∧
    hv.sched.domainCount = c.numDomains := by
  have shape := reachable.sameShape
  refine ⟨?_, ?_, ?_⟩
  · rw [shape.ports.domainCount]
    exact Grid.length_fill ..
  · rw [shape.grants.domainCount]
    exact Grid.length_fill ..
  · rw [shape.vcpus.domainCount]
    exact Grid.length_fill ..

theorem pcpus_length : hv.sched.pcpus.length = c.numPcpus := by
  rw [reachable.sameShape.vcpus.pcpus]
  exact List.length_replicate

theorem frameCount_eq : hv.p2m.frameCount = c.numFrames := by
  rw [reachable.sameShape.frameCount]
  exact List.length_replicate

theorem life_length : hv.life.length = c.numDomains := by
  rw [reachable.sameShape.life]
  simp [new]

theorem mayCreate_length : hv.mayCreate.length = c.numDomains := by
  rw [reachable.sameUniverse.mayCreate]
  simp [new]

theorem deviceCount_eq : hv.device.deviceCount = c.numDevices := by
  rw [reachable.sameUniverse.deviceCount]
  exact List.length_replicate

theorem numbered (addressable : Addressable c) : Numbered hv := by
  refine ⟨?_, fun d => ?_, ?_⟩
  · rw [(rows_eq reachable).2.1]
    exact addressable.domains
  · rw [entryCount_eq reachable]
    split_ifs
    · exact addressable.grants
    · exact Nat.two_pow_pos 32
  · rw [frameCount_eq reachable]
    exact addressable.frames

end Sizes

/-- A transition that leaves credit alone does the same on two reachable states that are
alike, and leaves them alike. -/
theorem Alike.step {s t : Hypervisor} (alike : Alike s t) (addressable : Addressable c)
    (here : Reachable c s) (there : Reachable c t) {tr : Transition}
    (uncounted : tr.isCredit = false) : Op.Agree Alike Alike (apply tr s) (apply tr t) :=
  alike.apply_agree here.regular there.regular (numbered here addressable) uncounted

end Baleen.Hypervisor
