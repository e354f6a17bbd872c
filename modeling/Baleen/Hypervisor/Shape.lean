import Baleen.Hypervisor.Tidy

/-!
# The shape of a hypervisor

Transitions write into tables that were sized when the hypervisor was built; no run
changes the size of a table.
-/

namespace Baleen.Hypervisor

variable {hv hv' hv'' : Hypervisor} {actor : DomId} {c : Config}

structure SameShape (hv hv' : Hypervisor) : Prop where
  domainCount : hv'.domainCount = hv.domainCount
  life : hv'.life.length = hv.life.length
  ports : Evtchn.System.SameSizes hv.evtchn hv'.evtchn
  vcpus : Sched.System.SameSizes hv.sched hv'.sched
  grants : Grant.System.SameSizes hv.grant hv'.grant
  frameCount : hv'.p2m.frameCount = hv.p2m.frameCount

namespace SameShape

theorem refl (hv : Hypervisor) : SameShape hv hv := ⟨rfl, rfl, .refl _, .refl _, .refl _, rfl⟩

theorem trans (first : SameShape hv hv') (second : SameShape hv' hv'') : SameShape hv hv'' where
  domainCount := second.domainCount.trans first.domainCount
  life := second.life.trans first.life
  ports := first.ports.trans second.ports
  vcpus := first.vcpus.trans second.vcpus
  grants := first.grants.trans second.grants
  frameCount := second.frameCount.trans first.frameCount

theorem rewire {s : Evtchn.System} (ports : Evtchn.System.SameSizes hv.evtchn s) :
    SameShape hv { hv with evtchn := s } :=
  ⟨rfl, rfl, ports, .refl _, .refl _, rfl⟩

theorem reschedule {k : Sched.System} (vcpus : Sched.System.SameSizes hv.sched k) :
    SameShape hv { hv with sched := k } :=
  ⟨rfl, rfl, .refl _, vcpus, .refl _, rfl⟩

theorem remap {g : Grant.System} {p : P2m.System} (grants : Grant.System.SameSizes hv.grant g)
    (frameCount : p.frameCount = hv.p2m.frameCount) :
    SameShape hv { hv with grant := g, p2m := p } :=
  ⟨rfl, rfl, .refl _, .refl _, grants, frameCount⟩

end SameShape

theorem Marked.sizes {s s' : Evtchn.System} {target : DomId × Evtchn.Port}
    (marked : Marked target s s') : Evtchn.System.SameSizes s s' := by
  rcases marked with rfl | ⟨c, c', -, -, rfl⟩
  · exact .refl _
  · exact .setChan ..

theorem Signalled.sameShape (signalled : Signalled actor hv hv') : SameShape hv hv' := by
  obtain @⟨target, s', -, marked⟩ := signalled
  have ports : SameShape hv { hv with evtchn := s' } := .rewire marked.sizes
  rcases wakeIfDeliverable_cases { hv with evtchn := s' } target.1 target.2 with
    ⟨same, -⟩ | ⟨vcpu, c, k', -, -, -, moved, woken⟩
  · rw [same]
    exact ports
  · rw [woken]
    exact ports.trans (.reschedule moved.sizes)

theorem teardown_sameShape (regular : Regular hv) (target : DomId) (now : Ticks) :
    SameShape hv (hv.teardown target now).2 := by
  obtain ⟨-, reclaimed⟩ := teardown_memory regular.memory target now
  obtain ⟨-, offlined, -⟩ := Sched.System.offlineAll_spec regular.sched target now
  rw [← teardown_sched] at offlined
  exact {
    domainCount := by
      unfold domainCount
      rw [teardown_credit]
    life := by rw [teardown_life, List.length_set]
    ports := by
      rw [teardown_evtchn]
      exact (Evtchn.System.closeAll_sizes ..).trans (Evtchn.System.clearUnboundInto_sizes ..)
    vcpus := offlined.sizes
    grants := reclaimed.sizes
    frameCount := reclaimed.frameCount }

theorem Effect.sameShape (regular : Regular hv) (effect : Effect actor hv hv') :
    SameShape hv hv' := by
  cases effect with
  | credit _ _ => exact ⟨List.length_set, rfl, .refl _, .refl _, .refl _, rfl⟩
  | openPort _ _ _ => exact .rewire (.setChan ..)
  | connect _ _ _ => exact .rewire (Evtchn.System.SameSizes.trans (.setChan ..) (.setChan ..))
  | closePort _ _ =>
      exact .rewire (Evtchn.System.SameSizes.trans (.disconnect ..) (.setChan ..))
  | mark _ _ _ _ => exact .rewire (.setChan ..)
  | signal signalled => exact signalled.sameShape
  | sched moved _ _ => exact .reschedule moved.sizes
  | grantAccess _ _ _ => exact .remap (.setEntry ..) rfl
  | endAccess _ _ _ => exact .remap (.setEntry ..) rfl
  | map mapped _ _ _ _ _ _ =>
      exact .remap ⟨mapped.domainCount, mapped.entryCount⟩ (P2m.System.frameCount_setFrame ..)
  | unmap released _ kept _ _ =>
      exact .remap ⟨released.domainCount, released.entryCount⟩ kept.frameCount
  | frame _ _ _ => exact .remap (.refl _) (P2m.System.frameCount_setFrame ..)
  | link linked _ _ _ => exact .remap (.refl _) linked.kept.frameCount
  | unlink _ unlinked _ _ => exact .remap (.refl _) unlinked.kept.frameCount
  | create _ _ _ => exact ⟨rfl, List.length_set, .refl _, .refl _, .refl _, rfl⟩
  | destroy _ _ => exact teardown_sameShape regular ..
  | delegate _ _ _ _ _ _ => exact ⟨rfl, rfl, .refl _, .refl _, .refl _, rfl⟩
  | revoke _ _ _ _ => exact ⟨rfl, rfl, .refl _, .refl _, .refl _, rfl⟩
  | _ => exact ⟨rfl, rfl, .refl _, .refl _, .refl _, rfl⟩

theorem Rejected.sameShape (rejected : Rejected hv hv') : SameShape hv hv' := by
  rw [rejected.others]
  refine .remap ⟨?_, ?_⟩ rejected.frames.frameCount
  · unfold Grant.System.domainCount
    rw [rejected.entries]
  · intro d
    unfold Grant.System.entryCount
    rw [rejected.entries]

theorem Reachable.sameShape (reachable : Reachable c hv) : SameShape (new c) hv := by
  refine reachable.preserved (.refl _) ?_ fun shape rejected => shape.trans rejected.sameShape
  rintro t hv hv' regular shape (⟨-, -, effect⟩ | signalled)
  · exact shape.trans (effect.sameShape regular)
  · exact shape.trans signalled.sameShape

theorem Reachable.domainCount (reachable : Reachable c hv) : hv.domainCount = c.numDomains := by
  rw [reachable.sameShape.domainCount]
  exact List.length_replicate

/-- A domain that exists is live unless it is dead. -/
theorem Reachable.alive_of_not_dead (reachable : Reachable c hv) {d : DomId}
    (inside : d.toNat < hv.domainCount) (spared : hv.lifeOf d ≠ some .dead) :
    hv.isLive d = true := by
  have present : d.toNat < hv.life.length := by
    rw [reachable.domainCount] at inside
    rw [reachable.sameShape.life]
    simpa [new] using inside
  have found : hv.lifeOf d = some hv.life[d.toNat] := List.getElem?_eq_getElem present
  rw [isLive_iff]
  cases state : hv.life[d.toNat] with
  | live => exact found.trans (congrArg some state)
  | dead => exact absurd (found.trans (congrArg some state)) spared

/-- A live domain has a slot. -/
theorem Reachable.inside_of_live (reachable : Reachable c hv)
    {d : DomId} (alive : hv.isLive d = true) : d.toNat < hv.domainCount := by
  obtain ⟨inside, -⟩ := List.getElem?_eq_some_iff.mp (isLive_iff.mp alive)
  rw [reachable.sameShape.life] at inside
  rw [reachable.domainCount]
  simpa [Hypervisor.new] using inside

end Baleen.Hypervisor
