import Baleen.Hypervisor.Invariant

/-!
# Destroying a domain

A destruction by a permitted caller succeeds with every sub-step it makes, leaves an
empty shell that nothing refers to, and spares everything that is not the domain's.
-/

namespace Baleen

open Evtchn (Port EventChannel)
open Grant (GrantRef Mapping Access)
open P2m (Mfn Link)

namespace Evtchn.System

/-- Two rows of which the loops see the first port only: the second domain is closed and
its peer with it. -/
theorem teardown_wrapped {first : EventChannel} {ports ports' : List EventChannel}
    (wraps : (ports.length + 1) % 2 ^ 32 = 1) (wraps' : (ports'.length + 1) % 2 ^ 32 = 1) :
    clearUnboundInto 1
      (closeAll 1 ⟨[first :: ports, ⟨.interdomain 0 0, false, false⟩ :: ports']⟩).2 =
      ⟨[.FREE :: ports, .FREE :: ports']⟩ := by
  have visited : ∀ {a b : EventChannel},
      System.ports ⟨[a :: ports, b :: ports']⟩ 0 = [0] ∧
        System.ports ⟨[a :: ports, b :: ports']⟩ 1 = [0] := by
    intro a b
    have first : portCount ⟨[a :: ports, b :: ports']⟩ 0 = ports.length + 1 := rfl
    have second : portCount ⟨[a :: ports, b :: ports']⟩ 1 = ports'.length + 1 := rfl
    unfold System.ports Words.range32
    rw [first, second, wraps, wraps']
    exact ⟨rfl, rfl⟩
  have closed : (closeAll 1 ⟨[first :: ports, ⟨.interdomain 0 0, false, false⟩ :: ports']⟩).2 =
      ⟨[⟨.unbound 1, false, false⟩ :: ports, .FREE :: ports']⟩ := by
    unfold closeAll
    rw [visited.2]
    rfl
  have cleared : clearRow 1 0 ⟨[⟨.unbound 1, false, false⟩ :: ports, .FREE :: ports']⟩ =
      ⟨[.FREE :: ports, .FREE :: ports']⟩ := by
    unfold clearRow
    rw [visited.1]
    rfl
  have kept : clearRow 1 1 ⟨[.FREE :: ports, .FREE :: ports']⟩ =
      ⟨[.FREE :: ports, .FREE :: ports']⟩ := by
    unfold clearRow
    rw [visited.2]
    rfl
  have both : Words.range16 (domainCount ⟨[⟨.unbound 1, false, false⟩ :: ports, .FREE :: ports']⟩) =
      [0, 1] := rfl
  rw [closed]
  unfold clearUnboundInto
  rw [both]
  simp only [List.foldl_cons, List.foldl_nil, cleared, kept]

end Evtchn.System

namespace Hypervisor

variable {hv hv' : Hypervisor} {c : Config} {target : DomId}

/-- Every sub-step succeeded. -/
structure Succeeded (log : TeardownLog) : Prop extends MemoryLogged log where
  closes : ∀ r ∈ log.closes, r = .ok ()
  offlines : ∀ r ∈ log.offlines, r = .ok ()

/-- Nothing of `target` is left. -/
structure Gone (target : DomId) (hv hv' : Hypervisor) : Prop where
  clean : hv'.isCleanShell target = true
  unreferenced : hv'.isUnreferenced target = true
  links : ∀ l ∈ hv'.p2m.live,
    hv.p2m.ownerOf l.parent ≠ some target ∧ hv.p2m.ownerOf l.child ≠ some target
  controls : ∀ d, hv'.controlEdge target d = .absent ∧ hv'.controlEdge d target = .absent

/-- Whether a port belongs to `target` or names it. -/
def PortOf (target : DomId) (hv : Hypervisor) (d : DomId) (p : Port) : Prop :=
  d = target ∨ ∃ c, hv.evtchn.chan? d p = some c ∧
    (c.state = .unbound target ∨ ∃ q, c.state = .interdomain target q)

/-- Whether a grant belongs to `target` or names it. -/
def GrantOf (target : DomId) (hv : Hypervisor) (d : DomId) (r : GrantRef) : Prop :=
  d = target ∨ ∃ a, hv.grant.grantEntry d r = some a ∧ a.grantee = target

/-- Whether an entry links from or into a frame of `target`. -/
def LinkOf (target : DomId) (hv : Hypervisor) (l : Link) : Prop :=
  hv.p2m.ownerOf l.parent = some target ∨ hv.p2m.ownerOf l.child = some target

/-- Whether a frame belongs to `target` or carries a reference held by or on it. -/
def FrameOf (target : DomId) (hv : Hypervisor) (m : Mfn) : Prop :=
  hv.p2m.ownerOf m = some target ∨
    (∃ l ∈ hv.p2m.live, LinkOf target hv l ∧ (m = l.parent ∨ m = l.child)) ∨
    ∃ mp ∈ hv.grant.live, Involves target mp ∧ hv.grant.grantedFrame mp.grantor mp.gref = some m

/-- Whatever is not `target`'s is as it was. -/
structure Spared (target : DomId) (hv hv' : Hypervisor) : Prop where
  ports : ∀ {d p}, ¬PortOf target hv d p → hv'.evtchn.chan? d p = hv.evtchn.chan? d p
  vcpus : ∀ {d v}, d ≠ target → hv'.sched.vcpu? d v = hv.sched.vcpu? d v
  grants : ∀ {d r}, ¬GrantOf target hv d r → hv'.grant.entryAt d r = hv.grant.entryAt d r
  mappings : ∀ {m}, ¬Involves target m → (m ∈ hv'.grant.live ↔ m ∈ hv.grant.live)
  frames : ∀ {m}, ¬FrameOf target hv m → hv'.p2m.info m = hv.p2m.info m
  owners : ∀ {m}, hv.p2m.ownerOf m ≠ some target →
    hv'.p2m.ownerOf m = hv.p2m.ownerOf m ∧ hv'.p2m.isPinned m = hv.p2m.isPinned m
  links : ∀ {l}, ¬LinkOf target hv l → (l ∈ hv'.p2m.live ↔ l ∈ hv.p2m.live)
  devices : ∀ {dev : Nat}, hv.device.holders[dev]? ≠ some (some target) →
    hv'.device.holders[dev]? = hv.device.holders[dev]?
  controls : ∀ {h t}, ¬(t = target ∨ h = target ∨ hv.InSubtree t target h) →
    hv'.controlEdge h t = hv.controlEdge h t
  credit : hv'.credit = hv.credit
  life : ∀ {d}, d ≠ target → hv'.lifeOf d = hv.lifeOf d
  mayCreate : ∀ {d}, d ≠ target → hv'.mayCreateOf d = hv.mayCreateOf d

theorem straddles_iff {l : Link} : straddles hv.p2m target l = true ↔ LinkOf target hv l := by
  simp [straddles, LinkOf]

theorem teardown_succeeded (regular : Regular hv) (tidy : Tidy hv)
    (inside : target.toNat < hv.domainCount) (now : Ticks) :
    Succeeded (hv.teardown target now).1 := by
  obtain ⟨memory, -⟩ := teardown_memory regular.memory target now
  obtain ⟨closes, -⟩ := teardown_ports tidy.ports (tidy.domains ▸ inside) now
  obtain ⟨offlines, -⟩ := Sched.System.offlineAll_spec regular.sched target now
  refine ⟨memory, closes, ?_⟩
  simp only [teardown]
  exact offlines

theorem teardown_gone (regular : Regular hv) (tidy : Tidy hv) (delegated : hv.Delegated)
    (inside : target.toNat < hv.domainCount) (alive : hv.isLive target = true) (now : Ticks) :
    Gone target hv (hv.teardown target now).2 := by
  obtain ⟨-, reclaimed⟩ := teardown_memory regular.memory target now
  have dead : (hv.teardown target now).2.lifeOf target = some .dead := by
    obtain ⟨here, -⟩ := List.getElem?_eq_some_iff.mp (isLive_iff.mp alive)
    rw [lifeOf, teardown_life, List.getElem?_set, if_pos rfl, if_pos here]
  have shell := (tidy.teardown regular inside now).shells dead
  refine ⟨shell.isCleanShell, shell.isUnreferenced, ?_, ?_⟩
  · intro l isLive
    rw [reclaimed.links, List.mem_filter, Bool.not_eq_true', Bool.eq_false_iff, ne_eq,
      straddles_iff] at isLive
    exact not_or.mp isLive.2
  · intro d
    exact ⟨(delegated.destroyed target now target d).1 (.inr (.inl rfl)),
      (delegated.destroyed target now d target).1 (.inl rfl)⟩

theorem teardown_spared (regular : Regular hv) (tidy : Tidy hv) (delegated : hv.Delegated)
    (inside : target.toNat < hv.domainCount) (now : Ticks) :
    Spared target hv (hv.teardown target now).2 := by
  obtain ⟨-, reclaimed⟩ := teardown_memory regular.memory target now
  obtain ⟨-, ports⟩ := teardown_ports tidy.ports (tidy.domains ▸ inside) now
  obtain ⟨-, offlined, -⟩ := Sched.System.offlineAll_spec regular.sched target now
  rw [← teardown_sched] at offlined
  have apart : ∀ {d : DomId}, d ≠ target → target.toNat ≠ d.toNat :=
    fun other same => other (UInt16.toNat_inj.mp same.symm)
  exact {
    ports := by
      intro d p other
      rcases ports.ports d p with same | ⟨-, mine | ⟨c, found, names⟩⟩ | ⟨-, c, q, found, state⟩
      · exact same
      · exact absurd (.inl mine) other
      · exact absurd (.inr ⟨c, found, names⟩) other
      · exact absurd (.inr ⟨c, found, .inr ⟨q, state⟩⟩) other
    vcpus := fun other => offlined.others _ _ other
    grants := by
      intro d r other
      refine reclaimed.entries d r (fun mine => other (.inl mine)) ?_
      exact fun a active mine => other (.inr ⟨a, active, mine⟩)
    mappings := by
      intro m other
      rw [reclaimed.mappings, and_iff_left other]
    frames := by
      intro m other
      refine reclaimed.frames m (fun mine => other (.inl mine)) ?_ ?_
      · intro l isLive touches
        refine not_or.mp fun here => other (.inr (.inl ⟨l, isLive, straddles_iff.mp touches, here⟩))
      · intro mp isLive involved here
        obtain ⟨a, active, -⟩ := regular.memory.grants.backed isLive
        rw [Grant.System.backingOf_of_active active] at here
        refine other (.inr (.inr ⟨mp, isLive, involved, ?_⟩))
        rw [Grant.System.grantedFrame, active, Option.map_some]
        exact congrArg some here
    owners := fun other => ⟨reclaimed.owners _ other, reclaimed.pins _ other⟩
    links := by
      intro l other
      rw [reclaimed.links, List.mem_filter, Bool.not_eq_true', Bool.eq_false_iff, ne_eq,
        straddles_iff, and_iff_left other]
    devices := by
      intro dev other
      rw [teardown_device, Device.System.releaseAllOf, List.getElem?_map]
      cases held : hv.device.holders[dev]? with
      | none => rfl
      | some holder =>
          have kept : holder ≠ some target := fun mine => other (by rw [held, mine])
          rw [Option.map_some, if_neg kept]
    controls := fun {h t} other => (delegated.destroyed target now h t).2 other
    credit := teardown_credit ..
    life := by
      intro d other
      rw [lifeOf, teardown_life, List.getElem?_set_ne (apart other)]
      rfl
    mayCreate := by
      intro d other
      rw [mayCreateOf, teardown_mayCreate, List.getElem?_set_ne (apart other)]
      rfl }

theorem domainDestroy_apply {caller : DomId} (inside : caller.toNat < hv.domainCount)
    (inside' : target.toNat < hv.domainCount)
    (permitted : caller = target ∨ hv.holdsControl caller target = true) (now : Ticks) :
    domainDestroy caller target now hv = (.ok .done, (hv.teardown target now).2) := by
  have allowed : (decide (caller = target) || hv.holdsControl caller target) = true := by
    simpa using permitted
  simp only [domainDestroy, inRange, selfOrControls, Op.ensure_bind_apply, Op.modify_bind_apply,
    Op.pure_apply, decide_eq_true inside, decide_eq_true inside', allowed, if_true]

/-- While a port number can address every port, a permitted destruction is total and
complete. -/
theorem destroy_complete (c : Config) (hv : Hypervisor) (reachable : Reachable c hv)
    (ports : c.portsPerDomain ≤ 2 ^ 32) (caller target : DomId) (now : Ticks)
    (callerAlive : hv.isLive caller = true) (targetAlive : hv.isLive target = true)
    (permitted : caller = target ∨ hv.holdsControl caller target = true) :
    domainDestroy caller target now hv = (.ok .done, (hv.teardown target now).2) ∧
      Succeeded (hv.teardown target now).1 ∧
      Gone target hv (domainDestroy caller target now hv).2 ∧
      Spared target hv (domainDestroy caller target now hv).2 := by
  have regular := reachable.regular
  have tidy := reachable.tidy ports
  have inside := reachable.inside_of_live targetAlive
  have done := domainDestroy_apply (reachable.inside_of_live callerAlive) inside permitted now
  rw [done]
  exact ⟨rfl, teardown_succeeded regular tidy inside now,
    teardown_gone regular tidy reachable.delegated inside targetAlive now,
    teardown_spared regular tidy reachable.delegated inside now⟩

/-- A grantee is destroyed while it maps a frame. -/
theorem destroy_complete_mapped :
    let hv := Op.run apply [.guest 0 (.domainCreate 1 false), .guest 0 (.p2mAllocate 0),
      .guest 0 (.grantAccess 0 1 0 false), .guest 1 (.grantMap 0 0 true)]
      (new ⟨2, 1, 1, 1, 1, 1, 0⟩)
    hv.grant.holdsAnyMap 1 = true ∧ Gone 1 hv (domainDestroy 0 1 0 hv).2 :=
  ⟨by decide +kernel, (destroy_complete ⟨2, 1, 1, 1, 1, 1, 0⟩ _ ⟨_, rfl⟩ (by decide) 0 1 0
    (by decide +kernel) (by decide +kernel) (.inr (by decide +kernel))).2.2.1⟩

/-- The wrapped port does not survive the destruction of the domain it was taken from. -/
theorem destroy_crowded {k : Nat} (wraps : k + 1 = 2 ^ 32) :
    let hv := (connected (k + 1)).withPorts ((crowdedPorts (k + 1) k).setChan 0 0 waiting)
    hv.isLive 0 = true ∧ hv.isLive 1 = true ∧ hv.holdsControl 0 1 = true ∧
      hv.evtchn.chan? 0 0 = some waiting ∧
      (domainDestroy 0 1 0 hv).2.evtchn.chan? 0 0 = some .FREE := by
  intro hv
  have count : hv.domainCount = 2 := rfl
  have held : hv.holdsControl 0 1 = true := rfl
  refine ⟨rfl, rfl, held, rfl, ?_⟩
  have done : domainDestroy 0 1 0 hv = (.ok .done, (hv.teardown 1 0).2) := by
    refine domainDestroy_apply ?_ ?_ (.inr held) 0
    · rw [count]
      decide
    · rw [count]
      decide
  have rows : hv.evtchn = ⟨[waiting :: (List.replicate k waiting ++
      List.replicate (k + 1 - k) EventChannel.FREE),
      ⟨.interdomain 0 0, false, false⟩ :: List.replicate (k + 1) EventChannel.FREE]⟩ := rfl
  rw [done, teardown_evtchn, rows, Evtchn.System.teardown_wrapped]
  · rfl
  · rw [List.length_append, List.length_replicate, List.length_replicate]
    omega
  · rw [List.length_replicate]
    omega

/-- With one port more, destroying a domain frees a port that another one opened to
itself. -/
theorem destroy_frees_wrapped_port :
    let hv := crowded (2 ^ 32) (2 ^ 32)
    Reachable ⟨2, 2 ^ 32 + 1, 1, 1, 1, 1, 0⟩ hv ∧ hv.isLive 0 = true ∧ hv.isLive 1 = true ∧
      hv.holdsControl 0 1 = true ∧ hv.evtchn.chan? 0 0 = some ⟨.unbound 0, false, false⟩ ∧
      (domainDestroy 0 1 0 hv).2.evtchn.chan? 0 0 = some .FREE ∧
      ¬Spared 1 hv (domainDestroy 0 1 0 hv).2 := by
  intro hv
  obtain ⟨k, wraps⟩ : ∃ k, k + 1 = 2 ^ 32 := ⟨2 ^ 32 - 1, by decide⟩
  have crowd : hv = (connected (k + 1)).withPorts
      ((crowdedPorts (k + 1) k).setChan 0 0 waiting) := by
    rw [← crowded_wrap (show k < k + 1 by omega) wraps, wraps]
  obtain ⟨alive, alive', held, before, after⟩ := destroy_crowded wraps
  rw [← crowd] at alive alive' held before after
  refine ⟨crowded_reachable _ _, alive, alive', held, before, after, fun spared => ?_⟩
  have kept := spared.ports (d := 0) (p := 0) (by
    rintro (same | ⟨c, found, names⟩)
    · cases same
    · rw [before] at found
      cases found
      simp [waiting] at names)
  rw [before, after] at kept
  cases kept

end Hypervisor

end Baleen
