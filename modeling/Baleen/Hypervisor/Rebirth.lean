import Baleen.Hypervisor.Destroy

/-!
# Reused slots

A dead slot is as empty as it was when the hypervisor was built, so a tenant created in
it finds no trace of the previous one in its ports, run states, grants, mappings,
frames, devices and authority.  Credit and runtime are accounts of the slot: they are
carried over.
-/

namespace Baleen.Hypervisor

open Evtchn (Port EventChannel)
open Grant (GrantRef)
open P2m (Mfn)

variable {hv : Hypervisor} {c : Config} {d : DomId}

/-- The slot is as a freshly built hypervisor has it. -/
structure Fresh (c : Config) (hv : Hypervisor) (d : DomId) : Prop where
  ports : ∀ p, hv.evtchn.chan? d p = (new c).evtchn.chan? d p
  vcpus : ∀ v, hv.sched.stateOf d v = (new c).sched.stateOf d v
  grants : ∀ r, hv.grant.entryAt d r = (new c).grant.entryAt d r
  mappings : ∀ m ∈ hv.grant.live, m.grantee ≠ d ∧ m.grantor ≠ d
  frames : ∀ m, hv.p2m.ownerOf m ≠ some d
  devices : ∀ dev : Nat, hv.device.holders[dev]? ≠ some (some d)
  mayCreate : hv.mayCreateOf d = false
  controls : ∀ e, hv.controlEdge d e = (new c).controlEdge d e ∧
    hv.controlEdge e d = (new c).controlEdge e d

/-- The accounts of a slot are closed with its tenant, and not cleared. -/
structure Settled (now : Ticks) (d : DomId) (hv hv' : Hypervisor) : Prop where
  credit : hv'.credit = hv.credit
  runtime : ∀ v x, hv.sched.vcpu? d v = some x →
    ∃ x', hv'.sched.vcpu? d v = some x' ∧ x'.runtime = (Sched.System.closed now x).runtime

section Slots

variable (sizes : c.portsPerDomain < 2 ^ 32 ∧ c.vcpusPerDomain < 2 ^ 32 ∧
  c.grantsPerDomain < 2 ^ 32 ∧ c.numFrames < 2 ^ 32) (shape : SameShape (new c) hv)
  (shell : Shell hv d)
include sizes shape shell

theorem ports_fresh (tidy : Tidy hv) (p : Port) :
    hv.evtchn.chan? d p = (new c).evtchn.chan? d p := by
  have count : hv.evtchn.portCount d = if d.toNat < c.numDomains then c.portsPerDomain else 0 :=
    (shape.ports.portCount d).trans (Grid.width_fill ..)
  by_cases inside : p.toNat < hv.evtchn.portCount d
  · obtain ⟨x, found⟩ := Grid.exists_get? inside
    have found : hv.evtchn.chan? d p = some x := found
    have member : p ∈ hv.evtchn.ports d := by
      have small : hv.evtchn.portCount d < 2 ^ 32 := by
        rw [count]
        split_ifs
        · exact sizes.1
        · decide
      rw [Evtchn.System.ports, Words.mem_range32, Nat.mod_eq_of_lt small]
      exact inside
    have free := shell.events.free p member
    rw [Evtchn.System.stateOf, found, Option.map_some] at free
    obtain ⟨pending, masked⟩ := tidy.ports.quiet found (Option.some.inj free)
    obtain ⟨state, pend, mask⟩ := x
    obtain rfl : state = .free := Option.some.inj free
    obtain rfl : pend = false := pending
    obtain rfl : mask = false := masked
    rw [count] at inside
    split_ifs at inside with slot
    · rw [found, new_chan?, if_pos ⟨slot, inside⟩]
      rfl
    · exact absurd inside (Nat.not_lt_zero _)
  · have missing : hv.evtchn.chan? d p = none := Grid.get?_eq_none_iff.mpr (Nat.le_of_not_lt inside)
    rw [missing, new_chan?, if_neg]
    rintro ⟨slot, small⟩
    rw [count, if_pos slot] at inside
    exact inside small

theorem vcpus_fresh (v : Vcpu) : hv.sched.stateOf d v = (new c).sched.stateOf d v := by
  have count : hv.sched.vcpuCount d = if d.toNat < c.numDomains then c.vcpusPerDomain else 0 :=
    (shape.vcpus.vcpuCount d).trans (Grid.width_fill ..)
  rw [Sched.System.stateOf, Sched.System.stateOf, new_vcpu?]
  by_cases inside : v.toNat < hv.sched.vcpuCount d
  · have member : v ∈ hv.sched.vcpus d := by
      have small : hv.sched.vcpuCount d < 2 ^ 32 := by
        rw [count]
        split_ifs
        · exact sizes.2.1
        · decide
      rw [Sched.System.vcpus, Words.mem_range32, Nat.mod_eq_of_lt small]
      exact inside
    have offline : (hv.sched.vcpu? d v).map (·.state) = some .offline := shell.vcpus v member
    rw [count] at inside
    split_ifs at inside with slot
    · rw [offline, if_pos ⟨slot, inside⟩]
      rfl
    · exact absurd inside (Nat.not_lt_zero _)
  · have missing : hv.sched.vcpu? d v = none := Grid.get?_eq_none_iff.mpr (Nat.le_of_not_lt inside)
    have outside : ¬(d.toNat < c.numDomains ∧ v.toNat < c.vcpusPerDomain) := by
      rintro ⟨slot, small⟩
      rw [count, if_pos slot] at inside
      exact inside small
    rw [missing, if_neg outside]

theorem grants_none (r : GrantRef) : hv.grant.grantEntry d r = none := by
  by_contra present
  obtain ⟨a, active⟩ := Option.ne_none_iff_exists'.mp present
  have inside := Grid.lt_width_of_get? (Grant.System.grantEntry_eq_some.mp active)
  have count : hv.grant.entryCount d = if d.toNat < c.numDomains then c.grantsPerDomain else 0 :=
    (shape.grants.entryCount d).trans (Grid.width_fill ..)
  have small : hv.grant.entryCount d < 2 ^ 32 := by
    rw [count]
    split_ifs
    · exact sizes.2.2.1
    · decide
  refine present (shell.memory.grants r ?_)
  rw [Grant.System.grefs, Words.mem_range32, Nat.mod_eq_of_lt small]
  exact inside

theorem grants_fresh (r : GrantRef) : hv.grant.entryAt d r = (new c).grant.entryAt d r := by
  have free : hv.grant.grantEntry d r = none := grants_none sizes shape shell r
  have count : hv.grant.entryCount d = if d.toNat < c.numDomains then c.grantsPerDomain else 0 :=
    (shape.grants.entryCount d).trans (Grid.width_fill ..)
  have start : (new c).grant.entryAt d r =
      if d.toNat < c.numDomains ∧ r.toNat < c.grantsPerDomain then some .free else none :=
    Grid.get?_fill ..
  rw [start]
  cases found : hv.grant.entryAt d r with
  | none =>
      have outside : hv.grant.entryCount d ≤ r.toNat := Grid.get?_eq_none_iff.mp found
      rw [if_neg]
      rintro ⟨slot, small⟩
      rw [count, if_pos slot] at outside
      exact Nat.not_lt.mpr outside small
  | some e =>
      have inside : r.toNat < hv.grant.entryCount d := Grid.lt_width_of_get? found
      cases e with
      | access a =>
          rw [Grant.System.grantEntry_eq_some.mpr found] at free
          cases free
      | free =>
          rw [count] at inside
          split_ifs at inside with slot
          · rw [if_pos ⟨slot, inside⟩]
          · exact absurd inside (Nat.not_lt_zero _)

theorem frames_unowned (m : Mfn) : hv.p2m.ownerOf m ≠ some d := by
  intro owned
  obtain ⟨i, known, -⟩ := P2m.System.ownerOf_eq_some.mp owned
  obtain ⟨inside, -⟩ := List.getElem?_eq_some_iff.mp (P2m.System.getElem?_of_info known)
  have inside : m.toNat < hv.p2m.frameCount := inside
  have count : hv.p2m.frameCount = c.numFrames := by
    rw [shape.frameCount]
    exact List.length_replicate
  refine shell.memory.frames m ?_ owned
  rw [P2m.System.mfns, Words.mem_range32, Nat.mod_eq_of_lt (count ▸ sizes.2.2.2)]
  exact inside

end Slots

/-- A dead slot is fresh, its accounts aside. -/
theorem fresh_of_dead (reachable : Reachable c hv)
    (sizes : c.portsPerDomain < 2 ^ 32 ∧ c.vcpusPerDomain < 2 ^ 32 ∧
      c.grantsPerDomain < 2 ^ 32 ∧ c.numFrames < 2 ^ 32)
    (dead : hv.lifeOf d = some .dead) : Fresh c hv d := by
  have regular := reachable.regular
  have tidy := reachable.tidy sizes.1.le
  have shape := reachable.sameShape
  have delegated := reachable.delegated
  have shell := tidy.shells dead
  have noControl : ∀ h t : DomId, h = d ∨ t = d → hv.controlEdge h t = .absent := by
    intro h t involved
    by_contra present
    obtain ⟨holder, target⟩ := delegated.alive present
    have dead : hv.life[d.toNat]? = some .dead := dead
    cases involved with
    | inl here =>
        rw [here, dead] at holder
        cases holder
    | inr here =>
        rw [here, dead] at target
        cases target
  have start : ∀ h t : DomId, (new c).controlEdge h t = .absent := by
    intro h t
    simp only [controlEdge, new, Grid.get?_fill]
    split_ifs <;> rfl
  exact {
    ports := ports_fresh sizes shape shell tidy
    vcpus := vcpus_fresh sizes shape shell
    grants := grants_fresh sizes shape shell
    mappings := by
      intro m isLive
      refine ⟨shell.memory.mappings m isLive, ?_⟩
      rintro rfl
      obtain ⟨a, active, -⟩ := regular.memory.grants.backed isLive
      rw [grants_none sizes shape shell] at active
      cases active
    frames := frames_unowned sizes shape shell
    devices := shell.devices
    mayCreate := shell.mayCreate
    controls := by
      intro e
      rw [noControl d e (.inl rfl), noControl e d (.inr rfl), start, start]
      exact ⟨rfl, rfl⟩ }

theorem domainDestroy_settled (reachable : Reachable c hv) (few : c.vcpusPerDomain < 2 ^ 32)
    (caller : DomId) (now : Ticks) :
    Op.Yields (fun _ => Settled now d hv) (· = hv) (domainDestroy caller d now hv) := by
  refine Op.yields_ensure rfl fun _ => Op.yields_ensure rfl fun _ => ?_
  refine Op.yields_ensure rfl fun _ => ?_
  refine ⟨teardown_credit .., fun v x found => ?_⟩
  have inside : v.toNat < hv.sched.vcpuCount d := Grid.lt_width_of_get? found
  have count : hv.sched.vcpuCount d = if d.toNat < c.numDomains then c.vcpusPerDomain else 0 :=
    (reachable.sameShape.vcpus.vcpuCount d).trans (Grid.width_fill ..)
  have small : hv.sched.vcpuCount d < 2 ^ 32 := by
    rw [count]
    split_ifs
    · exact few
    · decide
  rw [teardown_sched]
  refine Sched.System.offlineAll_runtime reachable.regular.sched now found ?_
  rw [Sched.System.vcpus, Words.mem_range32, Nat.mod_eq_of_lt small]
  exact inside

theorem domainCreate_settled (caller : DomId) (mayCreate : Bool) :
    Op.Yields (fun _ hv' => hv'.credit = hv.credit ∧ hv'.sched = hv.sched) (· = hv)
      (domainCreate caller d mayCreate hv) := by
  refine Op.yields_ensure rfl fun _ => Op.yields_ensure rfl fun _ => ?_
  refine Op.yields_ensure rfl fun _ => ?_
  exact ⟨rfl, rfl⟩

/-- While identifiers can address every table, a dead slot is fresh.  Its accounts are not: they are
closed with one tenant and left to the next. -/
theorem dead_slot_fresh (c : Config) (hv : Hypervisor) (reachable : Reachable c hv)
    (sizes : c.portsPerDomain < 2 ^ 32 ∧ c.vcpusPerDomain < 2 ^ 32 ∧
      c.grantsPerDomain < 2 ^ 32 ∧ c.numFrames < 2 ^ 32) (d : DomId) :
    (hv.lifeOf d = some .dead → Fresh c hv d) ∧
      (∀ caller now, Op.Yields (fun _ => Settled now d hv) (· = hv)
        (domainDestroy caller d now hv)) ∧
      ∀ caller mayCreate, Op.Yields (fun _ hv' => hv'.credit = hv.credit ∧ hv'.sched = hv.sched)
        (· = hv) (domainCreate caller d mayCreate hv) :=
  ⟨fresh_of_dead reachable sizes, domainDestroy_settled reachable sizes.2.1, domainCreate_settled⟩

/-- A tenant with a port, a grant and a frame is destroyed. -/
theorem dead_slot_fresh_destroyed :
    let c : Config := ⟨2, 1, 1, 1, 1, 1, 0⟩
    let hv := Op.run apply [.guest 0 (.domainCreate 1 true), .guest 1 (.evtchnAllocUnbound 0),
      .guest 1 (.p2mAllocate 0), .guest 1 (.grantAccess 0 0 0 false),
      .guest 0 (.domainDestroy 1 0)] (new c)
    hv.lifeOf 1 = some .dead ∧ Fresh c hv 1 := by
  intro c hv
  have dead : hv.lifeOf 1 = some .dead := by decide +kernel
  exact ⟨dead, (dead_slot_fresh c hv ⟨_, rfl⟩ (by decide) 1).1 dead⟩

theorem apply_domainDestroy {caller target : DomId} (inside : caller.toNat < hv.domainCount)
    (alive : hv.isLive caller = true) (inside' : target.toNat < hv.domainCount)
    (permitted : caller = target ∨ hv.holdsControl caller target = true) (now : Ticks) :
    (apply (.guest caller (.domainDestroy target now)) hv).2 = (hv.teardown target now).2 := by
  have routed : dispatch caller (.domainDestroy target now) hv =
      domainDestroy caller target now hv := by
    simp only [dispatch, route, inRange, Op.ensure_bind_apply, decide_eq_true inside, alive,
      if_true]
  rw [apply, Op.bind_apply, routed, domainDestroy_apply inside inside' permitted now]
  rfl

/-- The first domain destroys the second. -/
theorem destroy_second {hv : Hypervisor} (count : hv.domainCount = 2)
    (life : hv.life = [.live, .live]) (held : hv.holdsControl 0 1 = true) :
    (apply (.guest 0 (.domainDestroy 1 0)) hv).2 = (hv.teardown 1 0).2 ∧
      (hv.teardown 1 0).2.lifeOf 1 = some .dead := by
  constructor
  · refine apply_domainDestroy ?_ ?_ ?_ (.inr held) 0
    · rw [count]
      decide
    · rw [isLive_iff, life]
      rfl
    · rw [count]
      decide
  · rw [lifeOf, teardown_life, life]
    rfl

theorem range32_wrapped {n : Nat} (wraps : n + 1 = 2 ^ 32) : Words.range32 (n + 1) = [] := by
  rw [Words.range32, wraps, Nat.mod_self]
  rfl

/-- With no mapping and no page-table entry there is nothing to detach. -/
theorem detach_idle {target : DomId} (unmapped : hv.grant.maps = [])
    (unlinked : hv.p2m.links = []) :
    detach target hv = ⟨hv.grant, hv.p2m⟩ := by
  have foreign : Grant.System.drainForeignMapsOf target hv.grant = ([], hv.grant) := by
    rw [Grant.System.drainForeignMapsOf, unmapped]
    rfl
  have own : Grant.System.drainMapsOf target hv.grant = ([], hv.grant) := by
    rw [Grant.System.drainMapsOf, unmapped]
    rfl
  have mirrored : ∀ p, mirror [] p = ([], p) := fun p => rfl
  have inward : P2m.System.unlinkAllInto target hv.p2m = ([], hv.p2m) := by
    rw [P2m.System.unlinkAllInto, unlinked]
    rfl
  simp only [detach, releaseOwn, forceReclaim, foreign, own, mirrored, inward]

theorem unlinkAll_idle {s : P2m.System} {owner : DomId} (unlinked : s.links = []) :
    (P2m.System.unlinkAll owner s).2 = s := by
  rw [P2m.System.unlinkAll, unlinked]
  rfl

/-- No loop reaches the open port of the second domain. -/
theorem port_survives {n : Nat} (wraps : n + 1 = 2 ^ 32) :
    let hv := Op.run apply [.guest 0 (.domainCreate 1 false), .guest 1 (.evtchnAllocUnbound 0),
      .guest 0 (.domainDestroy 1 0)] (new ⟨2, n + 1, 1, 1, 1, 1, 0⟩)
    hv.lifeOf 1 = some .dead ∧ hv.evtchn.chan? 1 0 = some ⟨.unbound 0, false, false⟩ := by
  intro hv
  let before := Op.run apply [.guest 0 (.domainCreate 1 false), .guest 1 (.evtchnAllocUnbound 0)]
    (new ⟨2, n + 1, 1, 1, 1, 1, 0⟩)
  have rows : before.evtchn = ⟨[List.replicate (n + 1) .FREE,
      ⟨.unbound 0, false, false⟩ :: List.replicate n .FREE]⟩ := rfl
  obtain ⟨ran, dead⟩ := @destroy_second before rfl rfl rfl
  have after : hv = (before.teardown 1 0).2 := ran
  have first : before.evtchn.ports 0 = [] := by
    have wide : before.evtchn.portCount 0 = n + 1 := by
      rw [rows]
      exact List.length_replicate
    rw [Evtchn.System.ports, wide, range32_wrapped wraps]
  have second : before.evtchn.ports 1 = [] := by
    have wide : before.evtchn.portCount 1 = n + 1 := by
      rw [rows]
      exact congrArg (· + 1) List.length_replicate
    rw [Evtchn.System.ports, wide, range32_wrapped wraps]
  have closed : (Evtchn.System.closeAll 1 before.evtchn).2 = before.evtchn := by
    rw [Evtchn.System.closeAll, second, Op.sweep]
  have cleared : Evtchn.System.clearUnboundInto 1 before.evtchn = before.evtchn := by
    have unvisited : ∀ d : DomId, before.evtchn.ports d = [] →
        Evtchn.System.clearRow 1 d before.evtchn = before.evtchn := by
      intro d empty
      rw [Evtchn.System.clearRow, empty]
      rfl
    have domains : Words.range16 before.evtchn.domainCount = [0, 1] := by
      rw [rows]
      rfl
    rw [Evtchn.System.clearUnboundInto, domains, List.foldl_cons, unvisited 0 first,
      List.foldl_cons, unvisited 1 second, List.foldl_nil]
  have kept : hv.evtchn = before.evtchn := by
    rw [after, teardown_evtchn, closed, cleared]
  rw [kept, rows, after]
  exact ⟨dead, rfl⟩

/-- Nor the waiting vCPU. -/
theorem vcpu_survives {n : Nat} (wraps : n + 1 = 2 ^ 32) :
    let hv := Op.run apply [.guest 0 (.domainCreate 1 false), .guest 1 (.schedAdmit 0),
      .guest 0 (.domainDestroy 1 0)] (new ⟨2, 1, 1, n + 1, 1, 1, 0⟩)
    hv.lifeOf 1 = some .dead ∧ hv.sched.stateOf 1 0 = some .runnable := by
  intro hv
  let before := Op.run apply [.guest 0 (.domainCreate 1 false), .guest 1 (.schedAdmit 0)]
    (new ⟨2, 1, 1, n + 1, 1, 1, 0⟩)
  obtain ⟨ran, dead⟩ := @destroy_second before rfl rfl rfl
  have after : hv = (before.teardown 1 0).2 := ran
  have waiting : before.sched.stateOf 1 0 = some .runnable := rfl
  have unvisited : before.sched.vcpus 1 = [] := by
    have wide : before.sched.vcpuCount 1 = n + 1 := congrArg (· + 1) List.length_replicate
    rw [Sched.System.vcpus, wide, range32_wrapped wraps]
  have kept : hv.sched = before.sched := by
    rw [after, teardown_sched, Sched.System.offlineAll, unvisited, Op.sweep]
  rw [kept, waiting, after]
  exact ⟨dead, rfl⟩

/-- Nor the grant it gave. -/
theorem grant_survives {n : Nat} (wraps : n + 1 = 2 ^ 32) :
    let hv := Op.run apply [.guest 0 (.domainCreate 1 false), .guest 1 (.p2mAllocate 0),
      .guest 1 (.grantAccess 0 0 0 false), .guest 0 (.domainDestroy 1 0)]
      (new ⟨2, 1, n + 1, 1, 1, 1, 0⟩)
    hv.lifeOf 1 = some .dead ∧ hv.grant.isGranted 1 0 = true := by
  intro hv
  let before := Op.run apply [.guest 0 (.domainCreate 1 false), .guest 1 (.p2mAllocate 0),
    .guest 1 (.grantAccess 0 0 0 false)] (new ⟨2, 1, n + 1, 1, 1, 1, 0⟩)
  obtain ⟨ran, dead⟩ := @destroy_second before rfl rfl rfl
  have after : hv = (before.teardown 1 0).2 := ran
  have given : before.grant.isGranted 1 0 = true := rfl
  have detached : detach 1 before = ⟨before.grant, before.p2m⟩ := detach_idle rfl rfl
  have first : before.grant.grefs 0 = [] := by
    have wide : before.grant.entryCount 0 = n + 1 := List.length_replicate
    rw [Grant.System.grefs, wide, range32_wrapped wraps]
  have second : before.grant.grefs 1 = [] := by
    have wide : before.grant.entryCount 1 = n + 1 := congrArg (· + 1) List.length_replicate
    rw [Grant.System.grefs, wide, range32_wrapped wraps]
  have revoked : (Grant.System.revokeAll 1 before.grant).2 = before.grant := by
    rw [Grant.System.revokeAll, second, Op.sweep]
  have withdrawn : (Grant.System.revokeGrantsTo 1 before.grant).2 = before.grant := by
    have domains : Words.range16 before.grant.domainCount = [0, 1] := rfl
    have unvisited : before.grant.allRefs = [] := by
      rw [Grant.System.allRefs, domains, List.flatMap_cons, first, List.flatMap_cons, second]
      rfl
    rw [Grant.System.revokeGrantsTo, unvisited, Op.sweep]
  have kept : hv.grant = before.grant := by
    rw [after, teardown_grant, detached, revoked, withdrawn]
  rw [kept, given, after]
  exact ⟨dead, rfl⟩

/-- Nor the frame it owns. -/
theorem frame_survives {n : Nat} (wraps : n + 1 = 2 ^ 32) :
    let hv := Op.run apply [.guest 0 (.domainCreate 1 false), .guest 1 (.p2mAllocate 0),
      .guest 0 (.domainDestroy 1 0)] (new ⟨2, 1, 1, 1, 1, n + 1, 0⟩)
    hv.lifeOf 1 = some .dead ∧ hv.p2m.ownerOf 0 = some 1 := by
  intro hv
  let before := Op.run apply [.guest 0 (.domainCreate 1 false), .guest 1 (.p2mAllocate 0)]
    (new ⟨2, 1, 1, 1, 1, n + 1, 0⟩)
  obtain ⟨ran, dead⟩ := @destroy_second before rfl rfl rfl
  have after : hv = (before.teardown 1 0).2 := ran
  have owned : before.p2m.ownerOf 0 = some 1 := rfl
  have unvisited : before.p2m.mfns = [] := by
    have wide : before.p2m.frameCount = n + 1 := congrArg (· + 1) List.length_replicate
    rw [P2m.System.mfns, wide, range32_wrapped wraps]
  have detached : detach 1 before = ⟨before.grant, before.p2m⟩ := detach_idle rfl rfl
  have unlinked : (P2m.System.unlinkAll 1 before.p2m).2 = before.p2m := unlinkAll_idle rfl
  have unpinned : (P2m.System.unpinAll 1 before.p2m).2 = before.p2m := by
    rw [P2m.System.unpinAll, unvisited, Op.sweep]
  have freed : (P2m.System.freeAll 1 before.p2m).2 = before.p2m := by
    rw [P2m.System.freeAll, unvisited, Op.sweep]
  have kept : hv.p2m = before.p2m := by
    rw [after, teardown_p2m, detached, unlinked, unpinned, freed]
  rw [kept, owned, after]
  exact ⟨dead, rfl⟩

/-- Credit, runtime and the mask of a vCPU that was never admitted outlive the tenant, and
so does what lies in a table no identifier can count.  The first domain does not get its
authority to create back. -/
theorem dead_slot_keeps_accounts :
    (∃ hv, Reachable ⟨2, 1, 1, 1, 2, 1, 0⟩ hv ∧ hv.lifeOf 0 = some .dead ∧
      hv.mayCreateOf 0 ≠ (new ⟨2, 1, 1, 1, 2, 1, 0⟩).mayCreateOf 0) ∧
    (∃ hv, Reachable ⟨2, 1, 1, 1, 2, 1, 0⟩ hv ∧ hv.lifeOf 1 = some .dead ∧
      hv.credit[1]? ≠ (new ⟨2, 1, 1, 1, 2, 1, 0⟩).credit[1]? ∧
      (hv.sched.vcpu? 1 0).map (·.runtime) ≠
        ((new ⟨2, 1, 1, 1, 2, 1, 0⟩).sched.vcpu? 1 0).map (·.runtime)) ∧
    (∃ hv, Reachable ⟨2, 1, 1, 1, 2, 1, 0⟩ hv ∧ hv.lifeOf 1 = some .dead ∧
      hv.sched.affinityOf 1 0 ≠ (new ⟨2, 1, 1, 1, 2, 1, 0⟩).sched.affinityOf 1 0) ∧
    (∃ hv, Reachable ⟨2, 2 ^ 32, 1, 1, 1, 1, 0⟩ hv ∧ hv.lifeOf 1 = some .dead ∧
      hv.evtchn.chan? 1 0 ≠ some .FREE) ∧
    (∃ hv, Reachable ⟨2, 1, 1, 2 ^ 32, 1, 1, 0⟩ hv ∧ hv.lifeOf 1 = some .dead ∧
      hv.sched.stateOf 1 0 ≠ some .offline) ∧
    (∃ hv, Reachable ⟨2, 1, 2 ^ 32, 1, 1, 1, 0⟩ hv ∧ hv.lifeOf 1 = some .dead ∧
      hv.grant.isGranted 1 0 = true) ∧
    ∃ hv, Reachable ⟨2, 1, 1, 1, 1, 2 ^ 32, 0⟩ hv ∧ hv.lifeOf 1 = some .dead ∧
      hv.p2m.ownerOf 0 = some 1 := by
  obtain ⟨n, wraps⟩ : ∃ n, n + 1 = 2 ^ 32 :=
    ⟨2 ^ 32 - 1, Nat.sub_add_cancel Nat.one_le_two_pow⟩
  rw [← wraps]
  refine ⟨?_, ?_, ?_, ?_, ?_, ?_, ?_⟩
  · refine ⟨_, ⟨[.guest 0 (.domainDestroy 0 0)], rfl⟩, ?_⟩
    decide +kernel
  · refine ⟨_, ⟨[.guest 0 (.domainCreate 1 false), .guest 1 (.creditGrant 5),
      .guest 1 (.schedAdmit 0), .guest 1 (.schedRun 0 0 0), .guest 0 (.domainDestroy 1 7)],
        rfl⟩, ?_⟩
    decide +kernel
  · refine ⟨_, ⟨[.guest 0 (.domainCreate 1 false), .guest 1 (.schedSetAffinity 1 0 1),
      .guest 0 (.domainDestroy 1 0)], rfl⟩, ?_⟩
    decide +kernel
  · obtain ⟨dead, kept⟩ := port_survives wraps
    refine ⟨_, ⟨_, rfl⟩, dead, ?_⟩
    rw [kept]
    decide
  · obtain ⟨dead, kept⟩ := vcpu_survives wraps
    refine ⟨_, ⟨_, rfl⟩, dead, ?_⟩
    rw [kept]
    decide
  · exact ⟨_, ⟨_, rfl⟩, grant_survives wraps⟩
  · exact ⟨_, ⟨_, rfl⟩, frame_survives wraps⟩

end Baleen.Hypervisor
