import Baleen.Hypervisor.Calls
import Baleen.Hypervisor.Reclaim
import Baleen.P2m.Ledger

/-!
# Runs of the integrated core

The invariant that every run keeps, whatever the sizes the hypervisor was built with,
and two of its consequences: the counters of every frame are exact, and a rejected
transition leaves nothing behind.
-/

namespace Baleen.Hypervisor

open Grant (Mapping Access Unmapped)
open P2m (Mfn FrameInfo Link Kind Claim)

variable {hv hv' : Hypervisor}

/-- The states that some sequence of transitions leads to, each returning `Ok` or `Err`. -/
def Reachable (c : Config) (hv : Hypervisor) : Prop := ∃ ts, Op.run apply ts (new c) = hv

theorem Reachable.invariant {c : Config} {P : Hypervisor → Prop} (start : P (new c))
    (keeps : ∀ t hv, P hv → P (apply t hv).2) (reachable : Reachable c hv) : P hv := by
  obtain ⟨ts, rfl⟩ := reachable
  exact Op.run_invariant keeps start ts

theorem Reachable.apply {c : Config} (reachable : Reachable c hv) (t : Transition) :
    Reachable c (apply t hv).2 := by
  obtain ⟨ts, rfl⟩ := reachable
  exact ⟨ts ++ [t], Op.run_concat ..⟩

/-- The results of the sub-steps that concern memory. -/
structure MemoryLogged (log : TeardownLog) : Prop where
  foreignUnmaps : ∃ us : List Unmapped, log.foreignUnmaps = us.map .ok
  foreignMirrors : ∀ r ∈ log.foreignMirrors, r = .ok ()
  inwardUnlinks : ∀ r ∈ log.inwardUnlinks, r = .ok ()
  ownUnmaps : ∃ us : List Unmapped, log.ownUnmaps = us.map .ok
  ownMirrors : ∀ r ∈ log.ownMirrors, r = .ok ()
  revocations : ∀ r ∈ log.revocations, r = .ok ()
  unlinks : ∀ r ∈ log.unlinks, r = .ok ()
  unpins : ∀ r ∈ log.unpins, r = .ok ()
  frees : ∀ r ∈ log.frees, r = .ok ()
  inboundRevocations : ∀ r ∈ log.inboundRevocations, r = .ok ()

section Projections

variable (target : DomId) (now : Ticks) (hv : Hypervisor)

/-- The memory of the other domains once no mapping involves `target`. -/
def detach : Memory := (releaseOwn target (forceReclaim target ⟨hv.grant, hv.p2m⟩).2).2

theorem teardown_grant : (hv.teardown target now).2.grant =
    (Grant.System.revokeGrantsTo target
      (Grant.System.revokeAll target (detach target hv).grant).2).2 := by
  simp only [teardown, sweepOrphanedControlEdges, clearControls, detach]

theorem teardown_p2m : (hv.teardown target now).2.p2m =
    (P2m.System.freeAll target (P2m.System.unpinAll target
      (P2m.System.unlinkAll target (detach target hv).p2m).2).2).2 := by
  simp only [teardown, sweepOrphanedControlEdges, clearControls, detach]

theorem teardown_sched :
    (hv.teardown target now).2.sched = (Sched.System.offlineAll target now hv.sched).2 := by
  simp only [teardown, sweepOrphanedControlEdges, clearControls]

theorem teardown_evtchn : (hv.teardown target now).2.evtchn =
    Evtchn.System.clearUnboundInto target (Evtchn.System.closeAll target hv.evtchn).2 := by
  simp only [teardown, sweepOrphanedControlEdges, clearControls]

theorem teardown_device :
    (hv.teardown target now).2.device = Device.System.releaseAllOf target hv.device := by
  simp only [teardown, sweepOrphanedControlEdges, clearControls]

theorem teardown_life : (hv.teardown target now).2.life = hv.life.set target.toNat .dead := by
  simp only [teardown, sweepOrphanedControlEdges, clearControls]

theorem teardown_mayCreate :
    (hv.teardown target now).2.mayCreate = hv.mayCreate.set target.toNat false := by
  simp only [teardown, sweepOrphanedControlEdges, clearControls]

theorem teardown_credit : (hv.teardown target now).2.credit = hv.credit := by
  simp only [teardown, sweepOrphanedControlEdges, clearControls]

theorem teardown_controls : (hv.teardown target now).2.controls =
    sweepUntilStable hv.domainCount (hv.domainCount * hv.domainCount + 1)
      (hv.clearControls target).controls := by
  simp only [teardown, sweepOrphanedControlEdges, clearControls, domainCount]

end Projections

theorem teardown_memory (sound : Sound [] hv.grant hv.p2m) (target : DomId) (now : Ticks) :
    MemoryLogged (hv.teardown target now).1 ∧
      Reclaimed target hv.grant hv.p2m (hv.teardown target now).2.grant
        (hv.teardown target now).2.p2m := by
  obtain ⟨foreign, foreignMirrors, inward, isolated⟩ := forceReclaim_spec sound target
  obtain ⟨own, ownMirrors, detached⟩ := releaseOwn_spec isolated
  obtain ⟨revoked, unlinked, unpinned, freed, withdrawn, reclaimed⟩ :=
    reclaim_frames sound detached
  rw [teardown_grant, teardown_p2m]
  refine ⟨?_, reclaimed⟩
  constructor <;> simp only [teardown]
  exacts [foreign, foreignMirrors, inward, own, ownMirrors, revoked, unlinked, unpinned, freed,
    withdrawn]

theorem Regular.new (c : Config) : Regular (new c) where
  memory := .new c.numDomains c.grantsPerDomain c.numFrames
  sched := .new c.numDomains c.vcpusPerDomain c.numPcpus

theorem wakeIfDeliverable_cases (hv : Hypervisor) (dom : DomId) (port : Evtchn.Port) :
    (hv.wakeIfDeliverable dom port = hv ∧ (hv.evtchn.deliverable dom port = true → ∀ vcpu,
        hv.evtchn.notifyTarget dom port = some vcpu → hv.sched.stateOf dom vcpu ≠ some .blocked)) ∨
      ∃ vcpu c s', c.state = .blocked ∧ hv.evtchn.deliverable dom port = true ∧
        hv.evtchn.notifyTarget dom port = some vcpu ∧
        Sched.System.Moved dom vcpu c { c with state := .runnable } hv.sched s' ∧
        hv.wakeIfDeliverable dom port = { hv with sched := s' } := by
  unfold wakeIfDeliverable
  split_ifs with waits
  · cases notified : hv.evtchn.notifyTarget dom port with
    | none => exact .inl ⟨rfl, fun _ _ absent => by cases absent⟩
    | some vcpu =>
        rcases Sched.System.wake_cases hv.sched dom vcpu with
          ⟨c, s', blocked, ran, moved⟩ | ⟨unblocked, e, failed⟩
        · exact .inr ⟨vcpu, c, s', blocked, waits, rfl, moved, by simp only [ran]⟩
        · refine .inl ⟨by simp only [failed], fun _ _ here => ?_⟩
          cases here
          exact unblocked
  · exact .inl ⟨rfl, fun absurd' => absurd absurd' waits⟩

theorem Regular.signalled {actor : DomId} (regular : Regular hv)
    (signalled : Signalled actor hv hv') : Regular hv' := by
  obtain @⟨target, s', -, -⟩ := signalled
  rcases wakeIfDeliverable_cases { hv with evtchn := s' } target.1 target.2 with
    ⟨same, -⟩ | ⟨vcpu, c, s'', -, -, -, moved, woken⟩
  · rw [same]
    exact ⟨regular.memory, regular.sched⟩
  · rw [woken]
    exact ⟨regular.memory, moved.consistent regular.sched⟩

theorem unused_of_not_foreignLinked {p : P2m.System} {frame : Mfn}
    {grantor grantee : DomId} (unused : p.isForeignLinkedBy frame grantee = false) {l : Link}
    (isLive : l ∈ p.live) (into : p.ownerOf l.child = some grantor)
    (foreign : p.ownerOf l.parent ≠ some grantor) (linker : p.ownerOf l.parent = some grantee) :
    l.child ≠ frame := by
  rintro rfl
  simp only [P2m.System.isForeignLinkedBy, List.any_eq_false] at unused
  obtain ⟨stored, active⟩ := Slab.mem_live.mp isLive
  refine unused l stored ?_
  simp only [active, linker, into, decide_true, Bool.and_self, Bool.true_and, decide_eq_true_eq]
  rw [linker] at foreign
  exact foreign

theorem Regular.effect {actor : DomId} (regular : Regular hv) (effect : Effect actor hv hv') :
    Regular hv' := by
  obtain ⟨memory, sched⟩ := regular
  cases effect with
  | signal signalled => exact Regular.signalled ⟨memory, sched⟩ signalled
  | sched moved _ _ => exact ⟨memory, moved.consistent sched⟩
  | grantAccess known _ free => exact ⟨memory.grantAccess known free, sched⟩
  | endAccess active unmapped unused =>
      refine ⟨memory.endAccess active unmapped ?_, sched⟩
      exact fun l isLive into foreign linker =>
        unused_of_not_foreignLinked unused isLive into foreign linker
  | map mapped grants _ _ known owner accepted =>
      exact ⟨memory.map mapped grants known owner accepted, sched⟩
  | unmap _ _ _ _ sound => exact ⟨sound, sched⟩
  | frame _ _ sound => exact ⟨sound, sched⟩
  | link _ _ _ sound => exact ⟨sound, sched⟩
  | unlink _ _ _ sound => exact ⟨sound, sched⟩
  | @destroy target now _ _ =>
      obtain ⟨-, reclaimed⟩ := teardown_memory memory target now
      obtain ⟨-, offlined, -⟩ := Sched.System.offlineAll_spec sched target now
      rw [← teardown_sched] at offlined
      exact ⟨reclaimed.sound, offlined.consistent⟩
  | _ => exact ⟨memory, sched⟩

theorem Regular.apply (t : Transition) (regular : Regular hv) : Regular (apply t hv).2 := by
  refine Op.Yields.state ((apply_spec regular t).mono ?_ ?_)
  · rintro - hv' (⟨-, -, effect⟩ | signalled)
    · exact regular.effect effect
    · exact regular.signalled signalled
  · intro hv' rejected
    refine ⟨rejected.sound, ?_⟩
    rw [rejected.others]
    exact regular.sched

theorem Reachable.regular {c : Config} (reachable : Reachable c hv) : Regular hv :=
  reachable.invariant (Regular.new c) fun t _ => Regular.apply t

/-- Holds initially, kept by every successful and by every rejected step. -/
theorem Reachable.preserved {c : Config} {P : Hypervisor → Prop} (start : P (new c))
    (step : ∀ {t hv hv'}, Regular hv → P hv → Step hv t hv' → P hv')
    (rejected : ∀ {hv hv'}, P hv → Rejected hv hv' → P hv') (reachable : Reachable c hv) :
    P hv := by
  have both : Regular hv ∧ P hv := by
    refine reachable.invariant (P := fun hv => Regular hv ∧ P hv) ⟨Regular.new c, start⟩ ?_
    rintro t hv ⟨regular, holds⟩
    refine ⟨regular.apply t, Op.Yields.state (P := P) ((apply_spec regular t).mono ?_ ?_)⟩
    · exact fun _ hv' taken => step regular holds taken
    · exact fun hv' refused => rejected holds refused
  exact both.2

/-- Equality of everything that can be observed: the grant tables may differ in inactive
mapping records, a frame without a page-table type in its stale level. -/
structure SameView (hv hv' : Hypervisor) : Prop where
  credit : hv'.credit = hv.credit
  ports : hv'.evtchn = hv.evtchn
  vcpus : hv'.sched = hv.sched
  devices : hv'.device = hv.device
  life : hv'.life = hv.life
  mayCreate : hv'.mayCreate = hv.mayCreate
  controls : hv'.controls = hv.controls
  grants : hv'.grant.domains = hv.grant.domains
  mappings : hv'.grant.live = hv.grant.live
  links : hv'.p2m.live = hv.p2m.live
  frameCount : hv'.p2m.frameCount = hv.p2m.frameCount
  frames : ∀ m, (hv'.p2m.info m).map FrameInfo.visible = (hv.p2m.info m).map FrameInfo.visible

theorem Rejected.sameView (rejected : Rejected hv hv') : SameView hv hv' := by
  have others := rejected.others
  exact {
    credit := by rw [others]
    ports := by rw [others]
    vcpus := by rw [others]
    devices := by rw [others]
    life := by rw [others]
    mayCreate := by rw [others]
    controls := by rw [others]
    grants := rejected.entries
    mappings := rejected.mappings
    links := rejected.frames.live
    frameCount := rejected.frames.frameCount
    frames := rejected.frames.info }

/-- A transition that returns `Err` leaves everything observable as it was. -/
theorem apply_error_sameView (c : Config) (hv : Hypervisor) (reachable : Reachable c hv)
    (t : Transition) (e : HvError) (failed : (apply t hv).1 = .error e) :
    SameView hv (apply t hv).2 := by
  have outcome := apply_spec reachable.regular t
  match ran : apply t hv, outcome with
  | (.ok _, _), _ => simp [ran] at failed
  | (.error _, _), rejected => exact Rejected.sameView rejected

/-- A mapping of a frame that was pinned meanwhile is taken back. -/
theorem grantMap_error_sameView :
    let c : Config := ⟨2, 1, 1, 1, 1, 1, 0⟩
    let hv := Op.run apply [.guest 0 (.domainCreate 1 false), .guest 0 (.p2mAllocate 0),
      .guest 0 (.grantAccess 0 1 0 false), .guest 0 (.p2mPin 0 .l1)] (new c)
    let t := Transition.guest 1 (.grantMap 0 0 true)
    (apply t hv).1 = .error (.p2m .typePinned) ∧ SameView hv (apply t hv).2 :=
  ⟨by decide +kernel, apply_error_sameView _ _ ⟨_, rfl⟩ _ (.p2m .typePinned) (by decide +kernel)⟩

theorem count_backing {g : Grant.System} (consistent : g.Consistent) (m : Mfn) (w : Bool) :
    (g.backing.map Unmapped.claim).count (m, if w then .write else .bare) =
      g.live.countP fun mp => mp.writable = w && g.grantedFrame mp.grantor mp.gref = some m := by
  unfold Grant.System.backing
  rw [List.count, List.map_map, List.countP_map]
  refine List.countP_congr ?_
  intro mp isLive
  obtain ⟨a, active, -⟩ := consistent.backed isLive
  simp only [Function.comp_apply, Grant.System.backingOf_of_active active, Unmapped.claim,
    Grant.System.grantedFrame, active, Option.map_some, beq_iff_eq, Prod.mk.injEq, Bool.and_eq_true,
    decide_eq_true_eq, Option.some.injEq]
  cases mp.writable <;> cases w <;> simp

theorem count_backing_other (us : List Unmapped) (m : Mfn) {k : Kind} (notWrite : k ≠ .write)
    (notBare : k ≠ .bare) : (us.map Unmapped.claim).count (m, k) = 0 := by
  rw [List.count_eq_zero]
  intro held
  obtain ⟨u, -, same⟩ := List.mem_map.mp held
  simp only [Unmapped.claim, Prod.mk.injEq] at same
  split_ifs at same
  · exact notWrite same.2.symm
  · exact notBare same.2.symm

/-- The counters of every allocated frame, in terms of the live mappings and entries. -/
theorem refs_exact (c : Config) (hv : Hypervisor) (reachable : Reachable c hv) (m : Mfn)
    (i : FrameInfo) (known : hv.p2m.info m = some i) :
    i.writableRefs =
        (hv.grant.live.countP fun mp =>
          mp.writable && hv.grant.grantedFrame mp.grantor mp.gref = some m) +
        (hv.p2m.live.countP fun l => l.leaf && l.writable && l.child = m) ∧
      i.executableRefs = (hv.p2m.live.countP fun l => l.leaf && l.execute && l.child = m) ∧
      i.pagetableRefs =
        (hv.p2m.live.countP fun l => l.parent = m) +
        (hv.p2m.live.countP fun l => !l.leaf && l.child = m) + (if i.pinned then 1 else 0) ∧
      i.refs = i.writableRefs + i.executableRefs + i.pagetableRefs +
        (hv.grant.live.countP fun mp =>
          !mp.writable && hv.grant.grantedFrame mp.grantor mp.gref = some m) +
        (hv.p2m.live.countP fun l => l.leaf && !l.writable && !l.execute && l.child = m) := by
  have sound := reachable.regular.memory
  have balanced := sound.pages.balanced known
  have total := balanced.total_eq
  obtain ⟨writable, executable, pagetable, -⟩ := balanced
  have shape := fun l (isLive : l ∈ hv.p2m.live) => P2m.kind_shaped (sound.pages.shaped isLive)
  have writeLinks := P2m.countP_kind (fun l isLive => (shape l isLive).1) m
  have execLinks := P2m.countP_kind (fun l isLive => (shape l isLive).2.1) m
  have tableLinks := P2m.countP_kind (fun l isLive => (shape l isLive).2.2.1) m
  have bareLinks := P2m.countP_kind (fun l isLive => (shape l isLive).2.2.2) m
  have writeMaps := count_backing sound.grants m true
  have bareMaps := count_backing sound.grants m false
  have execMaps := count_backing_other hv.grant.backing m (k := .exec) (by decide) (by decide)
  have tableMaps := count_backing_other hv.grant.backing m (k := .table) (by decide) (by decide)
  simp only [P2m.System.claims, List.count_append, P2m.count_linkClaims, List.append_nil,
    writeLinks,
    execLinks, tableLinks, bareLinks, execMaps, tableMaps, reduceCtorEq, if_false, if_true,
    FrameInfo.pins, Nat.zero_add, Nat.add_zero] at writable executable pagetable total
  simp only [Bool.decide_eq_true, Bool.decide_eq_false, if_true, Bool.false_eq_true, if_false]
    at writeMaps bareMaps
  refine ⟨?_, executable, pagetable, ?_⟩
  · rw [writable, writeMaps, Nat.add_comm]
  · rw [total, bareMaps]
    omega

/-- A frame under a writable mapping. -/
theorem refs_exact_mapped :
    let hv := Op.run apply [.guest 0 (.domainCreate 1 false), .guest 0 (.p2mAllocate 0),
      .guest 0 (.grantAccess 0 1 0 false), .guest 1 (.grantMap 0 0 true)]
      (new ⟨2, 1, 1, 1, 1, 1, 0⟩)
    hv.p2m.info 0 = some ⟨0, 1, 1, 0, 0, .l1, false⟩ ∧
      1 = (hv.grant.live.countP fun mp =>
          mp.writable && hv.grant.grantedFrame mp.grantor mp.gref = some 0) +
        (hv.p2m.live.countP fun l => l.leaf && l.writable && l.child = 0) :=
  ⟨by decide +kernel, (refs_exact _ _ ⟨_, rfl⟩ 0 ⟨0, 1, 1, 0, 0, .l1, false⟩ (by decide +kernel)).1⟩

end Baleen.Hypervisor
