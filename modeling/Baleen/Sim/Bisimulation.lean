import Baleen.Sim.KeyedStates
import Baleen.Hypervisor.Invariant

/-!
# What equal keys are good for

Two states of one universe with one key take every transition in step as long as nothing
differs between them that the key cuts short, and not beyond that: a device past the 16-bit
count is not part of the key, but the domain that holds it can give it back.
-/

namespace Baleen

open Evtchn (Port)
open Sched (Pcpu)
open Grant (GrantHandle GrantRef Access)
open P2m (Mfn PageType)
open Device (DevId)
open Hypervisor (Reachable Addressable apply route)

theorem P2m.System.Alike.refs {s t : P2m.System} (alike : s.Alike t) (mfn : Mfn) :
    s.refs mfn = t.refs mfn := by
  have counts := congrArg (Option.map FrameInfo.refs) (alike.info mfn)
  simpa [P2m.System.refs, Function.comp_def, FrameInfo.visible] using counts

theorem P2m.System.Alike.typeRefs {s t : P2m.System} (alike : s.Alike t) (mfn : Mfn)
    (ty : PageType) : s.typeRefs mfn ty = t.typeRefs mfn ty := by
  have same := alike.info mfn
  unfold P2m.System.typeRefs
  match here : s.info mfn, there : t.info mfn with
  | none, none => rfl
  | none, some j => simp [here, there] at same
  | some i, none => simp [here, there] at same
  | some i, some j =>
      simp only [here, there, Option.map_some, Option.some.injEq, P2m.FrameInfo.visible_iff] at same
      obtain ⟨-, -, writable, -, pagetable, -, level⟩ := same
      cases ty with
      | writable => exact congrArg some writable
      | pageTable l =>
          simp only [Option.map_some, ← pagetable]
          by_cases typed : 0 < i.pagetableRefs
          · rw [level typed]
          · simp only [typed, false_and, if_false]

namespace Enumerate

variable {c : Config} {s t : Hypervisor}

theorem handles_alike (alike : s.grant.Alike t.grant) (consistent : s.grant.Consistent)
    (consistent' : t.grant.Consistent) : track s = track t := by
  funext d
  have slots : s.grant.handleSlots d = t.grant.handleSlots d :=
    Grant.System.handleSlots_congr fun m _ => alike.mappings.mem_iff
  unfold track
  rw [slots]
  refine List.map_congr_left fun h _ => ?_
  exact Grant.System.mappingAt_congr consistent' consistent (fun m _ => alike.mappings.mem_iff) _

theorem frameRec_alike (alike : s.p2m.Alike t.p2m) : frameRec s = frameRec t := by
  funext m
  unfold frameRec tableRefs
  simp only [alike.ownerOf, alike.refs, alike.typeRefs, alike.currentType, alike.isPinned]

theorem vcpuRec_alike (alike : s.sched.Alike t.sched) : vcpuRec s = vcpuRec t := by
  funext d v
  unfold vcpuRec
  rw [alike.stateOf, alike.affinityOf]

theorem ofFirst_alike (alike : s.Alike t) : ofFirst s = ofFirst t := by
  funext count
  unfold ofFirst
  rw [alike.domainCount]

/-- The snapshots differ in the order of the edges alone. -/
theorem fromHv_alike (alike : s.Alike t) (consistent : s.grant.Consistent)
    (consistent' : t.grant.Consistent) :
    Snapshot.fromHv s = { Snapshot.fromHv t with edges := s.p2m.linkEdges } := by
  have doms : s.doms = t.doms := by unfold Hypervisor.doms; rw [alike.domainCount]
  have grantEntry : s.grant.grantEntry = t.grant.grantEntry := by
    funext d r
    exact alike.grant.grantEntry d r
  have entryCount : s.grant.entryCount = t.grant.entryCount := by
    funext d
    unfold Grant.System.entryCount
    rw [alike.grant.domains]
  have vcpuCount : s.sched.vcpuCount = t.sched.vcpuCount := funext alike.sched.vcpuCount
  have occupant : s.sched.occupant = t.sched.occupant := by
    funext p
    unfold Sched.System.occupant
    rw [alike.sched.pcpus]
  have ports : portRec s = portRec t := by
    funext d p
    unfold portRec
    rw [alike.evtchn]
  have holders : s.device.holderOf = t.device.holderOf := by
    funext dev
    unfold Device.System.holderOf
    rw [alike.device.holders]
  have live : s.isLive = t.isLive := funext alike.isLive
  have permitted : s.mayCreateOf = t.mayCreateOf := by
    funext d
    unfold Hypervisor.mayCreateOf
    rw [alike.mayCreate]
  have control : s.controlEdge = t.controlEdge := by
    funext h d
    exact alike.controlEdge h d
  unfold Snapshot.fromHv
  simp only [doms, grantEntry, entryCount, vcpuCount, occupant, ports, holders, live, permitted,
    control, ofFirst_alike alike, alike.evtchn, alike.domainCount, alike.sched.pcpus,
    alike.p2m.frameCount, alike.device.deviceCount,
      handles_alike alike.grant consistent consistent',
    frameRec_alike alike.p2m, vcpuRec_alike alike.sched]

theorem stateKey_alike (alike : s.Alike t) (consistent : s.grant.Consistent)
    (consistent' : t.grant.Consistent) : stateKey s = stateKey t := by
  have edges : s.p2m.linkEdges.Perm t.p2m.linkEdges := alike.p2m.links.map _
  have sorted : sortedEdges s.p2m.linkEdges = sortedEdges t.p2m.linkEdges := by
    unfold sortedEdges
    rw [mergeSort_eq_of_perm (edges.map edgeWords)]
  have count : s.p2m.linkEdges.length = (Snapshot.fromHv t).edges.length := edges.length_eq
  have sorted : sortedEdges s.p2m.linkEdges = sortedEdges (Snapshot.fromHv t).edges := sorted
  unfold stateKey
  rw [fromHv_alike alike consistent consistent']
  unfold snapshotKey
  simp only [sorted, count]

theorem ofFirst_lt {count : DomId → Nat} {bound : Nat} (positive : 0 < bound)
    (few : count 0 < bound) : ofFirst s count < bound := by
  unfold ofFirst
  split_ifs
  · exact few
  · exact positive

theorem gather_grid {α : Type} (words : α → List Nat) {rows columns : Nat} (few : rows < 2 ^ 16)
    (narrow : columns < 2 ^ 32) (f : UInt16 → UInt32 → α) :
    ∃ k, gather words ((Words.range16 rows).flatMap fun i => (Words.range32 columns).map (f i))
      (rowMajor rows columns) = some k := by
  have whole := gather_all words
    ((Words.range16 rows).flatMap fun i => (Words.range32 columns).map (f i))
  rw [grid_length, Nat.mod_eq_of_lt few, Nat.mod_eq_of_lt narrow] at whole
  rw [rowMajor_eq]
  exact ⟨_, whole⟩

theorem gather_list {α : Type} (words : α → List Nat) {xs : List α} {n : Nat}
    (count : xs.length = n) : ∃ k, gather words xs (List.range n) = some k := by
  subst count
  exact ⟨_, gather_all words xs⟩

theorem exists_stateKey (addressable : Addressable c) (here : Reachable c s) :
    ∃ k, stateKey s = some k := by
  have domains : s.domainCount < 2 ^ 16 := here.domainCount ▸ addressable.domains
  have below : ∀ {n columns : Nat}, columns < 2 ^ 32 → (if n < c.numDomains then columns else 0) <
      2 ^ 32 := by
    intro n columns narrow
    split_ifs
    · exact narrow
    · exact Nat.two_pow_pos 32
  have ports : ofFirst s s.evtchn.portCount < 2 ^ 32 :=
    ofFirst_lt (Nat.two_pow_pos 32) (Hypervisor.portCount_eq here 0 ▸ below addressable.ports)
  have grants : ofFirst s s.grant.entryCount < 2 ^ 32 :=
    ofFirst_lt (Nat.two_pow_pos 32) (Hypervisor.entryCount_eq here 0 ▸ below addressable.grants)
  have vcpus : ofFirst s s.sched.vcpuCount < 2 ^ 32 :=
    ofFirst_lt (Nat.two_pow_pos 32) (Hypervisor.vcpuCount_eq here 0 ▸ below addressable.vcpus)
  have pcpus : s.sched.pcpus.length < 2 ^ 32 := Hypervisor.pcpus_length here ▸ addressable.pcpus
  have frames : s.p2m.frameCount < 2 ^ 32 := Hypervisor.frameCount_eq here ▸ addressable.frames
  obtain ⟨portWords, readPorts⟩ := gather_grid PortRec.words domains ports (portRec s)
  obtain ⟨entryWords, readGrants⟩ := gather_grid grantWords domains grants s.grant.grantEntry
  obtain ⟨vcpuWords, readVcpus⟩ := gather_grid VcpuRec.words domains vcpus (vcpuRec s)
  have row : s.doms.length = s.domainCount :=
    (range16_length _).trans (Nat.mod_eq_of_lt domains)
  have cpus : (Snapshot.fromHv s).occ.length = s.sched.pcpus.length :=
    (List.length_map _).trans ((range32_length _).trans (Nat.mod_eq_of_lt pcpus))
  have pages : (Snapshot.fromHv s).frames.length = s.p2m.frameCount :=
    (List.length_map _).trans ((range32_length _).trans (Nat.mod_eq_of_lt frames))
  have lives : ((Snapshot.fromHv s).live.zip (Snapshot.fromHv s).mayCreate).length =
      s.domainCount := by
    simp [Snapshot.fromHv, row]
  have square : (Snapshot.fromHv s).control.length = s.domainCount * s.domainCount := by
    simp [Snapshot.fromHv, row, List.length_flatMap]
  obtain ⟨occ, readOcc⟩ := gather_list occWords cpus
  obtain ⟨frame, readFrames⟩ := gather_list frameWords pages
  obtain ⟨life, readLife⟩ := gather_list
    (fun life : Bool × Bool => [life.1.toNat, life.2.toNat]) lives
  obtain ⟨control, readControl⟩ := gather_list (fun c => [controlWord c]) square
  rw [← rowMajor_eq] at readControl
  unfold stateKey snapshotKey
  simp only [Option.bind_eq_bind, Option.bind_eq_some_iff, Option.pure_def]
  exact ⟨_, _, readPorts, _, readGrants, _, readVcpus, _, readOcc, _, readFrames, _, readLife, _,
    readControl, rfl⟩

theorem apply_guest (caller : DomId) (call : HvCall) :
    apply (.guest caller call) = (route caller call >>= fun r => pure (.guest r)) := rfl

section Probes

variable {d : DomId} (inside : d.toNat < s.domainCount) (alive : s.isLive d = true)

include inside alive

theorem route_deviceRelease (dev : DevId) :
    route d (.deviceRelease dev d) s =
      (Hypervisor.onDevice (Device.System.release dev d) >>= fun _ =>
        pure .done : Op Hypervisor HvError HvOutcome) s := by
  have inside : decide (d.toNat < s.domainCount) = true := decide_eq_true inside
  simp only [route, Hypervisor.inRange, Hypervisor.deviceRelease, Hypervisor.selfOrControls,
    Op.ensure_bind_apply, inside, alive, decide_true, Bool.true_or, if_true]

theorem route_grantUnmap (h : GrantHandle) :
    route d (.grantUnmap h) s = Hypervisor.grantUnmap d h s := by
  have inside : decide (d.toNat < s.domainCount) = true := decide_eq_true inside
  simp only [route, Hypervisor.inRange, Op.ensure_bind_apply, inside, alive, if_true]

/-- A domain can give back exactly the devices it holds. -/
theorem deviceRelease_outcome (known : d.toNat < s.device.numDomains) (dev : DevId) :
    (apply (.guest d (.deviceRelease dev d)) s).1 = .ok (.guest .done) ↔
      s.device.holderOf dev = some d := by
  have known : decide (d.toNat < s.device.numDomains) = true := decide_eq_true known
  have outcome : ∀ {r s'}, Device.System.release dev d s.device = (r, s') →
      ((apply (.guest d (.deviceRelease dev d)) s).1 = .ok (.guest .done) ↔ r = .ok ()) := by
    intro r s' ran
    rw [apply_guest, Op.bind_apply, route_deviceRelease inside alive, Op.bind_apply]
    unfold Hypervisor.onDevice
    cases r with
    | ok _ =>
        rw [Op.zoom_ok ran]
        simp
    | error e =>
        rw [Op.zoom_error ran]
        simp
  unfold Device.System.holderOf
  unfold Device.System.release at outcome
  simp only [Op.ensure_bind_apply, known, if_true, Op.read_bind_apply] at outcome
  cases found : s.device.holders[dev.toNat]? with
  | none =>
      rw [found] at outcome
      simp [outcome rfl]
  | some slot =>
      rw [found] at outcome
      simp only [Op.ensure_bind_apply] at outcome
      by_cases held : slot = some d
      · simp only [held, decide_true, if_true] at outcome
        simp [outcome rfl, held]
      · simp only [held, decide_false, Bool.false_eq_true, if_false] at outcome
        simp [outcome rfl, held]

theorem grantUnmap_ok (consistent : s.grant.Consistent) {h : GrantHandle} {m : Grant.Mapping}
    (isLive : m ∈ s.grant.live) (name : m.name = (d, h)) :
    (apply (.guest d (.grantUnmap h)) s).1 = .ok (.guest .done) ∧ ∃ a,
      Grant.System.Released m a s.grant (apply (.guest d (.grantUnmap h)) s).2.grant := by
  obtain ⟨rfl, rfl⟩ := Prod.mk.inj name
  obtain ⟨a, g, ran, released⟩ := Grant.System.unmap_ok consistent isLive
  rw [apply_guest, Op.bind_apply, route_grantUnmap inside alive]
  unfold Hypervisor.grantUnmap Hypervisor.onGrant
  rw [Op.bind_of_ok (Op.zoom_ok ran)]
  exact ⟨rfl, a, released⟩

theorem grantUnmap_error (consistent : s.grant.Consistent) {h : GrantHandle}
    (missing : s.grant.mappingAt d h = none) :
    (apply (.guest d (.grantUnmap h)) s).1 ≠ .ok (.guest .done) := by
  rcases Grant.System.unmap_cases consistent d h with
    ⟨m, a, g, isLive, name, -, -⟩ | ⟨-, e, failed⟩
  · have found := (Grant.System.mappingAt_eq_some consistent).mpr ⟨m, isLive, name, rfl⟩
    rw [missing] at found
    cases found
  · rw [apply_guest, Op.bind_apply, route_grantUnmap inside alive]
    unfold Hypervisor.grantUnmap Hypervisor.onGrant
    rw [Op.bind_of_error (Op.zoom_error failed)]
    simp

end Probes

/-- A release shows which entry it was from, and whether the mapping was writable. -/
theorem released_fields {g g₁ g' g₁' : Grant.System} {m m' : Grant.Mapping} {a a' : Access}
    (consistent : g.Consistent) (consistent' : g'.Consistent) (before : g.domains = g'.domains)
    (after : g₁.domains = g₁'.domains) (released : Grant.System.Released m a g g₁)
    (released' : Grant.System.Released m' a' g' g₁') :
    (m.grantor, m.gref, m.writable) = (m'.grantor, m'.gref, m'.writable) := by
  have entries : ∀ {g g' : Grant.System}, g.domains = g'.domains →
      ∀ d r, g.grantEntry d r = g'.grantEntry d r := by
    intro g g' same d r
    unfold Grant.System.grantEntry Grant.System.entryAt
    rw [same]
  have active : g'.grantEntry m.grantor m.gref = some a := entries before _ _ ▸ released.active
  have dropped := released.grantEntry m.grantor m.gref
  rw [if_pos ⟨rfl, rfl⟩, entries after, released'.grantEntry] at dropped
  have mapped : 0 < a.maps := by
    rw [(consistent.counts released.active).1, List.countP_pos_iff]
    exact ⟨m, released.mem_live, Grant.System.ofEntry_iff.mpr ⟨rfl, rfl⟩⟩
  split_ifs at dropped with here
  · obtain ⟨grantor, gref⟩ := here
    have active' := released'.active
    rw [grantor, gref, active, Option.some.injEq] at active'
    subst active'
    have written : ∀ {g : Grant.System} {m : Grant.Mapping}, g.Consistent → m ∈ g.live →
        g.grantEntry m.grantor m.gref = some a → m.writable = true → 0 < a.writableMaps := by
      intro g m consistent isLive active writable
      rw [(consistent.counts active).2, List.countP_pos_iff]
      exact ⟨m, isLive, by simp [writable]⟩
    have counts : (a.unmapped m'.writable).writableMaps = (a.unmapped m.writable).writableMaps :=
      congrArg (·.writableMaps) (Option.some.inj dropped)
    have writable : m.writable = m'.writable := by
      simp only [Access.unmapped] at counts
      cases w : m.writable <;> cases w' : m'.writable
      · rfl
      · have some' := written consistent' released'.mem_live
          (by rw [grantor, gref]; exact active) w'
        simp only [w, w', if_true, Bool.false_eq_true, if_false] at counts
        omega
      · have some' := written consistent released.mem_live released.active w
        simp only [w, w', if_true, Bool.false_eq_true, if_false] at counts
        omega
      · rfl
    rw [grantor, gref, writable]
  · rw [active, Option.some.injEq] at dropped
    have count : a.maps = a.maps - 1 := congrArg (·.maps) dropped
    omega

/-- One outcome, and successors with one key. -/
def InStep (s t : Hypervisor) (tr : Transition) : Prop :=
  (apply tr s).1 = (apply tr t).1 ∧
    ∃ k, stateKey (apply tr s).2 = some k ∧ stateKey (apply tr t).2 = some k

theorem InStep.symm {tr : Transition} (inStep : InStep s t tr) : InStep t s tr := by
  obtain ⟨outcome, k, key, key'⟩ := inStep
  exact ⟨outcome.symm, k, key', key⟩

section InStep

variable (addressable : Addressable c) (here : Reachable c s) (there : Reachable c t)

include addressable here there

theorem inStep_of_alike (alike : s.Alike t) {tr : Transition} (uncounted : tr.isCredit = false) :
    InStep s t tr := by
  have agree := alike.step addressable here there uncounted
  have here' := here.apply tr
  have there' := there.apply tr
  obtain ⟨k, key⟩ := exists_stateKey addressable here'
  have same := stateKey_alike agree.state here'.regular.memory.grants there'.regular.memory.grants
  exact ⟨agree.outcome, k, key, same ▸ key⟩

/-- In step at every release, the two states have the same devices. -/
theorem holderOf_of_inStep (same : SameSnapshot (Snapshot.fromHv s) (Snapshot.fromHv t))
    (inStep : ∀ tr : Transition, tr.isCredit = false → InStep s t tr) {dev : DevId} {d : DomId}
    (held : s.device.holderOf dev = some d) : t.device.holderOf dev = some d := by
  obtain ⟨inside, alive⟩ := here.holder_alive (Nat.le_of_lt addressable.ports) held
  have inside' : d.toNat < t.domainCount := by rwa [there.domainCount, ← here.domainCount]
  have alive' : t.isLive d = true := by
    have life := (same.life_eq addressable here there).1
    rwa [Hypervisor.isLive, Hypervisor.lifeOf, ← life]
  have known : d.toNat < s.device.numDomains := by
    rw [here.sameUniverse.deviceDomains]
    rwa [here.domainCount] at inside
  have known' : d.toNat < t.device.numDomains := by
    rw [there.sameUniverse.deviceDomains]
    rwa [there.domainCount] at inside'
  have outcome := (inStep (.guest d (.deviceRelease dev d)) rfl).1
  have released := (deviceRelease_outcome inside alive known dev).mpr held
  exact (deviceRelease_outcome inside' alive' known' dev).mp (outcome.symm.trans released)

theorem mappingAt_of_inStep (same : SameSnapshot (Snapshot.fromHv s) (Snapshot.fromHv t))
    (inStep : ∀ tr : Transition, tr.isCredit = false → InStep s t tr) {d : DomId}
    {h : GrantHandle} {x : Mapping} (found : s.grant.mappingAt d h = some x) :
    t.grant.mappingAt d h = some x := by
  have consistent := here.regular.memory.grants
  have consistent' := there.regular.memory.grants
  obtain ⟨m, isLive, name, rfl⟩ := (Grant.System.mappingAt_eq_some consistent).mp found
  have inside : d.toNat < s.domainCount := by
    obtain ⟨a, active, addressed, -⟩ := consistent.backed isLive
    have known := consistent.known active
    rw [addressed, (Hypervisor.rows_eq here).2.1, ← here.domainCount] at known
    obtain ⟨rfl, -⟩ := Prod.mk.inj name
    exact known
  have alive : s.isLive d = true := here.alive_of_not_dead inside fun dead =>
    ((here.tidy (Nat.le_of_lt addressable.ports)).shells dead).memory.mappings m isLive
      (congrArg Prod.fst name)
  have inside' : d.toNat < t.domainCount := by rwa [there.domainCount, ← here.domainCount]
  have alive' : t.isLive d = true := by
    have life := (same.life_eq addressable here there).1
    rwa [Hypervisor.isLive, Hypervisor.lifeOf, ← life]
  obtain ⟨outcome, k, key, key'⟩ := inStep (.guest d (.grantUnmap h)) rfl
  obtain ⟨ran, a, released⟩ := grantUnmap_ok inside alive consistent isLive name
  cases found' : t.grant.mappingAt d h with
  | none =>
      exact absurd (outcome.symm.trans ran) (grantUnmap_error inside' alive' consistent' found')
  | some y =>
      obtain ⟨m', isLive', name', rfl⟩ := (Grant.System.mappingAt_eq_some consistent').mp found'
      obtain ⟨-, a', released'⟩ := grantUnmap_ok inside' alive' consistent' isLive' name'
      have here' := here.apply (.guest d (.grantUnmap h))
      have there' := there.apply (.guest d (.grantUnmap h))
      have after := (sameSnapshot here' there' key key').grants_eq addressable here' there'
      have before := same.grants_eq addressable here there
      rw [released_fields consistent consistent' before after released released']

end InStep

/-- One key means one behaviour where it was not cut short, and only there. -/
theorem stateKey_bisimulation (here : Reachable c s) (there : Reachable c t) {k : List Nat}
    (key : stateKey s = some k) (key' : stateKey t = some k) :
    ((∀ tr : Transition, tr.isCredit = false → InStep s t tr) ∧
        s.invariantsHold = t.invariantsHold) ↔ SameUnlisted s t := by
  obtain ⟨c', same, addressable⟩ := exists_addressable here key
  have moved : ∀ {hv}, Reachable c hv → Reachable c' hv := by
    rintro hv ⟨ts, rfl⟩
    exact ⟨ts, by rw [same]⟩
  have here := moved here
  have there := moved there
  have shown := sameSnapshot here there key key'
  constructor
  · rintro ⟨inStep, -⟩
    have inStep' : ∀ tr : Transition, tr.isCredit = false → InStep t s tr :=
      fun tr uncounted => (inStep tr uncounted).symm
    have shown' := sameSnapshot there here key' key
    constructor
    · intro dev _
      refine Option.ext fun d => ⟨?_, ?_⟩
      · exact holderOf_of_inStep addressable here there shown inStep
      · exact holderOf_of_inStep addressable there here shown' inStep'
    · intro d h _
      refine Option.ext fun x => ⟨?_, ?_⟩
      · exact mappingAt_of_inStep addressable here there shown inStep
      · exact mappingAt_of_inStep addressable there here shown' inStep'
  · intro unlisted
    have alike := shown.alike addressable here there unlisted
    refine ⟨fun tr => inStep_of_alike addressable here there alike, ?_⟩
    have domains : c'.numDomains ≤ 65535 := Nat.le_of_lt_succ addressable.domains
    have ports := Nat.le_of_lt addressable.ports
    rw [here.checked domains ports, there.checked domains ports]

/-- A run that only accrues time has no effect on what follows. -/
theorem stateKey_bisimulation_accrued :
    let c : Config := ⟨2, 1, 1, 1, 1, 1, 1⟩
    let s := Hypervisor.new c
    let t := Op.run apply [.guest 0 (.schedAdmit 0), .guest 0 (.schedRun 0 0 3),
      .guest 0 (.schedOffline 0 9)] s
    s ≠ t ∧ (∀ tr : Transition, tr.isCredit = false → InStep s t tr) ∧
      s.invariantsHold = t.invariantsHold := by
  intro c s t
  have here : Reachable c s := ⟨[], rfl⟩
  have there : Reachable c t := ⟨_, rfl⟩
  have addressable : Addressable c := by constructor <;> decide
  have grants : s.grant = t.grant := by decide +kernel
  have devices : s.device = t.device := by decide +kernel
  have alike : s.Alike t := {
    domainCount := by decide +kernel
    evtchn := by decide +kernel
    grant := ⟨congrArg Grant.System.domains grants,
      .of_eq (congrArg Grant.System.live grants)⟩
    sched := ⟨by decide +kernel, by decide +kernel⟩
    p2m := ⟨by decide +kernel, by decide +kernel, .of_eq (by decide +kernel)⟩
    device := ⟨congrArg Device.System.numDomains devices,
      congrArg Device.System.deviceCount devices, fun dev =>
        congrArg (fun d : Device.System => d.holders[dev.toNat]?) devices⟩
    life := by decide +kernel
    mayCreate := by decide +kernel
    controls := by decide +kernel }
  obtain ⟨k, key⟩ := exists_stateKey addressable here
  have key' : stateKey t = some k :=
    (stateKey_alike alike here.regular.memory.grants there.regular.memory.grants).symm.trans key
  refine ⟨by decide +kernel, (stateKey_bisimulation here there key key').mpr ⟨?_, ?_⟩⟩
  · intro dev _
    exact congrArg (fun d : Device.System => d.holderOf dev) devices
  · intro d h _
    exact congrArg (fun g : Grant.System => g.mappingAt d h) grants

theorem deviceAssign_ok {caller d : DomId} (acts : s.isLive caller = true)
    (inside : caller.toNat < s.domainCount) (inside' : d.toNat < s.domainCount)
    (control : s.holdsControl caller d = true) (living : s.lifeOf d ≠ some .dead)
    (known : d.toNat < s.device.numDomains) {dev : DevId}
    (free : s.device.holders[dev.toNat]? = some none) :
    (apply (.guest caller (.deviceAssign dev d)) s).2 =
      { s with device := s.device.setHolder dev (some d) } := by
  have inside : decide (caller.toNat < s.domainCount) = true := decide_eq_true inside
  have inside' : decide (d.toNat < s.domainCount) = true := decide_eq_true inside'
  have living : decide (s.lifeOf d ≠ some .dead) = true := decide_eq_true living
  have assigned : Device.System.assign dev d s.device =
      (.ok (), s.device.setHolder dev (some d)) := by
    unfold Device.System.assign
    rw [Op.ensure_bind_apply, if_pos (decide_eq_true known), Op.read_bind_apply, free]
    rfl
  have ran : route caller (.deviceAssign dev d) s =
      (.ok .done, { s with device := s.device.setHolder dev (some d) }) := by
    unfold route Hypervisor.inRange
    rw [Op.ensure_bind_apply, if_pos inside, Op.ensure_bind_apply, if_pos acts]
    dsimp only
    unfold Hypervisor.deviceAssign Hypervisor.inRange Hypervisor.rejectDeadTarget
      Hypervisor.onDevice
    rw [Op.ensure_bind_apply, if_pos inside', Op.ensure_bind_apply, if_pos control,
      Op.ensure_bind_apply, if_pos living, Op.bind_of_ok (Op.zoom_ok assigned)]
    rfl
  rw [apply_guest, Op.bind_of_ok ran]
  rfl

/-- Where the 16-bit device count wraps to zero, no holder is part of the key. -/
theorem stateKey_setHolder {hv : Hypervisor} (wraps : hv.device.deviceCount % 2 ^ 16 = 0)
    (dev : DevId) (holder : Option DomId) :
    stateKey { hv with device := hv.device.setHolder dev holder } = stateKey hv := by
  have unlisted : ∀ d : Device.System, d.deviceCount % 2 ^ 16 = 0 →
      (Words.range16 d.deviceCount).map d.holderOf = [] := by
    intro d wraps
    unfold Words.range16
    rw [wraps]
    rfl
  have count : (hv.device.setHolder dev holder).deviceCount = hv.device.deviceCount := by
    simp [Device.System.setHolder, Device.System.deviceCount]
  have same : Snapshot.fromHv { hv with device := hv.device.setHolder dev holder } =
      { Snapshot.fromHv hv with
        assign := (Words.range16 (hv.device.setHolder dev holder).deviceCount).map
          (hv.device.setHolder dev holder).holderOf } := rfl
  have assign : (Snapshot.fromHv hv).assign = [] := unlisted _ wraps
  unfold stateKey
  rw [same, unlisted _ (count ▸ wraps), ← assign]

/-- The claim of a bisimulation fails where a device is not listed. -/
theorem stateKey_misses_devices : ¬∀ (c : Config) (s t : Hypervisor) (k : List Nat),
    Reachable c s → Reachable c t → stateKey s = some k → stateKey t = some k →
      (∀ tr : Transition, tr.isCredit = false → InStep s t tr) ∧
        s.invariantsHold = t.invariantsHold := by
  intro claimed
  let c : Config := ⟨2, 1, 1, 1, 1, 1, 2 ^ 16⟩
  let s := Op.run apply [.guest 0 (.domainCreate 1 false)] (Hypervisor.new c)
  let t := (apply (.guest 0 (.deviceAssign 0 1)) s).2
  have here : Reachable c s := ⟨_, rfl⟩
  have there : Reachable c t := here.apply _
  have devices : s.device = ⟨List.replicate (2 ^ 16) none, 2⟩ := rfl
  have free : s.device.holders[(0 : DevId).toNat]? = some none := by
    rw [devices]
    exact List.getElem?_replicate_of_lt (Nat.two_pow_pos 16)
  have assigned : t = { s with device := s.device.setHolder 0 (some 1) } :=
    deviceAssign_ok (by decide +kernel) (by decide +kernel) (by decide +kernel) (by decide +kernel)
      (by decide +kernel) (by decide +kernel) free
  have wraps : s.device.deviceCount % 2 ^ 16 = 0 := by
    rw [devices, Device.System.deviceCount, List.length_replicate]
    exact Nat.mod_self _
  have addressable : Addressable c := by constructor <;> decide
  obtain ⟨k, key⟩ := exists_stateKey addressable here
  have key' : stateKey t = some k := by
    rw [assigned, stateKey_setHolder wraps]
    exact key
  have outcome := ((claimed c s t k here there key key').1 (.guest 1 (.deviceRelease 0 1)) rfl).1
  have unheld : s.device.holderOf 0 ≠ some 1 := by
    unfold Device.System.holderOf
    rw [free]
    simp
  have held : t.device.holderOf 0 = some 1 := by
    rw [assigned]
    unfold Device.System.holderOf Device.System.setHolder
    rw [List.getElem?_set_self (List.getElem?_eq_some_iff.mp free).1]
    rfl
  have released := (deviceRelease_outcome (s := t) (d := 1) (assigned ▸ by decide +kernel)
    (assigned ▸ by decide +kernel) (assigned ▸ by decide +kernel) 0).mpr held
  exact unheld ((deviceRelease_outcome (s := s) (d := 1) (by decide +kernel) (by decide +kernel)
    (by decide +kernel) 0).mp (outcome.trans released))

end Enumerate

end Baleen
