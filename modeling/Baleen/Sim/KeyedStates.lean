import Baleen.Sim.StateKey
import Baleen.Hypervisor.Universe

/-!
# States with one key

Two states that runs of one configuration reach under one key differ in nothing that a
transition reads, except where the key is cut short: it has no more devices than a 16-bit
count reaches, and no more handles than a 32-bit one does.
-/

namespace Baleen

open Evtchn (EventChannel)
open Grant (Access GrantRef Mapping)
open P2m (Mfn Link)
open Device (DevId)
open Hypervisor (Reachable Addressable Regular)

namespace Enumerate

variable {c : Config} {s t : Hypervisor}

theorem ofFirst_eq {hv : Hypervisor} {count : DomId → Nat} (some' : 0 < hv.domainCount) :
    ofFirst hv count = count 0 := if_pos some'

/-- A configuration without domains has no use for its other sizes. -/
theorem exists_addressable (here : Reachable c s) {k : List Nat} (key : stateKey s = some k) :
    ∃ c', Hypervisor.new c' = Hypervisor.new c ∧ Addressable c' := by
  obtain ⟨fits, -⟩ := stateKey_eq_some key
  have count := here.domainCount
  have pcpus := fits.pcpus
  have frames := fits.frames
  have domains := fits.domains
  rw [Hypervisor.pcpus_length here] at pcpus
  rw [Hypervisor.frameCount_eq here] at frames
  rw [count] at domains
  by_cases none' : c.numDomains = 0
  · refine ⟨{ c with portsPerDomain := 0, grantsPerDomain := 0, vcpusPerDomain := 0 }, ?_, ?_⟩
    · simp [Hypervisor.new, Evtchn.System.new, Grant.System.new, Sched.System.new, Grid.fill, none']
    · exact ⟨domains, Nat.two_pow_pos 32, Nat.two_pow_pos 32, Nat.two_pow_pos 32, pcpus, frames⟩
  · have some' : 0 < c.numDomains := Nat.pos_of_ne_zero none'
    have ports := fits.ports (count ▸ some')
    have grants := fits.grants (count ▸ some')
    have vcpus := fits.vcpus (count ▸ some')
    have first : (0 : DomId).toNat < c.numDomains := some'
    rw [Hypervisor.portCount_eq here, if_pos first] at ports
    rw [Hypervisor.entryCount_eq here, if_pos first] at grants
    rw [Hypervisor.vcpuCount_eq here, if_pos first] at vcpus
    exact ⟨c, rfl, domains, ports, grants, vcpus, pcpus, frames⟩

theorem sameCounts (here : Reachable c s) (there : Reachable c t) :
    SameCounts (Snapshot.fromHv s) (Snapshot.fromHv t) := by
  have domains : s.domainCount = t.domainCount := by rw [here.domainCount, there.domainCount]
  have first : ∀ {count count' : DomId → Nat}, count 0 = count' 0 →
      ofFirst s count = ofFirst t count' := by
    intro count count' same
    unfold ofFirst
    rw [domains, same]
  have ports : ofFirst s s.evtchn.portCount = ofFirst t t.evtchn.portCount :=
    first (by rw [Hypervisor.portCount_eq here, Hypervisor.portCount_eq there])
  have grants : ofFirst s s.grant.entryCount = ofFirst t t.grant.entryCount :=
    first (by rw [Hypervisor.entryCount_eq here, Hypervisor.entryCount_eq there])
  have vcpus : ofFirst s s.sched.vcpuCount = ofFirst t t.sched.vcpuCount :=
    first (by rw [Hypervisor.vcpuCount_eq here, Hypervisor.vcpuCount_eq there])
  constructor
  · exact ((grid_length _ _ (portRec s)).trans (by rw [domains, ports])).trans
      (grid_length _ _ (portRec t)).symm
  · exact ((grid_length _ _ s.grant.grantEntry).trans (by rw [domains, grants])).trans
      (grid_length _ _ t.grant.grantEntry).symm
  · simp [Snapshot.fromHv, Hypervisor.doms, domains]
  · exact ((grid_length _ _ (vcpuRec s)).trans (by rw [domains, vcpus])).trans
      (grid_length _ _ (vcpuRec t)).symm
  · simp [Snapshot.fromHv, Hypervisor.pcpus_length here, Hypervisor.pcpus_length there]
  · simp [Snapshot.fromHv, Hypervisor.frameCount_eq here, Hypervisor.frameCount_eq there]
  · simp [Snapshot.fromHv, Hypervisor.doms, domains]
  · simp [Snapshot.fromHv, Hypervisor.doms, domains, List.length_flatMap]

theorem sameSnapshot (here : Reachable c s) (there : Reachable c t) {k : List Nat}
    (key : stateKey s = some k) (key' : stateKey t = some k) :
    SameSnapshot (Snapshot.fromHv s) (Snapshot.fromHv t) := by
  obtain ⟨-, rfl⟩ := stateKey_eq_some key
  obtain ⟨-, words⟩ := stateKey_eq_some key'
  exact Snapshot.words_cancel (sameCounts here there) words

/-- Two tables that are read out alike are alike, if the loops reach all of them. -/
theorem cell_eq {α : Type} {f g : DomId → UInt32 → α} {count count' : DomId → Nat}
    {rows columns : Nat} (here : s.domainCount = rows) (there : t.domainCount = rows)
    (few : rows < 2 ^ 16) (narrow : columns < 2 ^ 32)
    (width : ∀ d, count d = if d.toNat < rows then columns else 0)
    (width' : ∀ d, count' d = if d.toNat < rows then columns else 0)
    (same : (s.doms.flatMap fun d => (Words.range32 (ofFirst s count)).map (f d)) =
      t.doms.flatMap fun d => (Words.range32 (ofFirst t count')).map (g d))
    {d : DomId} {r : UInt32} (row : d.toNat < rows) (column : r.toNat < columns) :
    f d r = g d r := by
  have some' : (0 : DomId).toNat < rows := Nat.zero_lt_of_lt row
  unfold Hypervisor.doms at same
  rw [ofFirst_eq (here ▸ some'), ofFirst_eq (there ▸ some'), width, width', if_pos some', here,
    there] at same
  refine Codes.eq_of_flatMap_map same d ?_ r ?_
  · exact (Words.mem_range16_of_lt few).mpr row
  · exact (Words.mem_range32_of_lt narrow).mpr column

/-- A row of domains that is read out alike. -/
theorem domain_eq {α : Type} {f g : DomId → α} {rows : Nat} (here : s.domainCount = rows)
    (there : t.domainCount = rows) (few : rows < 2 ^ 16) (same : s.doms.map f = t.doms.map g)
    {d : DomId} (row : d.toNat < rows) : f d = g d := by
  unfold Hypervisor.doms at same
  rw [here, there] at same
  exact List.map_inj_left.mp same d ((Words.mem_range16_of_lt few).mpr row)

/-- Two lists that every identifier reads alike. -/
theorem list_ext16 {α : Type} {xs ys : List α} {n : Nat} (few : n < 2 ^ 16) (count : xs.length = n)
    (count' : ys.length = n) (cells : ∀ d : UInt16, d.toNat < n → xs[d.toNat]? = ys[d.toNat]?) :
    xs = ys := by
  refine List.ext_getElem? fun i => ?_
  by_cases inside : i < n
  · have small : (UInt16.ofNat i).toNat = i := Words.toNat_ofNat16 (Nat.lt_trans inside few)
    have cell := cells (UInt16.ofNat i) (small.symm ▸ inside)
    rwa [small] at cell
  · rw [List.getElem?_eq_none (count.trans_le (Nat.le_of_not_lt inside)),
      List.getElem?_eq_none (count'.trans_le (Nat.le_of_not_lt inside))]

/-- Two tables of one size that every pair of identifiers reads alike. -/
theorem grid_ext {α : Type} {g g' : Grid α} {rows columns : Nat} (few : rows < 2 ^ 16)
    (narrow : columns < 2 ^ 32) (count : g.length = rows) (count' : g'.length = rows)
    (width : ∀ d : UInt16, g.width d.toNat = if d.toNat < rows then columns else 0)
    (width' : ∀ d : UInt16, g'.width d.toNat = if d.toNat < rows then columns else 0)
    (cells : ∀ {d : UInt16} {r : UInt32}, d.toNat < rows → r.toNat < columns → ∀ {x y},
      g.get? d.toNat r.toNat = some x → g'.get? d.toNat r.toNat = some y → x = y) : g = g' := by
  refine Grid.ext_words (count.trans_lt few) (fun d => ?_) (count.trans count'.symm)
    (fun d r => ?_) fun d => (width d).trans (width' d).symm
  · rw [width]
    split_ifs <;> omega
  · by_cases inside : r.toNat < g.width d.toNat
    · obtain ⟨x, found⟩ := Grid.exists_get? inside
      rw [width, ← width'] at inside
      obtain ⟨y, found'⟩ := Grid.exists_get? inside
      rw [width'] at inside
      split_ifs at inside with row
      · rw [found, found', cells row inside found found']
      · omega
    · have outside := Nat.le_of_not_lt inside
      have outside' : g'.width d.toNat ≤ r.toNat := by rwa [width', ← width]
      rw [Grid.get?_eq_none_iff.mpr outside, Grid.get?_eq_none_iff.mpr outside']

section Shown

variable (addressable : Addressable c) (here : Reachable c s) (there : Reachable c t)
  (same : SameSnapshot (Snapshot.fromHv s) (Snapshot.fromHv t))

include addressable here there same

theorem SameSnapshot.evtchn_eq : s.evtchn = t.evtchn := by
  have width := Hypervisor.portCount_eq here
  have width' := Hypervisor.portCount_eq there
  refine congrArg Evtchn.System.mk ?_
  refine grid_ext addressable.domains addressable.ports (Hypervisor.rows_eq here).1
    (Hypervisor.rows_eq there).1 width width' ?_
  intro d p row column x y found found'
  have read := cell_eq here.domainCount there.domainCount addressable.domains
    addressable.ports width width' same.ports row column
  have found : s.evtchn.chan? d p = some x := found
  have found' : t.evtchn.chan? d p = some y := found'
  simp only [portRec, Evtchn.System.stateOf, Evtchn.System.isPending, Evtchn.System.isMasked,
    found, found', Option.map_some, Option.getD_some, PortRec.mk.injEq] at read
  obtain ⟨state, pending, masked⟩ := x
  obtain ⟨state', pending', masked'⟩ := y
  obtain ⟨rfl, rfl, rfl⟩ := read
  rfl

theorem SameSnapshot.grants_eq : s.grant.domains = t.grant.domains := by
  have width := Hypervisor.entryCount_eq here
  have width' := Hypervisor.entryCount_eq there
  refine grid_ext addressable.domains addressable.grants (Hypervisor.rows_eq here).2.1
    (Hypervisor.rows_eq there).2.1 width width' ?_
  intro d r row column x y found found'
  have read := cell_eq here.domainCount there.domainCount addressable.domains
    addressable.grants width width' same.grants row column
  have found : s.grant.entryAt d r = some x := found
  have found' : t.grant.entryAt d r = some y := found'
  unfold Grant.System.grantEntry at read
  rw [found, found'] at read
  cases x <;> cases y <;> simp_all

theorem SameSnapshot.sched_alike : s.sched.Alike t.sched := by
  have width := Hypervisor.vcpuCount_eq here
  have width' := Hypervisor.vcpuCount_eq there
  constructor
  · refine grid_ext addressable.domains addressable.vcpus ?_ ?_ ?_ ?_ ?_
    · rw [List.length_map]
      exact (Hypervisor.rows_eq here).2.2
    · rw [List.length_map]
      exact (Hypervisor.rows_eq there).2.2
    · intro d
      rw [Grid.width_map]
      exact width d
    · intro d
      rw [Grid.width_map]
      exact width' d
    · intro d v row column x y found found'
      have read := cell_eq here.domainCount there.domainCount addressable.domains
        addressable.vcpus width width' same.vcpus row column
      rw [Grid.get?_map, Option.map_eq_some_iff] at found found'
      obtain ⟨x, found, rfl⟩ := found
      obtain ⟨y, found', rfl⟩ := found'
      have found : s.sched.vcpu? d v = some x := found
      have found' : t.sched.vcpu? d v = some y := found'
      simp only [vcpuRec, Sched.System.stateOf, Sched.System.affinityOf, found, found',
        Option.map_some, Option.getD_some, VcpuRec.mk.injEq] at read
      simp only [Sched.VirtualCpu.plain, read.1, read.2]
  · have count := Hypervisor.pcpus_length here
    have count' := Hypervisor.pcpus_length there
    have occ := same.occ
    simp only [Snapshot.fromHv, count, count'] at occ
    refine List.ext_getElem? fun i => ?_
    by_cases inside : i < c.numPcpus
    · have small : (UInt32.ofNat i).toNat = i :=
        Words.toNat_ofNat32 (Nat.lt_trans inside addressable.pcpus)
      have read := List.map_inj_left.mp occ (UInt32.ofNat i)
        ((Words.mem_range32_of_lt addressable.pcpus).mpr (small.symm ▸ inside))
      unfold Sched.System.occupant at read
      rw [small] at read
      rw [List.getElem?_eq_getElem (count.symm ▸ inside),
        List.getElem?_eq_getElem (count'.symm ▸ inside)] at read ⊢
      exact congrArg some read
    · rw [List.getElem?_eq_none (count.trans_le (Nat.le_of_not_lt inside)),
        List.getElem?_eq_none (count'.trans_le (Nat.le_of_not_lt inside))]

theorem SameSnapshot.frameRec_eq (m : Mfn) : frameRec s m = frameRec t m := by
  have count := Hypervisor.frameCount_eq here
  have count' := Hypervisor.frameCount_eq there
  have frames := same.frames
  simp only [Snapshot.fromHv, count, count'] at frames
  by_cases inside : m.toNat < c.numFrames
  · exact List.map_inj_left.mp frames m ((Words.mem_range32_of_lt addressable.frames).mpr inside)
  · have missing : ∀ {hv : Hypervisor}, hv.p2m.frameCount = c.numFrames → frameRec hv m = none := by
      intro hv count
      have outside : hv.p2m.frames[m.toNat]? = none :=
        List.getElem?_eq_none (count.trans_le (Nat.le_of_not_lt inside))
      simp [frameRec, P2m.System.ownerOf, P2m.System.info, outside]
    rw [missing count, missing count']

omit addressable here there in
theorem SameSnapshot.links_perm : s.p2m.live.Perm t.p2m.live := by
  have read : ∀ hv : Hypervisor, (hv.p2m.linkEdges.map fun e => Link.mk true e.1 e.2.1 e.2.2.1
      e.2.2.2.1 e.2.2.2.2.1 e.2.2.2.2.2) = hv.p2m.live := by
    intro hv
    unfold P2m.System.linkEdges P2m.System.live Slab.live
    rw [List.map_map]
    refine (List.map_congr_left fun l member => ?_).trans (List.map_id _)
    have active := (List.mem_filter.mp member).2
    obtain ⟨active', parent, slot, child, writable, leaf, execute⟩ := l
    obtain rfl : active' = true := active
    rfl
  have edges : s.p2m.linkEdges.Perm t.p2m.linkEdges := same.edges
  rw [← read, ← read]
  exact edges.map _

theorem SameSnapshot.p2m_alike (grants : s.grant.Alike t.grant) : s.p2m.Alike t.p2m := by
  have frame := same.frameRec_eq addressable here there
  have owners : ∀ m, s.p2m.ownerOf m = t.p2m.ownerOf m := by
    intro m
    have owner := congrArg (Option.map FrameRec.owner) (frame m)
    simpa [frameRec, Function.comp_def] using owner
  have fields : ∀ {m d}, s.p2m.ownerOf m = some d → s.p2m.currentType m = t.p2m.currentType m ∧
      s.p2m.isPinned m = t.p2m.isPinned m := by
    intro m d owned
    have read := frame m
    unfold frameRec at read
    rw [← owners, owned] at read
    simp only [Option.map_some, Option.some.injEq, FrameRec.mk.injEq] at read
    exact ⟨read.2.2.2.2.1, read.2.2.2.2.2⟩
  refine P2m.System.Alike.of_claims here.regular.memory.pages there.regular.memory.pages ?_
    same.links_perm ?_ ?_ owners ?_ ?_
  · simp only [List.append_nil]
    exact grants.backing.map Grant.Unmapped.claim
  · rw [here.sameUniverse.frameDomains, there.sameUniverse.frameDomains]
  · rw [Hypervisor.frameCount_eq here, Hypervisor.frameCount_eq there]
  · intro m
    cases owned : s.p2m.ownerOf m with
    | some d => exact (fields owned).2
    | none =>
        have unknown : ∀ {p : P2m.System}, p.ownerOf m = none → p.isPinned m = false := by
          intro p none'
          simp only [P2m.System.ownerOf, Option.map_eq_none_iff] at none'
          simp [P2m.System.isPinned, none']
        rw [unknown owned, unknown ((owners m).symm.trans owned)]
  · intro m i j known known' typed
    have types := (fields (P2m.System.ownerOf_of_info known)).1
    have unwritten : i.writableRefs = 0 := by
      by_contra written
      have alone := here.regular.memory.pages.exclusive known (Nat.pos_of_ne_zero written)
      omega
    rw [(P2m.System.currentType_table_iff known).mpr ⟨unwritten, typed⟩] at types
    simp only [P2m.System.currentType, known', Option.bind_some,
      P2m.System.FrameInfo.currentType] at types
    split_ifs at types
    · cases types
    · exact P2m.PageType.pageTable.inj (Option.some.inj types)

theorem SameSnapshot.life_eq : s.life = t.life ∧ s.mayCreate = t.mayCreate := by
  have read : s.doms.map (fun d => (s.isLive d, s.mayCreateOf d)) =
      t.doms.map fun d => (t.isLive d, t.mayCreateOf d) := by
    have life := same.life
    simp only [Snapshot.fromHv, List.zip_map'] at life
    exact life
  have shown : ∀ {d : DomId}, d.toNat < c.numDomains →
      s.isLive d = t.isLive d ∧ s.mayCreateOf d = t.mayCreateOf d := by
    intro d inside
    have cell := domain_eq here.domainCount there.domainCount addressable.domains read inside
    exact Prod.mk.inj cell
  constructor
  · have count := Hypervisor.life_length here
    have count' := Hypervisor.life_length there
    refine list_ext16 addressable.domains count count' fun d inside => ?_
    have alive := (shown inside).1
    unfold Hypervisor.isLive Hypervisor.lifeOf at alive
    rw [List.getElem?_eq_getElem (count.symm ▸ inside),
      List.getElem?_eq_getElem (count'.symm ▸ inside)] at alive ⊢
    revert alive
    cases s.life[d.toNat] <;> cases t.life[d.toNat] <;> simp
  · have count := Hypervisor.mayCreate_length here
    have count' := Hypervisor.mayCreate_length there
    refine list_ext16 addressable.domains count count' fun d inside => ?_
    have permitted := (shown inside).2
    unfold Hypervisor.mayCreateOf at permitted
    rw [List.getElem?_eq_getElem (count.symm ▸ inside),
      List.getElem?_eq_getElem (count'.symm ▸ inside)] at permitted ⊢
    exact congrArg some permitted

theorem SameSnapshot.controls_eq : s.controls = t.controls := by
  have square := here.delegated.square
  have square' := there.delegated.square
  rw [here.domainCount] at square
  rw [there.domainCount] at square'
  refine Grid.ext_get? (square.rows.trans square'.rows.symm) fun i j => ?_
  by_cases row : i < c.numDomains
  · by_cases cell : j < c.numDomains
    · have control := same.control
      simp only [Snapshot.fromHv, Hypervisor.doms, here.domainCount, there.domainCount] at control
      have small : (UInt16.ofNat i).toNat = i :=
        Words.toNat_ofNat16 (Nat.lt_trans row addressable.domains)
      have small' : (UInt16.ofNat j).toNat = j :=
        Words.toNat_ofNat16 (Nat.lt_trans cell addressable.domains)
      have read := Codes.eq_of_flatMap_map control (UInt16.ofNat i)
        ((Words.mem_range16_of_lt addressable.domains).mpr (small.symm ▸ row)) (UInt16.ofNat j)
        ((Words.mem_range16_of_lt addressable.domains).mpr (small'.symm ▸ cell))
      unfold Hypervisor.controlEdge at read
      rw [small, small'] at read
      obtain ⟨x, found⟩ := square.get? row cell
      obtain ⟨y, found'⟩ := square'.get? row cell
      rw [found, found'] at read ⊢
      exact congrArg some read
    · have outside : s.controls.width i ≤ j := by
        rw [square.width i row]
        exact Nat.le_of_not_lt cell
      have outside' : t.controls.width i ≤ j := by
        rw [square'.width i row]
        exact Nat.le_of_not_lt cell
      rw [Grid.get?_eq_none_iff.mpr outside, Grid.get?_eq_none_iff.mpr outside']
  · have missing : ∀ {controls : Grid Control}, controls.length = c.numDomains →
        controls.get? i j = none := by
      intro controls rows
      unfold Grid.get?
      rw [List.getElem?_eq_none (rows.trans_le (Nat.le_of_not_lt row)), Option.bind_none]
    rw [missing square.rows, missing square'.rows]

end Shown

/-- The devices past the 16-bit count, and the mappings of a domain whose handles a 32-bit
count does not reach. -/
structure SameUnlisted (s t : Hypervisor) : Prop where
  devices : ∀ dev : DevId, s.device.deviceCount % 2 ^ 16 ≤ dev.toNat →
    s.device.holderOf dev = t.device.holderOf dev
  mappings : ∀ d h, 2 ^ 32 ≤ s.grant.handleSlots d ∨ 2 ^ 32 ≤ t.grant.handleSlots d →
    s.grant.mappingAt d h = t.grant.mappingAt d h

theorem mappingAt_past {g : Grant.System} (consistent : g.Consistent) {d : DomId} {h : Nat}
    (past : g.handleSlots d ≤ h) : g.mappingAt d h = none := by
  rw [Option.eq_none_iff_forall_ne_some]
  intro x found
  obtain ⟨m, isLive, name, -⟩ := (Grant.System.mappingAt_eq_some consistent).mp found
  have inside := Grant.System.lt_handleSlots isLive
  obtain ⟨rfl, rfl⟩ := Prod.mk.inj name
  exact Nat.not_lt_of_le past inside

/-- A track that is not cut short shows every mapping. -/
theorem track_join (consistent : s.grant.Consistent) {d : DomId}
    (few : s.grant.handleSlots d < 2 ^ 32) (h : Nat) :
    ((track s d)[h]?).join = s.grant.mappingAt d h := by
  unfold track Words.range32
  rw [Nat.mod_eq_of_lt few, List.map_map, List.getElem?_map]
  by_cases inside : h < s.grant.handleSlots d
  · rw [List.getElem?_range inside]
    simp [Words.toNat_ofNat32 (Nat.lt_trans inside few)]
  · have past := Nat.le_of_not_lt inside
    rw [List.getElem?_eq_none (by simpa using past), mappingAt_past consistent past]
    rfl

/-- A mapping is live wherever its handle names it. -/
theorem mem_live_of_mappingAt {g g' : Grant.System} (consistent : g.Consistent)
    (consistent' : g'.Consistent) {m : Grant.Mapping}
    (same : g.mappingAt m.grantee m.handle = g'.mappingAt m.grantee m.handle)
    (isLive : m ∈ g.live) : m ∈ g'.live := by
  have found := (Grant.System.mappingAt_eq_some consistent).mpr ⟨m, isLive, rfl, rfl⟩
  rw [same] at found
  obtain ⟨m', isLive', name, fields⟩ := (Grant.System.mappingAt_eq_some consistent').mp found
  have active := (Grant.System.mem_live_iff.mp isLive).2
  have active' := (Grant.System.mem_live_iff.mp isLive').2
  obtain ⟨_, grantee, handle, grantor, gref, writable⟩ := m
  obtain ⟨_, grantee', handle', grantor', gref', writable'⟩ := m'
  simp only [Prod.mk.injEq, Mapping.name] at fields name active active'
  obtain ⟨rfl, rfl⟩ := name
  obtain ⟨rfl, rfl, rfl⟩ := fields
  obtain rfl := active
  obtain rfl := active'
  exact isLive'

/-- Systems whose handles name the same have the same live mappings. -/
theorem live_perm {g g' : Grant.System} (consistent : g.Consistent) (consistent' : g'.Consistent)
    (same : ∀ d h, g.mappingAt d h = g'.mappingAt d h) : g.live.Perm g'.live := by
  refine (List.perm_ext_iff_of_nodup (List.Nodup.of_map _ consistent.names)
    (List.Nodup.of_map _ consistent'.names)).mpr fun m => ⟨?_, ?_⟩
  · exact mem_live_of_mappingAt consistent consistent' (same _ _)
  · exact mem_live_of_mappingAt consistent' consistent (same _ _).symm

section Unlisted

variable (addressable : Addressable c) (here : Reachable c s) (there : Reachable c t)
  (same : SameSnapshot (Snapshot.fromHv s) (Snapshot.fromHv t)) (unlisted : SameUnlisted s t)

include addressable here there same unlisted

theorem SameSnapshot.mappingAt_eq (d : DomId) (h : Nat) :
    s.grant.mappingAt d h = t.grant.mappingAt d h := by
  have consistent := here.regular.memory.grants
  have consistent' := there.regular.memory.grants
  by_cases cut : 2 ^ 32 ≤ s.grant.handleSlots d ∨ 2 ^ 32 ≤ t.grant.handleSlots d
  · exact unlisted.mappings d h cut
  · obtain ⟨few, few'⟩ := not_or.mp cut
    rw [← track_join consistent (Nat.lt_of_not_le few),
      ← track_join consistent' (Nat.lt_of_not_le few')]
    by_cases inside : d.toNat < c.numDomains
    · have tracks := same.mappings
      simp only [Snapshot.fromHv, List.map_map] at tracks
      have read := domain_eq here.domainCount there.domainCount addressable.domains tracks inside
      have cell := congrArg (fun track : List (Option Enumerate.Mapping) => (track[h]?).join) read
      simp only [Function.comp_apply, trimmed, Codes.getElem?_rdropWhile_isNone] at cell
      exact cell
    · have missing : ∀ {hv : Hypervisor}, Reachable c hv → hv.grant.Consistent →
          hv.grant.mappingAt d h = none := by
        intro hv reachable consistent
        rw [Option.eq_none_iff_forall_ne_some]
        intro x found
        obtain ⟨m, isLive, name, -⟩ := (Grant.System.mappingAt_eq_some consistent).mp found
        obtain ⟨a, active, addressed, -⟩ := consistent.backed isLive
        have known := consistent.known active
        rw [addressed, (Hypervisor.rows_eq reachable).2.1] at known
        obtain ⟨rfl, -⟩ := Prod.mk.inj name
        exact inside known
      rw [track_join consistent (Nat.lt_of_not_le few),
        track_join consistent' (Nat.lt_of_not_le few'), missing here consistent,
        missing there consistent']

omit addressable in
theorem SameSnapshot.devices_alike : s.device.Alike t.device := by
  have count := Hypervisor.deviceCount_eq here
  have count' := Hypervisor.deviceCount_eq there
  refine ⟨?_, count.trans count'.symm, fun dev => ?_⟩
  · rw [here.sameUniverse.deviceDomains, there.sameUniverse.deviceDomains]
  · have held : s.device.holderOf dev = t.device.holderOf dev := by
      by_cases listed : s.device.deviceCount % 2 ^ 16 ≤ dev.toNat
      · exact unlisted.devices dev listed
      · have assign := same.assign
        simp only [Snapshot.fromHv, count, count'] at assign
        rw [count] at listed
        exact List.map_inj_left.mp assign dev (Words.mem_range16.mpr (Nat.lt_of_not_le listed))
    unfold Device.System.holderOf at held
    unfold Device.System.deviceCount at count count'
    by_cases inside : dev.toNat < c.numDevices
    · rw [List.getElem?_eq_getElem (count.symm ▸ inside),
        List.getElem?_eq_getElem (count'.symm ▸ inside)] at held ⊢
      exact congrArg some held
    · have outside := Nat.le_of_not_lt inside
      rw [List.getElem?_eq_none (count.trans_le outside),
        List.getElem?_eq_none (count'.trans_le outside)]

/-- One key, and nothing different past where it is cut short: the states are alike. -/
theorem SameSnapshot.alike : s.Alike t := by
  have grants : s.grant.Alike t.grant :=
    ⟨same.grants_eq addressable here there, live_perm here.regular.memory.grants
      there.regular.memory.grants (same.mappingAt_eq addressable here there unlisted)⟩
  have life := same.life_eq addressable here there
  exact {
    domainCount := by rw [here.domainCount, there.domainCount]
    evtchn := same.evtchn_eq addressable here there
    grant := grants
    sched := same.sched_alike addressable here there
    p2m := same.p2m_alike addressable here there grants
    device := same.devices_alike here there unlisted
    life := life.1
    mayCreate := life.2
    controls := same.controls_eq addressable here there }

end Unlisted

end Enumerate

end Baleen
