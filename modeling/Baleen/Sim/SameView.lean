import Baleen.Sim.View
import Baleen.Sim.KeyedStates

/-!
# Two states in one view

What two states share that a domain observes alike: everything that belongs to it, its
authority, and what others address to it.
-/

namespace Baleen.Noninterference

open Evtchn (Port PortState)
open Grant (GrantRef Access)
open P2m (Mfn PageType Link FrameInfo)
open Device (DevId)
open Hypervisor (Reachable Addressable)

structure SameView (a : DomId) (s t : Hypervisor) : Prop where
  alive : s.isLive a = t.isLive a
  ports : SamePorts a s.evtchn t.evtchn
  rows : ∀ r, s.grant.grantEntry a r = t.grant.grantEntry a r
  linked : ∀ {r x}, s.grant.grantEntry a r = some x →
    s.p2m.isForeignLinkedBy x.frame x.grantee = t.p2m.isForeignLinkedBy x.frame x.grantee
  held : Grant.System.SameHeld a s.grant t.grant
  states : ∀ v, s.sched.stateOf a v = t.sched.stateOf a v
  pages : SamePages a s.p2m t.p2m
  mayCreate : s.mayCreateOf a = t.mayCreateOf a
  controls : ∀ b, s.holdsControl a b = t.holdsControl a b
  lives : ∀ b, s.isLive b = t.isLive b
  invited : ∀ {b p}, b ≠ a →
    (s.evtchn.stateOf b p = some (.unbound a) ↔ t.evtchn.stateOf b p = some (.unbound a))
  caps : ∀ d r, readCap s a true d r = readCap t a true d r
  devices : ∀ dev, deviceTag s a dev = deviceTag t a dev

variable {c : Config} {hv s t : Hypervisor} {a : DomId}

theorem sameLoops (here : Reachable c s) (there : Reachable c t) : SameLoops a s t where
  ports := by
    unfold Evtchn.System.ports
    rw [Hypervisor.portCount_eq here, Hypervisor.portCount_eq there]
  rows := by
    unfold Grant.System.grefs
    rw [Hypervisor.entryCount_eq here, Hypervisor.entryCount_eq there]
  vcpus := by
    unfold Sched.System.vcpus
    rw [Hypervisor.vcpuCount_eq here, Hypervisor.vcpuCount_eq there]
  doms := by
    unfold Hypervisor.doms
    rw [here.domainCount, there.domainCount]
  devices := by rw [Hypervisor.deviceCount_eq here, Hypervisor.deviceCount_eq there]

theorem portWords_eq (hv : Hypervisor) (a : DomId) (p : Port) :
    portWords hv a p = (Enumerate.portRec hv a p).words := by
  unfold portWords Enumerate.portRec Enumerate.PortRec.words
  rcases hv.evtchn.stateOf a p with _ | (_ | _ | _ | _ | _) <;> rfl

theorem vcpuWords_eq (hv : Hypervisor) (a : DomId) (v : Vcpu) :
    vcpuWords hv a v = (Enumerate.vcpuRec hv a v).words := by
  unfold vcpuWords Enumerate.vcpuRec Enumerate.VcpuRec.words
  rcases hv.sched.stateOf a v with _ | (_ | _ | _ | _) <;> rfl

/-- The words of a grant row tell the row, and whether its grantee links the frame. -/
theorem rowWords_cancel {r : GrantRef} (same : rowWords s a s.p2m.isForeignLinkedBy r =
    rowWords t a t.p2m.isForeignLinkedBy r) :
    s.grant.grantEntry a r = t.grant.grantEntry a r ∧ ∀ x, s.grant.grantEntry a r = some x →
      s.p2m.isForeignLinkedBy x.frame x.grantee = t.p2m.isForeignLinkedBy x.frame x.grantee := by
  unfold rowWords at same
  match row : s.grant.grantEntry a r, row' : t.grant.grantEntry a r with
  | none, none => exact ⟨rfl, fun x missing => nomatch missing⟩
  | none, some y =>
      rw [row, row'] at same
      cases same
  | some x, none =>
      rw [row, row'] at same
      cases same
  | some ⟨grantee, frame, readonly, maps, writableMaps⟩,
      some ⟨grantee', frame', readonly', maps', writableMaps'⟩ =>
      simp only [row, row', List.cons.injEq, UInt16.toNat_inj, UInt32.toNat_inj,
        Enumerate.bool_toNat_injective.eq_iff, and_true, true_and] at same
      obtain ⟨rfl, rfl, rfl, rfl, rfl, linked⟩ := same
      refine ⟨rfl, fun x known => ?_⟩
      obtain rfl := Option.some.inj known
      exact linked

theorem controlTag_absent (c : Control) : controlTag true c = 0 ↔ c = .absent := by
  cases c <;> simp [controlTag]

theorem readCap_eq_some {d : DomId} {r : GrantRef} {w : List Nat}
    (cap : readCap hv a true d r = some w) :
    ∃ rest, w = d.toNat :: r.toNat :: rest := by
  unfold readCap at cap
  cases entry : hv.grant.grantEntry d r with
  | none =>
      rw [entry] at cap
      cases cap
  | some e =>
      simp only [entry] at cap
      split_ifs at cap
      all_goals exact ⟨_, (Option.some.inj cap).symm⟩

theorem frameShown_eq_some {m : Mfn} {v : List.Vector Nat 7} (shown : frameShown hv a m = some v) :
    v.head = m.toNat := by
  unfold frameShown at shown
  split_ifs at shown
  obtain rfl := Option.some.inj shown
  rfl

/-- The words of a frame tell all that is visible of it. -/
theorem visible_of_shown (regular : Hypervisor.Regular s) (regular' : Hypervisor.Regular t)
    {m : Mfn} (mine : s.p2m.ownerOf m = some a) (same : frameShown s a m = frameShown t a m) :
    (t.p2m.info m).map FrameInfo.visible = (s.p2m.info m).map FrameInfo.visible := by
  have mine' : t.p2m.ownerOf m = some a := by
    unfold frameShown at same
    by_contra other
    simp only [mine, other, if_true, if_false] at same
    cases same
  obtain ⟨i, known, owner⟩ := P2m.System.ownerOf_eq_some.mp mine
  obtain ⟨j, known', owner'⟩ := P2m.System.ownerOf_eq_some.mp mine'
  have alone := regular.memory.pages.exclusive known
  have alone' := regular'.memory.pages.exclusive known'
  simp only [frameShown, mine, mine', if_true, P2m.System.refs, P2m.System.typeRefs,
    P2m.System.executableRefs, P2m.System.currentType, P2m.System.isPinned, known, known',
    P2m.System.FrameInfo.currentType, Option.map_some, Option.bind_some, Option.getD_some] at same
  have words := congrArg List.Vector.toList (Option.some.inj same)
  simp only [List.Vector.toList, List.cons.injEq, true_and, and_true,
    Enumerate.bool_toNat_injective.eq_iff, Enumerate.levelTag_injective.eq_iff] at words
  obtain ⟨refs, writable, executable, table, type, pinned⟩ := words
  rw [known, known', Option.map_some, Option.map_some, Option.some.injEq, FrameInfo.visible_iff]
  rw [← writable] at type table
  by_cases written : 0 < i.writableRefs
  · have untyped := (alone written).2
    have untyped' := (alone' (writable ▸ written)).2
    refine ⟨owner'.trans owner.symm, refs.symm, writable.symm, executable.symm, ?_, pinned.symm, ?_⟩
    · rw [untyped, untyped']
    · omega
  · simp only [written, if_false] at type table
    by_cases typed : 0 < i.pagetableRefs <;> by_cases typed' : 0 < j.pagetableRefs
    · simp only [typed, typed', if_true, Option.some.injEq, P2m.PageType.pageTable.injEq,
        and_self] at type table
      exact ⟨owner'.trans owner.symm, refs.symm, writable.symm, executable.symm, table.symm,
        pinned.symm, fun _ => type.symm⟩
    · simp only [typed, typed', if_true, if_false] at type
      cases type
    · simp only [typed, typed', if_true, if_false] at type
      cases type
    · refine ⟨owner'.trans owner.symm, refs.symm, writable.symm, executable.symm, ?_, pinned.symm,
        fun now => absurd now typed'⟩
      omega

theorem controlled_inside {b : DomId} (reachable : Reachable c hv)
    (held : hv.holdsControl a b = true) : b.toNat < hv.domainCount := by
  exact (reachable.delegated.square.inside (Hypervisor.holdsControl_iff.mp held)).2

section Parts

variable (addressable : Addressable c) (here : Reachable c s) (there : Reachable c t)
  (parts : SameParts a s t)

include addressable here there parts

theorem SameParts.samePorts : SamePorts a s.evtchn t.evtchn := by
  have width := Hypervisor.portCount_eq here
  have width' := Hypervisor.portCount_eq there
  refine ⟨by rw [width, width'], fun p => ?_⟩
  by_cases inside : p.toNat < s.evtchn.portCount a
  · obtain ⟨x, found⟩ := Grid.exists_get? inside
    have found : s.evtchn.chan? a p = some x := found
    have few : s.evtchn.portCount a < 2 ^ 32 := by
      rw [width]
      split_ifs
      · exact addressable.ports
      · exact Nat.two_pow_pos 32
    have listed : p ∈ s.evtchn.ports a := (Words.mem_range32_of_lt few).mpr inside
    have inside' : p.toNat < t.evtchn.portCount a := by rwa [width', ← width]
    obtain ⟨y, found'⟩ := Grid.exists_get? inside'
    have found' : t.evtchn.chan? a p = some y := found'
    have words := parts.ports p listed
    rw [portWords_eq, portWords_eq] at words
    have read := Enumerate.PortRec.delimits.injective words
    simp only [Enumerate.portRec, Evtchn.System.stateOf, Evtchn.System.isPending,
      Evtchn.System.isMasked, found, found', Option.map_some, Option.getD_some,
      Enumerate.PortRec.mk.injEq] at read
    obtain ⟨state, pending, masked⟩ := x
    obtain ⟨state', pending', masked'⟩ := y
    obtain ⟨rfl, rfl, rfl⟩ := read
    rw [found, found']
  · have outside := Nat.le_of_not_lt inside
    have outside' : t.evtchn.portCount a ≤ p.toNat := by rwa [width', ← width]
    have missing : s.evtchn.chan? a p = none := Grid.get?_eq_none_iff.mpr outside
    have missing' : t.evtchn.chan? a p = none := Grid.get?_eq_none_iff.mpr outside'
    rw [missing, missing']

omit there parts in
theorem mem_doms {d : DomId} (inside : d.toNat < c.numDomains) : d ∈ s.doms := by
  unfold Hypervisor.doms
  rw [here.domainCount]
  exact (Words.mem_range16_of_lt addressable.domains).mpr inside

omit there parts in
theorem mem_grefs {d : DomId} {r : GrantRef} {x : Access}
    (active : s.grant.grantEntry d r = some x) : d ∈ s.doms ∧ r ∈ s.grant.grefs d := by
  have found := Grant.System.grantEntry_eq_some.mp active
  have inside : r.toNat < s.grant.entryCount d := Grid.lt_width_of_get? found
  have row : d.toNat < s.grant.domainCount := Grid.lt_length_of_get? found
  constructor
  · rw [(Hypervisor.rows_eq here).2.1] at row
    exact mem_doms addressable here row
  · refine (Words.mem_range32_of_lt ?_).mpr inside
    rw [Hypervisor.entryCount_eq here]
    split_ifs
    · exact addressable.grants
    · exact Nat.two_pow_pos 32

theorem SameParts.row (r : GrantRef) : s.grant.grantEntry a r = t.grant.grantEntry a r ∧
    ∀ x, s.grant.grantEntry a r = some x →
      s.p2m.isForeignLinkedBy x.frame x.grantee = t.p2m.isForeignLinkedBy x.frame x.grantee := by
  by_cases listed : r ∈ s.grant.grefs a
  · exact rowWords_cancel (parts.rows r listed)
  · have free : s.grant.grantEntry a r = none := by
      rw [Option.eq_none_iff_forall_ne_some]
      exact fun x active => listed (mem_grefs addressable here active).2
    have free' : t.grant.grantEntry a r = none := by
      rw [Option.eq_none_iff_forall_ne_some]
      intro x active
      have listed' := (mem_grefs addressable there active).2
      rw [← (sameLoops (a := a) here there).rows] at listed'
      exact listed listed'
    rw [free, free']
    exact ⟨rfl, fun x missing => nomatch missing⟩

omit addressable in
theorem SameParts.sameHeld (handles : s.grant.handleSlots a < 2 ^ 32)
    (handles' : t.grant.handleSlots a < 2 ^ 32) : Grant.System.SameHeld a s.grant t.grant := by
  have consistent := here.regular.memory.grants
  have consistent' := there.regular.memory.grants
  have same : ∀ h, s.grant.mappingAt a h = t.grant.mappingAt a h := by
    intro h
    rw [← Enumerate.track_join consistent handles, ← Enumerate.track_join consistent' handles',
      parts.held]
  rintro m rfl
  exact ⟨Enumerate.mem_live_of_mappingAt consistent consistent' (same _),
    Enumerate.mem_live_of_mappingAt consistent' consistent (same _).symm⟩

theorem SameParts.stateOf (v : Vcpu) : s.sched.stateOf a v = t.sched.stateOf a v := by
  have width := Hypervisor.vcpuCount_eq here a
  have width' := Hypervisor.vcpuCount_eq there a
  by_cases inside : v.toNat < s.sched.vcpuCount a
  · obtain ⟨x, found⟩ := Grid.exists_get? inside
    have found : s.sched.vcpu? a v = some x := found
    have few : s.sched.vcpuCount a < 2 ^ 32 := by
      rw [width]
      split_ifs
      · exact addressable.vcpus
      · exact Nat.two_pow_pos 32
    have listed : v ∈ s.sched.vcpus a := (Words.mem_range32_of_lt few).mpr inside
    have inside' : v.toNat < t.sched.vcpuCount a := by rwa [width', ← width]
    obtain ⟨y, found'⟩ := Grid.exists_get? inside'
    have found' : t.sched.vcpu? a v = some y := found'
    have words := parts.vcpus v listed
    rw [vcpuWords_eq, vcpuWords_eq] at words
    have read := Enumerate.VcpuRec.delimits.injective words
    simp only [Enumerate.vcpuRec, Sched.System.stateOf, found, found', Option.map_some,
      Option.getD_some, Enumerate.VcpuRec.mk.injEq] at read
    simp only [Sched.System.stateOf, found, found', Option.map_some, read.1]
  · have outside := Nat.le_of_not_lt inside
    have outside' : t.sched.vcpuCount a ≤ v.toNat := by rwa [width', ← width]
    have missing : s.sched.vcpu? a v = none := Grid.get?_eq_none_iff.mpr outside
    have missing' : t.sched.vcpu? a v = none := Grid.get?_eq_none_iff.mpr outside'
    simp only [Sched.System.stateOf, missing, missing']

/-- A frame of `a` is shown in both states or in neither. -/
theorem SameParts.frameShown_eq (m : Mfn) : frameShown s a m = frameShown t a m := by
  have count := Hypervisor.frameCount_eq here
  have count' := Hypervisor.frameCount_eq there
  have listed : ∀ {hv : Hypervisor}, hv.p2m.frameCount = c.numFrames → ∀ {v : List.Vector Nat 7},
      frameShown hv a m = some v → v ∈ hv.p2m.mfns.filterMap (frameShown hv a) := by
    intro hv count v shown
    refine List.mem_filterMap.mpr ⟨m, ?_, shown⟩
    unfold frameShown at shown
    split_ifs at shown with mine
    obtain ⟨i, known, -⟩ := P2m.System.ownerOf_eq_some.mp mine
    have inside := (List.getElem?_eq_some_iff.mp (P2m.System.getElem?_of_info known)).1
    refine (Words.mem_range32_of_lt ?_).mpr inside
    rw [count]
    exact addressable.frames
  have found : ∀ {hv : Hypervisor} {v : List.Vector Nat 7}, v.head = m.toNat →
      v ∈ hv.p2m.mfns.filterMap (frameShown hv a) → frameShown hv a m = some v := by
    intro hv v named member
    obtain ⟨m', -, shown⟩ := List.mem_filterMap.mp member
    have same : m'.toNat = m.toNat := (frameShown_eq_some shown).symm.trans named
    rwa [UInt32.toNat_inj.mp same] at shown
  refine Option.ext fun v => ⟨fun shown => ?_, fun shown => ?_⟩
  · exact found (frameShown_eq_some shown) (parts.frames ▸ listed count shown)
  · exact found (frameShown_eq_some shown) (parts.frames ▸ listed count' shown)

theorem SameParts.samePages : SamePages a s.p2m t.p2m := by
  have shown := parts.frameShown_eq addressable here there
  have owner : ∀ m, t.p2m.ownerOf m = some a ↔ s.p2m.ownerOf m = some a := by
    intro m
    have visible : ∀ {hv : Hypervisor}, hv.p2m.ownerOf m = some a ↔ frameShown hv a m ≠ none := by
      intro hv
      unfold frameShown
      split_ifs with mine <;> simp [mine]
    rw [visible, visible, shown]
  have words : ∀ {hv : Hypervisor} {l : Link}, l ∈ hv.p2m.live → hv.p2m.ownerOf l.parent = some a →
      [l.parent.toNat, l.slot.toNat, l.child.toNat, l.writable.toNat, l.leaf.toNat,
        l.execute.toNat] ∈ Noninterference.edges hv a := by
    intro hv l isLive mine
    refine (List.mergeSort_perm _ _).mem_iff.mpr (List.mem_map.mpr ?_)
    refine ⟨(l.parent, l.slot, l.child, l.writable, l.leaf, l.execute), ?_, rfl⟩
    exact List.mem_filter.mpr ⟨List.mem_map.mpr ⟨l, isLive, rfl⟩, by simpa using mine⟩
  have found : ∀ {hv : Hypervisor} {l : Link}, l.active = true →
      [l.parent.toNat, l.slot.toNat, l.child.toNat, l.writable.toNat, l.leaf.toNat,
        l.execute.toNat] ∈ Noninterference.edges hv a → l ∈ hv.p2m.live := by
    intro hv l active member
    obtain ⟨e, listed, same⟩ := List.mem_map.mp ((List.mergeSort_perm _ _).mem_iff.mp member)
    obtain ⟨l', isLive, rfl⟩ := List.mem_map.mp (List.mem_filter.mp listed).1
    have active' := (List.mem_filter.mp isLive).2
    obtain ⟨_, parent, slot, child, writable, leaf, execute⟩ := l
    obtain ⟨_, parent', slot', child', writable', leaf', execute'⟩ := l'
    simp only [List.cons.injEq, UInt32.toNat_inj, Enumerate.bool_toNat_injective.eq_iff,
      and_true] at same
    obtain ⟨rfl, rfl, rfl, rfl, rfl, rfl⟩ := same
    obtain rfl : _ = true := active
    obtain rfl : _ = true := active'
    exact isLive
  refine ⟨?_, owner, ?_, ?_⟩
  · rw [Hypervisor.frameCount_eq here, Hypervisor.frameCount_eq there]
  · exact fun m mine => visible_of_shown here.regular there.regular mine (shown m)
  · intro l mine
    constructor
    · intro isLive
      have member := words isLive ((owner l.parent).mpr mine)
      exact found (Slab.mem_live.mp isLive).2 (parts.edges ▸ member)
    · intro isLive
      have member := words isLive mine
      exact found (Slab.mem_live.mp isLive).2 (parts.edges ▸ member)

theorem SameParts.holdsControl (b : DomId) : s.holdsControl a b = t.holdsControl a b := by
  by_cases inside : b.toNat < c.numDomains
  · have tags := parts.controlled b (mem_doms addressable here inside)
    have absent : s.controlEdge a b = .absent ↔ t.controlEdge a b = .absent := by
      rw [← controlTag_absent, ← controlTag_absent, tags]
    unfold Hypervisor.holdsControl
    simp only [ne_eq, absent]
  · have outside : ∀ {hv : Hypervisor}, Reachable c hv → hv.holdsControl a b = false := by
      intro hv reachable
      by_contra held
      have known := controlled_inside reachable (by simpa using held)
      exact inside (reachable.domainCount ▸ known)
    rw [outside here, outside there]

theorem SameParts.isLive (b : DomId) : s.isLive b = t.isLive b := by
  by_cases inside : b.toNat < c.numDomains
  · exact parts.lives b (mem_doms addressable here inside)
  · have outside : ∀ {hv : Hypervisor}, Reachable c hv → hv.isLive b = false := by
      intro hv reachable
      have missing : hv.life[b.toNat]? = none := by
        refine List.getElem?_eq_none ?_
        rw [Hypervisor.life_length reachable]
        exact Nat.le_of_not_lt inside
      simp [Hypervisor.isLive, Hypervisor.lifeOf, missing]
    rw [outside here, outside there]

omit there parts in
theorem mem_invites {b : DomId} {p : Port} (other : b ≠ a) :
    s.evtchn.stateOf b p = some (.unbound a) ↔ [b.toNat, p.toNat] ∈ invites s a := by
  unfold invites
  rw [(List.mergeSort_perm _ _).mem_iff, List.mem_flatMap]
  constructor
  · intro awaits
    obtain ⟨x, found, -⟩ := Option.map_eq_some_iff.mp awaits
    have inside : p.toNat < s.evtchn.portCount b := Grid.lt_width_of_get? found
    have row : b.toNat < s.evtchn.domainCount := Grid.lt_length_of_get? found
    rw [(Hypervisor.rows_eq here).1] at row
    refine ⟨b, mem_doms addressable here row, ?_⟩
    rw [if_neg other]
    refine List.mem_map.mpr ⟨p, List.mem_filter.mpr ⟨?_, by simpa using awaits⟩, rfl⟩
    refine (Words.mem_range32_of_lt ?_).mpr inside
    rw [Hypervisor.portCount_eq here, if_pos row]
    exact addressable.ports
  · rintro ⟨b', -, member⟩
    split_ifs at member with own
    · cases member
    · obtain ⟨p', listed, same⟩ := List.mem_map.mp member
      have awaits := (List.mem_filter.mp listed).2
      simp only [List.cons.injEq, UInt16.toNat_inj, UInt32.toNat_inj, and_true] at same
      obtain ⟨rfl, rfl⟩ := same
      simpa using awaits

omit there parts in
theorem mem_readCaps {d : DomId} {r : GrantRef} {w : List Nat} :
    readCap s a true d r = some w ↔
      w ∈ readCaps s a true ∧ ∃ rest, w = d.toNat :: r.toNat :: rest := by
  unfold readCaps
  rw [(List.mergeSort_perm _ _).mem_iff, List.mem_flatMap]
  constructor
  · intro cap
    have active : ∃ x, s.grant.grantEntry d r = some x := by
      unfold readCap at cap
      cases found : s.grant.grantEntry d r with
      | none =>
          rw [found] at cap
          cases cap
      | some x => exact ⟨x, rfl⟩
    obtain ⟨x, active⟩ := active
    obtain ⟨row, listed⟩ := mem_grefs addressable here active
    exact ⟨⟨d, row, List.mem_filterMap.mpr ⟨r, listed, cap⟩⟩, readCap_eq_some cap⟩
  · rintro ⟨⟨d', -, member⟩, rest, rfl⟩
    obtain ⟨r', -, cap⟩ := List.mem_filterMap.mp member
    obtain ⟨rest', same⟩ := readCap_eq_some cap
    simp only [List.cons.injEq, UInt16.toNat_inj, UInt32.toNat_inj] at same
    obtain ⟨rfl, rfl, -⟩ := same
    exact cap

theorem SameParts.readCap_eq (d : DomId) (r : GrantRef) :
    readCap s a true d r = readCap t a true d r := by
  refine Option.ext fun w => ?_
  rw [mem_readCaps addressable here, mem_readCaps addressable there, parts.caps]

omit addressable in
theorem SameParts.deviceTag_eq (devices : c.numDevices < 2 ^ 16) (dev : DevId) :
    deviceTag s a dev = deviceTag t a dev := by
  have count := Hypervisor.deviceCount_eq here
  have count' := Hypervisor.deviceCount_eq there
  by_cases inside : dev.toNat < c.numDevices
  · refine parts.devices dev ?_
    rw [count]
    exact (Words.mem_range16_of_lt devices).mpr inside
  · have unknown : ∀ {hv : Hypervisor}, hv.device.deviceCount = c.numDevices →
        deviceTag hv a dev = 0 := by
      intro hv count
      have missing : hv.device.holders[dev.toNat]? = none :=
        List.getElem?_eq_none (count.trans_le (Nat.le_of_not_lt inside))
      simp [deviceTag, Device.System.holderOf, missing]
    rw [unknown count, unknown count']

end Parts

/-- Reachable states of one configuration that `a` observes alike, with no loop of the
observation cut short, show it the same view. -/
theorem SameView.of_obsPlus (addressable : Addressable c) (devices : c.numDevices < 2 ^ 16)
    (here : Reachable c s) (there : Reachable c t) (handles : s.grant.handleSlots a < 2 ^ 32)
    (handles' : t.grant.handleSlots a < 2 ^ 32) (same : obsPlus s a = obsPlus t a) :
    SameView a s t := by
  have parts := obsPlus_cancel (sameLoops here there) same
  have row := parts.row addressable here there
  exact {
    alive := parts.alive
    ports := parts.samePorts addressable here there
    rows := fun r => (row r).1
    linked := fun {r x} => (row r).2 x
    held := parts.sameHeld here there handles handles'
    states := parts.stateOf addressable here there
    pages := parts.samePages addressable here there
    mayCreate := parts.mayCreate
    controls := parts.holdsControl addressable here there
    lives := parts.isLive addressable here there
    invited := fun {b p} other => by
      rw [mem_invites addressable here other, mem_invites addressable there other, parts.invites]
    caps := parts.readCap_eq addressable here there
    devices := parts.deviceTag_eq here there devices }

end Baleen.Noninterference
