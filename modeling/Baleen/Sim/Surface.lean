import Baleen.Sim.Noninterference
import Baleen.Hypervisor.Runs
import Baleen.Grant.Locality

/-!
# What a surface is made of

The surface of a domain is a function of its own ports, grant rows, held mappings,
vCPUs, frames, page-table entries and devices.  Two states that agree on these have the
same surface, however their tables are stored.
-/

namespace Baleen

open Evtchn (Port)
open Grant (GrantRef Mapping)
open P2m (Mfn FrameInfo Link)
open Device (DevId)

/-- Permutations of a list sort to the same list. -/
theorem mergeSort_eq_of_perm {α : Type} [LinearOrder α] {l l' : List α} (perm : l.Perm l') :
    l.mergeSort = l'.mergeSort := by
  have sorted : ∀ l : List α, l.mergeSort.Pairwise fun a b => a ≤ b := by
    intro l
    refine (List.pairwise_mergeSort ?_ ?_ l).imp of_decide_eq_true
    · intro a b c ab bc
      simp only [decide_eq_true_eq] at ab bc ⊢
      exact ab.trans bc
    · intro a b
      simpa using le_total a b
  refine List.Perm.eq_of_pairwise ?_ (sorted l) (sorted l') ?_
  · intro a b _ _ ab ba
    exact le_antisymm ab ba
  · exact (List.mergeSort_perm l _).trans (perm.trans (List.mergeSort_perm l' _).symm)

namespace Noninterference

variable {hv hv' : Hypervisor} {a : DomId}

structure SamePorts (a : DomId) (s s' : Evtchn.System) : Prop where
  count : s'.portCount a = s.portCount a
  chan : ∀ p, s'.chan? a p = s.chan? a p

structure SameGrants (a : DomId) (g g' : Grant.System) : Prop where
  count : g'.entryCount a = g.entryCount a
  rows : ∀ r, g'.grantEntry a r = g.grantEntry a r
  held : ∀ m : Mapping, m.grantee = a → (m ∈ g'.live ↔ m ∈ g.live)

structure SameVcpus (a : DomId) (k k' : Sched.System) : Prop where
  count : k'.vcpuCount a = k.vcpuCount a
  vcpu : ∀ v, k'.vcpu? a v = k.vcpu? a v

structure SamePages (a : DomId) (p p' : P2m.System) : Prop where
  frameCount : p'.frameCount = p.frameCount
  owner : ∀ m, p'.ownerOf m = some a ↔ p.ownerOf m = some a
  frames : ∀ m, p.ownerOf m = some a →
    (p'.info m).map FrameInfo.visible = (p.info m).map FrameInfo.visible
  entries : ∀ l : Link, p.ownerOf l.parent = some a → (l ∈ p'.live ↔ l ∈ p.live)

structure SameDevices (a : DomId) (s s' : Device.System) : Prop where
  count : s'.deviceCount = s.deviceCount
  holder : ∀ dev, s'.holderOf dev = some a ↔ s.holderOf dev = some a

/-- Nothing that belongs to `a` differs. -/
structure Untouched (a : DomId) (hv hv' : Hypervisor) : Prop where
  alive : hv'.isLive a = hv.isLive a
  balance : hv'.balance a = hv.balance a
  ports : SamePorts a hv.evtchn hv'.evtchn
  grants : SameGrants a hv.grant hv'.grant
  vcpus : SameVcpus a hv.sched hv'.sched
  pages : SamePages a hv.p2m hv'.p2m
  devices : SameDevices a hv.device hv'.device

theorem SamePorts.refl (s : Evtchn.System) : SamePorts a s s := ⟨rfl, fun _ => rfl⟩

theorem SameGrants.refl (g : Grant.System) : SameGrants a g g :=
  ⟨rfl, fun _ => rfl, fun _ _ => .rfl⟩

theorem SameVcpus.refl (k : Sched.System) : SameVcpus a k k := ⟨rfl, fun _ => rfl⟩

theorem SamePages.refl (p : P2m.System) : SamePages a p p :=
  ⟨rfl, fun _ => .rfl, fun _ _ => rfl, fun _ _ => .rfl⟩

theorem SameDevices.refl (s : Device.System) : SameDevices a s s := ⟨rfl, fun _ => .rfl⟩

theorem Untouched.refl (hv : Hypervisor) : Untouched a hv hv :=
  ⟨rfl, rfl, .refl _, .refl _, .refl _, .refl _, .refl _⟩

theorem SamePorts.portWords (same : SamePorts a hv.evtchn hv'.evtchn) (p : Port) :
    portWords hv' a p = portWords hv a p := by
  simp only [Noninterference.portWords, Evtchn.System.stateOf, Evtchn.System.isPending,
    Evtchn.System.isMasked, same.chan]

theorem SameGrants.rowWords (same : SameGrants a hv.grant hv'.grant)
    (linked : Mfn → DomId → Bool) (r : GrantRef) :
    rowWords hv' a linked r = rowWords hv a linked r := by
  simp only [Noninterference.rowWords, same.rows]

theorem SameGrants.heldWords (same : SameGrants a hv.grant hv'.grant)
    (consistent : hv.grant.Consistent) (consistent' : hv'.grant.Consistent) (h : Nat) :
    heldWords hv' a h = heldWords hv a h := by
  simp only [Noninterference.heldWords,
    Grant.System.mappingAt_congr consistent consistent' same.held]

theorem SameVcpus.vcpuWords (same : SameVcpus a hv.sched hv'.sched) (v : Vcpu) :
    vcpuWords hv' a v = vcpuWords hv a v := by
  have state : hv'.sched.stateOf a v = hv.sched.stateOf a v := by
    unfold Sched.System.stateOf
    rw [same.vcpu]
  have affinity : hv'.sched.affinityOf a v = hv.sched.affinityOf a v := by
    unfold Sched.System.affinityOf
    rw [same.vcpu]
  unfold Noninterference.vcpuWords
  rw [state, affinity]

/-- The counters and the type of a frame are visible. -/
theorem frameWords_of_visible {m : Mfn} (mine : hv.p2m.ownerOf m = some a)
    (mine' : hv'.p2m.ownerOf m = some a)
    (visible : (hv'.p2m.info m).map FrameInfo.visible = (hv.p2m.info m).map FrameInfo.visible) :
    frameWords hv' a m = frameWords hv a m := by
  obtain ⟨i, known, -⟩ := Option.map_eq_some_iff.mp mine
  obtain ⟨j, known', -⟩ := Option.map_eq_some_iff.mp mine'
  simp only [known, known', Option.map_some, Option.some.injEq, FrameInfo.visible,
    FrameInfo.mk.injEq] at visible
  obtain ⟨-, refs, writable, executable, pagetable, level, pinned⟩ := visible
  have level : 0 < i.pagetableRefs → j.ptLevel = i.ptLevel := by
    intro typed
    simpa [pagetable, Nat.ne_of_gt typed] using level
  simp only [Noninterference.frameWords, mine, mine', P2m.System.refs, P2m.System.typeRefs,
    P2m.System.executableRefs, P2m.System.currentType, P2m.System.isPinned, known, known',
    P2m.System.FrameInfo.currentType, Option.map_some, Option.bind_some, Option.getD_some, refs,
    writable, executable, pagetable, pinned]
  by_cases typed : 0 < i.pagetableRefs
  · rw [level typed]
  · simp only [typed, if_false, false_and]

theorem SamePages.frameWords (same : SamePages a hv.p2m hv'.p2m) (m : Mfn) :
    frameWords hv' a m = frameWords hv a m := by
  by_cases mine : hv.p2m.ownerOf m = some a
  · exact frameWords_of_visible mine ((same.owner m).mpr mine) (same.frames m mine)
  · have other : hv'.p2m.ownerOf m ≠ some a := fun now => mine ((same.owner m).mp now)
    simp only [Noninterference.frameWords, mine, other, if_false]

/-- The entries of `a`'s tables are the same up to where they are stored. -/
theorem SamePages.edges (same : SamePages a hv.p2m hv'.p2m) (distinct : hv.p2m.live.Nodup)
    (distinct' : hv'.p2m.live.Nodup) : edges hv' a = edges hv a := by
  have words : ∀ hv : Hypervisor, Noninterference.edges hv a =
      ((hv.p2m.live.filter fun l => hv.p2m.ownerOf l.parent = some a).map fun l =>
        [l.parent.toNat, l.slot.toNat, l.child.toNat, l.writable.toNat, l.leaf.toNat,
          l.execute.toNat]).mergeSort := by
    intro hv
    rw [Noninterference.edges, P2m.System.linkEdges, List.filter_map, List.map_map]
    rfl
  rw [words, words]
  refine mergeSort_eq_of_perm (List.Perm.map _ ?_)
  refine (List.perm_ext_iff_of_nodup (distinct'.filter _) (distinct.filter _)).mpr fun l => ?_
  simp only [List.mem_filter, decide_eq_true_eq, same.owner]
  exact and_congr_left fun mine => same.entries l mine

theorem SameDevices.deviceWords (same : SameDevices a hv.device hv'.device) (dev : DevId) :
    deviceWords hv' a dev = deviceWords hv a dev := by
  simp only [Noninterference.deviceWords, same.holder]

/-- A surface sees nothing but what belongs to its domain. -/
theorem Untouched.surface (untouched : Untouched a hv hv') (regular : Hypervisor.Regular hv)
    (regular' : Hypervisor.Regular hv') (linked : Mfn → DomId → Bool) :
    surface hv' a linked = surface hv a linked := by
  obtain ⟨alive, balance, ports, grants, vcpus, pages, devices⟩ := untouched
  have distinct : ∀ {hv : Hypervisor}, Hypervisor.Regular hv → hv.p2m.live.Nodup :=
    fun regular => List.Nodup.of_map _ regular.memory.pages.places
  have channels : portWords hv' a = portWords hv a := funext ports.portWords
  have rows : rowWords hv' a linked = rowWords hv a linked := funext (grants.rowWords linked)
  have held : heldWords hv' a = heldWords hv a :=
    funext (grants.heldWords regular.memory.grants regular'.memory.grants)
  have cpus : vcpuWords hv' a = vcpuWords hv a := funext vcpus.vcpuWords
  have frames : frameWords hv' a = frameWords hv a := funext pages.frameWords
  have masters : deviceWords hv' a = deviceWords hv a := funext devices.deviceWords
  simp only [Noninterference.surface, alive, balance, channels, rows, held, cpus, frames, masters,
    Evtchn.System.ports, ports.count, Grant.System.grefs, grants.count,
    Grant.System.handleSlots_congr grants.held, Sched.System.vcpus, vcpus.count, P2m.System.mfns,
    pages.frameCount, pages.edges (distinct regular) (distinct regular'), devices.count]

end Noninterference

end Baleen
