import Baleen.Hypervisor.Checked
import Mathlib.Algebra.BigOperators.Group.Finset.Piecewise
import Mathlib.Algebra.Order.BigOperators.Group.List
import Mathlib.Algebra.Order.Ring.Nat

/-!
# The checked invariant of every run

The scan of the seams between the subsystems finds nothing in a state that meets the
invariants.  A hypervisor with more ports than a port number can address is another
matter: the first free port is then written back under a port that is taken.
-/

namespace Baleen.Hypervisor

open Evtchn (Port EventChannel)
open Grant (GrantRef Mapping Access)
open P2m (Mfn FrameInfo)
open Forest (climb)

variable {hv hv' : Hypervisor} {c : Config}

/-- Items counted key by key are counted at most once. -/
theorem sum_countP_le {κ μ : Type} [DecidableEq κ] (key : μ → κ) (test : μ → Bool) (ms : List μ)
    {keys : List κ} (distinct : keys.Nodup) :
    (keys.map fun k => ms.countP fun m => key m = k && test m).sum ≤ ms.countP test := by
  induction ms with
  | nil => simp
  | cons m ms ih =>
      have split : ∀ k, ((m :: ms).countP fun m => key m = k && test m) =
          (ms.countP fun m => key m = k && test m) +
            if test m then (if key m = k then 1 else 0) else 0 := by
        intro k
        rw [List.countP_cons]
        cases test m <;> simp
      have once : (keys.map fun k => if key m = k then 1 else 0).sum ≤ 1 := by
        rw [← List.sum_toFinset _ distinct, Finset.sum_ite_eq]
        split_ifs <;> simp
      simp only [split, List.sum_map_add, List.countP_cons]
      cases test m with
      | false => simpa using ih
      | true => simpa using Nat.add_le_add ih once

theorem allRefs_nodup (g : Grant.System) : g.allRefs.Nodup := by
  unfold Grant.System.allRefs
  refine List.nodup_flatMap.mpr ⟨fun d _ => ?_, ?_⟩
  · refine List.Nodup.map (fun _ _ same => (Prod.mk.inj same).2) (Words.range32_nodup _)
  · refine (Words.range16_nodup _).imp fun {d e} apart => ?_
    rw [Function.onFun, List.disjoint_left]
    rintro slot member member'
    simp only [List.mem_map] at member member'
    obtain ⟨_, -, rfl⟩ := member
    obtain ⟨_, -, same⟩ := member'
    exact apart (Prod.mk.inj same).1.symm

/-- The fold adds up at most the mappings of the visited grants. -/
theorem fold_le (g : Grant.System) (frame : Mfn) (slots : List (DomId × GrantRef))
    (total : Nat × Nat) :
    let result := slots.foldl (fun total slot =>
      if g.grantedFrame slot.1 slot.2 = some frame then
        (saturatingAdd total.1 ((g.mapCount slot.1 slot.2).getD 0),
          saturatingAdd total.2 ((g.writableMapCount slot.1 slot.2).getD 0))
      else total) total
    let count := fun (f : DomId × GrantRef → Nat) => (slots.map fun slot =>
      if g.grantedFrame slot.1 slot.2 = some frame then f slot else 0).sum
    result.1 ≤ total.1 + count (fun slot => (g.mapCount slot.1 slot.2).getD 0) ∧
      result.2 ≤ total.2 + count (fun slot => (g.writableMapCount slot.1 slot.2).getD 0) := by
  induction slots generalizing total with
  | nil => simp
  | cons slot rest ih =>
      simp only [List.foldl_cons, List.map_cons, List.sum_cons] at ih ⊢
      split_ifs with here
      · have step := ih (saturatingAdd total.1 ((g.mapCount slot.1 slot.2).getD 0),
          saturatingAdd total.2 ((g.writableMapCount slot.1 slot.2).getD 0))
        simp only [saturatingAdd] at step ⊢
        omega
      · simpa using ih total

/-- The mappings counted over a frame are live mappings of it. -/
theorem mapsOverFrame_le (consistent : hv.grant.Consistent) (frame : Mfn) :
    (hv.mapsOverFrame frame).1 ≤
        (hv.grant.live.countP fun m => hv.grant.grantedFrame m.grantor m.gref = some frame) ∧
      (hv.mapsOverFrame frame).2 ≤ hv.grant.live.countP fun m =>
        m.writable && hv.grant.grantedFrame m.grantor m.gref = some frame := by
  have slotwise : ∀ (slot : DomId × GrantRef) (test : Mapping → Bool) (count : Access → Nat),
      (∀ {a}, hv.grant.grantEntry slot.1 slot.2 = some a → count a =
        hv.grant.live.countP fun m => Mapping.ofEntry slot.1 slot.2 m && test m) →
      (if hv.grant.grantedFrame slot.1 slot.2 = some frame then
          ((hv.grant.grantEntry slot.1 slot.2).map count).getD 0 else 0) ≤
        hv.grant.live.countP fun m => (m.grantor, m.gref) = slot &&
          (test m && hv.grant.grantedFrame m.grantor m.gref = some frame) := by
    rintro ⟨grantor, gref⟩ test count counted
    split_ifs with here
    · obtain ⟨a, active, -⟩ := Option.map_eq_some_iff.mp here
      rw [active, Option.map_some, Option.getD_some, counted active]
      refine List.countP_mono_left fun m _ both => ?_
      obtain ⟨ofEntry, passes⟩ := Bool.and_eq_true_iff.mp both
      obtain ⟨rfl, rfl⟩ := Grant.System.ofEntry_iff.mp ofEntry
      simp [passes, here]
    · exact Nat.zero_le _
  have total : ∀ (test : Mapping → Bool) (count : Access → Nat),
      (∀ {d r a}, hv.grant.grantEntry d r = some a → count a =
        hv.grant.live.countP fun m => Mapping.ofEntry d r m && test m) →
      (hv.grant.allRefs.map fun slot =>
        if hv.grant.grantedFrame slot.1 slot.2 = some frame then
          ((hv.grant.grantEntry slot.1 slot.2).map count).getD 0 else 0).sum ≤
        hv.grant.live.countP fun m =>
          test m && hv.grant.grantedFrame m.grantor m.gref = some frame := by
    intro test count counted
    refine le_trans (List.sum_le_sum fun slot _ => slotwise slot test count counted) ?_
    exact sum_countP_le (fun m : Mapping => (m.grantor, m.gref)) _ _ (allRefs_nodup _)
  obtain ⟨all, writable⟩ := fold_le hv.grant frame hv.grant.allRefs (0, 0)
  rw [Nat.zero_add] at all writable
  constructor
  · have bound := total (fun _ => true) (·.maps) fun active => by
      simpa using (consistent.counts active).1
    simp only [Bool.true_and] at bound
    exact all.trans bound
  · exact writable.trans (total (·.writable) (·.writableMaps) fun active =>
      (consistent.counts active).2)

/-- The live mappings of a frame stand on its counters. -/
theorem Sound.mappings_le (sound : Sound [] hv.grant hv.p2m) {frame : Mfn} {i : FrameInfo}
    (known : hv.p2m.info frame = some i) :
    (hv.grant.live.countP fun m => hv.grant.grantedFrame m.grantor m.gref = some frame) ≤ i.refs ∧
      (hv.grant.live.countP fun m =>
        m.writable && hv.grant.grantedFrame m.grantor m.gref = some frame) ≤ i.writableRefs := by
  have balanced := sound.pages.balanced known
  have writeMaps := count_backing sound.grants frame true
  have bareMaps := count_backing sound.grants frame false
  simp only [Bool.decide_eq_true, Bool.decide_eq_false, if_true, Bool.false_eq_true, if_false]
    at writeMaps bareMaps
  have written : (hv.grant.live.countP fun m =>
      m.writable && hv.grant.grantedFrame m.grantor m.gref = some frame) ≤ i.writableRefs := by
    rw [balanced.writable, P2m.System.claims, List.count_append, List.append_nil, writeMaps]
    exact Nat.le_add_left _ _
  have unwritten : (hv.grant.live.countP fun m =>
      !m.writable && hv.grant.grantedFrame m.grantor m.gref = some frame) ≤
      (hv.p2m.claims ((hv.grant.backing ++ []).map Grant.Unmapped.claim)).count (frame, .bare) := by
    rw [P2m.System.claims, List.count_append, List.append_nil, bareMaps]
    exact Nat.le_add_left _ _
  refine ⟨?_, written⟩
  have split : (hv.grant.live.countP fun m =>
      hv.grant.grantedFrame m.grantor m.gref = some frame) =
      (hv.grant.live.countP fun m =>
        m.writable && hv.grant.grantedFrame m.grantor m.gref = some frame) +
      (hv.grant.live.countP fun m =>
        !m.writable && hv.grant.grantedFrame m.grantor m.gref = some frame) := by
    rw [List.countP_eq_countP_filter_add _ _ (fun m : Mapping => m.writable), List.countP_filter,
      List.countP_filter]
    simp only [Bool.and_comm]
  rw [split, balanced.total_eq]
  omega

theorem grantBacking_eq_none (sound : Sound [] hv.grant hv.p2m) (slot : DomId × GrantRef) :
    hv.grantBacking slot = none := by
  obtain ⟨grantor, gref⟩ := slot
  unfold grantBacking
  cases active : hv.grant.grantEntry grantor gref with
  | none => rfl
  | some a =>
      by_cases unmapped : a.maps = 0
      · simp only [if_pos unmapped]
      · have owner : hv.p2m.ownerOf a.frame = some grantor := by
          have mapped : 0 < a.maps := Nat.pos_of_ne_zero unmapped
          rw [(sound.grants.counts active).1, List.countP_pos_iff] at mapped
          obtain ⟨m, isLive, ofEntry⟩ := mapped
          obtain ⟨rfl, rfl⟩ := Grant.System.ofEntry_iff.mp ofEntry
          exact sound.owned isLive active
        obtain ⟨i, known, -⟩ := Option.map_eq_some_iff.mp owner
        obtain ⟨all, writable⟩ := mapsOverFrame_le sound.grants a.frame
        obtain ⟨refs, writableRefs⟩ := sound.mappings_le known
        have backed : ¬((hv.p2m.refs a.frame).getD 0 < (hv.mapsOverFrame a.frame).1 ∨
            (hv.p2m.typeRefs a.frame .writable).getD 0 < (hv.mapsOverFrame a.frame).2) := by
          simp only [P2m.System.refs, P2m.System.typeRefs, known, Option.map_some,
            Option.getD_some, not_or, Nat.not_lt]
          exact ⟨all.trans refs, writable.trans writableRefs⟩
        simp only [if_neg unmapped, owner, ne_eq, not_true_eq_false, if_false, if_neg backed]

theorem wakeup_eq_none (awake : Awake hv.evtchn hv.sched) {slot : DomId × Port}
    (member : slot ∈ hv.allPorts) : hv.wakeup slot = none := by
  simp only [allPorts, List.mem_flatMap, List.mem_map] at member
  obtain ⟨d, -, p, visited, rfl⟩ := member
  unfold wakeup
  split_ifs with waits
  · obtain ⟨c, found, ready⟩ := Evtchn.System.deliverable_iff.mp waits
    simp only [Evtchn.System.notifyTarget_eq found]
    cases notified : c.state.notify with
    | none => rfl
    | some v => simp only [if_neg (awake.safe visited found ready notified)]
  · rfl

theorem linkConsent_eq_none (sound : Sound [] hv.grant hv.p2m)
    {edge : Mfn × UInt32 × Mfn × Bool × Bool × Bool} (member : edge ∈ hv.p2m.linkEdges) :
    hv.linkConsent edge = none := by
  obtain ⟨l, isLive, rfl⟩ := List.mem_map.mp member
  unfold linkConsent
  cases childOwner : hv.p2m.ownerOf l.child with
  | none => rfl
  | some co =>
      cases parentOwner : hv.p2m.ownerOf l.parent with
      | none => rfl
      | some po =>
          have granted : ¬(co ≠ po ∧ (!hv.grant.authorizes co po l.child l.writable) = true) := by
            rintro ⟨foreign, refused⟩
            have consent := sound.consent (l := l) isLive childOwner parentOwner foreign
            simp [consent] at refused
          simp only [if_neg granted]

theorem Shell.isCleanShell {d : DomId} (shell : Shell hv d) : hv.isCleanShell d = true := by
  have grants : ∀ r ∈ hv.grant.grefs d, hv.grant.isGranted d r = false := by
    intro r member
    simp [Grant.System.isGranted, shell.memory.grants r member]
  have mappings : hv.grant.holdsAnyMap d = false := by
    unfold Grant.System.holdsAnyMap
    rw [List.any_eq_false]
    intro m stored held
    obtain ⟨active, mine⟩ : m.active = true ∧ m.grantee = d := by simpa using held
    exact shell.memory.mappings m (Slab.mem_live.mpr ⟨stored, active⟩) mine
  simp only [Hypervisor.isCleanShell, Bool.and_eq_true, List.all_eq_true, decide_eq_true_eq,
    Bool.not_eq_true', mappings, and_true]
  exact ⟨⟨⟨shell.events.free, shell.vcpus⟩, grants⟩, shell.memory.frames⟩

theorem Shell.isUnreferenced {d : DomId} (shell : Shell hv d) : hv.isUnreferenced d = true := by
  have grants : hv.grant.anyGrantTo d = false := by
    by_contra found
    simp only [Grant.System.anyGrantTo, Bool.not_eq_false, List.any_eq_true,
      decide_eq_true_eq] at found
    obtain ⟨grantor, known, gref, member, named⟩ := found
    refine shell.memory.inbound (grantor, gref) ?_ named
    exact List.mem_flatMap.mpr ⟨grantor, known, List.mem_map_of_mem member⟩
  have ports : hv.evtchn.anyUnboundInto d = false := by
    by_contra found
    simp only [Evtchn.System.anyUnboundInto, Bool.not_eq_false, List.any_eq_true,
      decide_eq_true_eq] at found
    obtain ⟨e, known, p, member, awaits⟩ := found
    exact shell.events.unawaited e known p member awaits
  have devices : hv.device.anyDeviceOf d = false := by
    by_contra found
    simp only [Device.System.anyDeviceOf, Bool.not_eq_false, List.contains_iff_mem] at found
    obtain ⟨dev, held⟩ := List.getElem?_of_mem found
    exact shell.devices dev held
  simp [Hypervisor.isUnreferenced, grants, ports, devices]

theorem deadShell_eq_none (tidy : Tidy hv) (d : DomId) : hv.deadShell d = none := by
  unfold deadShell
  by_cases dead : hv.lifeOf d = some .dead
  · have shell := tidy.shells dead
    simp [dead, shell.isCleanShell, shell.isUnreferenced, shell.mayCreate]
  · rw [if_neg dead]

theorem edgeEndpoints_eq_none (delegated : hv.Delegated) (edge : DomId × DomId) :
    hv.edgeEndpoints edge = none := by
  refine if_neg ?_
  rintro ⟨held, dead⟩
  obtain ⟨holder, target⟩ := delegated.alive (holdsControl_iff.mp held)
  rcases dead with dead | dead
  · exact dead holder
  · exact dead target

theorem tracesToRoot_of_climb {target root : DomId} {k : Nat} :
    ∀ {steps : Nat} {holder : DomId}, k ≤ steps →
      climb (column hv.controls target) k holder = some root →
      column hv.controls target root = .root → hv.tracesToRoot target steps holder = true := by
  induction k with
  | zero =>
      intro steps holder _ climbed isRoot
      obtain rfl : holder = root := by simpa [climb] using climbed
      have edge : hv.controlEdge holder target = .root := by
        unfold column at isRoot
        exact Control.edge_injective isRoot
      unfold tracesToRoot
      rw [edge]
  | succ k ih =>
      intro steps holder within climbed isRoot
      obtain ⟨steps, rfl⟩ : ∃ n, steps = n + 1 := ⟨steps - 1, by omega⟩
      have edge : column hv.controls target holder = (hv.controlEdge holder target).edge := rfl
      simp only [climb, edge] at climbed
      unfold tracesToRoot
      cases via : hv.controlEdge holder target with
      | absent => simp [via, Control.edge] at climbed
      | root => rfl
      | via parent =>
          rw [via] at climbed
          exact ih (Nat.le_of_succ_le_succ within) climbed isRoot

theorem edgeProvenance_eq_none (delegated : hv.Delegated) (edge : DomId × DomId) :
    hv.edgeProvenance edge = none := by
  refine if_neg ?_
  rintro ⟨held, orphan⟩
  have present : column hv.controls edge.2 edge.1 ≠ .absent := by
    unfold column
    rw [ne_eq, Control.edge_eq_absent]
    exact holdsControl_iff.mp held
  obtain ⟨k, within, root, climbed, isRoot⟩ := delegated.climbs present
  simp [tracesToRoot_of_climb (Nat.le_of_lt within) climbed isRoot] at orphan

theorem firstCrossViolation_eq_none (regular : Regular hv) (delegated : hv.Delegated)
    (tidy : Tidy hv) : hv.firstCrossViolation = none := by
  have clean : ∀ {α : Type} {items : List α} {check : α → Option CrossViolation},
      (∀ item ∈ items, check item = none) → items.findSome? check = none :=
    fun none => List.findSome?_eq_none_iff.mpr none
  unfold firstCrossViolation
  refine orElse_eq_none ?_ (orElse_eq_none ?_ (orElse_eq_none ?_ (orElse_eq_none ?_
    (orElse_eq_none ?_ ?_))))
  · exact clean fun slot _ => grantBacking_eq_none regular.memory slot
  · exact clean fun slot member => wakeup_eq_none tidy.awake member
  · exact clean fun edge member => linkConsent_eq_none regular.memory member
  · exact clean fun d _ => deadShell_eq_none tidy d
  · exact clean fun edge _ => edgeEndpoints_eq_none delegated edge
  · exact clean fun edge _ => edgeProvenance_eq_none delegated edge

/-- Two domains with `n + 1` ports each: the first creates the second, and the two connect
their first ports. -/
def connected (n : Nat) : Hypervisor :=
  Op.run apply [.guest 0 (.domainCreate 1 false), .guest 0 (.evtchnAllocUnbound 1),
    .guest 1 (.evtchnBindInterdomain 0 0)] (new ⟨2, n + 1, 1, 1, 1, 1, 0⟩)

/-- Then the first opens `k` more ports to itself. -/
def crowded (n k : Nat) : Hypervisor :=
  Op.run apply (List.replicate k (.guest 0 (.evtchnAllocUnbound 0))) (connected n)

theorem crowded_reachable (n k : Nat) : Reachable ⟨2, n + 1, 1, 1, 1, 1, 0⟩ (crowded n k) :=
  ⟨_, Op.run_append ..⟩

/-- A port that waits for domain 0. -/
def waiting : EventChannel := ⟨.unbound 0, false, false⟩

/-- Its ports. -/
def crowdedPorts (n k : Nat) : Evtchn.System :=
  ⟨[⟨.interdomain 1 0, false, false⟩ :: (List.replicate k waiting ++
      List.replicate (n - k) EventChannel.FREE),
    ⟨.interdomain 0 0, false, false⟩ :: List.replicate n EventChannel.FREE]⟩

/-- The hypervisor with other ports. -/
def withPorts (hv : Hypervisor) (s : Evtchn.System) : Hypervisor := { hv with evtchn := s }

theorem alloc_withPorts {hv : Hypervisor} (inside : 0 < hv.domainCount)
    (alive : hv.isLive 0 = true) (s : Evtchn.System) :
    (apply (.guest 0 (.evtchnAllocUnbound 0)) (hv.withPorts s)).2 =
      hv.withPorts (Evtchn.System.allocUnbound 0 0 s).2 := by
  have undead : decide ((hv.withPorts s).lifeOf 0 ≠ some .dead) = true := by
    have live : (hv.withPorts s).lifeOf 0 = some .live := isLive_iff.mp alive
    rw [live]
    rfl
  have inside : decide ((0 : DomId).toNat < (hv.withPorts s).domainCount) = true :=
    decide_eq_true inside
  have alive : (hv.withPorts s).isLive 0 = true := alive
  have routed : dispatch 0 (.evtchnAllocUnbound 0) (hv.withPorts s) =
      (onEvtchn (Evtchn.System.allocUnbound 0 0) >>= fun p => pure (.port p)) (hv.withPorts s) := by
    simp only [dispatch, route, inRange, rejectDeadTarget, Op.ensure_bind_apply, inside, alive,
      undead, if_true]
  rw [apply, Op.bind_apply, routed, Op.bind_apply]
  simp only [onEvtchn, Op.zoom, withPorts]
  cases (Evtchn.System.allocUnbound 0 0 s).1 <;> rfl

theorem connected_live (n : Nat) :
    0 < (connected n).domainCount ∧ (connected n).isLive 0 = true := by
  have count : (connected n).domainCount = 2 := rfl
  have life : (connected n).life = [.live, .live] := rfl
  rw [count, isLive_iff, life]
  exact ⟨by decide, rfl⟩

theorem crowdedPorts_findFree {n k : Nat} (room : k < n) :
    (crowdedPorts n k).findFree 0 = .ok (UInt32.ofNat (k + 1)) := by
  obtain ⟨m, left⟩ : ∃ m, n - k = m + 1 := ⟨n - k - 1, by omega⟩
  simp [crowdedPorts, Evtchn.System.findFree, Evtchn.System.domain, List.findIdx?_cons, left,
    List.findIdx?_append, List.findIdx?_replicate, EventChannel.FREE, List.replicate_succ, waiting]

theorem crowdedPorts_alloc {n k : Nat} (room : k < n) (small : k + 1 < 2 ^ 32) :
    (Evtchn.System.allocUnbound 0 0 (crowdedPorts n k)).2 = crowdedPorts n (k + 1) := by
  obtain ⟨m, left⟩ : ∃ m, n - k = m + 1 := ⟨n - k - 1, by omega⟩
  have rest : n - (k + 1) = m := by omega
  have index := Words.toNat_ofNat32 small
  have free : (crowdedPorts n k).chan? 0 (UInt32.ofNat (k + 1)) = some .FREE := by
    rw [Evtchn.System.chan?, index]
    simp [crowdedPorts, Grid.get?, left, List.replicate_succ]
  simp only [Evtchn.System.allocUnbound, Op.query_bind_apply, crowdedPorts_findFree room,
    Evtchn.System.chan_of_chan? free]
  have filled : (List.replicate k waiting ++
      List.replicate (m + 1) EventChannel.FREE).set k waiting =
      List.replicate (k + 1) waiting ++ List.replicate m EventChannel.FREE := by
    rw [List.set_append_right _ _ (by simp), List.length_replicate, Nat.sub_self,
      List.replicate_succ, List.set_cons_zero, List.replicate_succ', List.append_assoc,
      List.singleton_append]
  simp only [crowdedPorts, Evtchn.System.setChan, index, left, rest, Grid.set, ← filled]
  rfl

theorem crowded_eq {n k : Nat} (room : k ≤ n) (small : k < 2 ^ 32) :
    crowded n k = (connected n).withPorts (crowdedPorts n k) := by
  induction k with
  | zero => rfl
  | succ k ih =>
      have before := ih (Nat.le_of_succ_le room) (Nat.lt_of_succ_lt small)
      rw [crowded, List.replicate_succ', Op.run_concat, ← crowded, before,
        alloc_withPorts (connected_live n).1 (connected_live n).2,
        crowdedPorts_alloc room small]

/-- The port after the last one that a port number can address wraps to the first. -/
theorem crowdedPorts_wrap {n k : Nat} (room : k < n) (wraps : k + 1 = 2 ^ 32) :
    (Evtchn.System.allocUnbound 0 0 (crowdedPorts n k)).2 =
      (crowdedPorts n k).setChan 0 0 waiting := by
  have port : UInt32.ofNat (k + 1) = 0 := by
    rw [wraps]
    decide
  have linked : (crowdedPorts n k).chan? 0 0 = some ⟨.interdomain 1 0, false, false⟩ := rfl
  simp only [Evtchn.System.allocUnbound, Op.query_bind_apply, crowdedPorts_findFree room, port,
    Evtchn.System.chan_of_chan? linked]
  rfl

theorem crowded_wrap {n k : Nat} (room : k < n) (wraps : k + 1 = 2 ^ 32) : crowded n (k + 1) =
    (connected n).withPorts ((crowdedPorts n k).setChan 0 0 waiting) := by
  have before := crowded_eq (Nat.le_of_lt room) (show k < 2 ^ 32 by omega)
  rw [crowded, List.replicate_succ', Op.run_concat, ← crowded, before,
        alloc_withPorts (connected_live n).1 (connected_live n).2,
    crowdedPorts_wrap room wraps]

theorem Reachable.checked {c : Config} {hv : Hypervisor} (reachable : Reachable c hv)
    (domains : c.numDomains ≤ 65535) (ports : c.portsPerDomain ≤ 2 ^ 32) :
    hv.invariantsHold = true := by
  have regular := reachable.regular
  have tidy := reachable.tidy ports
  have few : hv.evtchn.domainCount ≤ 2 ^ 16 := by
    rw [tidy.domains, reachable.domainCount]
    omega
  have cross := firstCrossViolation_eq_none regular reachable.delegated tidy
  have credit : (hv.credit.all (·.invariantsHold)) = true := List.all_eq_true.mpr tidy.credit
  simp only [invariantsHold, tidy.ports.invariantsHold tidy.bounded few,
    regular.memory.grants.invariantsHold, regular.sched.invariantsHold,
    regular.memory.pages.invariantsHold, credit, cross, Option.isNone_none, Bool.and_self]

/-- While a port number can address every port, no run breaks the checked invariant. -/
theorem invariantsHold_of_ports (c : Config) (hv : Hypervisor) (reachable : Reachable c hv)
    (domains : c.numDomains ≤ 65535) (ports : c.portsPerDomain ≤ 2 ^ 32) :
    hv.invariantsHold = true := reachable.checked domains ports

theorem invariantsHold_of_ports_mapped :
    let hv := Op.run apply [.guest 0 (.domainCreate 1 false), .guest 0 (.p2mAllocate 0),
      .guest 0 (.grantAccess 0 1 0 false), .guest 1 (.grantMap 0 0 true)]
      (new ⟨2, 1, 1, 1, 1, 1, 0⟩)
    hv.grant.live.length = 1 ∧ hv.invariantsHold = true :=
  ⟨by decide +kernel,
    invariantsHold_of_ports ⟨2, 1, 1, 1, 1, 1, 0⟩ _ ⟨_, rfl⟩ (by decide) (by decide)⟩

/-- With one port more, the last allocation takes over a connected port. -/
theorem crowded_breaks_invariant :
    Reachable ⟨2, 2 ^ 32 + 1, 1, 1, 1, 1, 0⟩ (crowded (2 ^ 32) (2 ^ 32)) ∧
      (crowded (2 ^ 32) (2 ^ 32)).grant.live = [] ∧
      (crowded (2 ^ 32) (2 ^ 32)).invariantsHold = false := by
  refine ⟨crowded_reachable _ _, ?_⟩
  obtain ⟨k, wraps⟩ : ∃ k, k + 1 = 2 ^ 32 := ⟨2 ^ 32 - 1, by decide⟩
  rw [← wraps, crowded_wrap (Nat.lt_succ_self k) wraps]
  refine ⟨rfl, ?_⟩
  have broken : ((connected (k + 1)).withPorts
      ((crowdedPorts (k + 1) k).setChan 0 0 waiting)).evtchn.invariantsHold = false := by
    by_contra fine
    rw [Bool.not_eq_false, Evtchn.System.invariantsHold, Option.isNone_iff_eq_none] at fine
    have row := List.findSome?_eq_none_iff.mp fine 1 (List.mem_range.mpr (show 1 < 2 by decide))
    have cell := List.findSome?_eq_none_iff.mp row 0 (List.mem_range.mpr (Nat.succ_pos _))
    cases cell
  rw [invariantsHold, broken]
  rfl

end Baleen.Hypervisor
