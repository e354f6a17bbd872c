import Mathlib.Algebra.Order.BigOperators.Group.List
import Baleen.Policy.Decisions

/-!
# Work conservation

The loop of `advance` enacts decisions until there is none left or a cap is reached.  With a
positive quantum every decision brings the physical CPUs closer to rest: a preemption takes a
runner whose time-slice is over, a placement fills an idle one with a runner that has just
begun.  So two transitions for each physical CPU suffice, which the cap allows.  With a zero
quantum a vCPU dispatched a moment ago can be displaced again, and the cap can cut the
cascade short.
-/

namespace Baleen.Sched.System

variable {s : System}

theorem vcpuViolation_eq_none {d w : Nat} {c : VirtualCpu} {p : Pcpu}
    (fine : s.vcpuViolation d w c = none) (running : c.state = .running p) :
    s.pcpus[p.toNat]? = some (some (UInt16.ofNat d, UInt32.ofNat w)) ∧
      maskPermits c.affinity p = true := by
  simp only [vcpuViolation, running] at fine
  split at fine
  · cases fine
  · split_ifs at fine with broken off
    rename_i occupant present
    rw [not_not] at broken
    rw [broken] at present
    exact ⟨present, by simpa using off⟩

theorem pcpuViolation_eq_none {i : Nat} {d : DomId} {w : Vcpu}
    (fine : s.pcpuViolation i (some (d, w)) = none) :
    ∃ c, s.vcpu? d w = some c ∧ c.state = .running (UInt32.ofNat i) := by
  rcases vcpu_cases s d w with ⟨c, found, ok⟩ | ⟨-, e, failed⟩
  · simp only [pcpuViolation, ok] at fine
    split_ifs at fine with state
    exact ⟨c, found, not_not.mp state⟩
  · simp [pcpuViolation, failed] at fine

theorem vcpuViolation_of_checked (checked : s.firstViolation = none) {d w : Nat} {c : VirtualCpu}
    (present : s.domains.get? d w = some c) : s.vcpuViolation d w c = none := by
  obtain ⟨rows, -⟩ := (Option.orElse_eq_none _ _).mp checked
  have row := List.findSome?_eq_none_iff.mp rows d
    (List.mem_range.mpr (Grid.lt_length_of_get? present))
  have cell := List.findSome?_eq_none_iff.mp row w
    (List.mem_range.mpr (Grid.lt_width_of_get? present))
  rwa [present] at cell

/-- The checked invariant, on tables whose positions identifiers can name. -/
theorem consistent_of_firstViolation (checked : s.firstViolation = none)
    (domains : s.domains.length ≤ 2 ^ 16) (vcpus : ∀ d, s.domains.width d ≤ 2 ^ 32)
    (pcpus : s.pcpus.length ≤ 2 ^ 32) : s.Consistent := by
  obtain ⟨-, cpus⟩ := (Option.orElse_eq_none _ _).mp checked
  refine ⟨?_, ?_, ?_⟩
  · intro d w c p present state
    have fine := vcpuViolation_eq_none (vcpuViolation_of_checked checked present) state
    rwa [UInt16.ofNat_toNat, UInt32.ofNat_toNat] at fine
  · intro i d w present
    have inside := (List.getElem?_eq_some_iff.mp present).1
    have cell := List.findSome?_eq_none_iff.mp cpus i (List.mem_range.mpr inside)
    rw [present] at cell
    obtain ⟨c, found, state⟩ := pcpuViolation_eq_none cell
    exact ⟨c, UInt32.ofNat i, found, state, Words.toNat_ofNat32 (lt_of_lt_of_le inside pcpus)⟩
  · intro d w c p present _
    refine ⟨UInt16.ofNat d, UInt32.ofNat w, Words.toNat_ofNat16 ?_, Words.toNat_ofNat32 ?_⟩
    · exact lt_of_lt_of_le (Grid.lt_length_of_get? present) domains
    · exact lt_of_lt_of_le (Grid.lt_width_of_get? present) (vcpus d)

end Baleen.Sched.System

namespace Baleen.Policy.Scheduler

open Sched Sched.System

variable {s : Scheduler} {sys sys' : System} {now : Ticks} {dom : DomId} {v : Vcpu} {p : Pcpu}
  {c c' : VirtualCpu}

/-- The transitions that one physical CPU may still need. -/
def pending (s : Scheduler) (sys : System) (now : Ticks) (p : Pcpu) : Nat :=
  match sys.occupant p with
  | none => 1
  | some (dom, v) => if s.expired sys dom v now then 2 else 0

def slack (s : Scheduler) (sys : System) (now : Ticks) : Nat :=
  (sys.pcpuIds.map (s.pending sys now)).sum

theorem pending_le (s : Scheduler) (sys : System) (now : Ticks) (p : Pcpu) :
    s.pending sys now p ≤ 2 := by
  unfold pending
  split
  · decide
  · split_ifs <;> decide

theorem slack_le (s : Scheduler) (sys : System) (now : Ticks) :
    s.slack sys now ≤ 2 * sys.pcpus.length := by
  have each := List.sum_le_card_nsmul (sys.pcpuIds.map (s.pending sys now)) 2 (by
    intro n member
    obtain ⟨p, -, rfl⟩ := List.mem_map.mp member
    exact s.pending_le sys now p)
  have count : sys.pcpuIds.length ≤ sys.pcpus.length := by
    simpa [pcpuIds, Words.range32] using Nat.mod_le _ _
  rw [List.length_map, nsmul_eq_mul, Nat.cast_id] at each
  unfold slack
  omega

/-- The other physical CPUs keep their occupants and how long these have run. -/
theorem pending_other (consistent : sys.Consistent) (moved : Moved dom v c c' sys sys')
    {q : Pcpu} (before : ∀ p, c.state = .running p → p ≠ q)
    (after : ∀ p, c'.state = .running p → p ≠ q) :
    s.pending sys' now q = s.pending sys now q := by
  have same : sys'.occupant q = sys.occupant q := by
    unfold occupant
    rw [moved.pcpus, getElem?_occupy_other, getElem?_vacate_other]
    · intro p was same
      exact before p was (UInt32.toNat_inj.mp same)
    · intro p becomes same
      exact after p becomes (UInt32.toNat_inj.mp same)
  unfold pending
  rw [same]
  cases occupied : sys.occupant q with
  | none => rfl
  | some who =>
      obtain ⟨d, w⟩ := who
      have untouched : sys'.vcpu? d w = sys.vcpu? d w := by
        rw [moved.vcpu?, if_neg]
        rintro ⟨rfl, rfl⟩
        obtain ⟨x, p, found, running, place⟩ := consistent.occupied (occupant_eq_some.mp occupied)
        rw [moved.found] at found
        obtain rfl := Option.some.inj found
        exact before p running (UInt32.toNat_inj.mp place)
      have since : sys'.onCpuSince d w = sys.onCpuSince d w := by
        unfold onCpuSince
        rw [untouched]
      have as : s.expired sys' d w now = s.expired sys d w now := by
        unfold expired
        rw [since]
      simp only [as]

/-- What a decision does to the transitions left: one physical CPU needs fewer, the others
need as many. -/
structure Eases (s : Scheduler) (sys sys' : System) (now : Ticks) (p : Pcpu) : Prop where
  inside : p.toNat < sys.pcpus.length
  fewer : s.pending sys' now p < s.pending sys now p
  others : ∀ q, q ≠ p → s.pending sys' now q = s.pending sys now q

theorem eases_of_moved (consistent : sys.Consistent) (moved : Moved dom v c c' sys sys')
    (inside : p.toNat < sys.pcpus.length) (before : ∀ q, c.state = .running q → q = p)
    (after : ∀ q, c'.state = .running q → q = p)
    (fewer : s.pending sys' now p < s.pending sys now p) : Eases s sys sys' now p := by
  refine ⟨inside, fewer, fun q elsewhere => pending_other consistent moved ?_ ?_⟩
  · intro r was same
    exact elsewhere (same ▸ before r was)
  · intro r becomes same
    exact elsewhere (same ▸ after r becomes)

theorem Eases.slack_lt (eases : Eases s sys sys' now p) (sizes : SameSizes sys sys')
    (narrow : sys.pcpus.length < 2 ^ 32) : s.slack sys' now < s.slack sys now := by
  have ids : sys'.pcpuIds = sys.pcpuIds := by rw [pcpuIds, sizes.pcpus]; rfl
  have member : p ∈ sys.pcpuIds := by
    rw [mem_pcpuIds, Nat.mod_eq_of_lt narrow]
    exact eases.inside
  unfold slack
  rw [ids]
  refine List.sum_lt_sum _ _ (fun q _ => ?_) ⟨p, member, eases.fewer⟩
  by_cases here : q = p
  · rw [here]
    exact eases.fewer.le
  · exact (eases.others q here).le

/-- A placement fills an idle physical CPU with a runner that has just begun. -/
theorem Placeable.eases (positive : 0 < s.quantum) (consistent : sys.Consistent)
    (able : Placeable s sys now dom v p c)
    (moved : Moved dom v c { c with state := .running p, dispatchedAt := now } sys sys') :
    Eases s sys sys' now p := by
  have inside := (List.getElem?_eq_some_iff.mp able.vacant).1
  refine eases_of_moved consistent moved inside (by simp [able.ready]) ?_ ?_
  · intro q running
    exact (RunState.running.inj running).symm
  · have found : sys'.vcpu? dom v = some { c with state := .running p, dispatchedAt := now } := by
      rw [moved.vcpu?, if_pos ⟨rfl, rfl⟩]
    have occupied : sys'.occupant p = some (dom, v) :=
      occupant_eq_some.mpr ((moved.consistent consistent).running found rfl).1
    have began : s.expired sys' dom v now = false := by
      rw [expired, onCpuSince_of_running found rfl]
      simpa [Nat.pos_iff_ne_zero] using positive
    rw [pending, pending, occupied, occupant_of_vacant able.vacant]
    simp [began]

theorem Evictable.pending_eq (consistent : sys.Consistent) (able : Evictable s sys now dom v p c) :
    s.pending sys now p = 2 := by
  obtain ⟨occupied, -⟩ := consistent.running able.found able.running
  rw [pending, occupant_eq_some.mpr occupied]
  simp [able.ended]

/-- A preemption takes a runner whose time-slice is over. -/
theorem Evictable.eases (consistent : sys.Consistent) (able : Evictable s sys now dom v p c)
    (moved : Moved dom v c { System.account c now with state := .runnable } sys sys') :
    Eases s sys sys' now p := by
  obtain ⟨occupied, -⟩ := consistent.running able.found able.running
  have inside := (List.getElem?_eq_some_iff.mp occupied).1
  refine eases_of_moved consistent moved inside ?_ (by simp) ?_
  · intro q running
    exact (RunState.running.inj (able.running.symm.trans running)).symm
  · have idle : sys'.occupant p = none := by
      apply occupant_of_vacant
      rw [moved.pcpus, able.running]
      exact List.getElem?_set_self inside
    rw [able.pending_eq consistent, pending, idle]
    exact Nat.one_lt_two

/-- Every enacted decision leaves fewer transitions. -/
theorem enact_slack_lt (positive : 0 < s.quantum) (consistent : sys.Consistent)
    (narrow : sys.pcpus.length < 2 ^ 32) (enacted : enact now sys (s.next sys now) = some sys') :
    sys'.Consistent ∧ SameSizes sys sys' ∧ s.slack sys' now < s.slack sys now := by
  rcases next_cases s sys now with ⟨dom, v, p, c, sys₁, able, -, done, moved⟩ |
    ⟨dom, v, p, c, sys₁, able, -, done, moved⟩ | ⟨-, -, -, none⟩
  · obtain rfl := Option.some.inj (done.symm.trans enacted)
    exact ⟨moved.consistent consistent, moved.sizes,
      (able.eases positive consistent moved).slack_lt moved.sizes narrow⟩
  · obtain rfl := Option.some.inj (done.symm.trans enacted)
    exact ⟨moved.consistent consistent, moved.sizes,
      (able.eases consistent moved).slack_lt moved.sizes narrow⟩
  · rw [none] at enacted
    cases enacted

theorem settle_idle (positive : 0 < s.quantum) (fuel : Nat) (consistent : sys.Consistent)
    (narrow : sys.pcpus.length < 2 ^ 32) (enough : s.slack sys now ≤ fuel) :
    s.next (settle s now fuel sys).1 now = .idle ∧ SameSizes sys (settle s now fuel sys).1 := by
  have rest : ∀ sys, enact now sys (s.next sys now) = none → s.next sys now = .idle := by
    intro sys none
    rcases next_cases s sys now with ⟨dom, v, p, c, sys₁, -, -, done, -⟩ |
      ⟨dom, v, p, c, sys₁, -, -, done, -⟩ | ⟨-, -, idle, -⟩
    · rw [none] at done
      cases done
    · rw [none] at done
      cases done
    · exact idle
  induction fuel generalizing sys with
  | zero =>
      refine ⟨rest sys ?_, SameSizes.refl sys⟩
      cases enacted : enact now sys (s.next sys now) with
      | none => rfl
      | some sys' =>
          obtain ⟨-, -, fewer⟩ := enact_slack_lt positive consistent narrow enacted
          omega
  | succ fuel ih =>
      unfold settle
      cases enacted : enact now sys (s.next sys now) with
      | none => exact ⟨rest sys enacted, SameSizes.refl sys⟩
      | some sys' =>
          obtain ⟨consistent', sizes, fewer⟩ := enact_slack_lt positive consistent narrow enacted
          have narrow' : sys'.pcpus.length < 2 ^ 32 := by rwa [sizes.pcpus]
          obtain ⟨idle, sizes'⟩ := ih consistent' narrow' (by omega)
          exact ⟨idle, sizes.trans sizes'⟩

/-- No decision is left, and no physical CPU is idle while a runnable vCPU of its mask waits. -/
def Settled (s : Scheduler) (sys : System) (now : Ticks) : Prop :=
  s.next sys now = .idle ∧
    ∀ dom v p, sys.stateOf dom v = some .runnable → p.toNat < sys.pcpus.length →
      sys.occupant p = none → sys.affinityPermits dom v p = false

theorem vcpuCount_lt_capacity {sys : System} {dom : DomId}
    (known : dom ∈ Words.range16 sys.domainCount) : sys.vcpuCount dom < capacity sys := by
  have below : sys.vcpuCount dom ≤ ((Words.range16 sys.domainCount).map sys.vcpuCount).sum :=
    List.le_sum_of_mem (List.mem_map_of_mem known)
  unfold capacity
  omega

theorem width_lt_capacity {sys : System} (domains : sys.domainCount < 2 ^ 16) (d : Nat) :
    sys.domains.width d < capacity sys := by
  rcases Nat.lt_or_ge d sys.domainCount with inside | outside
  · have small : (UInt16.ofNat d).toNat = d := Words.toNat_ofNat16 (inside.trans domains)
    have count := @vcpuCount_lt_capacity sys (UInt16.ofNat d) (by
      rwa [Words.mem_range16, small, Nat.mod_eq_of_lt domains])
    rwa [vcpuCount, small] at count
  · have absent : sys.domains[d]? = none := List.getElem?_eq_none outside
    have empty : sys.domains.width d = 0 := by
      rw [Grid.width, absent]
      rfl
    rw [empty]
    exact Nat.succ_pos _

theorem settled_of_idle (domains : sys.domainCount < 2 ^ 16)
    (vcpus : ∀ d, sys.vcpuCount d < 2 ^ 32) (narrow : sys.pcpus.length < 2 ^ 32)
    (idle : s.next sys now = .idle) : Settled s sys now := by
  refine ⟨idle, fun dom v p ready inside vacant => ?_⟩
  have full : s.placements sys now = [] := by
    rcases next_cases s sys now with ⟨_, _, _, _, _, -, decided, -⟩ |
      ⟨_, _, _, _, _, -, decided, -⟩ | ⟨full, -⟩
    · cases idle.symm.trans decided
    · cases idle.symm.trans decided
    · exact full
  by_contra permitted
  rw [Bool.not_eq_false] at permitted
  obtain ⟨c, found, -⟩ := stateOf_eq_some.mp ready
  have visited : (dom, v) ∈ sys.visits := by
    have row : dom.toNat < sys.domainCount := Grid.lt_length_of_get? found
    have cell : v.toNat < sys.vcpuCount dom := Grid.lt_width_of_get? found
    rw [mem_visits, Nat.mod_eq_of_lt domains, Nat.mod_eq_of_lt (vcpus dom)]
    exact ⟨row, cell⟩
  cases first : firstIdlePcpuFor sys dom v with
  | none =>
      have fits := List.find?_eq_none.mp first p (by rwa [mem_pcpuIds, Nat.mod_eq_of_lt narrow])
      simp [vacant, permitted] at fits
  | some q =>
      have placed : ((dom, v, q), s.share sys dom v now) ∈ s.placements sys now :=
        mem_placements.mpr ⟨visited, ready, first, rfl⟩
      rw [full] at placed
      cases placed

theorem advance_settled (positive : 0 < s.quantum) (checked : sys.firstViolation = none)
    (domains : sys.domainCount < 2 ^ 16) (small : capacity sys < 2 ^ 32) :
    Settled (s.advance sys now).1 (s.advance sys now).2.1 now := by
  have vcpus := fun d => (width_lt_capacity domains d).trans small
  have twice : 2 * sys.pcpus.length < limit sys := by
    rw [limit, Nat.mod_eq_of_lt small]
    unfold capacity
    omega
  have narrow : sys.pcpus.length < 2 ^ 32 := by
    unfold capacity at small
    omega
  have consistent := consistent_of_firstViolation checked domains.le (fun d => (vcpus d).le)
    narrow.le
  have positive' : 0 < (s.account sys now).quantum := by
    rwa [(s.account_settings sys now).2]
  have enough : (s.account sys now).slack sys now ≤ limit sys :=
    ((s.account sys now).slack_le sys now).trans twice.le
  obtain ⟨idle, sizes⟩ := settle_idle positive' (limit sys) consistent narrow enough
  refine settled_of_idle ?_ ?_ ?_ idle
  · exact lt_of_eq_of_lt sizes.domainCount domains
  · intro d
    exact lt_of_eq_of_lt (sizes.vcpuCount d) (vcpus d.toNat)
  · exact lt_of_eq_of_lt sizes.pcpus narrow

/-- Nine vCPUs with narrow masks on six physical CPUs. -/
def crowded : System where
  domains := [[⟨.running 2, 5, 0, 31⟩, ⟨.running 5, 4, 0, 54⟩, ⟨.running 1, 1, 0, 3⟩,
    ⟨.running 3, 7, 0, 57⟩, ⟨.runnable, 2, 0, 7⟩, ⟨.runnable, 0, 0, 2⟩, ⟨.runnable, 3, 0, 39⟩,
    ⟨.running 0, 6, 0, 45⟩, ⟨.runnable, 8, 0, 29⟩]]
  pcpus := [some (0, 7), some (0, 2), some (0, 0), some (0, 3), none, some (0, 1)]

theorem crowded_checked : crowded.firstViolation = none ∧ crowded.domainCount < 2 ^ 16 ∧
    capacity crowded < 2 ^ 32 := by decide +kernel

/-- The cap of 22 transitions is reached with a placement still to make. -/
theorem next_crowded : ((Scheduler.new 1 9 0).advance crowded 0).1.next
    ((Scheduler.new 1 9 0).advance crowded 0).2.1 0 = .run 0 0 3 := by decide +kernel

end Baleen.Policy.Scheduler
