import Baleen.Policy.Model
import Baleen.Sched.Cpus

/-!
# What the policy decides

A decision is always one that the scheduler accepts: a placement names a runnable vCPU and
an idle physical CPU of its mask, a preemption names a runner.  `next_cases` says so once,
together with what enacting the decision does.
-/

namespace Baleen.Sched.System

variable {s s' : System} {dom : DomId} {v : Vcpu} {c : VirtualCpu} {p : Pcpu}

theorem mem_visits : (dom, v) ∈ s.visits ↔
    dom.toNat < s.domainCount % 2 ^ 16 ∧ v.toNat < s.vcpuCount dom % 2 ^ 32 := by
  simp only [visits, vcpus, List.mem_flatMap, List.mem_map, Prod.mk.injEq, Words.mem_range16,
    Words.mem_range32]
  constructor
  · rintro ⟨d, domain, w, vcpu, rfl, rfl⟩
    exact ⟨domain, vcpu⟩
  · rintro ⟨domain, vcpu⟩
    exact ⟨dom, domain, v, vcpu, rfl, rfl⟩

theorem SameSizes.visits (same : SameSizes s s') : s'.visits = s.visits := by
  unfold System.visits
  rw [same.domainCount]
  exact List.flatMap_congr fun dom _ => by rw [same.vcpus]

theorem mem_pcpuIds : p ∈ s.pcpuIds ↔ p.toNat < s.pcpus.length % 2 ^ 32 := Words.mem_range32

theorem lt_of_mem_pcpuIds (member : p ∈ s.pcpuIds) : p.toNat < s.pcpus.length :=
  lt_of_lt_of_le (mem_pcpuIds.mp member) (Nat.mod_le _ _)

theorem occupant_eq_some {who : DomId × Vcpu} :
    s.occupant p = some who ↔ s.pcpus[p.toNat]? = some (some who) := by
  unfold occupant
  cases s.pcpus[p.toNat]? <;> simp

theorem vacant_of_occupant (inside : p.toNat < s.pcpus.length) (idle : s.occupant p = none) :
    s.pcpus[p.toNat]? = some none := by
  unfold occupant at idle
  rw [List.getElem?_eq_getElem inside] at idle ⊢
  exact congrArg some idle

theorem occupant_of_vacant (vacant : s.pcpus[p.toNat]? = some none) : s.occupant p = none := by
  rw [occupant, vacant]
  rfl

theorem affinityPermits_of_found (found : s.vcpu? dom v = some c) :
    s.affinityPermits dom v p = maskPermits c.affinity p := by
  rw [affinityPermits, vcpu_of_vcpu? found]

theorem onCpuSince_of_running (found : s.vcpu? dom v = some c) (running : c.state = .running p) :
    s.onCpuSince dom v = some c.dispatchedAt := by
  simp [onCpuSince, found, running, isRunning]

theorem onCpuSince_of_runnable (found : s.vcpu? dom v = some c) (ready : c.state = .runnable) :
    s.onCpuSince dom v = none := by
  simp [onCpuSince, found, ready, isRunning]

end Baleen.Sched.System

namespace Baleen.Policy.Scheduler

open Sched Sched.System

variable {s : Scheduler} {sys : System} {now : Ticks} {dom : DomId} {v : Vcpu} {p : Pcpu}

theorem firstIdlePcpuFor_spec (first : firstIdlePcpuFor sys dom v = some p) :
    p ∈ sys.pcpuIds ∧ sys.occupant p = none ∧ sys.affinityPermits dom v p = true := by
  have member := List.mem_of_find?_eq_some first
  have fits := List.find?_some first
  simp only [Bool.and_eq_true, Option.isNone_iff_eq_none] at fits
  exact ⟨member, fits⟩

theorem mem_placements {share : Share} : ((dom, v, p), share) ∈ s.placements sys now ↔
    (dom, v) ∈ sys.visits ∧ sys.stateOf dom v = some .runnable ∧
      firstIdlePcpuFor sys dom v = some p ∧ share = s.share sys dom v now := by
  simp only [placements, List.mem_filterMap, Prod.exists]
  constructor
  · rintro ⟨d, w, visited, placed⟩
    split_ifs at placed with ready
    obtain ⟨q, first, same⟩ := Option.map_eq_some_iff.mp placed
    simp only [Prod.mk.injEq] at same
    obtain ⟨⟨rfl, rfl, rfl⟩, rfl⟩ := same
    exact ⟨visited, ready, first, rfl⟩
  · rintro ⟨visited, ready, first, rfl⟩
    exact ⟨dom, v, visited, by rw [if_pos ready, first, Option.map_some]⟩

theorem mem_preemptions {share : Share} : ((dom, v, p), share) ∈ s.preemptions sys now ↔
    (dom, v) ∈ sys.visits ∧ sys.stateOf dom v = some (.running p) ∧
      s.expired sys dom v now = true ∧
      s.someAffineWaiterBeats sys p (s.share sys dom v now) now = true ∧
      share = s.share sys dom v now := by
  simp only [preemptions, List.mem_filterMap, Prod.exists]
  constructor
  · rintro ⟨d, w, visited, evicted⟩
    split at evicted
    case h_2 => cases evicted
    case h_1 q running =>
      split_ifs at evicted with worth
      simp only [Option.some.injEq, Prod.mk.injEq] at evicted
      obtain ⟨⟨rfl, rfl, rfl⟩, rfl⟩ := evicted
      obtain ⟨ended, beaten⟩ := Bool.and_eq_true_iff.mp worth
      exact ⟨visited, running, ended, beaten, rfl⟩
  · rintro ⟨visited, running, ended, beaten, rfl⟩
    exact ⟨dom, v, visited, by simp [running, ended, beaten]⟩

theorem bestPlacement_spec (best : s.bestPlacement sys now = some (dom, v, p)) :
    ∃ share, Choose.best moreDeserving (s.placements sys now) = some ((dom, v, p), share) := by
  obtain ⟨⟨_, share⟩, chosen, rfl⟩ := Option.map_eq_some_iff.mp best
  exact ⟨share, chosen⟩

theorem bestPlacement_eq_none : s.bestPlacement sys now = none ↔ s.placements sys now = [] := by
  rw [bestPlacement, Option.map_eq_none_iff, Choose.best_eq_none]

theorem bestPreemption_eq_none :
    s.bestPreemption sys now = none ↔ s.preemptions sys now = [] := by
  rw [bestPreemption, Option.map_eq_none_iff, Choose.best_eq_none]

/-- What a placement rests on. -/
structure Placeable (s : Scheduler) (sys : System) (now : Ticks) (dom : DomId) (v : Vcpu) (p : Pcpu)
    (c : VirtualCpu) : Prop where
  best : s.bestPlacement sys now = some (dom, v, p)
  visited : (dom, v) ∈ sys.visits
  found : sys.vcpu? dom v = some c
  ready : c.state = .runnable
  vacant : sys.pcpus[p.toNat]? = some none
  permitted : maskPermits c.affinity p = true

/-- What a preemption rests on. -/
structure Evictable (s : Scheduler) (sys : System) (now : Ticks) (dom : DomId) (v : Vcpu) (p : Pcpu)
    (c : VirtualCpu) : Prop where
  full : s.placements sys now = []
  visited : (dom, v) ∈ sys.visits
  found : sys.vcpu? dom v = some c
  running : c.state = .running p
  ended : s.expired sys dom v now = true
  beaten : s.someAffineWaiterBeats sys p (s.share sys dom v now) now = true

theorem placeable_of_best (best : s.bestPlacement sys now = some (dom, v, p)) :
    ∃ c, Placeable s sys now dom v p c := by
  obtain ⟨share, chosen⟩ := bestPlacement_spec best
  obtain ⟨visited, ready, first, -⟩ := mem_placements.mp (Choose.mem_of_best chosen)
  obtain ⟨c, found, state⟩ := stateOf_eq_some.mp ready
  obtain ⟨inside, idle, permitted⟩ := firstIdlePcpuFor_spec first
  rw [affinityPermits_of_found found] at permitted
  exact ⟨c, best, visited, found, state, vacant_of_occupant (lt_of_mem_pcpuIds inside) idle,
    permitted⟩

theorem evictable_of_best (full : s.placements sys now = [])
    (best : s.bestPreemption sys now = some (dom, v, p)) : ∃ c, Evictable s sys now dom v p c := by
  obtain ⟨⟨_, share⟩, chosen, rfl⟩ := Option.map_eq_some_iff.mp best
  obtain ⟨visited, running, ended, beaten, -⟩ := mem_preemptions.mp (Choose.mem_of_best chosen)
  obtain ⟨c, found, state⟩ := stateOf_eq_some.mp running
  exact ⟨c, full, visited, found, state, ended, beaten⟩

/-- The scheduler accepts every decision; nothing is decided when nothing can be improved. -/
theorem next_cases (s : Scheduler) (sys : System) (now : Ticks) :
    (∃ dom v p c sys', Placeable s sys now dom v p c ∧ s.next sys now = .run dom v p ∧
        enact now sys (s.next sys now) = some sys' ∧
        Moved dom v c { c with state := .running p, dispatchedAt := now } sys sys') ∨
      (∃ dom v p c sys', Evictable s sys now dom v p c ∧ s.next sys now = .preempt dom v p ∧
        enact now sys (s.next sys now) = some sys' ∧
        Moved dom v c { System.account c now with state := .runnable } sys sys') ∨
      (s.placements sys now = [] ∧ s.preemptions sys now = [] ∧ s.next sys now = .idle ∧
        enact now sys (s.next sys now) = none) := by
  cases placement : s.bestPlacement sys now with
  | some who =>
      obtain ⟨dom, v, p⟩ := who
      have decided : s.next sys now = .run dom v p := by rw [next, placement]
      obtain ⟨c, able⟩ := placeable_of_best placement
      obtain ⟨sys', ran, moved⟩ := run_of_ready able.found able.ready able.permitted able.vacant now
      exact .inl ⟨dom, v, p, c, sys', able, decided, by rw [decided]; simp only [enact, ran], moved⟩
  | none =>
      have full := bestPlacement_eq_none.mp placement
      cases preemption : s.bestPreemption sys now with
      | some who =>
          obtain ⟨dom, v, p⟩ := who
          have decided : s.next sys now = .preempt dom v p := by
            rw [next, placement, preemption]
          obtain ⟨c, able⟩ := evictable_of_best full preemption
          obtain ⟨sys', ran, moved⟩ := preempt_of_running able.found able.running now
          exact .inr (.inl ⟨dom, v, p, c, sys', able, decided, by
            rw [decided]; simp only [enact, ran], moved⟩)
      | none =>
          have decided : s.next sys now = .idle := by rw [next, placement, preemption]
          exact .inr (.inr ⟨full, bestPreemption_eq_none.mp preemption, decided, by
            rw [decided]; rfl⟩)

/-- A visit refreshes the snapshot, and moves the offset of a waker only. -/
theorem placeWaker_cases (sys : System) (floor : Option Share) (s : Scheduler) (dom : DomId)
    (v : Vcpu) : ∃ offset, placeWaker sys floor s (dom, v) =
      { s with
        offset := offset
        wasSchedulable := s.wasSchedulable.set dom.toNat v.toNat (schedulable sys dom v) } ∧
      (offset = s.offset ∨ (floor ≠ none ∧ schedulable sys dom v = true ∧
        s.wasSchedulableOf dom v = false ∧
        ∃ value, offset = s.offset.set dom.toNat v.toNat value)) := by
  unfold placeWaker
  cases floor with
  | none => exact ⟨s.offset, rfl, .inl rfl⟩
  | some f =>
      dsimp only
      split_ifs with boosted
      · simp only [Bool.and_eq_true, Bool.not_eq_true'] at boosted
        exact ⟨_, rfl, .inr ⟨nofun, boosted.1.1, boosted.1.2, _, rfl⟩⟩
      · exact ⟨s.offset, rfl, .inl rfl⟩

/-- What every visit preserves. -/
theorem foldl_placeWaker (P : Scheduler → Prop) {floor : Option Share} {l : List (DomId × Vcpu)}
    (start : P s) (visit : ∀ s, ∀ who ∈ l, P s → P (placeWaker sys floor s who)) :
    P (l.foldl (placeWaker sys floor) s) := by
  induction l generalizing s with
  | nil => exact start
  | cons who l ih =>
      refine ih (visit s who List.mem_cons_self start) fun s other member => ?_
      exact visit s other (List.mem_cons_of_mem _ member)

theorem account_settings (s : Scheduler) (sys : System) (now : Ticks) :
    (s.account sys now).weights = s.weights ∧ (s.account sys now).quantum = s.quantum := by
  refine foldl_placeWaker (fun x => x.weights = s.weights ∧ x.quantum = s.quantum) ⟨rfl, rfl⟩ ?_
  rintro x ⟨dom, v⟩ - ⟨weights, quantum⟩
  obtain ⟨offset, same, -⟩ := placeWaker_cases sys (s.floor sys now) x dom v
  rw [same]
  exact ⟨weights, quantum⟩

end Baleen.Policy.Scheduler
