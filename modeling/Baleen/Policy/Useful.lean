import Baleen.Policy.Settling
import Baleen.Policy.Shares

/-!
# Lawful decisions

The scheduler accepts what the policy decides, and a preemption hands its physical CPU to a
vCPU with a better claim.  The claims are compared after the preemption as before it, unless
the runtime counter of the evicted runner saturates when its interval is closed.
-/

namespace Baleen.Policy.Scheduler

open Sched Sched.System

variable {s : Scheduler} {sys sys' : System} {now : Ticks} {dom : DomId} {v : Vcpu} {p : Pcpu}
  {c : VirtualCpu}

/-- No product of a comparison between vCPUs of the pool saturates. -/
def Unsaturated (s : Scheduler) (sys : System) (now : Ticks) : Prop :=
  ∀ i ∈ sys.visits, ∀ j ∈ sys.visits, schedulable sys i.1 i.2 = true →
    schedulable sys j.1 j.2 = true →
    (s.share sys i.1 i.2 now).service * (s.share sys j.1 j.2 now).weight ≤ U128_MAX

/-- A check of all pairs of vCPUs. -/
theorem unsaturated_of_all (checked : (sys.visits.all fun i => sys.visits.all fun j =>
    decide ((s.share sys i.1 i.2 now).service * (s.share sys j.1 j.2 now).weight ≤ U128_MAX)) =
      true) : Unsaturated s sys now := by
  intro i visited j visited' _ _
  have row := List.all_eq_true.mp checked i visited
  exact of_decide_eq_true (List.all_eq_true.mp row j visited')

/-- Closing the interval of a runner does not saturate its runtime counter. -/
def Unclamped (sys : System) (now : Ticks) (dom : DomId) (v : Vcpu) : Prop :=
  (sys.runtime dom v).getD 0 + ((sys.onCpuSince dom v).map fun since => now - since).getD 0 < 2 ^ 64

/-- The decision is accepted, and a preemption is followed by a placement of a better
claimant on the same physical CPU. -/
structure Lawful (s : Scheduler) (sys : System) (now : Ticks) : Prop where
  run : ∀ dom v p, s.next sys now = .run dom v p →
    ∃ sys', System.run dom v p now sys = (.ok (), sys')
  preempt : ∀ dom v p, s.next sys now = .preempt dom v p →
    ∃ sys', System.preempt dom v now sys = (.ok (), sys') ∧
      (Unsaturated s sys now → Unclamped sys now dom v →
        ∃ d w, s.next sys' now = .run d w p ∧
          moreDeserving (s.share sys' d w now) (s.share sys' dom v now) = true)

theorem schedulable_of_stateOf (ready : sys.stateOf dom v = some .runnable) :
    schedulable sys dom v = true := by
  rw [schedulable, ready]

/-- The evicted runner keeps its share. -/
theorem share_evicted (able : Evictable s sys now dom v p c)
    (moved : Moved dom v c { System.account c now with state := .runnable } sys sys')
    (unclamped : Unclamped sys now dom v) (d : DomId) (w : Vcpu) :
    s.share sys' d w now = s.share sys d w now := by
  have after := moved.vcpu? d w
  split_ifs at after with here
  · obtain ⟨rfl, rfl⟩ := here
    have before := onCpuSince_of_running able.found able.running
    have later := onCpuSince_of_runnable after rfl
    have fits : c.runtime + (now - c.dispatchedAt) < 2 ^ 64 := by
      simpa [Unclamped, runtime, able.found, before] using unclamped
    have closed : (System.account c now).runtime = c.runtime + (now - c.dispatchedAt) :=
      Nat.min_eq_left (Nat.le_sub_one_of_lt fits)
    unfold share
    rw [before, later, runtime, runtime, after, able.found]
    simp only [Option.map_some, Option.map_none, Option.getD_some, Option.getD_none, closed,
      Nat.add_zero]
  · unfold share runtime onCpuSince
    rw [after]

theorem schedulable_evicted (able : Evictable s sys now dom v p c)
    (moved : Moved dom v c { System.account c now with state := .runnable } sys sys') (d : DomId)
    (w : Vcpu) (pool : schedulable sys' d w = true) : schedulable sys d w = true := by
  unfold schedulable at pool ⊢
  rw [moved.stateOf] at pool
  split_ifs at pool with here
  · obtain ⟨rfl, rfl⟩ := here
    rw [stateOf_eq_some.mpr ⟨c, able.found, able.running⟩]
  · exact pool

/-- Only the freed physical CPU is newly idle. -/
theorem occupant_evicted (able : Evictable s sys now dom v p c)
    (moved : Moved dom v c { System.account c now with state := .runnable } sys sys') {q : Pcpu}
    (elsewhere : q ≠ p) : sys'.occupant q = sys.occupant q := by
  unfold occupant
  rw [moved.pcpus, able.running]
  change ((sys.pcpus.set p.toNat none)[q.toNat]?).join = _
  rw [List.getElem?_set_ne]
  exact fun same => elsewhere (UInt32.toNat_inj.mp same.symm)

/-- A waiter other than the evicted runner can take no physical CPU but the freed one. -/
theorem firstIdle_evicted (able : Evictable s sys now dom v p c)
    (moved : Moved dom v c { System.account c now with state := .runnable } sys sys') {d : DomId}
    {w : Vcpu} {q : Pcpu} (visited : (d, w) ∈ sys.visits) (other : ¬(dom = d ∧ v = w))
    (ready : sys'.stateOf d w = some .runnable) (first : firstIdlePcpuFor sys' d w = some q) :
    q = p := by
  by_contra elsewhere
  obtain ⟨inside, idle, permitted⟩ := firstIdlePcpuFor_spec first
  have ids : sys'.pcpuIds = sys.pcpuIds := by rw [pcpuIds, moved.sizes.pcpus]; rfl
  have same : sys'.vcpu? d w = sys.vcpu? d w := by rw [moved.vcpu?, if_neg other]
  obtain ⟨x, found, state⟩ := stateOf_eq_some.mp ready
  have found' : sys.vcpu? d w = some x := by rw [← same, found]
  rw [affinityPermits_of_found found, ← affinityPermits_of_found found'] at permitted
  rw [ids] at inside
  rw [occupant_evicted able moved elsewhere] at idle
  -- The waiter could have been placed before the preemption.
  have ready' : sys.stateOf d w = some .runnable := stateOf_eq_some.mpr ⟨x, found', state⟩
  cases earlier : firstIdlePcpuFor sys d w with
  | none =>
      have taken := List.find?_eq_none.mp earlier q inside
      simp [idle, permitted] at taken
  | some r =>
      have placed : ((d, w, r), s.share sys d w now) ∈ s.placements sys now :=
        mem_placements.mpr ⟨visited, ready', earlier, rfl⟩
      rw [able.full] at placed
      cases placed

/-- The shares of the pool after the preemption are still compared exactly. -/
theorem exact_evicted (able : Evictable s sys now dom v p c)
    (moved : Moved dom v c { System.account c now with state := .runnable } sys sys')
    (unsaturated : Unsaturated s sys now) (unclamped : Unclamped sys now dom v)
    {i j : DomId × Vcpu} (visited : i ∈ sys.visits) (visited' : j ∈ sys.visits)
    (pool : schedulable sys' i.1 i.2 = true) (pool' : schedulable sys' j.1 j.2 = true) :
    (s.share sys' i.1 i.2 now).Exact (s.share sys' j.1 j.2 now) := by
  have before := schedulable_evicted able moved i.1 i.2 pool
  have before' := schedulable_evicted able moved j.1 j.2 pool'
  rw [share_evicted able moved unclamped, share_evicted able moved unclamped]
  exact ⟨unsaturated i visited j visited' before before',
    unsaturated j visited' i visited before' before⟩

/-- What a preemption is made for: a waiter that beats the runner and can take its place. -/
structure Claimant (s : Scheduler) (sys sys' : System) (now : Ticks) (dom : DomId) (v : Vcpu)
    (i : DomId × Vcpu) : Prop where
  visited : i ∈ sys.visits
  waits : sys'.stateOf i.1 i.2 = some .runnable
  placed : ∃ q, ((i.1, i.2, q), s.share sys' i.1 i.2 now) ∈ s.placements sys' now
  beats : moreDeserving (s.share sys' i.1 i.2 now) (s.share sys' dom v now) = true

/-- The waiter that the preemption is for can take the freed physical CPU. -/
theorem claimant_of_evicted (able : Evictable s sys now dom v p c)
    (moved : Moved dom v c { System.account c now with state := .runnable } sys sys')
    (checked : sys.firstViolation = none) (narrow : sys.pcpus.length < 2 ^ 32)
    (unclamped : Unclamped sys now dom v) : ∃ i, Claimant s sys sys' now dom v i := by
  obtain ⟨⟨d, w⟩, visited, claim⟩ := List.any_eq_true.mp able.beaten
  simp only [Bool.and_eq_true, decide_eq_true_eq] at claim
  obtain ⟨⟨ready, permitted⟩, beats⟩ := claim
  have other : ¬(dom = d ∧ v = w) := by
    rintro ⟨rfl, rfl⟩
    rw [stateOf_eq_some.mpr ⟨c, able.found, able.running⟩] at ready
    cases ready
  have waits : sys'.stateOf d w = some .runnable := by rw [moved.stateOf, if_neg other, ready]
  have visits : sys'.visits = sys.visits := moved.sizes.visits
  refine ⟨(d, w), visited, waits, ?_, ?_⟩
  · obtain ⟨held, -⟩ := vcpuViolation_eq_none (vcpuViolation_of_checked checked able.found)
      able.running
    have inside := (List.getElem?_eq_some_iff.mp held).1
    have free : sys'.occupant p = none := by
      apply occupant_of_vacant
      rw [moved.pcpus, able.running]
      exact List.getElem?_set_self inside
    have member : p ∈ sys'.pcpuIds := by
      rw [mem_pcpuIds, moved.sizes.pcpus, Nat.mod_eq_of_lt narrow]
      exact inside
    have permitted' : sys'.affinityPermits d w p = true := by
      obtain ⟨x, found, -⟩ := stateOf_eq_some.mp ready
      rw [affinityPermits_of_found found] at permitted
      rw [affinityPermits_of_found (by rw [moved.vcpu?, if_neg other, found]), permitted]
    cases first : firstIdlePcpuFor sys' d w with
    | none =>
        have taken := List.find?_eq_none.mp first p member
        simp [free, permitted'] at taken
    | some q => exact ⟨q, mem_placements.mpr ⟨visits ▸ visited, waits, first, rfl⟩⟩
  · rwa [share_evicted able moved unclamped, share_evicted able moved unclamped]

/-- No placed vCPU beats the one that is chosen. -/
theorem unbeaten_of_chosen (able : Evictable s sys now dom v p c)
    (moved : Moved dom v c { System.account c now with state := .runnable } sys sys')
    (unsaturated : Unsaturated s sys now) (unclamped : Unclamped sys now dom v)
    {chosen other : (DomId × Vcpu × Pcpu) × Share}
    (best : Choose.best moreDeserving (s.placements sys' now) = some chosen)
    (placed : other ∈ s.placements sys' now) : moreDeserving other.2 chosen.2 = false := by
  have visits : sys'.visits = sys.visits := moved.sizes.visits
  let Waiting (x : Share) : Prop := ∃ i : DomId × Vcpu, i ∈ sys.visits ∧
    schedulable sys' i.1 i.2 = true ∧ x = s.share sys' i.1 i.2 now
  have valid : ∀ x ∈ s.placements sys' now, Waiting x.2 := by
    rintro ⟨⟨d, w, q⟩, x⟩ member
    obtain ⟨visited, ready, -, rfl⟩ := mem_placements.mp member
    exact ⟨(d, w), visits ▸ visited, schedulable_of_stateOf ready, rfl⟩
  have mono : ∀ a b c, Waiting a → Waiting b → Waiting c → moreDeserving a b = true →
      moreDeserving c b = false → moreDeserving a c = true := by
    rintro _ _ _ ⟨i, memI, poolI, rfl⟩ ⟨j, memJ, poolJ, rfl⟩ ⟨k, memK, poolK, rfl⟩
    have exact : ∀ {i j : DomId × Vcpu}, i ∈ sys.visits → j ∈ sys.visits →
        schedulable sys' i.1 i.2 = true → schedulable sys' j.1 j.2 = true →
        (s.share sys' i.1 i.2 now).Exact (s.share sys' j.1 j.2 now) :=
      exact_evicted able moved unsaturated unclamped
    exact moreDeserving_of_not (exact memI memJ poolI poolJ) (exact memK memJ poolK poolJ)
      (exact memI memK poolI poolK) (s.weightOf_pos ..)
  exact Choose.not_better_of_best valid mono moreDeserving_asymm best _ placed

theorem next_of_evicted (able : Evictable s sys now dom v p c)
    (moved : Moved dom v c { System.account c now with state := .runnable } sys sys')
    (checked : sys.firstViolation = none) (narrow : sys.pcpus.length < 2 ^ 32)
    (unsaturated : Unsaturated s sys now) (unclamped : Unclamped sys now dom v) :
    ∃ d w, s.next sys' now = .run d w p ∧
      moreDeserving (s.share sys' d w now) (s.share sys' dom v now) = true := by
  obtain ⟨⟨d₀, w₀⟩, claimant⟩ := claimant_of_evicted (s := s) able moved checked narrow unclamped
  obtain ⟨q₀, placed₀⟩ := claimant.placed
  have beats := claimant.beats
  -- Some vCPU is placed, and the waiter does not beat it.
  cases best : s.bestPlacement sys' now with
  | none =>
      rw [bestPlacement_eq_none.mp best] at placed₀
      cases placed₀
  | some who =>
      obtain ⟨d, w, q⟩ := who
      obtain ⟨share, chosen⟩ := bestPlacement_spec best
      obtain ⟨visited, ready, first, rfl⟩ := mem_placements.mp (Choose.mem_of_best chosen)
      have unbeaten := unbeaten_of_chosen able moved unsaturated unclamped chosen placed₀
      have other : ¬(dom = d ∧ v = w) := by
        rintro ⟨rfl, rfl⟩
        rw [beats] at unbeaten
        cases unbeaten
      rw [moved.sizes.visits] at visited
      obtain rfl := firstIdle_evicted able moved visited other ready first
      refine ⟨d, w, by rw [next, best], ?_⟩
      have pool := schedulable_of_stateOf ready
      have pool₀ := schedulable_of_stateOf claimant.waits
      have poolR : schedulable sys' dom v = true := by
        refine schedulable_of_stateOf ?_
        rw [moved.stateOf, if_pos ⟨rfl, rfl⟩]
      exact moreDeserving_of_not_above
        (exact_evicted able moved unsaturated unclamped (i := (d, w)) visited claimant.visited pool
          pool₀)
        (exact_evicted able moved unsaturated unclamped (j := (dom, v)) claimant.visited
          able.visited pool₀ poolR)
        (exact_evicted able moved unsaturated unclamped (i := (d, w)) (j := (dom, v)) visited
          able.visited pool poolR)
        (s.weightOf_pos ..) unbeaten beats

/-- The scheduler accepts every decision; a preemption hands its physical CPU to a better
claimant, if neither the comparisons nor the counter of the evicted runner saturate. -/
theorem next_lawful (s : Scheduler) (sys : System) (now : Ticks)
    (checked : sys.firstViolation = none) (narrow : sys.pcpus.length < 2 ^ 32) :
    Lawful s sys now := by
  have accepted := next_cases s sys now
  constructor
  · intro dom v p decided
    rcases accepted with ⟨dom', v', p', c, sys', able, decided', -, -⟩ |
      ⟨_, _, _, _, _, -, decided', -⟩ | ⟨-, -, decided', -⟩
    · rw [decided] at decided'
      cases decided'
      obtain ⟨sys', ran, -⟩ := run_of_ready able.found able.ready able.permitted able.vacant now
      exact ⟨sys', ran⟩
    · cases decided.symm.trans decided'
    · cases decided.symm.trans decided'
  · intro dom v p decided
    rcases accepted with ⟨_, _, _, _, _, -, decided', -⟩ |
      ⟨dom', v', p', c, sys', able, decided', -, -⟩ | ⟨-, -, decided', -⟩
    · cases decided.symm.trans decided'
    · rw [decided] at decided'
      cases decided'
      obtain ⟨sys', ran, moved⟩ := preempt_of_running able.found able.running now
      exact ⟨sys', ran, next_of_evicted able moved checked narrow⟩
    · cases decided.symm.trans decided'

/-- A preemption that hands the physical CPU to the waiter. -/
theorem next_lawful_pair :
    let s := Scheduler.new 1 2 1
    let sys : System := ⟨[[⟨.running 0, 0, 0, 1⟩, ⟨.runnable, 0, 0, 1⟩]], [some (0, 0)]⟩
    s.next sys 1 = .preempt 0 0 0 ∧ Lawful s sys 1 :=
  ⟨by decide +kernel, next_lawful _ _ _ (by decide +kernel) (by decide +kernel)⟩

/-- A runner whose runtime counter is at its largest value, and a waiter like it. -/
def worn : System :=
  ⟨[[⟨.running 0, 2 ^ 64 - 1, 0, 1⟩, ⟨.runnable, 2 ^ 64 - 1, 0, 1⟩]], [some (0, 0)]⟩

theorem worn_unsaturated : Unsaturated (Scheduler.new 1 2 1) worn 5 :=
  unsaturated_of_all (by decide +kernel)

/-- The evicted runner loses the interval it has run, and is placed again. -/
theorem preemption_in_vain : ¬∀ (s : Scheduler) (sys : System) (now : Ticks),
    sys.firstViolation = none → sys.domainCount ≤ 65535 → Unsaturated s sys now →
    ∀ dom v p, s.next sys now = .preempt dom v p →
    ∃ sys', System.preempt dom v now sys = (.ok (), sys') ∧
      ∃ d w, s.next sys' now = .run d w p ∧
        moreDeserving (s.share sys' d w now) (s.share sys' dom v now) = true := by
  intro useful
  have preempted : System.preempt 0 0 5 worn =
      (.ok (), ⟨[[⟨.runnable, 2 ^ 64 - 1, 0, 1⟩, ⟨.runnable, 2 ^ 64 - 1, 0, 1⟩]], [none]⟩) := by
    decide +kernel
  obtain ⟨sys', ran, d, w, decided, better⟩ := useful (Scheduler.new 1 2 1) worn 5
    (by decide +kernel) (by decide +kernel) worn_unsaturated 0 0 0 (by decide +kernel)
  obtain rfl := congrArg Prod.snd (preempted.symm.trans ran)
  have again : (Scheduler.new 1 2 1).next
      ⟨[[⟨.runnable, 2 ^ 64 - 1, 0, 1⟩, ⟨.runnable, 2 ^ 64 - 1, 0, 1⟩]], [none]⟩ 5 =
      .run 0 0 0 := by decide +kernel
  cases again.symm.trans decided
  rw [moreDeserving_asymm _ _ better] at better
  cases better

end Baleen.Policy.Scheduler
