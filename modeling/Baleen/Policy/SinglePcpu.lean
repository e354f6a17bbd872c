import Baleen.Lib.FairShare
import Baleen.Policy.Shares

/-!
# One physical CPU

On one physical CPU, with vCPUs that neither wake nor block, a tick of the policy is a step
of weighted sharing.  `Tracks` relates the tables to the abstract state before a tick: the
service of a runner is its accounted time and the time it has been running.
-/

namespace Baleen.Sched.System

variable {s s' : System} {o : Option (DomId × Vcpu)} {dom : DomId} {v : Vcpu} {p : Pcpu}

theorem pcpuIds_single (single : s.pcpus = [o]) : s.pcpuIds = [0] := by
  rw [pcpuIds, single]
  rfl

theorem occupant_single (single : s.pcpus = [o]) : s.occupant 0 = o := by
  rw [occupant, single]
  rfl

theorem eq_zero_of_single {x : Option (DomId × Vcpu)} (single : s.pcpus = [o])
    (present : s.pcpus[p.toNat]? = some x) : p = 0 ∧ x = o := by
  rw [single] at present
  obtain ⟨inside, value⟩ := List.getElem?_eq_some_iff.mp present
  have zero : p.toNat = 0 := Nat.lt_one_iff.mp inside
  refine ⟨UInt32.toNat_inj.mp zero, ?_⟩
  simpa [zero] using value.symm

end Baleen.Sched.System

namespace Baleen.Policy.Scheduler

open Sched Sched.System FairShare

variable {R : Rules (DomId × Vcpu)} {x y : State (DomId × Vcpu)} {s : Scheduler} {sys sys' : System}
  {now : Ticks} {i r : DomId × Vcpu} {c : VirtualCpu}

/-- The policy's settings are those of the abstract rules. -/
structure Configured (R : Rules (DomId × Vcpu)) (s : Scheduler) : Prop where
  weight : ∀ i, s.weightOf i.1 i.2 = R.weight i
  quantum : s.quantum = R.quantum
  before : R.before = Before
  unboosted : Unboosted s

/-- The record of the vCPU that runs, before the tick at `t`. -/
structure Serving (service elapsed : Nat) (t : Ticks) (c : VirtualCpu) : Prop where
  state : c.state = .running 0
  runtime : c.runtime + elapsed = service
  since : c.dispatchedAt + elapsed + 1 = t
  permitted : maskPermits c.affinity 0 = true

/-- The record of a vCPU that waits. -/
structure Waiting (service : Nat) (c : VirtualCpu) : Prop where
  state : c.state = .runnable
  runtime : c.runtime = service
  permitted : maskPermits c.affinity 0 = true

/-- The tables before the tick at `t`. -/
structure Tracks (R : Rules (DomId × Vcpu)) (x : State (DomId × Vcpu)) (sys : System)
    (t : Ticks) : Prop where
  pcpus : sys.pcpus = [x.runner]
  visited : ∀ i ∈ R.members, i ∈ sys.visits
  runner : ∀ r, x.runner = some r → r ∈ R.members ∧
    ∃ c, sys.vcpu? r.1 r.2 = some c ∧ Serving (x.service r) x.elapsed t c
  waiter : ∀ i ∈ R.members, x.runner ≠ some i →
    ∃ c, sys.vcpu? i.1 i.2 = some c ∧ Waiting (x.service i) c
  offline : ∀ i ∈ sys.visits, i ∉ R.members → ∀ c, sys.vcpu? i.1 i.2 = some c → c.state = .offline
  bounded : ∀ i, x.service i ≤ t - 1

theorem Tracks.eq_runner {p : Pcpu} (tracks : Tracks R x sys now) (visited : i ∈ sys.visits)
    (found : sys.vcpu? i.1 i.2 = some c) (running : c.state = .running p) : x.runner = some i := by
  by_contra other
  by_cases member : i ∈ R.members
  · obtain ⟨c', found', waiting⟩ := tracks.waiter i member other
    obtain rfl := Option.some.inj (found.symm.trans found')
    cases running.symm.trans waiting.state
  · cases running.symm.trans (tracks.offline i visited member c found)

theorem Tracks.of_runnable (tracks : Tracks R x sys now) (visited : i ∈ sys.visits)
    (found : sys.vcpu? i.1 i.2 = some c) (ready : c.state = .runnable) : i ∈ R.members := by
  by_contra outside
  cases ready.symm.trans (tracks.offline i visited outside c found)

theorem Tracks.served_le (tracks : Tracks R x sys now) (i : DomId × Vcpu) : x.served i ≤ now := by
  have bounded := tracks.bounded i
  by_cases running : x.runner = some i
  · obtain ⟨-, c, -, serving⟩ := tracks.runner i running
    have positive : 1 ≤ now := by
      rw [← serving.since]
      exact Nat.le_add_left _ _
    rw [State.served_runner running, ← Nat.sub_add_cancel positive]
    exact Nat.succ_le_succ bounded
  · rw [State.served_waiter running]
    exact bounded.trans (Nat.sub_le now 1)

/-- An idle physical CPU: nothing happens between two ticks. -/
theorem Tracks.idle (tracks : Tracks R x sys now) (idle : x.runner = none) :
    Tracks R ⟨x.served, none, 0⟩ sys (now + 1) where
  pcpus := by rw [tracks.pcpus, idle]
  visited := tracks.visited
  runner := nofun
  waiter := by
    intro i member _
    have waiting : x.runner ≠ some i := by simp [idle]
    have same : x.served i = x.service i := State.served_waiter waiting
    simpa only [same] using tracks.waiter i member waiting
  offline := tracks.offline
  bounded := tracks.served_le

theorem share_of_runnable (unboosted : Unboosted s) (found : sys.vcpu? i.1 i.2 = some c)
    (ready : c.state = .runnable) (small : c.runtime < 2 ^ 128) :
    s.share sys i.1 i.2 now = ⟨c.runtime, s.weightOf i.1 i.2⟩ := by
  simp only [share, runtime, found, onCpuSince_of_runnable found ready,
    offsetOf_of_unboosted unboosted, Option.map_some, Option.map_none, Option.getD_some,
    Option.getD_none, Nat.add_zero, Nat.mod_eq_of_lt small]

theorem share_of_running {p : Pcpu} (unboosted : Unboosted s) (found : sys.vcpu? i.1 i.2 = some c)
    (running : c.state = .running p) (small : c.runtime + (now - c.dispatchedAt) < 2 ^ 128) :
    s.share sys i.1 i.2 now = ⟨c.runtime + (now - c.dispatchedAt), s.weightOf i.1 i.2⟩ := by
  simp only [share, runtime, found, onCpuSince_of_running found running,
    offsetOf_of_unboosted unboosted, Option.map_some, Option.getD_some, Nat.add_zero,
    Nat.mod_eq_of_lt small]

/-- The shares that the policy compares at `now`. -/
structure Shares (R : Rules (DomId × Vcpu)) (f : DomId × Vcpu → Nat) (s : Scheduler) (sys : System)
    (now : Ticks) : Prop where
  share : ∀ i ∈ R.members, s.share sys i.1 i.2 now = ⟨f i, R.weight i⟩
  small : ∀ i ∈ R.members, (s.share sys i.1 i.2 now).Small

theorem Shares.moreDeserving_iff {f : DomId × Vcpu → Nat} {j : DomId × Vcpu}
    (shares : Shares R f s sys now) (member : i ∈ R.members) (member' : j ∈ R.members) :
    moreDeserving (s.share sys i.1 i.2 now) (s.share sys j.1 j.2 now) = true ↔ R.Beats f i j := by
  rw [Policy.moreDeserving_iff (shares.small i member) (shares.small j member'),
    shares.share i member, shares.share j member']
  rfl

theorem Tracks.share_waiter {t : Ticks} (tracks : Tracks R x sys t) (configured : Configured R s)
    (clock : t ≤ 2 ^ 64) (member : i ∈ R.members) (waits : x.runner ≠ some i) :
    s.share sys i.1 i.2 now = ⟨x.served i, R.weight i⟩ := by
  obtain ⟨c, found, waiting⟩ := tracks.waiter i member waits
  have total : c.runtime = x.served i := by rw [State.served_waiter waits, waiting.runtime]
  have small : x.served i < 2 ^ 128 := ((tracks.served_le i).trans clock).trans_lt (by decide)
  rw [← configured.weight, share_of_runnable configured.unboosted found waiting.state
    (by rwa [total]), total]

theorem Serving.total {service elapsed : Nat} (serving : Serving service elapsed now c) :
    c.runtime + (now - c.dispatchedAt) = service + 1 := by
  have since : now - c.dispatchedAt = elapsed + 1 := by
    rw [← serving.since, Nat.add_assoc, Nat.add_sub_cancel_left]
  rw [since, ← serving.runtime, Nat.add_assoc]

theorem Tracks.share_runner (tracks : Tracks R x sys now) (configured : Configured R s)
    (clock : now ≤ 2 ^ 64) (running : x.runner = some r) :
    s.share sys r.1 r.2 now = ⟨x.served r, R.weight r⟩ := by
  obtain ⟨-, c, found, serving⟩ := tracks.runner r running
  have total : c.runtime + (now - c.dispatchedAt) = x.served r := by
    rw [serving.total, State.served_runner running]
  have small : x.served r < 2 ^ 128 := ((tracks.served_le r).trans clock).trans_lt (by decide)
  rw [← configured.weight, share_of_running configured.unboosted found serving.state
    (by rwa [total]), total]

theorem Tracks.shares (tracks : Tracks R x sys now) (configured : Configured R s)
    (clock : now ≤ 2 ^ 64) : Shares R x.served s sys now := by
  have share : ∀ i ∈ R.members, s.share sys i.1 i.2 now = ⟨x.served i, R.weight i⟩ := by
    intro i member
    by_cases running : x.runner = some i
    · exact tracks.share_runner configured clock running
    · exact tracks.share_waiter configured clock member running
  refine ⟨share, fun i member => ⟨?_, s.weightOf_pos i.1 i.2, s.weightOf_lt i.1 i.2⟩⟩
  rw [share i member]
  exact (tracks.served_le i).trans clock

/-- When nobody runs the shares do not depend on the clock. -/
theorem Tracks.shares_idle {t : Ticks} {f : DomId × Vcpu → Nat}
    (tracks : Tracks R ⟨f, none, 0⟩ sys t) (configured : Configured R s) (clock : t ≤ 2 ^ 64) :
    Shares R f s sys now := by
  have share : ∀ i ∈ R.members, s.share sys i.1 i.2 now = ⟨f i, R.weight i⟩ :=
    fun i member => tracks.share_waiter configured clock member nofun
  refine ⟨share, fun i member => ⟨?_, s.weightOf_pos i.1 i.2, s.weightOf_lt i.1 i.2⟩⟩
  rw [share i member]
  exact (tracks.served_le i).trans clock

theorem Tracks.expired_iff (tracks : Tracks R x sys now) (configured : Configured R s)
    (running : x.runner = some r) :
    s.expired sys r.1 r.2 now = true ↔ R.quantum ≤ x.elapsed + 1 := by
  obtain ⟨-, c, found, serving⟩ := tracks.runner r running
  have since : now - c.dispatchedAt = x.elapsed + 1 := by
    rw [← serving.since, Nat.add_assoc, Nat.add_sub_cancel_left]
  rw [expired, onCpuSince_of_running found serving.state, Option.getD_some, since,
    configured.quantum, decide_eq_true_iff]

theorem Tracks.someAffineWaiterBeats_iff (tracks : Tracks R x sys now)
    (configured : Configured R s) (clock : now ≤ 2 ^ 64) (running : x.runner = some r) :
    s.someAffineWaiterBeats sys 0 (s.share sys r.1 r.2 now) now = true ↔
      ∃ k ∈ R.members, R.Beats x.served k r := by
  have member := (tracks.runner r running).1
  have shares := tracks.shares configured clock
  simp only [someAffineWaiterBeats, List.any_eq_true, Bool.and_eq_true, decide_eq_true_iff]
  constructor
  · rintro ⟨⟨d, w⟩, visited, ⟨ready, -⟩, beats⟩
    obtain ⟨c, found, state⟩ := stateOf_eq_some.mp ready
    have waits := tracks.of_runnable visited found state
    exact ⟨(d, w), waits, (shares.moreDeserving_iff waits member).mp beats⟩
  · rintro ⟨k, waits, beats⟩
    have other : x.runner ≠ some k := by
      rw [running]
      rintro ⟨rfl⟩
      exact lt_irrefl _ beats
    obtain ⟨c, found, waiting⟩ := tracks.waiter k waits other
    refine ⟨k, tracks.visited k waits, ⟨?_, ?_⟩, ?_⟩
    · exact stateOf_eq_some.mpr ⟨c, found, waiting.state⟩
    · rw [affinityPermits_of_found found, waiting.permitted]
    · exact (shares.moreDeserving_iff waits member).mpr beats

/-- The tables after a tick in which nothing happens. -/
theorem Tracks.kept (tracks : Tracks R x sys now) (running : x.runner = some r) :
    Tracks R ⟨x.served, some r, x.elapsed + 1⟩ sys (now + 1) := by
  refine ⟨by rw [tracks.pcpus, running], tracks.visited, ?_, ?_, tracks.offline, tracks.served_le⟩
  · rintro _ ⟨⟩
    obtain ⟨member, c, found, serving⟩ := tracks.runner r running
    refine ⟨member, c, found, serving.state, ?_, ?_, serving.permitted⟩
    · change c.runtime + (x.elapsed + 1) = x.served r
      rw [State.served_runner running, ← serving.runtime, Nat.add_assoc]
    · exact congrArg Nat.succ serving.since
  · intro i member waits
    have waits' : x.runner ≠ some i := by rwa [running]
    have same : x.served i = x.service i := State.served_waiter waits'
    simpa only [same] using tracks.waiter i member waits'

/-- The tables after the runner has given way. -/
theorem Tracks.preempted (tracks : Tracks R x sys now) (clock : now < 2 ^ 64)
    (running : x.runner = some r) (found : sys.vcpu? r.1 r.2 = some c)
    (moved : Moved r.1 r.2 c { System.account c now with state := .runnable } sys sys') :
    Tracks R ⟨x.served, none, 0⟩ sys' (now + 1) := by
  obtain ⟨member, c', found', serving⟩ := tracks.runner r running
  obtain rfl := Option.some.inj (found.symm.trans found')
  have others : ∀ i, i ≠ r → sys'.vcpu? i.1 i.2 = sys.vcpu? i.1 i.2 := by
    intro i other
    rw [moved.vcpu?, if_neg]
    rintro ⟨same, same'⟩
    exact other (Prod.ext same.symm same'.symm)
  refine ⟨?_, ?_, nofun, ?_, ?_, tracks.served_le⟩
  · rw [moved.pcpus, tracks.pcpus, serving.state]
    rfl
  · intro i inside
    rw [moved.sizes.visits]
    exact tracks.visited i inside
  · intro i inside _
    by_cases own : i = r
    · subst own
      refine ⟨{ System.account c now with state := .runnable }, ?_, rfl, ?_, serving.permitted⟩
      · rw [moved.vcpu?, if_pos ⟨rfl, rfl⟩]
      have total : c.runtime + (now - c.dispatchedAt) = x.served i := by
        rw [serving.total, State.served_runner running]
      have unsaturated : x.served i ≤ 2 ^ 64 - 1 :=
        Nat.le_pred_of_lt ((tracks.served_le i).trans_lt clock)
      simp only [System.account, total, Nat.min_eq_left unsaturated]
    · have waits : x.runner ≠ some i := by
        rw [running]
        exact fun same => own (Option.some.inj same).symm
      have same : x.served i = x.service i := State.served_waiter waits
      simpa only [same, others i own] using tracks.waiter i inside waits
  · intro i visited outside
    rw [moved.sizes.visits] at visited
    rw [others i (fun own => outside (own ▸ member))]
    exact tracks.offline i visited outside

/-- The runner gives way exactly when its turn is over. -/
theorem Tracks.next_busy (tracks : Tracks R x sys now) (configured : Configured R s)
    (clock : now < 2 ^ 64) (running : x.runner = some r) :
    (¬R.Due x r ∧ enact now sys (s.next sys now) = none) ∨
      (R.Due x r ∧ ∃ sys', enact now sys (s.next sys now) = some sys' ∧
        Tracks R ⟨x.served, none, 0⟩ sys' (now + 1)) := by
  have full : sys.pcpus = [some r] := by rw [tracks.pcpus, running]
  rcases next_cases s sys now with ⟨dom, v, p, c, sys', able, -⟩ |
    ⟨dom, v, p, c, sys', able, -, done, moved⟩ | ⟨-, none, -, rest⟩
  · cases (eq_zero_of_single full able.vacant).2
  · obtain rfl : r = (dom, v) :=
      Option.some.inj (running.symm.trans (tracks.eq_runner able.visited able.found able.running))
    obtain ⟨-, c', found, serving⟩ := tracks.runner (dom, v) running
    obtain rfl := Option.some.inj (able.found.symm.trans found)
    obtain rfl := RunState.running.inj (able.running.symm.trans serving.state)
    refine .inr
      ⟨⟨running, (tracks.expired_iff configured running).mp able.ended, ?_⟩, sys', done, ?_⟩
    · exact (tracks.someAffineWaiterBeats_iff configured clock.le running).mp able.beaten
    · exact tracks.preempted clock running found moved
  · refine .inl ⟨?_, rest⟩
    rintro ⟨-, ended, beaten⟩
    obtain ⟨member, c, found, serving⟩ := tracks.runner r running
    have candidate : ((r.1, r.2, 0), s.share sys r.1 r.2 now) ∈ s.preemptions sys now := by
      refine mem_preemptions.mpr ⟨tracks.visited r member, ?_, ?_, ?_, rfl⟩
      · exact stateOf_eq_some.mpr ⟨c, found, serving.state⟩
      · exact (tracks.expired_iff configured running).mpr ended
      · exact (tracks.someAffineWaiterBeats_iff configured clock.le running).mpr beaten
    rw [none] at candidate
    cases candidate

/-- The tables after a waiter has been dispatched. -/
theorem Tracks.dispatched {f : DomId × Vcpu → Nat} (tracks : Tracks R ⟨f, none, 0⟩ sys (now + 1))
    (member : r ∈ R.members) (found : sys.vcpu? r.1 r.2 = some c)
    (moved : Moved r.1 r.2 c { c with state := .running 0, dispatchedAt := now } sys sys') :
    Tracks R ⟨f, some r, 0⟩ sys' (now + 1) := by
  obtain ⟨c', found', waiting⟩ := tracks.waiter r member nofun
  obtain rfl := Option.some.inj (found.symm.trans found')
  have others : ∀ i, i ≠ r → sys'.vcpu? i.1 i.2 = sys.vcpu? i.1 i.2 := by
    intro i other
    rw [moved.vcpu?, if_neg]
    rintro ⟨same, same'⟩
    exact other (Prod.ext same.symm same'.symm)
  refine ⟨?_, ?_, ?_, ?_, ?_, tracks.bounded⟩
  · rw [moved.pcpus, tracks.pcpus, waiting.state]
    rfl
  · intro i inside
    rw [moved.sizes.visits]
    exact tracks.visited i inside
  · rintro _ ⟨⟩
    refine ⟨member, { c with state := .running 0, dispatchedAt := now }, ?_, rfl, ?_, rfl,
      waiting.permitted⟩
    · rw [moved.vcpu?, if_pos ⟨rfl, rfl⟩]
    · exact waiting.runtime
  · intro i inside waits
    have other : i ≠ r := by
      rintro rfl
      exact waits rfl
    rw [others i other]
    exact tracks.waiter i inside nofun
  · intro i visited outside
    rw [moved.sizes.visits] at visited
    rw [others i (fun own => outside (own ▸ member))]
    exact tracks.offline i visited outside

/-- An idle physical CPU goes to the waiter that comes first. -/
theorem Tracks.next_idle {f : DomId × Vcpu → Nat} (tracks : Tracks R ⟨f, none, 0⟩ sys (now + 1))
    (configured : Configured R s) (clock : now < 2 ^ 64) :
    (R.members = ∅ ∧ enact now sys (s.next sys now) = none) ∨
      ∃ r sys', R.First f r ∧ enact now sys (s.next sys now) = some sys' ∧
        Tracks R ⟨f, some r, 0⟩ sys' (now + 1) := by
  have shares : Shares R f s sys now := tracks.shares_idle configured clock
  have candidate : ∀ k ∈ R.members,
      ((k.1, k.2, 0), s.share sys k.1 k.2 now) ∈ s.placements sys now := by
    intro k member
    obtain ⟨c, found, waiting⟩ := tracks.waiter k member nofun
    refine mem_placements.mpr ⟨tracks.visited k member, ?_, ?_, rfl⟩
    · exact stateOf_eq_some.mpr ⟨c, found, waiting.state⟩
    · have fits : sys.affinityPermits k.1 k.2 0 = true := by
        rw [affinityPermits_of_found found, waiting.permitted]
      rw [firstIdlePcpuFor, pcpuIds_single tracks.pcpus]
      simp [occupant_single tracks.pcpus, fits]
  rcases next_cases s sys now with ⟨dom, v, p, c, sys', able, -, done, moved⟩ |
    ⟨dom, v, p, c, sys', able, -⟩ | ⟨none, -, -, rest⟩
  · obtain ⟨rfl, -⟩ := eq_zero_of_single tracks.pcpus able.vacant
    have member := tracks.of_runnable able.visited able.found able.ready
    refine .inr ⟨(dom, v), sys', ⟨member, ?_⟩, done, tracks.dispatched member able.found moved⟩
    intro k inside _ precedes
    have small : ∀ i ∈ sys.visits, sys.stateOf i.1 i.2 = some .runnable →
        (s.share sys i.1 i.2 now).Small := by
      intro i visited ready
      obtain ⟨c, found, state⟩ := stateOf_eq_some.mp ready
      exact shares.small i (tracks.of_runnable visited found state)
    obtain ⟨noBetter, earlier⟩ := bestPlacement_first small able.best k.1 k.2 0 (candidate k inside)
    rcases precedes with beats | ⟨level, before⟩
    · rw [(shares.moreDeserving_iff inside member).mpr beats] at noBetter
      cases noBetter
    · rw [configured.before] at before
      have less := (shares.moreDeserving_iff member inside).mp (earlier before)
      unfold Rules.Beats at less
      rw [level] at less
      exact lt_irrefl _ less
  · cases tracks.eq_runner able.visited able.found able.running
  · refine .inl ⟨Finset.eq_empty_of_forall_notMem fun k member => ?_, rest⟩
    have placed := candidate k member
    rw [none] at placed
    cases placed

/-- A vCPU that has just been dispatched stays. -/
theorem Tracks.next_fresh {f : DomId × Vcpu → Nat} (tracks : Tracks R ⟨f, some r, 0⟩ sys (now + 1))
    (configured : Configured R s) : enact now sys (s.next sys now) = none := by
  rcases next_cases s sys now with ⟨dom, v, p, c, sys', able, -⟩ |
    ⟨dom, v, p, c, sys', able, -⟩ | ⟨-, -, -, rest⟩
  · cases (eq_zero_of_single tracks.pcpus able.vacant).2
  · obtain rfl : r = (dom, v) :=
      Option.some.inj (tracks.eq_runner able.visited able.found able.running)
    obtain ⟨-, c', found, serving⟩ := tracks.runner (dom, v) rfl
    have since : c'.dispatchedAt = now := Nat.succ.inj serving.since
    have ended := able.ended
    rw [expired, onCpuSince_of_running found serving.state, Option.getD_some, since, Nat.sub_self,
      decide_eq_true_iff, configured.quantum] at ended
    exact absurd R.quantum_pos (Nat.not_lt.mpr ended)
  · exact rest

theorem settle_of_none (rest : enact now sys (s.next sys now) = none) (fuel : Nat) :
    (settle s now fuel sys).1 = sys := by
  cases fuel with
  | zero => rfl
  | succ fuel => rw [settle, rest]

theorem settle_of_some (enacted : enact now sys (s.next sys now) = some sys') (fuel : Nat) :
    (settle s now (fuel + 1) sys).1 = (settle s now fuel sys').1 := by
  rw [settle, enacted]

/-- The loop fills an idle physical CPU, if it makes a transition at all. -/
theorem Tracks.settle_idle {f : DomId × Vcpu → Nat} (tracks : Tracks R ⟨f, none, 0⟩ sys (now + 1))
    (configured : Configured R s) (clock : now < 2 ^ 64) (fuel : Nat) :
    ((fuel = 0 ∨ R.members = ∅) ∧ Tracks R ⟨f, none, 0⟩ (settle s now fuel sys).1 (now + 1)) ∨
      (0 < fuel ∧ ∃ r, R.First f r ∧
      Tracks R ⟨f, some r, 0⟩ (settle s now fuel sys).1 (now + 1)) := by
  cases fuel with
  | zero => exact .inl ⟨.inl rfl, tracks⟩
  | succ fuel =>
      rcases tracks.next_idle configured clock with ⟨empty, rest⟩ | ⟨r, sys', first, ran, running⟩
      · rw [settle_of_none rest]
        exact .inl ⟨.inr empty, tracks⟩
      · refine .inr ⟨Nat.succ_pos _, r, first, ?_⟩
        rw [settle_of_some ran, settle_of_none (running.next_fresh configured)]
        exact running

/-- The loop makes one step of weighted sharing. -/
theorem Tracks.settle_step (tracks : Tracks R x sys now) (configured : Configured R s)
    (clock : now < 2 ^ 64) (fuel : Nat) (stuck : fuel = 0 → x.runner = none) :
    ∃ y, R.Step x y ∧ Tracks R y (settle s now fuel sys).1 (now + 1) ∧
      (fuel = 0 → y.runner = none) ∧ (2 ≤ fuel → R.members.Nonempty → y.runner ≠ none) := by
  cases running : x.runner with
  | none =>
      rcases (tracks.idle running).settle_idle configured clock fuel with
        ⟨nobody, after⟩ | ⟨some, r, first, after⟩
      · refine ⟨_, .idle running, after, fun _ => rfl, fun enough filled => ?_⟩
        rcases nobody with rfl | empty
        · exact absurd enough (by decide)
        · exact absurd empty filled.ne_empty
      · exact ⟨_, .dispatch (.inl running) first, after, fun none => absurd none some.ne', nofun⟩
  | some r =>
      obtain ⟨fuel, rfl⟩ : ∃ n, fuel = n + 1 := by
        refine Nat.exists_eq_succ_of_ne_zero fun none => ?_
        rw [stuck none] at running
        cases running
      rcases tracks.next_busy configured clock running with ⟨stays, rest⟩ | ⟨due, sys', ran, idle⟩
      · rw [settle_of_none rest]
        exact ⟨_, .keep running stays, tracks.kept running, nofun, nofun⟩
      · rw [settle_of_some ran]
        rcases idle.settle_idle configured clock fuel with ⟨nobody, after⟩ | ⟨-, r', first, after⟩
        · refine ⟨_, .drop due, after, nofun, fun enough filled => ?_⟩
          rcases nobody with rfl | empty
          · exact absurd enough (by decide)
          · exact absurd empty filled.ne_empty
        · exact ⟨_, .dispatch (.inr ⟨r, due⟩) first, after, nofun, nofun⟩

theorem settle_sizes (s : Scheduler) (now : Ticks) (fuel : Nat) (sys : System) :
    SameSizes sys (settle s now fuel sys).1 := by
  induction fuel generalizing sys with
  | zero => exact SameSizes.refl sys
  | succ fuel ih =>
      rcases next_cases s sys now with ⟨_, _, _, _, sys', -, -, ran, moved⟩ |
        ⟨_, _, _, _, sys', -, -, ran, moved⟩ | ⟨-, -, -, rest⟩
      · rw [settle_of_some ran]
        exact moved.sizes.trans (ih sys')
      · rw [settle_of_some ran]
        exact moved.sizes.trans (ih sys')
      · rw [settle_of_none rest]
        exact SameSizes.refl sys

theorem limit_congr (same : SameSizes sys sys') : limit sys' = limit sys := by
  have counts : sys'.vcpuCount = sys.vcpuCount := funext same.vcpuCount
  unfold limit capacity
  rw [same.domainCount, same.pcpus, counts]

/-- The policy and the tables before the tick at `t`. -/
structure Follows (R : Rules (DomId × Vcpu)) (x : State (DomId × Vcpu)) (s : Scheduler)
    (sys : System)
    (t : Ticks) : Prop where
  configured : Configured R s
  tracks : Tracks R x sys t
  /-- Either this is the first tick, or nobody wakes. -/
  calm : (∀ dom v, s.wasSchedulableOf dom v = false) ∨ ∀ i ∈ sys.visits, Seen sys s i
  stuck : limit sys = 0 → x.runner = none

theorem Tracks.mem_of_schedulable (tracks : Tracks R x sys now) (visited : i ∈ sys.visits)
    (pool : schedulable sys i.1 i.2 = true) : i ∈ R.members := by
  by_contra outside
  unfold schedulable stateOf at pool
  cases found : sys.vcpu? i.1 i.2 with
  | none => simp [found] at pool
  | some c => simp [found, tracks.offline i visited outside c found] at pool

theorem Tracks.schedulable_of_mem (tracks : Tracks R x sys now) (member : i ∈ R.members) :
    schedulable sys i.1 i.2 = true := by
  by_cases running : x.runner = some i
  · obtain ⟨-, c, found, serving⟩ := tracks.runner i running
    simp [schedulable, stateOf, found, serving.state]
  · obtain ⟨c, found, waiting⟩ := tracks.waiter i member running
    simp [schedulable, stateOf, found, waiting.state]

theorem Follows.accounted (follows : Follows R x s sys now) :
    Configured R (s.account sys now) ∧ ∀ i ∈ R.members, Seen sys (s.account sys now) i := by
  obtain ⟨weights, quantum⟩ := s.account_settings sys now
  have configured := follows.configured
  refine ⟨⟨?_, ?_, configured.before, ?_⟩, ?_⟩
  · intro i
    rw [← configured.weight, weightOf, weights]
    rfl
  · rw [quantum, configured.quantum]
  · refine account_unboosted configured.unboosted (follows.calm.imp_left fun unseen => ?_)
    exact floor_eq_none fun i _ => unseen i.1 i.2
  · exact fun i member => account_seen (follows.tracks.visited i member)

/-- A tick is a step of weighted sharing. -/
theorem Follows.advance (follows : Follows R x s sys now) (clock : now < 2 ^ 64) :
    ∃ y, R.Step x y ∧ Follows R y (s.advance sys now).1 (s.advance sys now).2.1 (now + 1) ∧
      (2 ≤ limit sys → R.members.Nonempty → y.runner ≠ none) := by
  obtain ⟨configured, seen⟩ := follows.accounted
  obtain ⟨y, step, tracks, stuck, busy⟩ :=
    follows.tracks.settle_step configured clock (limit sys) follows.stuck
  have sizes := settle_sizes (s.account sys now) now (limit sys) sys
  refine ⟨y, step, ⟨configured, tracks, .inr fun i visited pool => ?_, fun none => ?_⟩, busy⟩
  · have member := tracks.mem_of_schedulable visited pool
    exact seen i member (follows.tracks.schedulable_of_mem member)
  · exact stuck (by rwa [← limit_congr sizes])

end Baleen.Policy.Scheduler
