import Baleen.Policy.SinglePcpu

/-!
# Fairness on one physical CPU

The policy is called at every tick, from a state in which every vCPU that takes part has
just been admitted.  Between those that its loops reach, the service for the weight never
differs by more than a quantum of the lightest.  The documented bound on the wait needs more:
a runner must give way to every waiter at once.
-/

namespace Baleen.Policy.Scheduler

open Sched Sched.System FairShare

/-- The service of a vCPU, with the interval in flight. -/
def service (sys : System) (i : DomId × Vcpu) (now : Ticks) : Nat :=
  (sys.runtime i.1 i.2).getD 0 + ((sys.onCpuSince i.1 i.2).map fun since => now - since).getD 0

/-- The policy and the tables after `n` ticks, the first of them at `start`. -/
def ticks (s : Scheduler) (sys : System) (start : Ticks) : Nat → Scheduler × System
  | 0 => (s, sys)
  | n + 1 =>
      match ticks s sys start n with
      | (s', sys') =>
          match s'.advance sys' (start + n) with
          | (s'', sys'', _) => (s'', sys'')

/-- The consecutive ticks for which a vCPU has not been running. -/
def waits (s : Scheduler) (sys : System) (start : Ticks) (i : DomId × Vcpu) : Nat → Nat
  | 0 => 0
  | n + 1 =>
      if ((ticks s sys start (n + 1)).2.stateOf i.1 i.2).any isRunning then 0
      else waits s sys start i n + 1

def Admitted (sys : System) (i : DomId × Vcpu) : Prop := sys.stateOf i.1 i.2 = some .runnable

/-- A new policy, and a system with one physical CPU whose admitted vCPUs may use it and have
not run. -/
structure Fresh (s : Scheduler) (sys : System) : Prop where
  pcpus : sys.pcpus = [none]
  vcpus : ∀ row ∈ sys.domains, ∀ c ∈ row, c.state = .offline ∨
    (c.state = .runnable ∧ c.runtime = 0 ∧ maskPermits c.affinity 0 = true)
  unboosted : Unboosted s
  unseen : ∀ dom v, s.wasSchedulableOf dom v = false

/-- The admitted vCPUs that the loops of the policy reach. -/
def reached (sys : System) : Finset (DomId × Vcpu) :=
  (sys.visits.filter fun i => sys.stateOf i.1 i.2 = some .runnable).toFinset

/-- The sharing that a policy is set to. -/
def rules (s : Scheduler) (sys : System) (positive : 0 < s.quantum) : Rules (DomId × Vcpu) where
  members := reached sys
  weight i := s.weightOf i.1 i.2
  quantum := s.quantum
  before := Before
  weight_pos i := s.weightOf_pos i.1 i.2
  quantum_pos := positive

variable {s : Scheduler} {sys : System} {start : Ticks} {i j : DomId × Vcpu}

theorem mem_reached : i ∈ reached sys ↔ i ∈ sys.visits ∧ Admitted sys i := by
  simp [reached, Admitted]

theorem ticks_succ (s : Scheduler) (sys : System) (start : Ticks) (n : Nat) :
    ticks s sys start (n + 1) =
      (((ticks s sys start n).1.advance (ticks s sys start n).2 (start + n)).1,
        ((ticks s sys start n).1.advance (ticks s sys start n).2 (start + n)).2.1) := rfl

theorem unboosted_new (numDomains vcpusPerDomain : Nat) (quantum : Ticks) :
    Unboosted (Scheduler.new numDomains vcpusPerDomain quantum) := by
  intro d w
  simp only [Scheduler.new, Grid.get?_fill]
  split_ifs <;> rfl

theorem unseen_new (numDomains vcpusPerDomain : Nat) (quantum : Ticks) (dom : DomId) (v : Vcpu) :
    (Scheduler.new numDomains vcpusPerDomain quantum).wasSchedulableOf dom v = false := by
  simp only [wasSchedulableOf, Scheduler.new, Grid.get?_fill]
  split_ifs <;> rfl

theorem Fresh.cases (fresh : Fresh s sys) {c : VirtualCpu}
    (found : sys.vcpu? i.1 i.2 = some c) : c.state = .offline ∨ Waiting 0 c := by
  obtain ⟨row, present, cell⟩ := Option.bind_eq_some_iff.mp found
  rcases fresh.vcpus row (List.mem_of_getElem? present) c (List.mem_of_getElem? cell) with
    off | ⟨ready, unserved, permitted⟩
  · exact .inl off
  · exact .inr ⟨ready, unserved, permitted⟩

theorem Fresh.follows (fresh : Fresh s sys) (positive : 0 < s.quantum) (start : Ticks) :
    Follows (rules s sys positive) ⟨fun _ => 0, none, 0⟩ s sys start := by
  refine ⟨⟨fun _ => rfl, rfl, rfl, fresh.unboosted⟩, ?_, .inl fresh.unseen, fun _ => rfl⟩
  refine ⟨fresh.pcpus, fun i member => (mem_reached.mp member).1, nofun, ?_, ?_, ?_⟩
  · intro i member _
    obtain ⟨c, found, ready⟩ := stateOf_eq_some.mp (mem_reached.mp member).2
    refine ⟨c, found, (fresh.cases found).resolve_left ?_⟩
    rw [ready]
    exact nofun
  · intro i visited outside c found
    refine (fresh.cases found).resolve_right fun waiting => outside (mem_reached.mpr ⟨visited, ?_⟩)
    exact stateOf_eq_some.mpr ⟨c, found, waiting.state⟩
  · exact fun _ => Nat.zero_le _

/-- Every state of a run follows a fair sharing. -/
theorem Fresh.ticks_follow (fresh : Fresh s sys) (positive : 0 < s.quantum) (n : Nat)
    (clock : start + n ≤ 2 ^ 64) : ∃ x, (rules s sys positive).Lag x ∧
      Follows (rules s sys positive) x (ticks s sys start n).1 (ticks s sys start n).2
      (start + n) := by
  induction n with
  | zero =>
      exact ⟨_, Rules.Lag.start (fun _ _ => rfl) rfl, fresh.follows positive start⟩
  | succ n ih =>
      obtain ⟨x, lag, follows⟩ := ih (Nat.le_of_succ_le clock)
      obtain ⟨y, step, follows', -⟩ := follows.advance clock
      exact ⟨y, step.lag lag, follows'⟩

theorem Tracks.service_eq {R : Rules (DomId × Vcpu)} {x : State (DomId × Vcpu)} {now : Ticks}
    (tracks : Tracks R x sys (now + 1)) (member : i ∈ R.members) :
    service sys i now = x.service i := by
  by_cases running : x.runner = some i
  · obtain ⟨-, c, found, serving⟩ := tracks.runner i running
    have since : c.dispatchedAt + x.elapsed = now := Nat.succ.inj serving.since
    rw [service, runtime, found, onCpuSince_of_running found serving.state, ← serving.runtime,
      ← since, Option.map_some, Option.getD_some, Option.map_some, Option.getD_some,
      Nat.add_sub_cancel_left]
  · obtain ⟨c, found, waiting⟩ := tracks.waiter i member running
    rw [service, runtime, found, onCpuSince_of_runnable found waiting.state, ← waiting.runtime]
    rfl

/-- After every tick no admitted vCPU is more than a quantum of the lightest ahead of another,
when the loops reach them all. -/
theorem ticks_lag (fresh : Fresh s sys) (positive : 0 < s.quantum)
    (reaches : ∀ i, Admitted sys i → i ∈ sys.visits) (n : Nat) (clock : start + n < 2 ^ 64)
    {lightest : DomId × Vcpu} (admittedI : Admitted sys i) (admittedJ : Admitted sys j)
    (light : ∀ k, Admitted sys k → s.weightOf lightest.1 lightest.2 ≤ s.weightOf k.1 k.2) :
    (service (ticks s sys start (n + 1)).2 i (start + n) : ℚ) / s.weightOf i.1 i.2 -
        service (ticks s sys start (n + 1)).2 j (start + n) / s.weightOf j.1 j.2 ≤
      s.quantum / s.weightOf lightest.1 lightest.2 := by
  obtain ⟨x, lag, follows⟩ := fresh.ticks_follow positive (n + 1) clock
  have memberI : i ∈ (rules s sys positive).members :=
    mem_reached.mpr ⟨reaches i admittedI, admittedI⟩
  have memberJ : j ∈ (rules s sys positive).members :=
    mem_reached.mpr ⟨reaches j admittedJ, admittedJ⟩
  have tracks : Tracks (rules s sys positive) x (ticks s sys start (n + 1)).2 (start + n + 1) :=
    follows.tracks
  rw [tracks.service_eq memberI, tracks.service_eq memberJ]
  exact lag.sub_le memberI memberJ (s.weightOf_pos _ _) (light i admittedI)

theorem visited_of_admitted (domains : sys.domainCount < 2 ^ 16)
    (vcpus : ∀ dom, sys.vcpuCount dom < 2 ^ 32) (admitted : Admitted sys i) : i ∈ sys.visits := by
  obtain ⟨c, found, -⟩ := stateOf_eq_some.mp admitted
  have row : i.1.toNat < sys.domainCount := Grid.lt_length_of_get? found
  have cell : i.2.toNat < sys.vcpuCount i.1 := Grid.lt_width_of_get? found
  refine mem_visits.mpr ⟨?_, ?_⟩
  · rwa [Nat.mod_eq_of_lt domains]
  · rwa [Nat.mod_eq_of_lt (vcpus i.1)]

/-- Admitted vCPUs of one domain. -/
def queue (vcpus : Nat) : System where
  domains := Grid.fill 1 vcpus ⟨.runnable, 0, 0, 1⟩
  pcpus := [none]

theorem visited_of_queue {vcpus : Nat} (small : vcpus < 2 ^ 32)
    (admitted : Admitted (queue vcpus) i) :
    i ∈ (queue vcpus).visits := by
  refine visited_of_admitted ?_ (fun dom => ?_) admitted
  · rw [domainCount, queue, Grid.length_fill]
    decide
  rw [vcpuCount, queue, Grid.width_fill]
  split_ifs
  · exact small
  · decide

theorem fresh_queue (vcpus : Nat) (quantum : Ticks) :
    Fresh (Scheduler.new 1 vcpus quantum) (queue vcpus) where
  pcpus := rfl
  vcpus := by
    intro row inside c cell
    obtain ⟨-, rfl⟩ := List.mem_replicate.mp inside
    obtain ⟨-, rfl⟩ := List.mem_replicate.mp cell
    exact .inr ⟨rfl, rfl, rfl⟩
  unboosted := unboosted_new 1 vcpus quantum
  unseen := unseen_new 1 vcpus quantum

theorem Fresh.setWeight (fresh : Fresh s sys) (dom : DomId) (v : Vcpu) (weight : UInt32) :
    Fresh (s.setWeight dom v weight) sys :=
  ⟨fresh.pcpus, fresh.vcpus, fresh.unboosted, fresh.unseen⟩

/-- Two vCPUs, the second of double weight. -/
def pair : Scheduler := (Scheduler.new 1 2 2).setWeight 0 1 2

theorem fresh_pair : Fresh pair (queue 2) := (fresh_queue 2 2).setWeight 0 1 2

theorem ticks_lag_pair :
    (service (ticks pair (queue 2) 5 4).2 (0, 1) (5 + 3) : ℚ) / pair.weightOf 0 1 -
        service (ticks pair (queue 2) 5 4).2 (0, 0) (5 + 3) / pair.weightOf 0 0 ≤
      pair.quantum / pair.weightOf 0 0 := by
  have light : ∀ k, Admitted (queue 2) k → pair.weightOf 0 0 ≤ pair.weightOf k.1 k.2 :=
    fun k _ => pair.weightOf_pos k.1 k.2
  exact @ticks_lag pair (queue 2) 5 (0, 1) (0, 0) fresh_pair (by decide)
    (fun i => visited_of_queue (by norm_num)) 3 (by norm_num) (0, 0) rfl rfl light

/-- Where the loops reach one vCPU only, it is served all the time. -/
theorem Fresh.lone_service {r : DomId × Vcpu} (fresh : Fresh s sys) (positive : 0 < s.quantum)
    (alone : reached sys = {r}) (refill : 2 ≤ limit sys) (n : Nat) (clock : start + n < 2 ^ 64) :
    service (ticks s sys start (n + 1)).2 r (start + n) = n := by
  have member : r ∈ (rules s sys positive).members := by
    change r ∈ reached sys
    rw [alone]
    exact Finset.mem_singleton_self r
  have served : ∃ x, x.runner = some r ∧ x.service r = n ∧ Follows (rules s sys positive) x
      (ticks s sys start (n + 1)).1 (ticks s sys start (n + 1)).2 (start + n + 1) := by
    induction n with
    | zero =>
        obtain ⟨y, step, follows, busy⟩ := (fresh.follows positive start).advance clock
        obtain ⟨r', running⟩ := Option.ne_none_iff_exists'.mp (busy refill ⟨r, member⟩)
        have same : r' ∈ reached sys := (follows.tracks.runner r' running).1
        rw [alone, Finset.mem_singleton] at same
        refine ⟨y, same ▸ running, ?_, follows⟩
        cases step <;> rfl
    | succ n ih =>
        obtain ⟨x, running, count, follows⟩ := ih (Nat.lt_of_succ_lt clock)
        obtain ⟨y, step, follows', -⟩ := follows.advance clock
        obtain ⟨running', more⟩ := step.lone alone running
        exact ⟨y, running', by rw [more, count], follows'⟩
  obtain ⟨x, -, count, follows⟩ := served
  rw [follows.tracks.service_eq member, count]

/-- The loops leave alone what they do not reach. -/
theorem settle_unvisited {now : Ticks} (fuel : Nat) (outside : i ∉ sys.visits) :
    (settle s now fuel sys).1.vcpu? i.1 i.2 = sys.vcpu? i.1 i.2 := by
  have other : ∀ {dom v c c'} {sys sys' : System}, i ∉ sys.visits → (dom, v) ∈ sys.visits →
      Moved dom v c c' sys sys' → sys'.vcpu? i.1 i.2 = sys.vcpu? i.1 i.2 := by
    intro dom v c c' sys sys' outside visited moved
    rw [moved.vcpu?, if_neg]
    rintro ⟨rfl, rfl⟩
    exact outside visited
  induction fuel generalizing sys with
  | zero => rfl
  | succ fuel ih =>
      rcases next_cases s sys now with ⟨_, _, _, _, sys', able, -, ran, moved⟩ |
        ⟨_, _, _, _, sys', able, -, ran, moved⟩ | ⟨-, -, -, rest⟩
      · rw [settle_of_some ran, ih (by rwa [moved.sizes.visits]), other outside able.visited moved]
      · rw [settle_of_some ran, ih (by rwa [moved.sizes.visits]), other outside able.visited moved]
      · rw [settle_of_none rest]

theorem ticks_visits (n : Nat) : (ticks s sys start n).2.visits = sys.visits := by
  induction n with
  | zero => rfl
  | succ n ih =>
      rw [ticks_succ]
      exact (settle_sizes _ _ _ _).visits.trans ih

theorem ticks_unvisited (n : Nat) (outside : i ∉ sys.visits) :
    (ticks s sys start n).2.vcpu? i.1 i.2 = sys.vcpu? i.1 i.2 := by
  induction n with
  | zero => rfl
  | succ n ih =>
      rw [ticks_succ]
      exact (settle_unvisited _ (by rwa [ticks_visits])).trans ih

/-- One admitted vCPU in each domain. -/
def wide (numDomains : Nat) : System where
  domains := Grid.fill numDomains 1 ⟨.runnable, 0, 0, 1⟩
  pcpus := [none]

theorem fresh_wide (numDomains : Nat) :
    Fresh (Scheduler.new numDomains 1 1) (wide numDomains) where
  pcpus := rfl
  vcpus := by
    intro row inside c cell
    obtain ⟨-, rfl⟩ := List.mem_replicate.mp inside
    obtain ⟨-, rfl⟩ := List.mem_replicate.mp cell
    exact .inr ⟨rfl, rfl, rfl⟩
  unboosted := unboosted_new numDomains 1 1
  unseen := unseen_new numDomains 1 1

theorem vcpu?_wide {numDomains : Nat} {dom : DomId} (inside : dom.toNat < numDomains) :
    (wide numDomains).vcpu? dom 0 = some ⟨.runnable, 0, 0, 1⟩ := by
  rw [vcpu?, wide, Grid.get?_fill, if_pos ⟨inside, by decide⟩]

theorem admitted_wide {numDomains : Nat} {dom : DomId} (inside : dom.toNat < numDomains) :
    Admitted (wide numDomains) (dom, 0) := by
  rw [Admitted, stateOf, vcpu?_wide inside]
  rfl

theorem weightOf_new (numDomains vcpusPerDomain : Nat) (quantum : Ticks) (dom : DomId) (v : Vcpu) :
    (Scheduler.new numDomains vcpusPerDomain quantum).weightOf dom v = 1 := by
  simp only [weightOf, Scheduler.new, Grid.get?_fill]
  split_ifs <;> rfl

/-- The count of domains wraps around to one. -/
theorem visits_wide {numDomains : Nat} (wraps : numDomains % 2 ^ 16 = 1) :
    (wide numDomains).visits = [(0, 0)] := by
  have many : 0 < numDomains := Nat.pos_of_ne_zero fun none => by simp [none] at wraps
  have domains : Words.range16 (wide numDomains).domainCount = [0] := by
    rw [domainCount, wide, Grid.length_fill, Words.range16, wraps]
    rfl
  have vcpus : (wide numDomains).vcpus 0 = [0] := by
    rw [System.vcpus, vcpuCount, wide, Grid.width_fill,
      if_pos (show (0 : DomId).toNat < numDomains from many)]
    rfl
  rw [visits, domains, List.flatMap_cons, vcpus]
  rfl

theorem reached_wide {numDomains : Nat} (wraps : numDomains % 2 ^ 16 = 1) :
    reached (wide numDomains) = {(0, 0)} := by
  have many : 0 < numDomains := Nat.pos_of_ne_zero fun none => by simp [none] at wraps
  have first : (wide numDomains).stateOf 0 0 = some .runnable := admitted_wide many
  rw [reached, visits_wide wraps]
  simp [first]

theorem limit_wide {numDomains : Nat} (wraps : numDomains % 2 ^ 16 = 1) :
    limit (wide numDomains) = 4 := by
  have many : 0 < numDomains := Nat.pos_of_ne_zero fun none => by simp [none] at wraps
  have domains : Words.range16 (wide numDomains).domainCount = [0] := by
    rw [domainCount, wide, Grid.length_fill, Words.range16, wraps]
    rfl
  have count : (wide numDomains).vcpuCount 0 = 1 := by
    rw [vcpuCount, wide, Grid.width_fill, if_pos (show (0 : DomId).toNat < numDomains from many)]
  rw [limit, capacity, domains, List.map_singleton, List.sum_singleton, count]
  rfl

/-- Two vCPUs of one weight, of which one is never served. -/
theorem ticks_lag_unbounded : ¬∀ (s : Scheduler) (sys : System) (start n : Nat)
    (i j lightest : DomId × Vcpu), Fresh s sys → 0 < s.quantum → start + n < 2 ^ 64 →
    Admitted sys i → Admitted sys j → Admitted sys lightest →
    (∀ k, Admitted sys k → s.weightOf lightest.1 lightest.2 ≤ s.weightOf k.1 k.2) →
    (service (ticks s sys start (n + 1)).2 i (start + n) : ℚ) / s.weightOf i.1 i.2 -
        service (ticks s sys start (n + 1)).2 j (start + n) / s.weightOf j.1 j.2 ≤
      s.quantum / s.weightOf lightest.1 lightest.2 := by
  intro bounded
  have wraps : 65537 % 2 ^ 16 = 1 := by norm_num
  have fresh := fresh_wide 65537
  have served : service (ticks (Scheduler.new 65537 1 1) (wide 65537) 0 3).2 (0, 0) (0 + 2) = 2 :=
    fresh.lone_service (n := 2) Nat.one_pos (reached_wide wraps) (by rw [limit_wide wraps]; decide)
      (by norm_num)
  have unvisited : ((1, 0) : DomId × Vcpu) ∉ (wide 65537).visits := by
    rw [visits_wide wraps]
    decide
  have unserved : service (ticks (Scheduler.new 65537 1 1) (wide 65537) 0 3).2 (1, 0) (0 + 2) =
    0 := by
    rw [service, runtime, onCpuSince, ticks_unvisited 3 unvisited, vcpu?_wide (by decide)]
    rfl
  have second : Admitted (wide 65537) (1, 0) := admitted_wide (by decide)
  have first : Admitted (wide 65537) (0, 0) := admitted_wide (by decide)
  have small := bounded (Scheduler.new 65537 1 1) (wide 65537) 0 2 (0, 0) (1, 0) (0, 0) fresh
    Nat.one_pos (by norm_num) first second first fun k _ => by rw [weightOf_new, weightOf_new]
  rw [served, unserved, weightOf_new, weightOf_new] at small
  norm_num [Scheduler.new] at small

end Baleen.Policy.Scheduler
