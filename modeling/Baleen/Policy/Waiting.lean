import Baleen.Policy.Fairness

/-!
# How long a vCPU waits

The documented bound charges every other vCPU one turn.  It holds along runs in which a runner
whose turn is over stands behind every waiter.  A runner that is beaten by one waiter only, and
still stands before another, can take a second turn while the latter waits.
-/

namespace Baleen.Policy.Scheduler

open Sched Sched.System FairShare

variable {R : Rules (DomId × Vcpu)} {x : State (DomId × Vcpu)} {s : Scheduler} {sys : System}
  {start now : Ticks} {i : DomId × Vcpu}

/-- Whether `k` stands before `r`: it is more deserving, or ties and is visited earlier. -/
def StandsBefore (s : Scheduler) (sys : System) (now : Ticks) (k r : DomId × Vcpu) : Prop :=
  moreDeserving (s.share sys k.1 k.2 now) (s.share sys r.1 r.2 now) = true ∨
    (moreDeserving (s.share sys r.1 r.2 now) (s.share sys k.1 k.2 now) = false ∧ Before k r)

/-- A runner that has to give way to some waiter stands behind every waiter. -/
def Yields (s : Scheduler) (sys : System) (now : Ticks) : Prop :=
  ∀ r ∈ sys.visits, sys.stateOf r.1 r.2 = some (.running 0) → s.expired sys r.1 r.2 now = true →
    s.someAffineWaiterBeats sys 0 (s.share sys r.1 r.2 now) now = true →
    ∀ k ∈ sys.visits, sys.stateOf k.1 k.2 = some .runnable → StandsBefore s sys now k r

/-- Of two vCPUs, the only waiter is the one that a runner gives way to. -/
theorem yields_of_pair {a b : DomId × Vcpu} (pair : sys.visits = [a, b]) : Yields s sys now := by
  intro r member running _ beaten k member' ready
  have apart : ∀ {w : DomId × Vcpu}, sys.stateOf w.1 w.2 = some .runnable → w ≠ r := by
    rintro w waits rfl
    cases running.symm.trans waits
  simp only [someAffineWaiterBeats, List.any_eq_true, Bool.and_eq_true,
    decide_eq_true_iff] at beaten
  obtain ⟨w, visited, ⟨waits, -⟩, beats⟩ := beaten
  have only : k = w := by
    rw [pair] at member member' visited
    simp only [List.mem_cons, List.not_mem_nil, or_false] at member member' visited
    have other := apart ready
    have other' := apart waits
    rcases member with rfl | rfl
    · rw [member'.resolve_left other, visited.resolve_left other']
    · rw [member'.resolve_right other, visited.resolve_right other']
  rw [only]
  exact .inl beats

theorem Shares.precedes {f : DomId × Vcpu → Nat} {k r : DomId × Vcpu}
    (shares : Shares R f s sys now) (configured : Configured R s) (member : k ∈ R.members)
    (member' : r ∈ R.members) (before : StandsBefore s sys now k r) : R.Precedes f k r := by
  rcases before with beats | ⟨noBetter, earlier⟩
  · exact .inl ((shares.moreDeserving_iff member member').mp beats)
  · have least : f k * R.weight r ≤ f r * R.weight k := by
      apply Nat.le_of_not_lt
      intro less
      rw [(shares.moreDeserving_iff member' member).mpr less] at noBetter
      cases noBetter
    rcases least.lt_or_eq with less | level
    · exact .inl less
    · exact .inr ⟨level, by rwa [configured.before]⟩

theorem Follows.orderly (follows : Follows R x s sys now) (clock : now < 2 ^ 64)
    (yields : Yields s sys now) : R.Orderly x := by
  intro r due k member other
  obtain ⟨running, ended, beaten⟩ := due
  have tracks := follows.tracks
  have configured := follows.configured
  obtain ⟨member', c, found, serving⟩ := tracks.runner r running
  have waits : x.runner ≠ some k := by
    rw [running]
    exact fun same => other (Option.some.inj same).symm
  obtain ⟨c', found', waiting⟩ := tracks.waiter k member waits
  refine (tracks.shares configured clock.le).precedes configured member member' ?_
  refine yields r (tracks.visited r member') ?_ ?_ ?_ k (tracks.visited k member) ?_
  · exact stateOf_eq_some.mpr ⟨c, found, serving.state⟩
  · exact (tracks.expired_iff configured running).mpr ended
  · exact (tracks.someAffineWaiterBeats_iff configured clock.le running).mpr beaten
  · exact stateOf_eq_some.mpr ⟨c', found', waiting.state⟩

theorem Tracks.running_iff (tracks : Tracks R x sys now) (member : i ∈ R.members) :
    (sys.stateOf i.1 i.2).any isRunning = true ↔ x.runner = some i := by
  by_cases running : x.runner = some i
  · obtain ⟨-, c, found, serving⟩ := tracks.runner i running
    simp [stateOf, found, serving.state, isRunning, running]
  · obtain ⟨c, found, waiting⟩ := tracks.waiter i member running
    simp [stateOf, found, waiting.state, isRunning, running]

theorem waits_succ (s : Scheduler) (sys : System) (start : Ticks) (i : DomId × Vcpu) (n : Nat) :
    waits s sys start i (n + 1) =
      if ((ticks s sys start (n + 1)).2.stateOf i.1 i.2).any isRunning then 0
      else waits s sys start i n + 1 := rfl

/-- The waits along a run in which runners yield. -/
theorem Fresh.ticks_wait (fresh : Fresh s sys) (positive : 0 < s.quantum) (refill : 2 ≤ limit sys)
    {lightest : Nat} (light : ∀ k ∈ reached sys, lightest ≤ s.weightOf k.1 k.2)
    (lightest_pos : 0 < lightest) (n : Nat) (clock : start + n ≤ 2 ^ 64)
    (yields : ∀ m < n, Yields (ticks s sys start m).1 (ticks s sys start m).2 (start + m)) :
    ∃ x, (rules s sys positive).Lag x ∧
      Follows (rules s sys positive) x (ticks s sys start n).1 (ticks s sys start n).2 (start + n) ∧
      limit (ticks s sys start n).2 = limit sys ∧
      (rules s sys positive).Waits lightest x fun i => waits s sys start i n := by
  induction n with
  | zero =>
      refine ⟨_, Rules.Lag.start (fun _ _ => rfl) rfl, fresh.follows positive start, rfl, ?_⟩
      exact ⟨fun _ _ _ => rfl, nofun, nofun⟩
  | succ n ih =>
      obtain ⟨x, lag, follows, sizes, waited⟩ := ih (Nat.le_of_succ_le clock) fun m before =>
        yields m (Nat.lt_succ_of_lt before)
      obtain ⟨y, step, follows', busy⟩ := follows.advance clock
      have sizes' : limit (ticks s sys start (n + 1)).2 = limit sys := by
        rw [← sizes]
        exact limit_congr (settle_sizes _ _ _ _)
      refine ⟨y, step.lag lag, follows', sizes', ?_⟩
      by_cases filled : (rules s sys positive).members.Nonempty
      · have next := step.waits lag (follows.orderly clock (yields n (Nat.lt_succ_self n)))
          lightest_pos light (busy (by rwa [sizes]) filled) waited
        refine next.congr (step.lag lag) fun i member => ?_
        have running : ((ticks s sys start (n + 1)).2.stateOf i.1 i.2).any isRunning = true ↔
            y.runner = some i := follows'.tracks.running_iff member
        rw [waits_succ, Rules.waitNext]
        simp only [running]
      · have nobody : ∀ i, i ∉ (rules s sys positive).members := fun i member => filled ⟨i, member⟩
        refine ⟨fun _ i member => absurd member (nobody i), fun i running => ?_,
          fun r running => ?_⟩
        · exact absurd (follows'.tracks.runner i running).1 (nobody i)
        · exact absurd (follows'.tracks.runner r running).1 (nobody r)

/-- No admitted vCPU waits longer than one turn of each of the others, as long as runners
yield. -/
theorem waits_le (fresh : Fresh s sys) (positive : 0 < s.quantum)
    (reaches : ∀ i, Admitted sys i → i ∈ sys.visits) (refill : 2 ≤ limit sys) (n : Nat)
    (clock : start + n ≤ 2 ^ 64)
    (yields : ∀ m < n, Yields (ticks s sys start m).1 (ticks s sys start m).2 (start + m))
    {lightest : DomId × Vcpu} (admitted : Admitted sys i)
    (light : ∀ k, Admitted sys k → s.weightOf lightest.1 lightest.2 ≤ s.weightOf k.1 k.2) :
    waits s sys start i n ≤ ∑ j ∈ (reached sys).erase i, max s.quantum
      (s.weightOf j.1 j.2 * s.quantum / s.weightOf lightest.1 lightest.2 + 1) := by
  have positive' := s.weightOf_pos lightest.1 lightest.2
  have light' : ∀ k ∈ reached sys, s.weightOf lightest.1 lightest.2 ≤ s.weightOf k.1 k.2 :=
    fun k member => light k (mem_reached.mp member).2
  obtain ⟨x, lag, -, -, waited⟩ :=
    fresh.ticks_wait positive refill light' positive' n clock yields
  exact waited.bound lag positive' light' (mem_reached.mpr ⟨reaches i admitted, admitted⟩)

theorem visits_queue_two : (queue 2).visits = [(0, 0), (0, 1)] := by decide

theorem waits_le_pair : waits pair (queue 2) 5 (0, 0) 6 ≤ ∑ j ∈ (reached (queue 2)).erase (0, 0),
    max pair.quantum (pair.weightOf j.1 j.2 * pair.quantum / pair.weightOf 0 0 + 1) := by
  have light : ∀ k, Admitted (queue 2) k → pair.weightOf 0 0 ≤ pair.weightOf k.1 k.2 :=
    fun k _ => pair.weightOf_pos k.1 k.2
  have yields : ∀ m < 6, Yields (ticks pair (queue 2) 5 m).1 (ticks pair (queue 2) 5 m).2 (5 + m) :=
    fun m _ => yields_of_pair ((ticks_visits m).trans visits_queue_two)
  exact @waits_le pair (queue 2) 5 (0, 0) fresh_pair (by decide)
    (fun i => visited_of_queue (by norm_num)) (by decide) 6 (by norm_num) yields (0, 0) rfl light

/-- Weights three, four and four, with a quantum of two. -/
def triple : Scheduler :=
  (((Scheduler.new 1 3 2).setWeight 0 0 3).setWeight 0 1 4).setWeight 0 2 4

theorem fresh_triple : Fresh triple (queue 3) :=
  (((fresh_queue 3 2).setWeight 0 0 3).setWeight 0 1 4).setWeight 0 2 4

/-- The first waits for seven ticks, while the others take three turns. -/
theorem waits_exceed : ¬∀ (s : Scheduler) (sys : System) (start n : Nat)
    (i lightest : DomId × Vcpu), Fresh s sys → 0 < s.quantum →
    (∀ i, Admitted sys i → i ∈ sys.visits) → start + n ≤ 2 ^ 64 →
    Admitted sys i → Admitted sys lightest →
    (∀ k, Admitted sys k → s.weightOf lightest.1 lightest.2 ≤ s.weightOf k.1 k.2) →
    waits s sys start i n ≤ ∑ j ∈ (reached sys).erase i, max s.quantum
      (s.weightOf j.1 j.2 * s.quantum / s.weightOf lightest.1 lightest.2 + 1) := by
  intro bounded
  have light : ∀ k, Admitted (queue 3) k → triple.weightOf 0 0 ≤ triple.weightOf k.1 k.2 := by
    intro k admitted
    have visited : k ∈ (queue 3).visits := visited_of_queue (by norm_num) admitted
    have listed : (queue 3).visits = [(0, 0), (0, 1), (0, 2)] := by decide
    simp only [listed, List.mem_cons, List.not_mem_nil, or_false] at visited
    rcases visited with rfl | rfl | rfl <;> decide
  have small := bounded triple (queue 3) 0 9 (0, 0) (0, 0) fresh_triple (by decide)
    (fun i => visited_of_queue (by norm_num)) (by norm_num) rfl rfl light
  have waited : waits triple (queue 3) 0 (0, 0) 9 = 7 := by decide +kernel
  have charged : ∑ j ∈ (reached (queue 3)).erase (0, 0), max triple.quantum
      (triple.weightOf j.1 j.2 * triple.quantum / triple.weightOf 0 0 + 1) = 6 := by decide +kernel
  have absurd' : 7 ≤ 6 := (waited.symm.le.trans small).trans charged.le
  exact absurd absurd' (by decide)

end Baleen.Policy.Scheduler
