import Baleen.Policy.Waking

/-!
# The sum in a share

A share adds the closed intervals of a vCPU, its open interval and its offset in 128-bit words.
The two intervals are 64-bit words whatever the operations and the clocks do, so the sum fits
while the offsets leave room for them.  Nothing bounds the offsets: the scaled floor that they
are taken from may itself be at the largest 128-bit value.
-/

namespace Baleen.Sched

variable {s : System} {dom : DomId} {v : Vcpu} {c : VirtualCpu} {now : Ticks}

namespace System

/-- Every runtime counter is a 64-bit word. -/
def Timed (s : System) : Prop := ∀ dom v c, s.vcpu? dom v = some c → c.runtime < 2 ^ 64

theorem Timed.new (numDomains vcpusPerDomain numPcpus : Nat) :
    Timed (System.new numDomains vcpusPerDomain numPcpus) := by
  intro dom v c found
  rw [vcpu?, System.new, Grid.get?_fill] at found
  split_ifs at found
  obtain rfl := Option.some.inj found
  exact Nat.two_pow_pos 64

theorem Timed.getD_lt (timed : Timed s) (dom : DomId) (v : Vcpu) :
    (s.runtime dom v).getD 0 < 2 ^ 64 := by
  unfold runtime
  cases found : s.vcpu? dom v with
  | none => decide
  | some c => exact timed dom v c found

theorem account_runtime_lt (c : VirtualCpu) (now : Ticks) :
    (System.account c now).runtime < 2 ^ 64 :=
  Nat.lt_of_le_pred (by decide) (Nat.min_le_right _ _)

theorem closed_runtime_lt (fits : c.runtime < 2 ^ 64) (now : Ticks) :
    (closed now c).runtime < 2 ^ 64 := by
  unfold closed
  split
  · exact account_runtime_lt c now
  · exact fits

theorem Timed.setVcpu (timed : Timed s) (dom : DomId) (v : Vcpu) (fits : c.runtime < 2 ^ 64) :
    Timed (s.setVcpu dom v c) := by
  intro d w x found
  rw [vcpu?, System.setVcpu, Grid.get?_set] at found
  split_ifs at found
  · obtain ⟨_, -, rfl⟩ := Option.map_eq_some_iff.mp found
    exact fits
  · exact timed d w x found

theorem Timed.offCpu (timed : Timed s) (dom : DomId) (v : Vcpu) (now : Ticks) (c : VirtualCpu) :
    Timed (System.offCpu dom v now c s) := by
  unfold System.offCpu
  split
  · exact timed.setVcpu dom v (account_runtime_lt c now)
  · exact timed

theorem Timed.admitVcpu (timed : Timed s) (dom : DomId) (v : Vcpu) :
    Timed (System.admitVcpu dom v s).2 := by
  rcases vcpu_cases s dom v with ⟨c, found, ok⟩ | ⟨-, e, failed⟩
  · by_cases offline : c.state = .offline
    · simpa [System.admitVcpu, ok, offline] using
        timed.setVcpu (c := { c with state := .runnable }) dom v (timed dom v c found)
    · simpa [System.admitVcpu, ok, offline] using timed
  · simpa [System.admitVcpu, failed] using timed

theorem Timed.wake (timed : Timed s) (dom : DomId) (v : Vcpu) :
    Timed (System.wake dom v s).2 := by
  rcases vcpu_cases s dom v with ⟨c, found, ok⟩ | ⟨-, e, failed⟩
  · by_cases blocked : c.state = .blocked
    · simpa [System.wake, ok, blocked] using
        timed.setVcpu (c := { c with state := .runnable }) dom v (timed dom v c found)
    · simpa [System.wake, ok, blocked] using timed
  · simpa [System.wake, failed] using timed

theorem Timed.run (timed : Timed s) (dom : DomId) (v : Vcpu) (pcpu : Pcpu) (now : Ticks) :
    Timed (System.run dom v pcpu now s).2 := by
  rcases run_cases s dom v pcpu now with ⟨c, s', -, ran, moved⟩ | ⟨e, failed⟩
  · rw [ran]
    intro d w x found
    rw [moved.vcpu?] at found
    split_ifs at found
    · obtain rfl := Option.some.inj found
      exact timed dom v c moved.found
    · exact timed d w x found
  · rw [failed]
    exact timed

theorem Timed.preempt (timed : Timed s) (dom : DomId) (v : Vcpu) (now : Ticks) :
    Timed (System.preempt dom v now s).2 := by
  rcases vcpu_cases s dom v with ⟨c, found, ok⟩ | ⟨-, e, failed⟩
  · cases running : isRunning c.state with
    | true =>
        simpa [System.preempt, ok, running] using
          (timed.offCpu dom v now c).setVcpu (c := { closed now c with state := .runnable }) dom v
            (closed_runtime_lt (timed dom v c found) now)
    | false => simpa [System.preempt, ok, running] using timed
  · simpa [System.preempt, failed] using timed

theorem Timed.block (timed : Timed s) (dom : DomId) (v : Vcpu) (now : Ticks) :
    Timed (System.block dom v now s).2 := by
  rcases vcpu_cases s dom v with ⟨c, found, ok⟩ | ⟨-, e, failed⟩
  · by_cases eligible : c.state ≠ .offline ∧ c.state ≠ .blocked
    · simpa [System.block, ok, eligible] using
        (timed.offCpu dom v now c).setVcpu (c := { closed now c with state := .blocked }) dom v
          (closed_runtime_lt (timed dom v c found) now)
    · simpa only
        [System.block, Op.query_bind_apply, ok, Op.ensure_bind_apply, decide_eq_false eligible,
        Bool.false_eq_true, if_false] using timed
  · simpa [System.block, failed] using timed

theorem Timed.setAffinity (timed : Timed s) (dom : DomId) (v : Vcpu) (affinity : Nat) :
    Timed (System.setAffinity dom v affinity s).2 := by
  rcases vcpu_cases s dom v with ⟨c, found, ok⟩ | ⟨-, e, failed⟩
  · cases stays : staysAffine (affinity &&& s.fullAffinity) c.state with
    | true =>
        simpa [System.setAffinity, ok, stays] using
          timed.setVcpu (c := { c with affinity := affinity &&& s.fullAffinity }) dom v
            (timed dom v c found)
    | false => simpa [System.setAffinity, ok, stays] using timed
  · simpa [System.setAffinity, failed] using timed

theorem Timed.offline (timed : Timed s) (dom : DomId) (v : Vcpu) (now : Ticks) :
    Timed (System.offline dom v now s).2 := by
  rcases vcpu_cases s dom v with ⟨c, found, ok⟩ | ⟨-, e, failed⟩
  · by_cases off : c.state = .offline
    · simpa [System.offline, ok, off] using timed
    · simpa [System.offline, ok, off] using
        (timed.offCpu dom v now c).setVcpu
          (c := { closed now c with state := .offline, affinity := s.fullAffinity }) dom v
          (closed_runtime_lt (timed dom v c found) now)
  · simpa [System.offline, failed] using timed

theorem Timed.offlineAll (timed : Timed s) (dom : DomId) (now : Ticks) :
    Timed (System.offlineAll dom now s).2 := by
  refine (@Op.sweep_keeps _ _ _ _ _ Timed (fun _ => True) _ s ?_ timed).1
  intro v _ s r s' timed ran
  split_ifs at ran
  obtain rfl : (System.offline dom v now s).2 = s' := congrArg Prod.snd (Option.some.inj ran)
  exact ⟨timed.offline dom v now, trivial⟩

end System

theorem SysOp.timed (timed : s.Timed) (op : SysOp) : (op.apply s).2.Timed := by
  cases op with
  | admitVcpu dom v => exact timed.admitVcpu dom v
  | run dom v pcpu now => exact timed.run dom v pcpu now.toNat
  | preempt dom v now => exact timed.preempt dom v now.toNat
  | block dom v now => exact timed.block dom v now.toNat
  | wake dom v => exact timed.wake dom v
  | setAffinity dom v affinity => exact timed.setAffinity dom v affinity.toNat
  | offline dom v now => exact timed.offline dom v now.toNat
  | offlineAll dom now => exact timed.offlineAll dom now.toNat

end Baleen.Sched

namespace Baleen.Policy

open Sched Sched.System

namespace Scheduler

variable {s : Scheduler} {sys sys' : System} {now : Ticks}

/-- The largest offset that leaves room for two 64-bit intervals. -/
def ROOM : Nat := 2 ^ 128 + 1 - 2 ^ 65

/-- No sum exceeds the largest 128-bit value. -/
def SumsFit (s : Scheduler) (sys : System) (now : Ticks) : Prop :=
  ∀ dom v, s.effective sys dom v now ≤ U128_MAX

/-- The scheduler before each decision of a tick. -/
def passes (s : Scheduler) (now : Ticks) : Nat → System → List System
  | 0, sys => [sys]
  | fuel + 1, sys =>
      match enact now sys (s.next sys now) with
      | none => [sys]
      | some sys' => sys :: passes s now fuel sys'

/-- The sums of a tick: those that the floor is taken over, and those behind each decision. -/
structure TickFits (s : Scheduler) (sys : System) (now : Ticks) : Prop where
  floor : SumsFit s sys now
  decisions : ∀ sys' ∈ passes (s.account sys now) now (limit sys) sys,
    SumsFit (s.account sys now) sys' now

def Roomy (s : Scheduler) : Prop := ∀ dom v, s.offsetOf dom v ≤ ROOM

/-- The scaled floor is no more than the room above what a waker has run. -/
def Modest (s : Scheduler) (sys : System) (now : Ticks) : Prop :=
  s.wakeBoost = true → ∀ f, s.floor sys now = some f → ∀ dom v, Woken s sys dom v →
    Placed s sys dom v → floorService f (s.weightOf dom v) ≤ (sys.runtime dom v).getD 0 + ROOM

theorem Roomy.sumsFit (roomy : Roomy s) (timed : sys.Timed) (clock : now < 2 ^ 64) :
    SumsFit s sys now := by
  intro dom v
  have closed := Nat.le_sub_one_of_lt (timed.getD_lt dom v)
  have offset := roomy dom v
  have running : inFlight sys dom v now < 2 ^ 64 := by
    unfold inFlight
    cases sys.onCpuSince dom v with
    | none => exact Nat.two_pow_pos 64
    | some since => exact lt_of_le_of_lt (Nat.sub_le _ _) clock
  have room : ROOM + (2 ^ 64 - 1) + (2 ^ 64 - 1) = U128_MAX := by decide
  unfold effective
  omega

theorem Roomy.new (numDomains vcpusPerDomain : Nat) (quantum : Ticks) :
    Roomy (Scheduler.new numDomains vcpusPerDomain quantum) := by
  intro dom v
  rw [offsetOf, Scheduler.new, Grid.get?_fill]
  split_ifs <;> exact Nat.zero_le _

theorem offsetOf_setWakeBoost (s : Scheduler) (enabled : Bool) (dom : DomId) (v : Vcpu) :
    (s.setWakeBoost enabled).offsetOf dom v = 0 := by
  rw [offsetOf, setWakeBoost, Grid.get?_map]
  cases s.offset.get? dom.toNat v.toNat <;> rfl

theorem Roomy.account (roomy : Roomy s) (modest : Modest s sys now) :
    Roomy (s.account sys now) := by
  intro dom v
  by_cases waker : s.wakeBoost = true ∧ (∃ f, s.floor sys now = some f) ∧
      Woken s sys dom v ∧ Placed s sys dom v
  · obtain ⟨on, ⟨f, least⟩, woken, placed⟩ := waker
    rw [offsetOf_account_placed on least woken placed, Nat.sub_le_iff_le_add']
    exact modest on f least dom v woken placed
  · rw [offsetOf_account_other waker]
    exact roomy dom v

theorem floorService_le (f : Share) (weight : Nat) : floorService f weight ≤ f.service * weight :=
  (Nat.div_le_self _ _).trans (Nat.min_le_left _ _)

/-- A floor below `2 ^ 95` ticks is always within the room. -/
theorem modest_of_floor (small : ∀ f, s.floor sys now = some f → f.service ≤ 2 ^ 95) :
    Modest s sys now := by
  intro _ f least dom v _ _
  calc floorService f (s.weightOf dom v) ≤ f.service * s.weightOf dom v := floorService_le _ _
    _ ≤ 2 ^ 95 * 2 ^ 32 := Nat.mul_le_mul (small f least) (s.weightOf_lt dom v).le
    _ ≤ ROOM := by decide
    _ ≤ (sys.runtime dom v).getD 0 + ROOM := Nat.le_add_left _ _

theorem timed_enact (timed : sys.Timed) {d : Decision} (enacted : enact now sys d = some sys') :
    sys'.Timed := by
  cases d with
  | run dom v p =>
      have kept := timed.run dom v p now
      simp only [enact] at enacted
      split at enacted
      case h_1 ran =>
        rw [ran] at kept
        exact Option.some.inj enacted ▸ kept
      case h_2 => cases enacted
  | preempt dom v p =>
      have kept := timed.preempt dom v now
      simp only [enact] at enacted
      split at enacted
      case h_1 ran =>
        rw [ran] at kept
        exact Option.some.inj enacted ▸ kept
      case h_2 => cases enacted
  | idle => cases enacted

theorem timed_settle (fuel : Nat) (timed : sys.Timed) :
    (settle s now fuel sys).1.Timed ∧ ∀ sys' ∈ passes s now fuel sys, sys'.Timed := by
  induction fuel generalizing sys with
  | zero =>
      refine ⟨timed, fun sys' member => ?_⟩
      obtain rfl := List.mem_singleton.mp member
      exact timed
  | succ fuel ih =>
      unfold settle passes
      cases enacted : enact now sys (s.next sys now) with
      | none =>
          refine ⟨timed, fun sys' member => ?_⟩
          obtain rfl := List.mem_singleton.mp member
          exact timed
      | some next =>
          obtain ⟨settled, between⟩ := ih (timed_enact timed enacted)
          refine ⟨settled, fun sys' member => ?_⟩
          rcases List.mem_cons.mp member with rfl | later
          · exact timed
          · exact between sys' later

end Scheduler

namespace Machine

open Scheduler

structure Roomy (m : Machine) : Prop where
  policy : m.policy.Roomy
  sys : m.sys.Timed

/-- The condition on one step. -/
def Modest (m : Machine) : Act → Prop
  | .advance now => m.policy.Modest m.sys now.toNat
  | _ => True

/-- The condition on every step of a run. -/
def Steady (m : Machine) : List Act → Prop
  | [] => True
  | a :: acts => m.Modest a ∧ (m.act a).2.Steady acts

/-- No sum that a machine can be asked for now, or that its next step takes, exceeds the largest
128-bit value. -/
def SumsFit (m : Machine) : List Act → Prop
  | [] => ∀ now : UInt64, m.policy.SumsFit m.sys now.toNat
  | .advance now :: _ => (∀ now : UInt64, m.policy.SumsFit m.sys now.toNat) ∧
      m.policy.TickFits m.sys now.toNat
  | _ :: _ => ∀ now : UInt64, m.policy.SumsFit m.sys now.toNat

theorem SumsFit.tick {m : Machine} {now : UInt64} {rest : List Act}
    (fits : m.SumsFit (.advance now :: rest)) : m.policy.TickFits m.sys now.toNat := fits.2

theorem Roomy.act {m : Machine} (roomy : m.Roomy) (a : Act) (modest : m.Modest a) :
    (m.act a).2.Roomy := by
  cases a with
  | setWeight dom v weight => exact ⟨roomy.policy, roomy.sys⟩
  | setWakeBoost enabled =>
      refine ⟨fun dom v => ?_, roomy.sys⟩
      exact (offsetOf_setWakeBoost m.policy enabled dom v).trans_le (Nat.zero_le _)
  | advance now => exact ⟨roomy.policy.account modest, (timed_settle _ roomy.sys).1⟩
  | operate op => exact ⟨roomy.policy, op.timed roomy.sys⟩

theorem Roomy.sumsFit {m : Machine} (roomy : m.Roomy) (acts : List Act)
    (steady : m.Steady acts) : m.SumsFit acts := by
  have here : ∀ now : UInt64, m.policy.SumsFit m.sys now.toNat :=
    fun now => roomy.policy.sumsFit roomy.sys now.toNat_lt
  unfold SumsFit
  split
  case h_1 => exact here
  case h_2 now rest =>
    refine ⟨here, here now, fun sys' member => ?_⟩
    have timed := (timed_settle (limit m.sys) roomy.sys).2 sys' member
    exact (roomy.policy.account steady.1).sumsFit timed now.toNat_lt
  case h_3 => exact here

/-- In a run whose ticks all find the scaled floor within the room above what each waker has
run, no sum exceeds 128 bits. -/
theorem run_sumsFit (numDomains vcpusPerDomain : Nat) (quantum : Ticks)
    (numDomains' vcpusPerDomain' numPcpus : Nat) (earlier later : List Act)
    (steady : Steady ⟨Scheduler.new numDomains vcpusPerDomain quantum,
      System.new numDomains' vcpusPerDomain' numPcpus⟩ (earlier ++ later)) :
    (run ⟨Scheduler.new numDomains vcpusPerDomain quantum,
      System.new numDomains' vcpusPerDomain' numPcpus⟩ earlier).SumsFit later := by
  have start : Roomy ⟨Scheduler.new numDomains vcpusPerDomain quantum,
      System.new numDomains' vcpusPerDomain' numPcpus⟩ :=
    ⟨Scheduler.Roomy.new _ _ _, Timed.new _ _ _⟩
  generalize Machine.mk (Scheduler.new numDomains vcpusPerDomain quantum)
    (System.new numDomains' vcpusPerDomain' numPcpus) = m at steady start ⊢
  induction earlier generalizing m with
  | nil => exact start.sumsFit later steady
  | cons a earlier ih => exact ih (m.act a).2 steady.2 (start.act a steady.1)

/-- A waker beside a runner with 100 ticks. -/
theorem run_sumsFit_pair : (run ⟨Scheduler.new 1 2 1, System.new 1 2 1⟩
    [.operate (.admitVcpu 0 0), .advance 0, .operate (.admitVcpu 0 1)]).SumsFit [.advance 100] := by
  refine run_sumsFit 1 2 1 1 2 1 [.operate (.admitVcpu 0 0), .advance 0, .operate (.admitVcpu 0 1)]
    [.advance 100] ⟨trivial, modest_of_floor ?_, trivial, modest_of_floor ?_, trivial⟩
  · intro f least
    have none : (Scheduler.new 1 2 1).floor
        (run ⟨Scheduler.new 1 2 1, System.new 1 2 1⟩ [.operate (.admitVcpu 0 0)]).sys 0 = none := by
      decide +kernel
    cases none.symm.trans least
  · intro f least
    let m := run ⟨Scheduler.new 1 2 1, System.new 1 2 1⟩
      [.operate (.admitVcpu 0 0), .advance 0, .operate (.admitVcpu 0 1)]
    have floor : m.policy.floor m.sys 100 = some ⟨100, 1⟩ := by decide +kernel
    obtain rfl := Option.some.inj (floor.symm.trans least)
    decide

/-- Two vCPUs that wake each other's floor up while their weights change: the third floor is the
largest 128-bit value. -/
def climb : List Act :=
  [.operate (.admitVcpu 0 0), .advance 0,
    .setWeight 0 1 0xFFFFFFFF, .operate (.admitVcpu 0 1), .advance 0xFFFFFFFFFFFFFFFE,
    .operate (.block 0 0 0xFFFFFFFFFFFFFFFE), .advance 0xFFFFFFFFFFFFFFFE,
    .setWeight 0 0 0xFFFFFFFF, .setWeight 0 1 1, .operate (.wake 0 0), .advance 0xFFFFFFFFFFFFFFFE,
    .operate (.block 0 1 0xFFFFFFFFFFFFFFFE), .advance 0xFFFFFFFFFFFFFFFE,
    .setWeight 0 0 1, .setWeight 0 1 2, .operate (.wake 0 1), .advance 0xFFFFFFFFFFFFFFFE]

/-- One tick of the clock later the sum of the second vCPU, which the next tick compares, wraps
around to zero. -/
theorem sum_overflows :
    let m := run ⟨Scheduler.new 1 2 1, System.new 1 2 2⟩ climb
    m.sys.firstViolation = none ∧ (0, 1) ∈ m.sys.visits ∧ schedulable m.sys 0 1 = true ∧
      m.policy.wasSchedulableOf 0 1 = true ∧
      m.policy.effective m.sys 0 1 (2 ^ 64 - 1) = 2 ^ 128 ∧
      (m.policy.share m.sys 0 1 (2 ^ 64 - 1)).service = 0 ∧
      ¬m.SumsFit [.advance 0xFFFFFFFFFFFFFFFF] := by
  intro m
  have sum : m.policy.effective m.sys 0 1 (2 ^ 64 - 1) = 2 ^ 128 := by decide +kernel
  refine ⟨by decide +kernel, by decide +kernel, by decide +kernel, by decide +kernel, sum,
    by decide +kernel, ?_⟩
  intro fits
  have small : m.policy.effective m.sys 0 1 (2 ^ 64 - 1) ≤ U128_MAX := fits.tick.floor 0 1
  rw [sum] at small
  exact absurd small (by decide)

end Machine

end Baleen.Policy
