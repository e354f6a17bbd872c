import Mathlib.Algebra.BigOperators.Group.List.Basic
import Baleen.Metal.HostRuns

/-!
# What the host reports

The checks that are made when the boot is over, each of which parks the machine if it fails.  Those
about blocked vCPUs and about secondaries always hold.  The one about the physical timer fails
exactly if the last guest retires with a timer interrupt that was put off.  Words are summed and
compared, and the sums wrap around.
-/

namespace Baleen.Metal

open Gic Sched RoundRobin

variable {G V lrs aps : Nat}

namespace Host

/-- The check of `report_idle`. -/
def idleOk (h : Host G V lrs aps) : Bool :=
  let sum (f : VcpuBooks → Nat) : UInt64 :=
    ((Role.census G V).map fun r => Counter.word (f (h.vcpuBooks r))).sum
  let blocked := sum VcpuBooks.blocked
  !(sum VcpuBooks.blockedReadbackOk != blocked ||
    sum VcpuBooks.woken + sum VcpuBooks.offlinedWhileBlocked != blocked ||
    Counter.word h.wakeSweeps < Counter.word h.preempts)

/-- The check of `report_timer_handoff` for one guest. -/
def handoffOk (slot : Fin G) (h : Host G V lrs aps) : Bool :=
  let t := h.machine.tally slot
  let released := Counter.word t.hwReleased
  released + Counter.word t.timerDeferred = Counter.word t.timerDeactivated &&
    released ≤ Counter.word t.handovers

end Host

namespace Plan

/-- The check of `report_vcpu_census`. -/
def censusOk (plan : Plan G V) (h : Host G V lrs aps) : Bool :=
  let known := (Role.census G V).filter fun r => (plan.stateOf h r).isSome
  let nonboot := known.filter fun r => !r.isBoot
  let offline := nonboot.filter fun r => plan.stateOf h r = some .offline
  known.length = G * V && nonboot.length = G * (V - 1) && 0 < G * (V - 1) &&
    offline.length = nonboot.length && (List.finRange G).all fun slot =>
      Counter.word (h.guestBooks slot).secondariesSeeded =
        Counter.word (h.guestBooks slot).secondariesAdmitted

variable {plan : Plan G V} {h h' last : Host G V lrs aps} {turn : Turn (Role G V)} {trap : Trap aps}
  {traps : List (Trap aps)}

theorem idleOk_of_booked (booked : plan.Booked h) (awake : ∀ r, plan.phases h.hv r ≠ .blocked)
    (few : h.wakeSweeps < 2 ^ 64) : h.idleOk = true := by
  have readback : ∀ r, (h.vcpuBooks r).blockedReadbackOk = (h.vcpuBooks r).blocked :=
    fun r => (booked.balanced r).readback
  have slept : ∀ r, (h.vcpuBooks r).blocked =
      (h.vcpuBooks r).woken + (h.vcpuBooks r).offlinedWhileBlocked := by
    intro r
    have slept := (booked.balanced r).slept
    rwa [if_neg (awake r)] at slept
  simp only [Host.idleOk, readback, slept, Counter.word_sum, List.sum_map_add]
  simp only [Counter.word_add, bne_self_eq_false, Bool.false_or, Bool.not_eq_true',
    decide_eq_false_iff_not, UInt64.not_lt]
  exact Counter.word_le booked.sweeps few

theorem length_census : (Role.census G V).length = G * V := by
  simp [Role.census, List.length_flatMap]

theorem countP_isBoot [NeZero V] : (Role.census G V).countP (·.isBoot) = G := by
  have one : ∀ g : Fin G,
      ((List.finRange V).map fun v => (⟨g, v⟩ : Role G V)).countP (·.isBoot) = 1 := by
    intro g
    rw [List.countP_map]
    have same : ((fun r : Role G V => r.isBoot) ∘ fun v => (⟨g, v⟩ : Role G V)) =
        fun v => v == 0 := by
      funext v
      rw [Function.comp, Role.isBoot, Bool.eq_iff_iff, decide_eq_true_iff, beq_iff_eq, Fin.ext_iff]
      rfl
    rw [same]
    exact List.count_eq_one_of_mem (List.nodup_finRange V) (List.mem_finRange 0)
  rw [Role.census, List.countP_flatMap]
  simp [Function.comp_def, one]

theorem length_nonboot [NeZero V] :
    ((Role.census G V).filter fun r => !r.isBoot).length = G * (V - 1) := by
  have split := List.length_eq_countP_add_countP (fun r : Role G V => r.isBoot)
    (l := Role.census G V)
  have others : (Role.census G V).countP (fun r => !r.isBoot) =
      (Role.census G V).countP fun r => ¬r.isBoot = true :=
    List.countP_congr fun r _ => by simp
  rw [length_census, countP_isBoot, ← others] at split
  rw [← List.countP_eq_length_filter, Nat.mul_sub, Nat.mul_one]
  omega

theorem censusOk_of_offline [NeZero V] (booked : plan.Booked h) (several : 1 < V)
    (some_guest : 0 < G) (offline : ∀ r, plan.stateOf h r = some .offline) :
    plan.censusOk h = true := by
  have known : ∀ r ∈ Role.census G V, (plan.stateOf h r).isSome = true := by
    intro r _
    rw [offline]
    rfl
  have counted : ∀ slot, (h.guestBooks slot).secondariesSeeded =
      (h.guestBooks slot).secondariesAdmitted := fun slot => (booked.admitted slot).symm
  have secondaries : 0 < G * (V - 1) := Nat.mul_pos some_guest (Nat.sub_pos_of_lt several)
  unfold censusOk
  dsimp only
  rw [List.filter_eq_self.mpr known, length_census, length_nonboot]
  simp only [offline, decide_true, List.filter_true, length_nonboot, Bool.true_and,
    decide_eq_true secondaries, counted, List.all_eq_true, implies_true, Bool.and_self]

/-- The words of the timer's counters balance exactly if nothing is outstanding. -/
theorem handoffOk_iff {first slot : Fin G} (handed : Machine.Handed first slot h.machine)
    (few : (h.machine.tally slot).handovers < 2 ^ 64) :
    h.handoffOk slot = true ↔ Machine.outstanding slot h.machine = 0 := by
  have one : Machine.outstanding slot h.machine ≤ 1 := by
    rw [Machine.outstanding]
    split_ifs <;> decide
  have deactivated : Counter.word (h.machine.tally slot).hwReleased +
      Counter.word (h.machine.tally slot).timerDeferred =
        Counter.word (h.machine.tally slot).timerDeactivated +
          Counter.word (Machine.outstanding slot h.machine) := by
    rw [← Counter.word_add, ← Counter.word_add, handed.timer]
  rw [Host.handoffOk, Bool.and_eq_true, decide_eq_true_iff, decide_eq_true_iff, deactivated,
    UInt64.add_eq_left, Counter.word_eq_zero (Nat.lt_of_le_of_lt one (by decide))]
  exact and_iff_left (Counter.word_le handed.released few)

/-- When the boot is over the checks of blocked vCPUs and of secondaries hold.  That of the timer
holds for a guest exactly if no timer interrupt of it was put off for good.  The comparisons of
words count on fewer than `2 ^ 64` sweeps and handovers. -/
theorem end_reports [NeZero V] (reached : plan.Reachable h) (legal : plan.Legal traps h)
    (ended : plan.run traps h = .error (.endOfBoot last)) :
    (last.wakeSweeps < 2 ^ 64 → last.idleOk = true) ∧ (1 < V → plan.censusOk last = true) ∧
      ∀ slot, (last.machine.tally slot).handovers < 2 ^ 64 →
        (last.handoffOk slot = true ↔ Machine.outstanding slot last.machine = 0) := by
  obtain ⟨coherent, steady⟩ := reached.steady
  have arrived := run_arrives coherent legal
  rw [ended] at arrived
  cases arrived with
  | ended ends =>
      have steady' := ends.steady steady
      refine ⟨idleOk_of_booked steady'.booked fun r => ?_, fun several => ?_, fun slot => ?_⟩
      · rw [ends.offline r]
        intro slept
        cases slept
      · refine censusOk_of_offline steady'.booked several ?_ fun r =>
          (ends.placed.stateOf_eq .offline rfl).mpr (ends.offline r)
        exact Nat.zero_lt_of_lt h.machine.current.guest.isLt
      · obtain ⟨first, handed⟩ := steady'.handed
        exact handoffOk_iff (handed slot)

/-- The first guest faults.  The second one enables the timer, fills its only list register with an
interrupt that it sends to itself, is interrupted by the timer, and faults as well. -/
def deferring : List (Trap 1) :=
  [.sync 1 true 0 0 0,
    .compute
      (.ofFn fun i => if i.val = 0 then 0x01000001 else if i.val = 1 then 0x08000000 else 0)
      (fun _ => 0) .ZERO 0 (.ofFn fun _ => .ofFn fun _ => 0),
    .sync 2 true 0x91810040 0x100 0x80b00,
    .sync 3 true 0x603a3016 0 0,
    .irq 4 27, .sync 5 true 0 0 0]

/-- Whether a check holds of the state in which the boot is over. -/
def overWith (check : Host 2 2 1 1 → Bool) : Except (Halt 2 2 1 1) (Host 2 2 1 1) → Bool
  | .error (.endOfBoot last) => check last
  | _ => false

theorem ended_of_overWith {check : Host 2 2 1 1 → Bool}
    {ran : Except (Halt 2 2 1 1) (Host 2 2 1 1)} (checked : overWith check ran = true) :
    ∃ last, ran = .error (.endOfBoot last) ∧ check last = true := by
  cases ran with
  | ok h' => cases checked
  | error e =>
      cases e with
      | endOfBoot last => exact ⟨last, rfl, checked⟩
      | _ => cases checked

/-- The check of the timer fails. -/
theorem end_reports_deferred : ∃ h last, pairBoot = .ok h ∧
    pair.run deferring h = .error (.endOfBoot last) ∧ last.idleOk = true ∧
      pair.censusOk last = true ∧ ¬last.handoffOk 1 = true := by
  obtain ⟨h, booted, reached, checked⟩ := pair_bootedInto
    (fun h => decide (pair.Legal deferring h) && overWith (fun last =>
      decide (Machine.outstanding 1 last.machine ≠ 0 ∧ last.wakeSweeps < 2 ^ 64 ∧
        (last.machine.tally 1).handovers < 2 ^ 64)) (pair.run deferring h))
    (by decide +kernel)
  rw [Bool.and_eq_true, decide_eq_true_iff] at checked
  obtain ⟨legal, checked⟩ := checked
  obtain ⟨last, ran, counted⟩ := ended_of_overWith checked
  obtain ⟨outstanding, sweeps, handovers⟩ := of_decide_eq_true counted
  obtain ⟨idle, census, handoff⟩ := end_reports reached legal ran
  exact ⟨h, last, booted, ran, idle sweeps, census (by decide),
    fun passed => outstanding ((handoff 1 handovers).mp passed)⟩

/-- A timer interrupt that arrives for a vCPU that has not enabled the timer. -/
def isStray (h : Host G V lrs aps) : Trap aps → Bool
  | .irq _ intid => intid = Machine.VTIMER_INTID && !wantsTimer h
  | _ => false

/-- How many of them arrive in a run. -/
def strays (plan : Plan G V) : List (Trap aps) → Host G V lrs aps → Nat
  | [], _ => 0
  | trap :: rest, h => (if isStray h trap then 1 else 0) +
      match plan.step h trap with
      | .ok h' => strays plan rest h'
      | .error _ => 0

/-- How many can still arrive. -/
def expected (h : Host G V lrs aps) : Nat :=
  if h.machine.timer.enabled = true ∧ wantsTimer h = false then 1 else 0

theorem expected_le_one (h : Host G V lrs aps) : expected h ≤ 1 := by
  unfold expected
  split_ifs <;> decide

theorem expected_settled (settled : h.machine.timer.enabled = wantsTimer h) : expected h = 0 := by
  rw [expected, settled, if_neg]
  rintro ⟨wants, unwanted⟩
  exact Bool.false_ne_true (unwanted.symm.trans wants)

theorem expected_mirror (mirror : (wantsTimer h' = wantsTimer h ∧
      h'.machine.timer.enabled = h.machine.timer.enabled) ∨
    h'.machine.timer.enabled = wantsTimer h') : expected h' ≤ expected h := by
  rcases mirror with ⟨wants, enabled⟩ | settled
  · rw [expected, expected, wants, enabled]
  · rw [expected_settled settled]
    exact Nat.zero_le _

theorem Serves.expected (serves : plan.Serves h turn h') (coherent : plan.Coherent h) :
    expected h' ≤ expected h := by
  obtain ⟨before, after, first, act, later⟩ := serves.between
  calc
    Plan.expected h' ≤ Plan.expected after := expected_mirror later.mirror
    _ ≤ Plan.expected before := expected_mirror (act.mirror (coherent.undisturbed first))
    _ ≤ Plan.expected h := expected_mirror first.mirror

/-- One that arrives was expected. -/
theorem expected_stray (allowed : may h trap) (stray : isStray h trap = true) :
    (∃ now, trap = .irq now Machine.VTIMER_INTID) ∧ wantsTimer h = false ∧ expected h = 1 := by
  cases trap with
  | irq now intid =>
      rw [isStray, Bool.and_eq_true, decide_eq_true_iff, Bool.not_eq_true'] at stray
      obtain ⟨rfl, unwanted⟩ := stray
      have enabled : h.machine.timer.enabled = true := by
        rcases allowed with slice | maintenance | spurious | ⟨-, enabled, -⟩
        · exact absurd slice (by decide)
        · exact absurd maintenance (by decide)
        · exact absurd spurious (by decide)
        · exact enabled
      exact ⟨⟨now, rfl⟩, unwanted, if_pos ⟨enabled, unwanted⟩⟩
  | sync | interface | compute => cases stray

theorem step_strays (coherent : plan.Coherent h) (allowed : may h trap)
    (stepped : plan.step h trap = .ok h') :
    expected h' + (if isStray h trap then 1 else 0) ≤ expected h := by
  by_cases stray : isStray h trap = true
  · obtain ⟨⟨now, rfl⟩, unwanted, one⟩ := expected_stray allowed stray
    have taken : plan.step h (.irq now Machine.VTIMER_INTID) =
        .ok (h.setMachine (h.machine.takeTimer (wantsTimer h))) := rfl
    rw [taken, unwanted] at stepped
    cases stepped
    have none : expected (h.setMachine (h.machine.takeTimer false)) = 0 := by
      rw [expected, if_neg]
      rintro ⟨enabled, -⟩
      cases enabled
    rw [none, one, if_pos stray]
  · rw [if_neg stray]
    have outcome := step_outcome coherent allowed
    rw [stepped] at outcome
    cases outcome with
    | served serves => exact serves.expected coherent

theorem strays_le (coherent : plan.Coherent h) (legal : plan.Legal traps h) :
    strays plan traps h ≤ expected h := by
  induction traps generalizing h with
  | nil => exact Nat.zero_le _
  | cons trap rest ih =>
      obtain ⟨allowed, later⟩ := legal
      have outcome := step_outcome coherent allowed
      rw [strays]
      cases stepped : plan.step h trap with
      | ok h' =>
          rw [stepped] at later outcome
          have first := step_strays coherent allowed stepped
          cases outcome with
          | served serves =>
              have second := ih (serves.coherent coherent) later
              dsimp only
              omega
      | error e =>
          split_ifs with stray
          · exact (expected_stray allowed stray).2.2.ge
          · exact Nat.zero_le _

/-- At most one timer interrupt ever arrives for a vCPU that has not enabled the timer. -/
theorem one_stray [NeZero V] (reached : plan.Reachable h) (legal : plan.Legal traps h) :
    strays plan traps h ≤ 1 :=
  Nat.le_trans (strays_le reached.steady.1 legal) (expected_le_one h)

theorem one_stray_pair : ∃ h, pairBoot = .ok h ∧ strays pair [.irq 1 27] h = 1 := by
  obtain ⟨h, booted, reached, checked⟩ := pair_bootedInto
    (fun h => decide (pair.Legal [.irq 1 27] h) && decide (1 ≤ strays pair [.irq 1 27] h))
    (by decide +kernel)
  rw [Bool.and_eq_true, decide_eq_true_iff, decide_eq_true_iff] at checked
  exact ⟨h, booted, Nat.le_antisymm (one_stray reached checked.1) checked.2⟩

end Plan

end Baleen.Metal
