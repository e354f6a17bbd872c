import Baleen.Part.Ownership
import Baleen.Sched.Cpus
import Baleen.Metal.Host

/-!
# The vCPUs in the hypervisor

Where the hypervisor's scheduler has the vCPUs of the guests.  Every call that a handler makes in a
phase that allows it is accepted, and moves one vCPU from one phase to another.
-/

namespace Baleen.Metal.Plan

open Sched RoundRobin

variable {G V lrs aps : Nat} (plan : Plan G V)

section Names

include plan

theorem guests_lt (slot : Fin G) : slot.val < 2 ^ 64 := by
  have few := plan.part.numGuests.toNat_lt
  rw [plan.numGuests] at few
  exact Nat.lt_trans slot.isLt few

theorem toNat_slot (slot : Fin G) : (UInt64.ofNat slot).toNat = slot :=
  UInt64.toNat_ofNat_of_lt' (plan.guests_lt slot)

theorem hasSlot (slot : Fin G) : plan.part.hasSlot (UInt64.ofNat slot) = true := by
  rw [Part.Partition.hasSlot_iff, plan.toNat_slot, plan.numGuests]
  exact slot.isLt

theorem toNat_slotDom (slot : Fin G) : (plan.slotDom slot).toNat = slot + 1 := by
  have wf := Part.Partition.isWellFormed_iff.mp plan.wellFormed
  have named := wf.toNat_domOf ⟨UInt64.ofNat slot, plan.hasSlot slot⟩
  rwa [plan.toNat_slot] at named

theorem slotDom_inj {slot slot' : Fin G} (same : plan.slotDom slot = plan.slotDom slot') :
    slot = slot' := by
  have numbers := congrArg UInt16.toNat same
  rw [plan.toNat_slotDom, plan.toNat_slotDom, Nat.add_right_cancel_iff] at numbers
  exact Fin.ext numbers

/-- Two vCPUs `2 ^ 24` apart would have one identity. -/
theorem vcpus_le : V ≤ 2 ^ 24 := by
  refine Nat.not_lt.mp fun many => ?_
  have distinct := plan.distinct
  rw [affinitiesAreDistinct, List.all_eq_true] at distinct
  have first := distinct 0 (List.mem_range.mpr (by omega))
  rw [List.all_eq_true] at first
  exact absurd (first (2 ^ 24) (List.mem_range.mpr many)) (by decide)

theorem toNat_model (r : Role G V) : r.model.toNat = r.vcpu := by
  have few := plan.vcpus_le
  have inside := r.vcpu.isLt
  rw [Role.model, UInt32.toNat_ofNat_of_lt']
  exact Nat.lt_of_lt_of_le inside (Nat.le_trans few (by decide))

theorem role_inj {r s : Role G V} (dom : plan.slotDom r.guest = plan.slotDom s.guest)
    (vcpu : r.model = s.model) : r = s := by
  have numbers := congrArg UInt32.toNat vcpu
  rw [plan.toNat_model, plan.toNat_model] at numbers
  obtain ⟨g, v⟩ := r
  obtain ⟨g', v'⟩ := s
  cases plan.slotDom_inj dom
  cases Fin.ext numbers
  rfl

end Names

def phaseOf : Option RunState → Phase
  | some .runnable => .runnable
  | some (.running _) => .running
  | some .blocked => .blocked
  | _ => .offline

def phases (hv : Hypervisor) (r : Role G V) : Phase :=
  phaseOf (hv.sched.stateOf (plan.slotDom r.guest) r.model)

/-- Every vCPU of every guest is one that the hypervisor knows and may run on the physical CPU, on
which nobody else runs. -/
structure Placed (hv : Hypervisor) : Prop where
  alive : ∀ slot, (plan.slotDom slot).toNat < hv.domainCount ∧ hv.isLive (plan.slotDom slot) = true
  known : ∀ r : Role G V, ∃ c, hv.sched.vcpu? (plan.slotDom r.guest) r.model = some c ∧
    maskPermits c.affinity PCPU0 = true ∧ ∀ p, c.state = .running p → p = PCPU0
  permitted : maskPermits hv.sched.fullAffinity PCPU0 = true
  present : 0 < hv.sched.pcpus.length
  consistent : hv.sched.Consistent
  free : (∀ r, plan.phases hv r ≠ .running) → hv.sched.pcpus[0]? = some none
  /-- No event waits for any of them. -/
  quiet : ∀ dom port, hv.evtchn.deliverable dom port = false

variable {plan} {hv : Hypervisor} {s' : System} {c c' : VirtualCpu} {r : Role G V} {p : Phase}
  {h : Host G V lrs aps}

theorem Placed.stateOf (placed : plan.Placed hv) (r : Role G V) :
    hv.sched.stateOf (plan.slotDom r.guest) r.model = match plan.phases hv r with
      | .offline => some .offline
      | .runnable => some .runnable
      | .running => some (.running PCPU0)
      | .blocked => some .blocked := by
  obtain ⟨c, found, -, here⟩ := placed.known r
  have state : hv.sched.stateOf (plan.slotDom r.guest) r.model = some c.state :=
    System.stateOf_eq_some.mpr ⟨c, found, rfl⟩
  rw [phases, state]
  cases running : c.state with
  | running p => rw [here p running]; rfl
  | offline | runnable | blocked => rfl

theorem Placed.stateOf_eq (placed : plan.Placed h.hv) (st : RunState)
    (idle : System.isRunning st = false) :
    plan.stateOf h r = some st ↔ plan.phases h.hv r = phaseOf (some st) := by
  rw [Plan.stateOf, placed.stateOf]
  cases st with
  | running p => cases idle
  | offline | runnable | blocked => cases plan.phases h.hv r <;> decide

theorem phases_moved (moved : System.Moved (plan.slotDom r.guest) r.model c c' hv.sched s') :
    plan.phases { hv with sched := s' } =
      Function.update (plan.phases hv) r (phaseOf (some c'.state)) := by
  funext s
  rw [phases, moved.stateOf, Function.update_apply]
  by_cases here : s = r
  · rw [here, if_pos ⟨rfl, rfl⟩, if_pos rfl]
  · rw [if_neg here, if_neg, phases]
    rintro ⟨dom, vcpu⟩
    exact here (plan.role_inj dom vcpu).symm

/-- A vCPU moves to a phase. -/
structure Moves (plan : Plan G V) (r : Role G V) (p : Phase) (hv hv' : Hypervisor) : Prop where
  placed : plan.Placed hv'
  phases : plan.phases hv' = Function.update (plan.phases hv) r p

/-- Every move of the scheduler that keeps a vCPU where it may run. -/
theorem Placed.moves (placed : plan.Placed hv)
    (moved : System.Moved (plan.slotDom r.guest) r.model c c' hv.sched s')
    (permits : maskPermits c'.affinity PCPU0 = true)
    (here : ∀ pcpu, c'.state = .running pcpu → pcpu = PCPU0) :
    plan.Moves r (phaseOf (some c'.state)) hv { hv with sched := s' } := by
  have sizes := moved.sizes
  have now : plan.phases { hv with sched := s' } =
      Function.update (plan.phases hv) r (phaseOf (some c'.state)) := phases_moved moved
  refine ⟨⟨placed.alive, fun s => ?_, ?_, ?_, moved.consistent placed.consistent, fun idle => ?_,
    placed.quiet⟩, now⟩
  · rw [moved.vcpu?]
    split_ifs with same
    · exact ⟨c', rfl, permits, here⟩
    · exact placed.known s
  · rw [System.fullAffinity, sizes.pcpus]
    exact placed.permitted
  · rw [sizes.pcpus]
    exact placed.present
  · -- Nobody runs any more: either this vCPU has left, or nobody ran before.
    obtain ⟨c₀, found, -, home⟩ := placed.known r
    rw [moved.found] at found
    cases found
    have rests : ∀ pcpu, c'.state ≠ .running pcpu := by
      intro pcpu runs
      apply idle r
      rw [now, Function.update_self, runs]
      rfl
    have entered : s'.pcpus = System.vacate c.state hv.sched.pcpus := by
      rw [moved.pcpus]
      cases state : c'.state with
      | running pcpu => exact absurd state (rests pcpu)
      | offline | runnable | blocked => rfl
    rw [entered]
    cases state : c.state with
    | running pcpu =>
        rw [home pcpu state]
        exact List.getElem?_set_self placed.present
    | offline | runnable | blocked =>
        refine placed.free fun s runs => ?_
        have other : s ≠ r := by
          rintro rfl
          have stopped : hv.sched.stateOf (plan.slotDom s.guest) s.model = some c.state :=
            System.stateOf_eq_some.mpr ⟨c, moved.found, rfl⟩
          rw [Plan.phases, stopped, state] at runs
          cases runs
        apply idle s
        rw [now, Function.update_of_ne other, runs]

/-- The scheduler operation behind a call. -/
def schedOp : HvCall → Option (DomId → Op System SchedError Unit)
  | .schedAdmit v => some fun dom => System.admitVcpu dom v
  | .schedRun v pcpu now => some fun dom => System.run dom v pcpu now
  | .schedPreempt v now => some fun dom => System.preempt dom v now
  | .schedWake v => some fun dom => System.wake dom v
  | .schedOffline v now => some fun dom => System.offline dom v now
  | _ => none

theorem schedOn_of_dispatch {call : HvCall} {o : HvOutcome} {hv' : Hypervisor}
    {slot : Fin G} (ran : Hypervisor.dispatch (plan.slotDom slot) call h.hv = (.ok o, hv')) :
    plan.schedOn slot call h = .ok { h with hv := hv' } := by
  rw [schedOn, ran]

theorem schedOn_ok {call : HvCall} {x : DomId → Op System SchedError Unit} {slot : Fin G}
    (placed : plan.Placed h.hv) (op : schedOp call = some x)
    (ran : x (plan.slotDom slot) h.hv.sched = (.ok (), s')) :
    plan.schedOn slot call h = .ok { h with hv := { h.hv with sched := s' } } := by
  obtain ⟨inside, live⟩ := placed.alive slot
  apply schedOn_of_dispatch (o := .done)
  cases call <;> simp only [schedOp, Option.some.injEq, reduceCtorEq] at op
  all_goals
    subst op
    simp only [Hypervisor.dispatch, Hypervisor.route, Hypervisor.inRange, Op.ensure_bind_apply,
      inside, live, decide_true, if_true]
    exact Op.bind_of_ok (Op.zoom_ok ran)

section Accepted

variable (placed : plan.Placed h.hv)

include placed

theorem schedAdmit_ok (offline : plan.phases h.hv r = .offline) :
    ∃ hv', plan.schedOn r.guest (.schedAdmit r.model) h = .ok { h with hv := hv' } ∧
      plan.Moves r .runnable h.hv hv' := by
  obtain ⟨c, found, permits, -⟩ := placed.known r
  rcases System.admitVcpu_cases h.hv.sched (plan.slotDom r.guest) r.model with
    ⟨c', s', -, ran, moved⟩ | ⟨e, failed⟩
  · have same := moved.found
    rw [found] at same
    cases same
    exact ⟨_, schedOn_ok placed rfl ran, placed.moves moved permits nofun⟩
  · have state := placed.stateOf r
    rw [offline, System.stateOf_eq_some] at state
    obtain ⟨c', found', off⟩ := state
    simp [System.admitVcpu, System.vcpu_of_vcpu? found', off] at failed

theorem schedWake_ok (blocked : plan.phases h.hv r = .blocked) :
    ∃ hv', plan.schedOn r.guest (.schedWake r.model) h = .ok { h with hv := hv' } ∧
      plan.Moves r .runnable h.hv hv' := by
  obtain ⟨c, found, permits, -⟩ := placed.known r
  rcases System.wake_cases h.hv.sched (plan.slotDom r.guest) r.model with
    ⟨c', s', -, ran, moved⟩ | ⟨awake, -⟩
  · have same := moved.found
    rw [found] at same
    cases same
    exact ⟨_, schedOn_ok placed rfl ran, placed.moves moved permits nofun⟩
  · have state := placed.stateOf r
    rw [blocked] at state
    exact absurd state awake

theorem schedOffline_ok (now : Ticks) (online : plan.phases h.hv r ≠ .offline) :
    ∃ hv', plan.schedOn r.guest (.schedOffline r.model now) h = .ok { h with hv := hv' } ∧
      plan.Moves r .offline h.hv hv' := by
  obtain ⟨c, found, -, -⟩ := placed.known r
  rcases System.offline_cases h.hv.sched (plan.slotDom r.guest) r.model now with
    ⟨c', c'', s', -, off, full, -, ran, moved⟩ | ⟨off, -⟩
  · have permits : maskPermits c''.affinity PCPU0 = true := by
      rw [full]
      exact placed.permitted
    have moves := placed.moves moved permits (by rw [off]; exact nofun)
    rw [off] at moves
    exact ⟨_, schedOn_ok placed rfl ran, moves⟩
  · refine absurd ?_ online
    rw [phases, System.stateOf_eq_some.mpr ⟨c, found, off c found⟩]
    rfl

theorem schedRun_ok (now : Ticks) (ready : plan.phases h.hv r = .runnable)
    (idle : ∀ s, plan.phases h.hv s ≠ .running) :
    ∃ hv', plan.schedOn r.guest (schedulerRun r now) h = .ok { h with hv := hv' } ∧
      plan.Moves r .running h.hv hv' := by
  obtain ⟨c, found, permits, -⟩ := placed.known r
  have state := placed.stateOf r
  rw [ready, System.stateOf_eq_some] at state
  obtain ⟨c', found', runnable⟩ := state
  rw [found] at found'
  cases found'
  obtain ⟨s', ran, moved⟩ := System.run_of_ready found runnable permits (placed.free idle) now
  refine ⟨_, schedOn_ok placed rfl ran, placed.moves moved permits ?_⟩
  rintro pcpu ⟨⟩
  rfl

theorem schedPreempt_ok (now : Ticks) (running : plan.phases h.hv r = .running) :
    ∃ hv', plan.schedOn r.guest (.schedPreempt r.model now) h = .ok { h with hv := hv' } ∧
      plan.Moves r .runnable h.hv hv' := by
  obtain ⟨c, found, permits, -⟩ := placed.known r
  have state := placed.stateOf r
  rw [running, System.stateOf_eq_some] at state
  obtain ⟨c', found', runs⟩ := state
  rw [found] at found'
  cases found'
  obtain ⟨s', ran, moved⟩ := System.preempt_of_running found runs now
  exact ⟨_, schedOn_ok placed rfl ran, placed.moves moved permits nofun⟩

theorem hasDeliverableFor_quiet (dom : DomId) (vcpu : Vcpu) :
    h.hv.evtchn.hasDeliverableFor dom vcpu = false := by
  rw [Evtchn.System.hasDeliverableFor, List.any_eq_false]
  intro port _
  rw [placed.quiet]
  exact Bool.false_ne_true

/-- No event keeps a vCPU from blocking. -/
theorem schedBlock_ok (now : Ticks) (running : plan.phases h.hv r = .running) :
    ∃ hv', plan.schedOn r.guest (.schedBlock r.model now) h = .ok { h with hv := hv' } ∧
      plan.Moves r .blocked h.hv hv' := by
  obtain ⟨c, found, permits, -⟩ := placed.known r
  have state := placed.stateOf r
  rw [running] at state
  obtain ⟨inside, live⟩ := placed.alive r.guest
  rcases System.block_cases h.hv.sched (plan.slotDom r.guest) r.model now with
    ⟨c', c'', s', -, -, blocked, affinity, ran, moved⟩ | ⟨e, failed⟩
  · have same := moved.found
    rw [found] at same
    cases same
    have moves := placed.moves moved (affinity ▸ permits) (by rw [blocked]; exact nofun)
    rw [blocked] at moves
    refine ⟨_, schedOn_of_dispatch (o := .done) ?_, moves⟩
    simp only [Hypervisor.dispatch, Hypervisor.route, Hypervisor.inRange, Op.ensure_bind_apply,
      inside, live, decide_true, if_true, Hypervisor.schedBlock, Op.read_bind_apply,
      hasDeliverableFor_quiet placed, Bool.and_false, Bool.false_eq_true, if_false]
    exact Op.bind_of_ok (Op.zoom_ok ran)
  · rw [System.stateOf_eq_some] at state
    obtain ⟨c', found', runs⟩ := state
    simp [System.block, System.vcpu_of_vcpu? found', runs] at failed

end Accepted

end Baleen.Metal.Plan
