import Mathlib.Data.Fintype.Card
import Mathlib.Data.Fintype.Basic
import Baleen.Metal.Conservation
import Baleen.Metal.Dispatch

/-!
# What a trap can do to the host

Either the schedule is left alone, while the machine and the devices go on, or it takes one turn:
a secondary is admitted, or the physical CPU is handed over because its vCPU was preempted, waits or
is retired.  Here is what each of these changes, and what all of them keep.
-/

namespace Baleen.Metal.Plan

open Sched RoundRobin

variable {G V lrs aps : Nat} {plan : Plan G V} {h h' h'' : Host G V lrs aps}
    {turn : Turn (Role G V)}

/-- The vCPU that runs has enabled the timer. -/
def wantsTimer (h : Host G V lrs aps) : Bool := h.wants h.machine.current Machine.VTIMER_INTID

abbrev Onward (m m' : Machine G V lrs aps) : Prop := Guarded.Reaches Machine.may Machine.step m m'

/-- The schedule is left alone. -/
structure Undisturbed (h h' : Host G V lrs aps) : Prop where
  hv : h'.hv = h.hv
  retirement : h'.retirement = h.retirement
  vcpuBooks : h'.vcpuBooks = h.vcpuBooks
  preempts : h'.preempts = h.preempts
  wakeSweeps : h'.wakeSweeps = h.wakeSweeps
  secondariesSeeded : ∀ g,
    (h'.guestBooks g).secondariesSeeded = (h.guestBooks g).secondariesSeeded
  secondariesAdmitted : ∀ g,
    (h'.guestBooks g).secondariesAdmitted = (h.guestBooks g).secondariesAdmitted
  current : h'.machine.current = h.machine.current
  seeded : h'.machine.seeded = h.machine.seeded
  onward : Onward h.machine h'.machine
  /-- Whether the timer is enabled changes only to what the vCPU wants. -/
  mirror : (wantsTimer h' = wantsTimer h ∧ h'.machine.timer.enabled = h.machine.timer.enabled) ∨
    h'.machine.timer.enabled = wantsTimer h'
  uarts : (∀ g, (h.vpl011 g).needle.WithinNeedle) → ∀ g, (h'.vpl011 g).needle.WithinNeedle

theorem Undisturbed.refl (h : Host G V lrs aps) : Undisturbed h h where
  hv := rfl
  retirement := rfl
  vcpuBooks := rfl
  preempts := rfl
  wakeSweeps := rfl
  secondariesSeeded _ := rfl
  secondariesAdmitted _ := rfl
  current := rfl
  seeded := rfl
  onward := .refl _
  mirror := .inl ⟨rfl, rfl⟩
  uarts within := within

theorem Undisturbed.trans (first : Undisturbed h h') (second : Undisturbed h' h'') :
    Undisturbed h h'' where
  hv := second.hv.trans first.hv
  retirement := second.retirement.trans first.retirement
  vcpuBooks := second.vcpuBooks.trans first.vcpuBooks
  preempts := second.preempts.trans first.preempts
  wakeSweeps := second.wakeSweeps.trans first.wakeSweeps
  secondariesSeeded g := (second.secondariesSeeded g).trans (first.secondariesSeeded g)
  secondariesAdmitted g := (second.secondariesAdmitted g).trans (first.secondariesAdmitted g)
  current := second.current.trans first.current
  seeded := second.seeded.trans first.seeded
  onward := first.onward.trans second.onward
  mirror := by
    rcases second.mirror with ⟨wants, enabled⟩ | settled
    · rw [wants, enabled]
      exact first.mirror
    · exact .inr settled
  uarts within := second.uarts (first.uarts within)

theorem Undisturbed.schedule (idle : Undisturbed h h') : plan.schedule h' = plan.schedule h := by
  rw [Plan.schedule, Plan.schedule, idle.current, idle.hv]

/-- The machine after a switch. -/
def switched (next : Role G V) (h : Host G V lrs aps) : Machine G V lrs aps :=
  Machine.step (.switch next (h.wants next Machine.VTIMER_INTID)) h.machine

/-- The first runnable vCPU takes over from those that are left. -/
structure HandsOver (plan : Plan G V) (h : Host G V lrs aps) (left : Role G V → Phase)
    (next : Role G V) (hv' : Hypervisor) : Prop where
  picked : pick (Role.circle G V) h.machine.current left = some next
  placed : plan.Placed hv'
  phases : plan.phases hv' = (hand left next).phase

inductive Act (plan : Plan G V) (h : Host G V lrs aps) :
    Turn (Role G V) → Host G V lrs aps → Prop where
  | stayed : Act plan h .stay h
  | admitted {own : Role G V} {hv' : Hypervisor} (entry contextId : UInt64)
      (own_guest : own.guest = h.machine.current.guest)
      (fresh : plan.phases h.hv own = .offline) (moves : plan.Moves own .runnable h.hv hv') :
      Act plan h (.enlist own) { h with
        hv := hv'
        machine := h.machine.seed own entry contextId h.sctlrAtBoot
        guestBooks := Function.update h.guestBooks h.machine.current.guest
          { h.guestBooks h.machine.current.guest with
            secondariesSeeded := (h.guestBooks h.machine.current.guest).secondariesSeeded + 1
            secondariesAdmitted := (h.guestBooks h.machine.current.guest).secondariesAdmitted +
                1 } }
  | preempted {next : Role G V} {hv' : Hypervisor}
      (handover : plan.HandsOver h (preempted (plan.schedule h)) next hv') :
      Act plan h .preempt { h with
        hv := hv'
        machine := switched next h
        vcpuBooks := countWoken
          (Function.update (plan.phases h.hv) h.machine.current .runnable) h.vcpuBooks
        preempts := h.preempts + 1
        wakeSweeps := h.wakeSweeps + 1 }
  | yielded {next : Role G V} {hv' : Hypervisor} (handover : plan.HandsOver h
        (Function.update (plan.phases h.hv) h.machine.current .blocked) next hv')
      (asked : pick (Role.circle G V) h.machine.current (plan.phases h.hv) = some next) :
      Act plan h .yield { h with
        hv := hv'
        machine := switched next h
        vcpuBooks := Function.update h.vcpuBooks h.machine.current
          { h.vcpuBooks h.machine.current with
            blocked := (h.vcpuBooks h.machine.current).blocked + 1
            blockedReadbackOk := (h.vcpuBooks h.machine.current).blockedReadbackOk + 1 }
        guestBooks := Function.update h.guestBooks h.machine.current.guest
          { h.guestBooks h.machine.current.guest with
            wfiYields := (h.guestBooks h.machine.current.guest).wfiYields + 1 } }
  | retired {next : Role G V} {hv' : Hypervisor} {why : Retirement} (gone : why ≠ .live)
      (handover : plan.HandsOver h
        (retired (leaves h.machine.current.guest) (plan.schedule h)) next hv') :
      Act plan h (.retire (leaves h.machine.current.guest)) { h with
        hv := hv'
        machine := switched next h
        retirement := Function.update h.retirement h.machine.current.guest why
        vcpuBooks := countWoken
          (fun r => if leaves h.machine.current.guest r then .offline else plan.phases h.hv r)
          (countOfflined h.machine.current.guest (plan.phases h.hv) h.vcpuBooks)
        wakeSweeps := h.wakeSweeps + 1 }

/-- The machine and the hypervisor agree about who runs, who may run and who never will again. -/
structure Coherent (plan : Plan G V) (h : Host G V lrs aps) : Prop where
  placed : plan.Placed h.hv
  alone : Alone (plan.schedule h)
  /-- Whoever may run has a context. -/
  seeded : ∀ r, plan.phases h.hv r ≠ .offline → h.machine.seeded r = true
  /-- Whoever may yet be started has none. -/
  fresh : ∀ r, h.retirement r.guest = .live → plan.phases h.hv r = .offline →
    h.machine.seeded r = false
  retired : ∀ r, h.retirement r.guest ≠ .live → plan.phases h.hv r = .offline
  present : ∀ r, r.isBoot = true → h.retirement r.guest = .live → plan.phases h.hv r ≠ .offline
  mirrored : wantsTimer h = true → h.machine.timer.enabled = true
  uarts : ∀ g, (h.vpl011 g).needle.WithinNeedle

theorem Coherent.running (coherent : plan.Coherent h) :
    plan.phases h.hv h.machine.current = .running :=
  (coherent.alone h.machine.current).mpr rfl

theorem Coherent.undisturbed (coherent : plan.Coherent h) (idle : Undisturbed h h') :
    plan.Coherent h' where
  placed := by
    rw [idle.hv]
    exact coherent.placed
  alone := by
    rw [idle.schedule]
    exact coherent.alone
  seeded := by
    rw [idle.hv, idle.seeded]
    exact coherent.seeded
  fresh := by
    rw [idle.hv, idle.seeded, idle.retirement]
    exact coherent.fresh
  retired := by
    rw [idle.hv, idle.retirement]
    exact coherent.retired
  present := by
    rw [idle.hv, idle.retirement]
    exact coherent.present
  mirrored := by
    rcases idle.mirror with ⟨wants, enabled⟩ | settled
    · rw [wants, enabled]
      exact coherent.mirrored
    · rw [settled]
      exact id
  uarts := idle.uarts coherent.uarts

/-- A turn is one of the round robin. -/
theorem Act.serve (act : plan.Act h turn h') (coherent : plan.Coherent h) :
    RoundRobin.may (plan.schedule h) turn ∧
      RoundRobin.serve (Role.circle G V) turn (plan.schedule h) = some (plan.schedule h') := by
  have handed : ∀ {next : Role G V} {m : Machine G V lrs aps} {left hv'}, m.current = next →
      plan.phases hv' = (hand left next).phase →
      hand left next = ⟨m.current, plan.phases hv'⟩ := by
    rintro next m left hv' rfl phases
    rw [phases]
    rfl
  have arrived : ∀ {next : Role G V} {left hv'}, plan.HandsOver h left next hv' →
      (∀ r, left r = .runnable → plan.phases h.hv r ≠ .offline) →
        (switched next h).current = next := by
    intro next left hv' handover kept
    have online := kept next (runnable_of_pick handover.picked)
    exact (Machine.step_switch _ (coherent.seeded next online)).current
  cases act with
  | stayed => exact ⟨trivial, rfl⟩
  | admitted entry contextId own_guest fresh moves =>
      refine ⟨fresh, ?_⟩
      rw [RoundRobin.serve, Plan.schedule, Plan.schedule]
      dsimp only
      rw [moves.phases]
      rfl
  | preempted handover =>
      refine ⟨trivial, ?_⟩
      rw [RoundRobin.serve]
      dsimp only [Plan.schedule] at handover ⊢
      rw [handover.picked, Option.map_some]
      refine congrArg some (handed (arrived handover fun r ready offline => ?_) handover.phases)
      rw [RoundRobin.preempted] at ready
      dsimp only at ready
      by_cases here : r = h.machine.current
      · rw [here, coherent.running] at offline
        cases offline
      · rw [Function.update_of_ne here, offline] at ready
        cases ready
  | yielded handover asked =>
      refine ⟨trivial, ?_⟩
      rw [RoundRobin.serve]
      dsimp only [Plan.schedule]
      rw [asked]
      refine congrArg some (handed (arrived handover fun r ready offline => ?_) handover.phases)
      by_cases here : r = h.machine.current
      · rw [here, Function.update_self] at ready
        cases ready
      · rw [Function.update_of_ne here, offline] at ready
        cases ready
  | retired gone handover =>
      refine ⟨decide_eq_true rfl, ?_⟩
      rw [RoundRobin.serve]
      dsimp only [Plan.schedule] at handover ⊢
      rw [handover.picked, Option.map_some]
      refine congrArg some (handed (arrived handover fun r ready offline => ?_) handover.phases)
      rw [RoundRobin.retired] at ready
      dsimp only at ready
      rw [offline, ite_self] at ready
      cases ready

section Handovers

variable {left : Role G V → Phase} {next : Role G V} {hv' : Hypervisor}

/-- A handover changes no phase but that of a runnable vCPU, to running. -/
theorem HandsOver.phase_eq (handover : plan.HandsOver h left next hv') (r : Role G V) (p : Phase)
    (waits : p ≠ .runnable) (rests : p ≠ .running) : plan.phases hv' r = p ↔ left r = p := by
  rw [handover.phases, hand]
  dsimp only
  rw [Function.update_apply]
  split_ifs with here
  · rw [here, runnable_of_pick handover.picked]
    exact iff_of_false rests.symm waits.symm
  · exact Iff.rfl

theorem HandsOver.done (handover : plan.HandsOver h left next hv') (coherent : plan.Coherent h)
    (offline : ∀ r, plan.phases h.hv r = .offline → left r = .offline) :
    Machine.Switched next (h.wants next Machine.VTIMER_INTID) h.machine (switched next h) := by
  apply Machine.step_switch
  apply coherent.seeded next
  intro off
  have gone := offline next off
  rw [runnable_of_pick handover.picked] at gone
  cases gone

theorem Coherent.handed (coherent : plan.Coherent h) (handover : plan.HandsOver h left next hv')
    (hv : h'.hv = hv') (machine : h'.machine = switched next h) (vgic : h'.vgic = h.vgic)
    (uarts : h'.vpl011 = h.vpl011) (alone : Alone (plan.schedule h'))
    (live : ∀ g, h'.retirement g = .live → h.retirement g = .live)
    (gone : ∀ r, left r = .offline ↔
      plan.phases h.hv r = .offline ∨ h'.retirement r.guest ≠ .live) : plan.Coherent h' := by
  have done := handover.done coherent fun r off => (gone r).mpr (.inl off)
  have offline : ∀ r, plan.phases h'.hv r = .offline ↔
      plan.phases h.hv r = .offline ∨ h'.retirement r.guest ≠ .live := by
    intro r
    rw [hv, handover.phase_eq r .offline nofun nofun, gone]
  constructor
  case placed =>
    rw [hv]
    exact handover.placed
  case alone => exact alone
  case seeded =>
    intro r online
    rw [machine, done.seeded]
    exact coherent.seeded r fun off => online ((offline r).mpr (.inl off))
  case fresh =>
    intro r stays off
    rw [machine, done.seeded]
    refine coherent.fresh r (live _ stays) ?_
    exact ((offline r).mp off).resolve_right fun retired => retired stays
  case retired => exact fun r retired => (offline r).mpr (.inr retired)
  case present =>
    intro r boot stays off
    refine coherent.present r boot (live _ stays) ?_
    exact ((offline r).mp off).resolve_right fun retired => retired stays
  case mirrored =>
    intro wants
    rw [machine, done.timer]
    rw [wantsTimer, Host.wants, vgic, machine, done.current] at wants
    exact wants
  case uarts =>
    rw [uarts]
    exact coherent.uarts

end Handovers

theorem preempted_offline (coherent : plan.Coherent h) (r : Role G V) :
    preempted (plan.schedule h) r = .offline ↔
      plan.phases h.hv r = .offline ∨ h.retirement r.guest ≠ .live := by
  rw [or_iff_left_of_imp (coherent.retired r), preempted, Plan.schedule]
  dsimp only
  by_cases here : r = h.machine.current
  · rw [here, Function.update_self, coherent.running]
    decide
  · rw [Function.update_of_ne here]
    cases plan.phases h.hv r <;> simp [wake]

theorem blocked_offline (coherent : plan.Coherent h) (r : Role G V) :
    Function.update (plan.phases h.hv) h.machine.current .blocked r = .offline ↔
      plan.phases h.hv r = .offline ∨ h.retirement r.guest ≠ .live := by
  rw [or_iff_left_of_imp (coherent.retired r)]
  by_cases here : r = h.machine.current
  · rw [here, Function.update_self, coherent.running]
    exact iff_of_false nofun nofun
  · rw [Function.update_of_ne here]

theorem retired_offline (coherent : plan.Coherent h) {why : Retirement} (gone : why ≠ .live)
    (r : Role G V) : retired (leaves h.machine.current.guest) (plan.schedule h) r = .offline ↔
      plan.phases h.hv r = .offline ∨
        Function.update h.retirement h.machine.current.guest why r.guest ≠ .live := by
  rw [retired, leaves, Plan.schedule, Function.update_apply]
  dsimp only
  by_cases own : r.guest = h.machine.current.guest
  · rw [if_pos (decide_eq_true own), if_pos own]
    exact iff_of_true rfl (.inr gone)
  · rw [if_neg (by simpa using own), if_neg own, or_iff_left_of_imp (coherent.retired r)]
    cases plan.phases h.hv r <;> simp [wake]

/-- The guest of the vCPU that runs is not retired. -/
theorem Coherent.live (coherent : plan.Coherent h) :
    h.retirement h.machine.current.guest = .live := by
  by_contra retired
  have off := coherent.retired _ retired
  rw [coherent.running] at off
  cases off

theorem Coherent.act (coherent : plan.Coherent h) (act : plan.Act h turn h') :
    plan.Coherent h' := by
  obtain ⟨allowed, served⟩ := act.serve coherent
  have alone := alone_serve coherent.alone allowed served
  cases act with
  | stayed => exact coherent
  | preempted handover =>
      exact coherent.handed handover rfl rfl rfl rfl alone (fun _ => id)
        (preempted_offline coherent)
  | yielded handover asked =>
      exact coherent.handed handover rfl rfl rfl rfl alone (fun _ => id) (blocked_offline coherent)
  | retired gone handover =>
      refine coherent.handed handover rfl rfl rfl rfl alone (fun g live => ?_)
        (retired_offline coherent gone)
      dsimp only at live
      rw [Function.update_apply] at live
      split_ifs at live
      · exact absurd live gone
      · exact live
  | @admitted own hv' entry contextId own_guest fresh moves =>
      have seeds : ∀ r, (h.machine.seed own entry contextId h.sctlrAtBoot).seeded r =
          if r = own then true else h.machine.seeded r :=
        fun r => Machine.seeded_seed ..
      have phase : ∀ r, plan.phases hv' r = if r = own then .runnable else plan.phases h.hv r := by
        intro r
        rw [moves.phases, Function.update_apply]
      constructor
      case placed => exact moves.placed
      case alone => exact alone
      case seeded =>
        intro r online
        dsimp only at online ⊢
        rw [phase] at online
        rw [seeds]
        split_ifs at online ⊢
        · rfl
        · exact coherent.seeded r online
      case fresh =>
        intro r live off
        dsimp only at off ⊢
        rw [phase] at off
        rw [seeds]
        split_ifs at off ⊢
        exact coherent.fresh r live off
      case retired =>
        intro r retired
        dsimp only at retired ⊢
        rw [phase]
        split_ifs with here
        · rw [here, own_guest] at retired
          exact absurd coherent.live retired
        · exact coherent.retired r retired
      case present =>
        intro r boot live off
        dsimp only at off
        rw [phase] at off
        split_ifs at off
        exact coherent.present r boot live off
      case mirrored => exact coherent.mirrored
      case uarts => exact coherent.uarts

theorem Act.onward (act : plan.Act h turn h') (coherent : plan.Coherent h) :
    Onward h.machine h'.machine := by
  have switches : ∀ {next : Role G V} {left hv'}, plan.HandsOver h left next hv' →
      (∀ r, left r = .offline ↔ plan.phases h.hv r = .offline ∨ h'.retirement r.guest ≠ .live) →
      Onward h.machine (switched next h) := by
    intro next left hv' handover gone
    refine Guarded.Reaches.single (i := Event.switch next (h.wants next Machine.VTIMER_INTID)) ?_
    refine coherent.seeded next fun off => ?_
    have left' := (gone next).mpr (.inl off)
    rw [runnable_of_pick handover.picked] at left'
    cases left'
  cases act with
  | stayed => exact .refl _
  | admitted entry contextId own_guest fresh moves =>
      refine Guarded.Reaches.single (i := Event.seed _ entry contextId h.sctlrAtBoot)
        ⟨own_guest, coherent.fresh _ ?_ fresh⟩
      rw [own_guest]
      exact coherent.live
  | preempted handover => exact switches handover (preempted_offline coherent)
  | yielded handover asked => exact switches handover (blocked_offline coherent)
  | retired gone handover => exact switches handover (retired_offline coherent gone)

/-- A handover settles whether the timer is enabled. -/
theorem Act.mirror (act : plan.Act h turn h') (coherent : plan.Coherent h) :
    (wantsTimer h' = wantsTimer h ∧ h'.machine.timer.enabled = h.machine.timer.enabled) ∨
      h'.machine.timer.enabled = wantsTimer h' := by
  have settles : ∀ {next : Role G V} {left hv'}, plan.HandsOver h left next hv' →
      (∀ r, left r = .offline ↔ plan.phases h.hv r = .offline ∨ h'.retirement r.guest ≠ .live) →
      h'.machine = switched next h → h'.vgic = h.vgic →
      h'.machine.timer.enabled = wantsTimer h' := by
    intro next left hv' handover gone machine vgic
    have done := handover.done coherent fun r off => (gone r).mpr (.inl off)
    rw [wantsTimer, Host.wants, vgic, machine, done.current, done.timer]
    rfl
  cases act with
  | stayed => exact .inl ⟨rfl, rfl⟩
  | admitted entry contextId own_guest fresh moves => exact .inl ⟨rfl, rfl⟩
  | preempted handover => exact .inr (settles handover (preempted_offline coherent) rfl rfl)
  | yielded handover asked => exact .inr (settles handover (blocked_offline coherent) rfl rfl)
  | retired gone handover => exact .inr (settles handover (retired_offline coherent gone) rfl rfl)

end Baleen.Metal.Plan
