import Baleen.Metal.Accounts
import Baleen.Metal.Boot

/-!
# Runs of the host

The guests trap and interrupts arrive in any order that the hardware allows.  From the boot on the
handlers go on until the last guest has retired, in every state exactly one vCPU runs, and what they
do to the machine is a run of its events.  They park the machine in one place: where a guest first
touches the memory of a peer that has written over its own payload.
-/

namespace Baleen.Metal.Plan

open Sched RoundRobin Gic Pl011

variable {G V lrs aps : Nat} {plan : Plan G V} {h h' h'' last : Host G V lrs aps}
  {turn : Turn (Role G V)} {r : Role G V} {trap : Trap aps} {traps : List (Trap aps)} {now : Ticks}

namespace Serves

theorem coherent (serves : plan.Serves h turn h') (coherent : plan.Coherent h) :
    plan.Coherent h' := by
  obtain ⟨before, after, first, act, later⟩ := serves.between
  exact ((coherent.undisturbed first).act act).undisturbed later

theorem onward (serves : plan.Serves h turn h') (coherent : plan.Coherent h) :
    Onward h.machine h'.machine := by
  obtain ⟨before, after, first, act, later⟩ := serves.between
  exact first.onward.trans ((act.onward (coherent.undisturbed first)).trans later.onward)

theorem booked (serves : plan.Serves h turn h') (coherent : plan.Coherent h)
    (booked : plan.Booked h) : plan.Booked h' := by
  obtain ⟨before, after, first, act, later⟩ := serves.between
  exact ((booked.undisturbed first).act (coherent.undisturbed first) act).undisturbed later

theorem serve (serves : plan.Serves h turn h') (coherent : plan.Coherent h) :
    RoundRobin.may (plan.schedule h) turn ∧
      RoundRobin.serve (Role.circle G V) turn (plan.schedule h) = some (plan.schedule h') := by
  obtain ⟨before, after, first, act, later⟩ := serves.between
  have served := act.serve (coherent.undisturbed first)
  have same : plan.schedule h' = plan.schedule after := later.schedule
  rwa [first.schedule, ← same] at served

end Serves

/-- A guest that is retired stays retired. -/
theorem Act.live (act : plan.Act h turn h') (g : Fin G) (live : h'.retirement g = .live) :
    h.retirement g = .live := by
  cases act with
  | retired gone handover =>
      dsimp only at live
      rw [Function.update_apply] at live
      split_ifs at live
      · exact absurd live gone
      · exact live
  | _ => exact live

theorem Serves.live (serves : plan.Serves h turn h') (g : Fin G) (live : h'.retirement g = .live) :
    h.retirement g = .live := by
  obtain ⟨before, after, first, act, later⟩ := serves.between
  rw [later.retirement] at live
  have before_live := act.live g live
  rwa [first.retirement] at before_live

/-- A vCPU that was started stays started while its guest is not retired. -/
theorem Act.online (act : plan.Act h turn h') (coherent : plan.Coherent h)
    (online : plan.phases h.hv r ≠ .offline) (live : h'.retirement r.guest = .live) :
    plan.phases h'.hv r ≠ .offline := by
  intro off
  cases act with
  | stayed => exact online off
  | admitted entry contextId own_guest fresh moves =>
      dsimp only at off
      rw [moves.phases, Function.update_apply] at off
      split_ifs at off
      exact online off
  | preempted handover =>
      have left := (handover.phase_eq r .offline nofun nofun).mp off
      exact ((preempted_offline coherent r).mp left).elim online (absurd live)
  | yielded handover asked =>
      have left := (handover.phase_eq r .offline nofun nofun).mp off
      exact ((blocked_offline coherent r).mp left).elim online (absurd live)
  | retired gone handover =>
      have left := (handover.phase_eq r .offline nofun nofun).mp off
      exact ((retired_offline coherent gone r).mp left).elim online (absurd live)

theorem Serves.online (serves : plan.Serves h turn h') (coherent : plan.Coherent h)
    (online : plan.phases h.hv r ≠ .offline) (live : h'.retirement r.guest = .live) :
    plan.phases h'.hv r ≠ .offline := by
  obtain ⟨before, after, first, act, later⟩ := serves.between
  rw [later.hv]
  rw [later.retirement] at live
  rw [← first.hv] at online
  exact act.online (coherent.undisturbed first) online live

/-- What the hardware guarantees of a trap: only the interrupts of the host arrive, one that is
active is not signalled again, and the interface cannot fill a free register.  A peer's memory is as
it must be when it is touched. -/
def may (h : Host G V lrs aps) : Trap aps → Prop
  | .sync _ proven _ _ _ => proven = true
  | .irq _ intid =>
      intid = Machine.HYP_TIMER_INTID ∨ intid = Machine.MAINT_INTID ∨ 1020 ≤ intid ∨
        intid = Machine.VTIMER_INTID ∧ h.machine.timer.enabled = true ∧
          h.machine.timer.active = false
  | .interface k _ => k < lrs ∧ lrIsFree (h.machine.register k) = false
  | .compute .. => True

instance (h : Host G V lrs aps) (trap : Trap aps) : Decidable (may h trap) := by
  cases trap <;> simp only [may] <;> infer_instance

/-- The end of a slice preempts. -/
theorem slice_serves (coherent : plan.Coherent h) (now : Ticks) :
    ∃ h', plan.step h (.irq now Machine.HYP_TIMER_INTID) = .ok h' ∧ plan.Serves h .preempt h' := by
  let counted : Host G V lrs aps := { h with sliceExpiries := h.sliceExpiries + 1 }
  have counts : Undisturbed h counted := ⟨rfl, rfl, rfl, rfl, rfl, fun _ => rfl, fun _ => rfl, rfl,
    rfl, .refl _, .inl ⟨rfl, rfl⟩, id⟩
  obtain ⟨h', ran, act⟩ := preempt_act (coherent.undisturbed counts) now
  exact ⟨h', ran, .after counts (.act act)⟩

theorem step_outcome (coherent : plan.Coherent h) (allowed : may h trap) :
    plan.Outcome h (plan.step h trap) := by
  cases trap with
  | sync now proven esr far hpfar =>
      cases allowed
      exact sync_outcome coherent now esr far hpfar
  | irq now intid =>
      rcases allowed with rfl | rfl | spurious | ⟨rfl, enabled, inactive⟩
      · obtain ⟨h', ran, serves⟩ := slice_serves coherent now
        rw [ran]
        exact .served serves
      · exact .idle (.samePlace Machine.samePlace_takeMaintenance
          (Guarded.Reaches.single (i := Event.maintenance) trivial))
      · have other : ∀ known : UInt32, known < 1020 → intid ≠ known := by
          rintro known below rfl
          exact absurd spurious (UInt32.not_le.mpr below)
        rw [step, handleLinuxIrq, if_neg (other _ (by decide)), if_neg (other _ (by decide)),
          if_neg (other _ (by decide)), if_pos spurious]
        exact .idle (.refl h)
      · exact .idle (.tookTimer enabled inactive)
  | interface k state => exact .idle (.usedInterface allowed.1 allowed.2)
  | compute x regs fp vmcr apr => exact .idle (.compute h x regs fp vmcr apr)

/-- Every trap of the run can happen where it happens. -/
def Legal (plan : Plan G V) : List (Trap aps) → Host G V lrs aps → Prop
  | [], _ => True
  | trap :: rest, h => may h trap ∧
      match plan.step h trap with
      | .ok h' => Legal plan rest h'
      | .error _ => True

instance decidableLegal (plan : Plan G V) : ∀ (traps : List (Trap aps)) (h : Host G V lrs aps),
    Decidable (plan.Legal traps h)
  | [], _ => .isTrue trivial
  | trap :: rest, h =>
      have : Decidable (match plan.step h trap with
          | .ok h' => Legal plan rest h'
          | .error _ => True) :=
        match plan.step h trap with
        | .ok h' => decidableLegal plan rest h'
        | .error _ => .isTrue trivial
      inferInstanceAs (Decidable (may h trap ∧ _))

inductive Arrives (plan : Plan G V) (h : Host G V lrs aps) :
    Except (Halt G V lrs aps) (Host G V lrs aps) → Prop where
  | going {h' : Host G V lrs aps} (coherent : plan.Coherent h')
      (onward : Onward h.machine h'.machine) (booked : plan.Booked h → plan.Booked h')
      (live : ∀ g, h'.retirement g = .live → h.retirement g = .live) : Arrives plan h (.ok h')
  | ended {last : Host G V lrs aps} (ends : plan.Ended h last) :
      Arrives plan h (.error (.endOfBoot last))

theorem run_cons (trap : Trap aps) (traps : List (Trap aps)) (h : Host G V lrs aps) :
    plan.run (trap :: traps) h = (plan.step h trap).bind (plan.run traps) := rfl

theorem run_arrives (coherent : plan.Coherent h) (legal : plan.Legal traps h) :
    plan.Arrives h (plan.run traps h) := by
  induction traps generalizing h with
  | nil => exact .going coherent (.refl _) id fun _ => id
  | cons trap rest ih =>
      obtain ⟨allowed, later⟩ := legal
      have outcome := step_outcome coherent allowed
      rw [run_cons]
      cases stepped : plan.step h trap with
      | error e =>
          rw [stepped] at outcome
          cases outcome with
          | ended ends => exact .ended ends
      | ok h₁ =>
          rw [stepped] at outcome later
          cases outcome with
          | served serves =>
              have arrived := ih (serves.coherent coherent) later
              change plan.Arrives h (plan.run rest h₁)
              generalize plan.run rest h₁ = result at arrived ⊢
              cases arrived with
              | going coherent' onward booked live =>
                  exact .going coherent' ((serves.onward coherent).trans onward)
                    (fun before => booked (serves.booked coherent before))
                    fun g stays => serves.live g (live g stays)
              | ended ends =>
                  exact .ended ⟨ends.retired, ends.offline, ends.placed,
                    (serves.onward coherent).trans ends.onward,
                    fun before => ends.booked (serves.booked coherent before)⟩

/-- A state that the host reaches from a boot. -/
inductive Reachable [NeZero V] (plan : Plan G V) : Host G V lrs aps → Prop where
  | booted {h : Host G V lrs aps} (now : Ticks) (slot : Fin G) (live : VcpuCtx lrs aps)
      (vttbr : Fin G → UInt64) (images : Fin G → UInt64 × UInt64) (sctlr : UInt64)
      (booted : plan.boot now slot live vttbr images sctlr = .ok h) : Reachable plan h
  | trapped {h h' : Host G V lrs aps} {trap : Trap aps} (reached : Reachable plan h)
      (allowed : may h trap) (stepped : plan.step h trap = .ok h') : Reachable plan h'

/-- What holds of every state that is reached, and of the last one. -/
structure Steady (plan : Plan G V) (h : Host G V lrs aps) : Prop where
  sound : h.machine.Sound
  handed : ∃ slot, ∀ g, Machine.Handed slot g h.machine
  disposed : ∀ g, Machine.Disposed g h.machine
  booked : plan.Booked h

theorem steady_onward (sound : h.machine.Sound)
    (handed : ∃ slot, ∀ g, Machine.Handed slot g h.machine)
    (disposed : ∀ g, Machine.Disposed g h.machine) (onward : Onward h.machine h'.machine)
    (booked : plan.Booked h') : plan.Steady h' := by
  obtain ⟨slot, handed⟩ := handed
  let Good := fun m : Machine G V lrs aps =>
    m.Sound ∧ (∀ g, Machine.Handed slot g m) ∧ ∀ g, Machine.Disposed g m
  have good : Good h'.machine := onward.keeps (P := Good) (fun m e kept allowed =>
    ⟨Machine.sound_step kept.1 e allowed,
      fun g => Machine.handed_step kept.1 (kept.2.1 g) e allowed,
      fun g => Machine.disposed_step (kept.2.2 g) e allowed⟩) ⟨sound, handed, disposed⟩
  exact ⟨good.1, ⟨slot, good.2.1⟩, good.2.2, booked⟩

theorem Reachable.steady [NeZero V] (reached : plan.Reachable h) :
    plan.Coherent h ∧ plan.Steady h := by
  induction reached with
  | booted now slot live vttbr images sctlr booted =>
      obtain ⟨coherent, booked, machine, -⟩ := boot_coherent booted
      refine ⟨coherent, ?_, ⟨slot, fun g => ?_⟩, fun g => ?_, booked⟩
      · rw [machine]
        exact Machine.sound_boot ..
      · rw [machine]
        exact Machine.handed_boot ..
      · rw [machine]
        exact Machine.disposed_boot ..
  | trapped reached allowed stepped ih =>
      obtain ⟨coherent, steady⟩ := ih
      have outcome := step_outcome coherent allowed
      rw [stepped] at outcome
      cases outcome with
      | served serves =>
          exact ⟨serves.coherent coherent, steady_onward steady.sound steady.handed steady.disposed
            (serves.onward coherent) (serves.booked coherent steady.booked)⟩

theorem Reachable.run [NeZero V] (reached : plan.Reachable h) (legal : plan.Legal traps h)
    (ran : plan.run traps h = .ok h') : plan.Reachable h' := by
  induction traps generalizing h with
  | nil =>
      cases ran
      exact reached
  | cons trap rest ih =>
      obtain ⟨allowed, later⟩ := legal
      rw [run_cons] at ran
      cases stepped : plan.step h trap with
      | error e =>
          rw [stepped] at ran
          cases ran
      | ok h₁ =>
          rw [stepped] at ran later
          exact ih (.trapped reached allowed stepped) later ran

/-- The last state is as steady as those before it. -/
theorem Ended.steady (ends : plan.Ended h last) (steady : plan.Steady h) : plan.Steady last :=
  steady_onward steady.sound steady.handed steady.disposed ends.onward (ends.booked steady.booked)

/-- Two guests with two vCPUs each. -/
def pair : Plan 2 2 where
  part := ⟨2, 1, 0x200000, 0x48000000, 0x48400000, 2, 1, 2⟩
  layout := ⟨0x08000000, 0x10000, 0x080a0000, 0x080e0000⟩
  config := ⟨4, 4, 4, 2, 2, 4, 2⟩
  wellFormed := by decide
  numGuests := by decide
  vcpusPerGuest := by decide
  valid := by decide
  room := by decide
  carried := by decide
  distinct := by decide

def pairBoot : Except (Halt 2 2 1 1) (Host 2 2 1 1) :=
  pair.boot 0 0 .new (fun _ => 0) (fun _ => (0x48000000, 0)) 0

theorem reachable_pair : ∃ h, pairBoot = .ok h ∧ pair.Reachable h := by
  have boots : pairBoot.isOk = true := by decide +kernel
  cases booted : pairBoot with
  | ok h => exact ⟨h, rfl, .booted 0 0 .new _ _ 0 booted⟩
  | error e =>
      rw [booted] at boots
      cases boots

/-- Whether a check holds of the machine that is booted. -/
def bootedInto (check : Host 2 2 1 1 → Bool) : Except (Halt 2 2 1 1) (Host 2 2 1 1) → Bool
  | .ok h => check h
  | .error _ => false

theorem pair_bootedInto (check : Host 2 2 1 1 → Bool) (checked : bootedInto check pairBoot = true) :
    ∃ h, pairBoot = .ok h ∧ pair.Reachable h ∧ check h = true := by
  obtain ⟨h, booted, reached⟩ := reachable_pair
  rw [booted] at checked
  exact ⟨h, booted, reached, checked⟩

/-- The same without a promise about the memory of a peer. -/
def arises (h : Host G V lrs aps) : Trap aps → Prop
  | .sync .. => True
  | trap => may h trap

instance (h : Host G V lrs aps) (trap : Trap aps) : Decidable (arises h trap) := by
  cases trap <;> simp only [arises] <;> infer_instance

/-- Every trap of the run can arise where it does. -/
def Arising (plan : Plan G V) : List (Trap aps) → Host G V lrs aps → Prop
  | [], _ => True
  | trap :: rest, h => arises h trap ∧ ∀ h', plan.step h trap = .ok h' → Arising plan rest h'

/-- A guest touches the memory of a peer for the first time, and what it finds there proves
nothing. -/
def unproven (plan : Plan G V) (h : Host G V lrs aps) : Trap aps → Prop
  | .sync _ proven esr far hpfar =>
      proven = false ∧ (esr >>> 26) &&& 0x3f = EC_DATA_ABORT ∧
        plan.layout.inWindow (fullIpa hpfar far) = false ∧
        (plan.guestOwning (fullIpa hpfar far)).any (· ≠ h.machine.current.guest.val) = true ∧
        Counter.word ((h.guestBooks h.machine.current.guest).peerFaults + 1) = 1
  | _ => False

theorem peer_parks
    (first : Counter.word ((h.guestBooks h.machine.current.guest).peerFaults + 1) = 1) :
    plan.handlePeerFault now false h = .error .unproven := by
  rw [handlePeerFault, Host.guestBooks_countGuest, first, if_neg (by decide), if_pos ⟨rfl, rfl⟩]

theorem peer_proven (proven : Bool)
    (later : Counter.word ((h.guestBooks h.machine.current.guest).peerFaults + 1) ≠ 1) :
    plan.handlePeerFault now proven h = plan.handlePeerFault now true h := by
  simp only [handlePeerFault, Host.guestBooks_countGuest, later, false_and, if_false]

theorem step_parks (touched : plan.unproven h trap) : plan.step h trap = .error .unproven := by
  cases trap with
  | sync now proven esr far hpfar =>
      obtain ⟨rfl, abort, outside, peer, first⟩ := touched
      rw [step, handleLinuxSync, if_pos abort, handleLinuxDataAbort, outside,
        if_neg Bool.false_ne_true, if_pos peer]
      exact peer_parks first
  | irq | interface | compute => cases touched

/-- Nothing else depends on what was proven. -/
theorem step_proven {proven : Bool} {esr far hpfar : UInt64}
    (untouched : ¬plan.unproven h (.sync now proven esr far hpfar)) :
    plan.step h (.sync now proven esr far hpfar) = plan.step h (.sync now true esr far hpfar) := by
  cases proven with
  | true => rfl
  | false =>
      rw [step, step, handleLinuxSync, handleLinuxSync]
      split_ifs with abort
      case pos =>
        rw [handleLinuxDataAbort, handleLinuxDataAbort]
        split_ifs with inside peer
        · rfl
        · exact peer_proven false fun first =>
            untouched ⟨rfl, abort, Bool.eq_false_iff.mpr inside, peer, first⟩
        · rfl
        · rfl
      all_goals rfl

theorem arises_cases (arisen : arises h trap) : plan.unproven h trap ∨
    ∃ trap', may h trap' ∧ plan.step h trap = plan.step h trap' := by
  cases trap with
  | sync now proven esr far hpfar =>
      by_cases touched : plan.unproven h (.sync now proven esr far hpfar)
      · exact .inl touched
      · exact .inr ⟨.sync now true esr far hpfar, rfl, step_proven touched⟩
  | irq now intid => exact .inr ⟨.irq now intid, arisen, rfl⟩
  | interface k state => exact .inr ⟨.interface k state, arisen, rfl⟩
  | compute x regs fp vmcr apr => exact .inr ⟨.compute x regs fp vmcr apr, arisen, rfl⟩

/-- The slice of the first guest ends.  The second one touches the memory of the first, where the
payload is no longer what was put there. -/
def overwritten : List (Trap 1) := [.irq 1 26, .sync 2 false 0x90000000 0 0x480000]

/-- Whether a run came to the place where the handlers park the machine. -/
def parked : Except (Halt 2 2 1 1) (Host 2 2 1 1) → Bool
  | .error .unproven => true
  | _ => false

/-- Whatever the handlers do to the machine from the boot on is a run of its events. -/
theorem refines_machine [NeZero V] {slot : Fin G} {live : VcpuCtx lrs aps} {vttbr : Fin G → UInt64}
    {images : Fin G → UInt64 × UInt64} {sctlr : UInt64}
    (booted : plan.boot now slot live vttbr images sctlr = .ok h) (legal : plan.Legal traps h)
    (ran : plan.run traps h = .ok h' ∨ plan.run traps h = .error (.endOfBoot h')) :
    ∃ events : List (Event G V aps),
      Guarded.Legal Machine.may Machine.step events (.boot slot live vttbr images sctlr) ∧
        Guarded.after Machine.step events (.boot slot live vttbr images sctlr) = h'.machine ∧
          h'.machine.Sound := by
  obtain ⟨coherent, -, machine, -⟩ := boot_coherent booted
  have arrived := run_arrives coherent legal
  have onward : Onward h.machine h'.machine := by
    rcases ran with ran | ran
    · rw [ran] at arrived
      cases arrived with
      | going coherent' onward booked live => exact onward
    · rw [ran] at arrived
      cases arrived with
      | ended ends => exact ends.onward
  rw [machine] at onward
  have sound : h'.machine.Sound := onward.keeps (P := Machine.Sound)
    (fun m e kept allowed => Machine.sound_step kept e allowed) (Machine.sound_boot ..)
  obtain ⟨events, legal', same⟩ := onward
  exact ⟨events, legal', same, sound⟩

/-- The first guest starts its second vCPU and waits for an interrupt.  The second vCPU runs until
its slice ends, which wakes the first one and lets the second guest in. -/
def busy : List (Trap 1) :=
  [.compute (.ofFn fun i =>
        if i = 0 then PSCI_CPU_ON_FID else if i = 1 then 1 else if i = 2 then 0x48000000 else 0)
      (fun _ => 0) .ZERO 0 (.ofFn fun _ => .ofFn fun _ => 0),
    .sync 1 true 0x58000000 0 0, .sync 2 true 0x04000000 0 0, .irq 3 26]

theorem pair_busy (check : Host 2 2 1 1 → Bool) (checked : bootedInto (fun h =>
      decide (pair.Legal busy h) && bootedInto check (pair.run busy h)) pairBoot = true) :
    ∃ h h', pairBoot = .ok h ∧ pair.Reachable h ∧ pair.Legal busy h ∧ pair.run busy h = .ok h' ∧
      check h' = true := by
  obtain ⟨h, booted, reached, checked⟩ := pair_bootedInto _ checked
  rw [Bool.and_eq_true, decide_eq_true_iff] at checked
  cases ran : pair.run busy h with
  | ok h' =>
      rw [ran] at checked
      exact ⟨h, h', booted, reached, checked.1, ran, checked.2⟩
  | error e =>
      rw [ran] at checked
      cases checked.2

theorem refines_machine_busy : ∃ h h', pairBoot = .ok h ∧ pair.run busy h = .ok h' ∧
    h'.machine.current = ⟨1, 0⟩ ∧ ∃ events : List (Event 2 2 1),
      let booted : Machine 2 2 1 1 := .boot 0 .new (fun _ => 0) (fun _ => (0x48000000, 0)) 0
      Guarded.Legal Machine.may Machine.step events booted ∧
        Guarded.after Machine.step events booted = h'.machine ∧ h'.machine.Sound := by
  obtain ⟨h, h', booted, reached, legal, ran, moved⟩ := pair_busy
    (fun h' => decide (h'.machine.current = ⟨1, 0⟩)) (by decide +kernel)
  exact ⟨h, h', booted, ran, of_decide_eq_true moved, refines_machine booted legal (.inl ran)⟩

/-- In every state every time a vCPU blocked is accounted for, nobody was preempted without waking
the sleepers, and the secondaries that have a context are those that were admitted. -/
theorem books [NeZero V] (reached : plan.Reachable h) :
    (∀ r, Counter.word (h.vcpuBooks r).blockedReadbackOk = Counter.word (h.vcpuBooks r).blocked ∧
      Counter.word (h.vcpuBooks r).blocked = Counter.word (h.vcpuBooks r).woken +
        Counter.word (h.vcpuBooks r).offlinedWhileBlocked +
          if plan.stateOf h r = some .blocked then 1 else 0) ∧
    (h.wakeSweeps < 2 ^ 64 → Counter.word h.preempts ≤ Counter.word h.wakeSweeps) ∧
    ∀ g, Counter.word (h.guestBooks g).secondariesAdmitted =
        Counter.word (h.guestBooks g).secondariesSeeded ∧
      Counter.word (h.guestBooks g).secondariesSeeded = Counter.word (started g h).card := by
  obtain ⟨coherent, steady⟩ := reached.steady
  have booked := steady.booked
  refine ⟨fun r => ⟨congrArg _ (booked.balanced r).readback, ?_⟩, Counter.word_le booked.sweeps,
    fun g => ⟨congrArg _ (booked.admitted g), congrArg _ (booked.starts g)⟩⟩
  have blocked : plan.stateOf h r = some .blocked ↔ plan.phases h.hv r = .blocked :=
    coherent.placed.stateOf_eq .blocked rfl
  rw [(booked.balanced r).slept, Counter.word_add, Counter.word_add, Counter.word_ite,
    Counter.word_one, Counter.word_zero]
  simp only [blocked]

/-- A vCPU was woken, another one was preempted, and a secondary was started. -/
theorem books_busy : ∃ h h', pairBoot = .ok h ∧ pair.run busy h = .ok h' ∧
    Counter.word (h'.vcpuBooks ⟨0, 0⟩).blocked = 1 ∧
    Counter.word (h'.vcpuBooks ⟨0, 0⟩).woken +
      Counter.word (h'.vcpuBooks ⟨0, 0⟩).offlinedWhileBlocked +
      (if pair.stateOf h' ⟨0, 0⟩ = some .blocked then 1 else 0) = 1 ∧
    Counter.word h'.preempts = 1 ∧ Counter.word h'.preempts ≤ Counter.word h'.wakeSweeps ∧
    Counter.word (h'.guestBooks 0).secondariesAdmitted = Counter.word (started 0 h').card ∧
    Counter.word (started 0 h').card = 1 := by
  obtain ⟨h, h', booted, reached, legal, ran, counted⟩ := pair_busy
    (fun h' => decide (Counter.word (h'.vcpuBooks ⟨0, 0⟩).blocked = 1 ∧ h'.wakeSweeps = 1 ∧
      Counter.word h'.preempts = 1 ∧ Counter.word (h'.guestBooks 0).secondariesSeeded = 1))
    (by decide +kernel)
  obtain ⟨blocked, sweeps, preempts, seeded⟩ := of_decide_eq_true counted
  obtain ⟨slept, preempted, starts⟩ := books (reached.run legal ran)
  refine ⟨h, h', booted, ran, blocked, (slept ⟨0, 0⟩).2.symm.trans blocked, preempts,
    preempted ?_, (starts 0).1.trans (starts 0).2, (starts 0).2.symm.trans seeded⟩
  rw [sweeps]
  decide

def isSlice : Trap aps → Bool
  | .irq _ intid => intid = Machine.HYP_TIMER_INTID
  | _ => false

/-- How many slices end in a run. -/
def slices (traps : List (Trap aps)) : Nat := traps.countP isSlice

/-- One trap brings a vCPU that waits nearer, if it is the end of a slice, and never sends it back.
-/
theorem step_nearer (coherent : plan.Coherent h) (allowed : may h trap)
    (stepped : plan.step h trap = .ok h') (waits : r ≠ h.machine.current)
    (waits' : r ≠ h'.machine.current) (online : plan.phases h.hv r ≠ .offline)
    (live : h'.retirement r.guest = .live) :
    wait (Role.circle G V) (plan.schedule h') r + (if isSlice trap then 1 else 0) ≤
      wait (Role.circle G V) (plan.schedule h) r := by
  have nearer : ∀ {turn}, plan.Serves h turn h' →
      wait (Role.circle G V) (plan.schedule h') r + gain turn ≤
        wait (Role.circle G V) (plan.schedule h) r := by
    intro turn serves
    obtain ⟨allowed, served⟩ := serves.serve coherent
    exact wait_serve coherent.alone allowed served waits waits' online
      (serves.online coherent online live)
  by_cases slice : isSlice trap = true
  · rw [if_pos slice]
    cases trap with
    | irq now intid =>
        cases of_decide_eq_true slice
        obtain ⟨h₁, ran, serves⟩ := slice_serves coherent now
        rw [ran] at stepped
        cases stepped
        exact nearer serves
    | sync | interface | compute => cases slice
  · rw [if_neg slice]
    have outcome := step_outcome coherent allowed
    rw [stepped] at outcome
    cases outcome with
    | served serves => exact Nat.le_trans (Nat.le_add_right ..) (nearer serves)

theorem run_nearer (coherent : plan.Coherent h) (legal : plan.Legal traps h)
    (ran : plan.run traps h = .ok h') (online : plan.phases h.hv r ≠ .offline)
    (live : h'.retirement r.guest = .live)
    (waits : ∀ before later hm, traps = before ++ later → plan.run before h = .ok hm →
      hm.machine.current ≠ r) :
    wait (Role.circle G V) (plan.schedule h') r + slices traps ≤
      wait (Role.circle G V) (plan.schedule h) r := by
  induction traps generalizing h with
  | nil =>
      cases ran
      exact Nat.le_refl _
  | cons trap rest ih =>
      obtain ⟨allowed, later⟩ := legal
      have here := waits [] (trap :: rest) h rfl rfl
      have arrived : plan.run (trap :: rest) h = (plan.step h trap).bind (plan.run rest) := rfl
      rw [ran] at arrived
      cases stepped : plan.step h trap with
      | error e =>
          rw [stepped] at arrived
          cases arrived
      | ok h₁ =>
          rw [stepped] at arrived later
          have outcome := step_outcome coherent allowed
          rw [stepped] at outcome
          cases outcome with
          | served serves =>
              have coherent₁ := serves.coherent coherent
              have arrives := run_arrives coherent₁ later
              change Except.ok h' = plan.run rest h₁ at arrived
              rw [← arrived] at arrives
              cases arrives with
              | going coherent' onward booked live' =>
                  have live₁ := live' _ live
                  have after := waits [trap] rest h₁ rfl (by rw [run_cons, stepped]; rfl)
                  have first := step_nearer coherent allowed stepped here.symm after.symm online
                    live₁
                  have second := ih coherent₁ later arrived.symm
                    (serves.online coherent online live₁)
                    fun before later hm split ran => waits (trap :: before) later hm
                      (congrArg (trap :: ·) split) (by rw [run_cons, stepped]; exact ran)
                  have total : slices (trap :: rest) =
                      slices rest + if isSlice trap then 1 else 0 := List.countP_cons ..
                  omega

/-- Nobody starves: a vCPU that was started runs before as many slices have ended as there are
vCPUs, unless its guest retires. -/
theorem no_starvation [NeZero V] (reached : plan.Reachable h) (legal : plan.Legal traps h)
    (started : plan.stateOf h r ≠ some .offline) (enough : G * V ≤ slices traps) :
    (∃ before later hm, traps = before ++ later ∧ plan.run before h = .ok hm ∧
        hm.machine.current = r) ∨
      (∃ h', plan.run traps h = .ok h' ∧ h'.retirement r.guest ≠ .live) ∨
      ∃ last, plan.run traps h = .error (.endOfBoot last) := by
  obtain ⟨coherent, -⟩ := reached.steady
  have online : plan.phases h.hv r ≠ .offline := fun off =>
    started ((coherent.placed.stateOf_eq .offline rfl).mpr off)
  have arrived := run_arrives coherent legal
  cases ran : plan.run traps h with
  | error e =>
      rw [ran] at arrived
      cases arrived with
      | @ended last ends => exact .inr (.inr ⟨last, rfl⟩)
  | ok h' =>
      by_cases live : h'.retirement r.guest = .live
      · refine .inl ?_
        by_contra never
        have nearer := run_nearer coherent legal ran online live
          fun before later hm split ran here =>
          never ⟨before, later, hm, split, ran, here⟩
        have bound := wait_lt (Role.circle G V) (plan.schedule h) r
        change wait (Role.circle G V) (plan.schedule h) r < G * V at bound
        omega
      · exact .inr (.inl ⟨h', rfl, live⟩)

/-- The boot vCPU of the second guest, over four slices. -/
theorem no_starvation_pair : ∃ h, pairBoot = .ok h ∧
    let traps := List.replicate 4 (.irq 1 26)
    (∃ before later hm, traps = before ++ later ∧ pair.run before h = .ok hm ∧
        hm.machine.current = ⟨1, 0⟩) ∨
      (∃ h', pair.run traps h = .ok h' ∧ h'.retirement 1 ≠ .live) ∨
      ∃ last, pair.run traps h = .error (.endOfBoot last) := by
  obtain ⟨h, booted, reached, checked⟩ := pair_bootedInto
    (fun h => decide (pair.Legal (List.replicate 4 (.irq 1 26)) h) &&
      decide (pair.stateOf h ⟨1, 0⟩ ≠ some .offline)) (by decide +kernel)
  rw [Bool.and_eq_true, decide_eq_true_iff, decide_eq_true_iff] at checked
  exact ⟨h, booted, no_starvation (r := ⟨1, 0⟩) reached checked.1 checked.2 (by decide)⟩

end Baleen.Metal.Plan
