import Baleen.Metal.Books

/-!
# Every handler takes one turn

From a coherent state each handler ends in one of two ways: the schedule has taken one turn of the
round robin, with nothing but the devices and the machine's own events before and after it, or the
last guest has retired and the boot is over.  The situations in which a handler would park the
machine do not occur.
-/

namespace Baleen.Metal.Plan

open Sched RoundRobin Gic Pl011

variable {G V lrs aps : Nat} {plan : Plan G V} {h h' h'' : Host G V lrs aps}
    {turn : Turn (Role G V)}
  {r next : Role G V} {result : Except (Halt G V lrs aps) (Host G V lrs aps)}

structure Serves (plan : Plan G V) (h : Host G V lrs aps) (turn : Turn (Role G V))
    (h' : Host G V lrs aps) : Prop where
  between : ∃ before after, Undisturbed h before ∧ plan.Act before turn after ∧ Undisturbed after h'

/-- Every guest has retired, and nobody is left to hand over to. -/
structure Ended (plan : Plan G V) (h last : Host G V lrs aps) : Prop where
  retired : ∀ g, last.retirement g ≠ .live
  offline : ∀ r, plan.phases last.hv r = .offline
  placed : plan.Placed last.hv
  onward : Onward h.machine last.machine
  booked : plan.Booked h → plan.Booked last

inductive Outcome (plan : Plan G V) (h : Host G V lrs aps) :
    Except (Halt G V lrs aps) (Host G V lrs aps) → Prop where
  | served {turn : Turn (Role G V)} {h' : Host G V lrs aps} (serves : plan.Serves h turn h') :
      Outcome plan h (.ok h')
  | ended {last : Host G V lrs aps} (ends : plan.Ended h last) :
      Outcome plan h (.error (.endOfBoot last))

theorem Serves.act (act : plan.Act h turn h') : plan.Serves h turn h' :=
  ⟨h, h', .refl h, act, .refl h'⟩

theorem Serves.after (idle : Undisturbed h h') (serves : plan.Serves h' turn h'') :
    plan.Serves h turn h'' := by
  obtain ⟨before, after, first, act, last⟩ := serves.between
  exact ⟨before, after, idle.trans first, act, last⟩

theorem Serves.before (serves : plan.Serves h turn h') (idle : Undisturbed h' h'') :
    plan.Serves h turn h'' := by
  obtain ⟨before, after, first, act, last⟩ := serves.between
  exact ⟨before, after, first, act, last.trans idle⟩

theorem Outcome.idle (idle : Undisturbed h h') : plan.Outcome h (.ok h') :=
  .served (.after idle (.act .stayed))

theorem Outcome.after (idle : Undisturbed h h') (outcome : plan.Outcome h' result) :
    plan.Outcome h result := by
  cases outcome with
  | served serves => exact .served (serves.after idle)
  | ended ends =>
      exact .ended ⟨ends.retired, ends.offline, ends.placed, idle.onward.trans ends.onward,
        fun booked => ends.booked (booked.undisturbed idle)⟩

theorem switchContext_ok (seeded : h.machine.seeded next = true) :
    switchContext next h = .ok (h.setMachine (switched next h)) := by
  obtain ⟨m, found, -⟩ := Machine.switched (h.wants next Machine.VTIMER_INTID) seeded
  rw [switchContext, switched, Machine.step, found]
  rfl

theorem runNext_ok (placed : plan.Placed h.hv) (now : Ticks)
    (ready : plan.phases h.hv next = .runnable)
    (idle : ∀ r, plan.phases h.hv r ≠ .running) (seeded : h.machine.seeded next = true) :
    ∃ hv', plan.runNext next now h = .ok { h with hv := hv', machine := switched next h } ∧
      plan.Moves next .running h.hv hv' := by
  obtain ⟨hv', ran, moves⟩ := schedRun_ok placed now ready idle
  refine ⟨hv', ?_, moves⟩
  rw [runNext, ran]
  exact switchContext_ok (h := { h with hv := hv' }) seeded

theorem preempt_act (coherent : plan.Coherent h) (now : Ticks) :
    ∃ h', plan.preemptThroughTheScheduler now h = .ok h' ∧ plan.Act h .preempt h' := by
  let counted : Host G V lrs aps := { h with preempts := h.preempts + 1 }
  obtain ⟨hv₁, ran₁, moves₁⟩ :=
    schedPreempt_ok (h := counted) coherent.placed now coherent.running
  obtain ⟨hv₂, ran₂, placed₂, phases₂⟩ :=
    wakeBlockedVcpus_ok (h := { counted with hv := hv₁ }) moves₁.placed
  have left : plan.phases hv₂ = preempted (plan.schedule h) := by
    rw [phases₂]
    dsimp only
    rw [moves₁.phases]
    rfl
  obtain ⟨next, picked⟩ := pick_preempted (Role.circle G V) (plan.schedule h)
  change pick (Role.circle G V) h.machine.current _ = some next at picked
  have ready := runnable_of_pick picked
  have seeded : h.machine.seeded next = true := by
    refine coherent.seeded next fun off => ?_
    rw [(preempted_offline coherent next).mpr (.inl off)] at ready
    cases ready
  obtain ⟨hv₃, ran₃, moves₃⟩ := runNext_ok
    (h := { counted with
      hv := hv₂, wakeSweeps := h.wakeSweeps + 1
      vcpuBooks := countWoken (plan.phases hv₁) h.vcpuBooks })
    placed₂ now (left ▸ ready) (fun r => left ▸ preempted_idle coherent.alone) seeded
  have handover : plan.HandsOver h (preempted (plan.schedule h)) next hv₃ :=
    ⟨picked, moves₃.placed, by rw [moves₃.phases]; dsimp only; rw [left]; rfl⟩
  refine ⟨_, ?_, .preempted handover⟩
  rw [preemptThroughTheScheduler]
  rw [ran₁]
  dsimp only [bind, Except.bind]
  rw [ran₂]
  dsimp only
  rw [nextRunnable_eq placed₂, left, picked]
  refine ran₃.trans ?_
  rw [moves₁.phases]
  rfl

/-- The boot vCPU of a guest that is not retired is left. -/
theorem Coherent.gone (coherent : plan.Coherent h) {g : Fin G}
    (off : ∀ v, plan.phases h.hv ⟨g, v⟩ = .offline) : h.retirement g ≠ .live := by
  intro live
  have first : 0 < V := Nat.zero_lt_of_lt h.machine.current.vcpu.isLt
  exact coherent.present ⟨g, ⟨0, first⟩⟩ (decide_eq_true rfl) live (off _)

/-- Either somebody takes over from a guest that retires, or it was the last one. -/
theorem retire_outcome (coherent : plan.Coherent h) (now : Ticks) {why : Retirement}
    (gone : why ≠ .live) : plan.Outcome h (plan.retire now why h) := by
  let cur := h.machine.current
  let noted : Host G V lrs aps := h.setRetirement cur.guest why
  obtain ⟨hv₁, ran₁, placed₁, phases₁⟩ :=
    offlineAll_ok (h := noted) coherent.placed now cur
  have emptied : plan.phases hv₁ = fun r =>
      if leaves cur.guest r then .offline else plan.phases h.hv r := phases₁
  let books₁ := countOfflined cur.guest (plan.phases h.hv) h.vcpuBooks
  obtain ⟨hv₂, ran₂, placed₂, phases₂⟩ :=
    wakeBlockedVcpus_ok (h := { noted with
      hv := hv₁, vcpuBooks := countOfflined cur.guest (plan.phases noted.hv) noted.vcpuBooks })
        placed₁
  have left : plan.phases hv₂ = retired (leaves cur.guest) (plan.schedule h) := by
    rw [phases₂]
    dsimp only
    rw [phases₁]
    rfl
  have leaving : leaves cur.guest (plan.schedule h).current = true := decide_eq_true rfl
  let swept : Host G V lrs aps := { noted with
    hv := hv₂, wakeSweeps := h.wakeSweeps + 1
    vcpuBooks := countWoken (plan.phases hv₁) books₁ }
  have handed : plan.retireAndHandOver now why h =
      (pick (Role.circle G V) cur (retired (leaves cur.guest) (plan.schedule h))).elim
        (.ok (false, swept)) fun next => (plan.runNext next now swept).map fun h => (true, h) := by
    rw [retireAndHandOver]
    rw [ran₁]
    dsimp only [bind, Except.bind]
    rw [ran₂]
    dsimp only
    rw [nextRunnable_eq placed₂, left]
    cases pick (Role.circle G V) cur (retired (leaves cur.guest) (plan.schedule h)) with
    | none => rfl
    | some next => cases plan.runNext next now swept <;> rfl
  rw [retire, handed]
  cases picked : pick (Role.circle G V) cur (retired (leaves cur.guest) (plan.schedule h)) with
  | none =>
      have nobody := (pick_retired coherent.alone leaving).mp picked
      have offline : ∀ r, plan.phases hv₂ r = .offline := by
        intro r
        rw [left, retired]
        rcases nobody r with own | off
        · rw [if_pos own]
          rfl
        · rw [off, ite_self]
          rfl
      refine .ended ⟨fun g stays => ?_, offline, placed₂, .refl _, fun booked => ?_⟩
      · change Function.update h.retirement cur.guest why g = .live at stays
        rw [Function.update_apply] at stays
        split_ifs at stays with own
        · exact gone stays
        · refine coherent.gone (fun v => ?_) stays
          refine (nobody ⟨g, v⟩).resolve_left fun leaves => ?_
          exact own (of_decide_eq_true leaves)
      · refine ⟨fun r => ?_, Nat.le_succ_of_le booked.sweeps, booked.admitted, booked.starts⟩
        have balanced := balanced_retired booked cur.guest r
        rw [← left, ← emptied] at balanced
        exact balanced
  | some next =>
      have ready := runnable_of_pick picked
      have seeded : h.machine.seeded next = true := by
        refine coherent.seeded next fun off => ?_
        rw [(retired_offline coherent gone next).mpr (.inl off)] at ready
        cases ready
      obtain ⟨hv₃, ran₃, moves₃⟩ := runNext_ok (h := swept) placed₂ now
        (left ▸ ready) (fun r => left ▸ retired_idle coherent.alone leaving) seeded
      have handover : plan.HandsOver h (retired (leaves cur.guest) (plan.schedule h)) next hv₃ :=
        ⟨picked, moves₃.placed, by rw [moves₃.phases]; dsimp only [swept]; rw [left]; rfl⟩
      have act := Act.retired gone handover
      rw [Option.elim_some, ran₃]
      rw [← emptied] at act
      exact .served (.act act)

section Quiet

variable {m : Machine G V lrs aps}

theorem wantsTimer_setMachine (current : m.current = h.machine.current) :
    wantsTimer (h.setMachine m) = wantsTimer h := by
  have wants : wantsTimer (h.setMachine m) = h.wants m.current Machine.VTIMER_INTID := rfl
  rw [wants, current, wantsTimer]

theorem Undisturbed.machine (current : m.current = h.machine.current)
    (seeded : m.seeded = h.machine.seeded) (onward : Onward h.machine m)
    (enabled : m.timer.enabled = h.machine.timer.enabled ∨ m.timer.enabled = wantsTimer h) :
    Undisturbed h (h.setMachine m) where
  hv := rfl
  retirement := rfl
  vcpuBooks := rfl
  preempts := rfl
  wakeSweeps := rfl
  secondariesSeeded _ := rfl
  secondariesAdmitted _ := rfl
  current := current
  seeded := seeded
  onward := onward
  mirror := by
    rw [wantsTimer_setMachine current]
    exact enabled.imp_left fun same => ⟨rfl, same⟩
  uarts within := within

theorem Undisturbed.samePlace (same : Machine.SamePlace h.machine m)
    (onward : Onward h.machine m) : Undisturbed h (h.setMachine m) :=
  .machine same.current same.seeded onward (.inl (congrArg Ppi.enabled same.timer))

theorem Undisturbed.compute (h : Host G V lrs aps) (x : Vector UInt64 31) (regs : CtxReg → UInt64)
    (fp : FpCtx) (vmcr : UInt64) (apr : Vector (Vector UInt64 aps) 2) :
    Undisturbed h (h.setMachine (h.machine.compute x regs fp vmcr apr)) :=
  .samePlace ⟨rfl, rfl, rfl, rfl, rfl, rfl, rfl⟩
    (Guarded.Reaches.single (i := Event.compute x regs fp vmcr apr) trivial)

theorem Undisturbed.advanceElr (h : Host G V lrs aps) : Undisturbed h h.advanceElr := .compute ..

theorem Undisturbed.writeX (h : Host G V lrs aps) (i : Nat) (value : UInt64) :
    Undisturbed h (h.writeX i value) := .compute ..

theorem Undisturbed.accessResult (h : Host G V lrs aps) (a : DataAbort) (value : UInt64) :
    Undisturbed h (h.accessResult a value) := by
  unfold Host.accessResult
  split
  · exact .writeX ..
  · exact .refl h

theorem Undisturbed.countGuest (h : Host G V lrs aps) (slot : Fin G) (f : GuestBooks → GuestBooks)
    (seeded : ∀ b, (f b).secondariesSeeded = b.secondariesSeeded)
    (admitted : ∀ b, (f b).secondariesAdmitted = b.secondariesAdmitted) :
    Undisturbed h (h.countGuest slot f) where
  hv := rfl
  retirement := rfl
  vcpuBooks := rfl
  preempts := rfl
  wakeSweeps := rfl
  secondariesSeeded g := by
    rw [Host.countGuest]
    dsimp only
    rw [Function.update_apply]
    split_ifs with here
    · rw [seeded, here]
    · rfl
  secondariesAdmitted g := by
    rw [Host.countGuest]
    dsimp only
    rw [Function.update_apply]
    split_ifs with here
    · rw [admitted, here]
    · rfl
  current := rfl
  seeded := rfl
  onward := .refl _
  mirror := .inl ⟨rfl, rfl⟩
  uarts within := within

theorem Undisturbed.setUart (h : Host G V lrs aps) (slot : Fin G) {d : DeployedPl011}
    (kept : (h.vpl011 slot).needle.WithinNeedle → d.needle.WithinNeedle) :
    Undisturbed h { h with vpl011 := Function.update h.vpl011 slot d } where
  hv := rfl
  retirement := rfl
  vcpuBooks := rfl
  preempts := rfl
  wakeSweeps := rfl
  secondariesSeeded _ := rfl
  secondariesAdmitted _ := rfl
  current := rfl
  seeded := rfl
  onward := .refl _
  mirror := .inl ⟨rfl, rfl⟩
  uarts within g := by
    dsimp only
    rw [Function.update_apply]
    split_ifs with here
    · exact kept (within slot)
    · exact within g

/-- A read of the distributor changes nothing that is enabled. -/
theorem Undisturbed.readGic (h : Host G V lrs aps) (slot : Fin G) {d : DeployedGic V}
    (same : d.dev = (h.vgic slot).dev) : Undisturbed h (h.setVgic slot d) where
  hv := rfl
  retirement := rfl
  vcpuBooks := rfl
  preempts := rfl
  wakeSweeps := rfl
  secondariesSeeded _ := rfl
  secondariesAdmitted _ := rfl
  current := rfl
  seeded := rfl
  onward := .refl _
  mirror := by
    refine .inl ⟨?_, rfl⟩
    have kept : ∀ g, ((h.setVgic slot d).vgic g).dev = (h.vgic g).dev := by
      intro g
      rw [Host.setVgic]
      dsimp only
      rw [Function.update_apply]
      split_ifs with here
      · rw [same, here]
      · rfl
    rw [wantsTimer, Host.wants, kept]
    rfl
  uarts within := within

/-- After a write the timer is enabled exactly if the vCPU wants it. -/
theorem Undisturbed.writeGic (h : Host G V lrs aps) (slot : Fin G) (d : DeployedGic V) :
    Undisturbed h ((h.setVgic slot d).setMachine (h.machine.setPpiEnabled
      ((h.setVgic slot d).wants h.machine.current Machine.VTIMER_INTID))) where
  hv := rfl
  retirement := rfl
  vcpuBooks := rfl
  preempts := rfl
  wakeSweeps := rfl
  secondariesSeeded _ := rfl
  secondariesAdmitted _ := rfl
  current := rfl
  seeded := rfl
  onward := Guarded.Reaches.single (i := Event.mirror _) trivial
  mirror := .inr rfl
  uarts within := within

theorem Undisturbed.sendSgi (h : Host G V lrs aps) (value : UInt64) :
    Undisturbed h (h.setMachine (h.machine.sendSgi value)) :=
  .samePlace Machine.samePlace_sendSgi (Guarded.Reaches.single (i := Event.sgi value) trivial)

theorem Undisturbed.armed (h : Host G V lrs aps) (route : Option Irouter.SpiRoute) :
    Undisturbed h (armSpiWitness route h) := by
  unfold armSpiWitness
  cases route with
  | none => exact .refl h
  | some route =>
      dsimp only
      split_ifs
      · exact .refl h
      · exact ⟨rfl, rfl, rfl, rfl, rfl, fun _ => rfl, fun _ => rfl, rfl, rfl, .refl _,
          .inl ⟨rfl, rfl⟩, id⟩

theorem Undisturbed.fired (h : Host G V lrs aps) : Undisturbed h (maybeFireSpiWitness h) := by
  unfold maybeFireSpiWitness
  dsimp only
  split_ifs
  · exact .refl h
  · cases (h.vgic h.machine.current.guest).dev.spiRoute WITNESS_SPI with
    | none => exact .refl h
    | some route =>
        dsimp only
        split_ifs
        · exact .refl h
        · let fired := Function.update h.spiWitnessFired h.machine.current.guest true
          have noted : Undisturbed h { h with spiWitnessFired := fired } :=
            ⟨rfl, rfl, rfl, rfl, rfl,
            fun _ => rfl, fun _ => rfl, rfl, rfl, .refl _, .inl ⟨rfl, rfl⟩, id⟩
          have named : WITNESS_SPI.toNat < NUM_INTIDS := by decide
          exact noted.trans (.samePlace (Machine.samePlace_deliverSpi named)
            (Guarded.Reaches.single (i := Event.spi route WITNESS_SPI) named))

/-- The timer is masked for a vCPU that does not want it. -/
theorem Undisturbed.tookTimer (enabled : h.machine.timer.enabled = true)
    (inactive : h.machine.timer.active = false) :
    Undisturbed h (h.setMachine (h.machine.takeTimer (wantsTimer h))) := by
  have onward : Onward h.machine (h.machine.takeTimer (wantsTimer h)) :=
    Guarded.Reaches.single (i := Event.timer (wantsTimer h)) ⟨enabled, inactive⟩
  have taken := Machine.takeTimer_cases (m := h.machine) (wantsTimer h)
  generalize h.machine.takeTimer (wantsTimer h) = m at taken onward ⊢
  cases wanted : wantsTimer h with
  | false =>
      rw [wanted] at taken
      cases taken with
      | masked => exact .machine rfl rfl onward (.inr wanted.symm)
  | true =>
      rw [wanted] at taken
      cases taken with
      | forwarded room same bank pending underflow tally =>
          have kept := congrArg Ppi.enabled same.timer
          exact .machine same.current same.seeded onward (.inl kept)
      | deferred full same live pending underflow tally =>
          have kept := congrArg Ppi.enabled same.timer
          exact .machine same.current same.seeded onward (.inl kept)

theorem Undisturbed.usedInterface {k : Nat} {state : LrState} (register : k < lrs)
    (held : lrIsFree (h.machine.register k) = false) :
    Undisturbed h (h.setMachine (h.machine.useInterface k state)) := by
  have onward : Onward h.machine (h.machine.useInterface k state) :=
    Guarded.Reaches.single (i := Event.interface k state) ⟨register, held⟩
  have used := Machine.useInterface_cases (m := h.machine) k state
  generalize h.machine.useInterface k state = m at used onward ⊢
  cases used with
  | ended stands invalid same bank pending underflow tally =>
      have kept := congrArg Ppi.enabled same.timer
      exact .machine same.current same.seeded onward (.inl kept)
  | moved kept same bank pending underflow tally => exact .samePlace same onward

end Quiet

theorem countVcpu_countVcpu (r : Role G V) (f f' : VcpuBooks → VcpuBooks) :
    (h.countVcpu r f).countVcpu r f' = h.countVcpu r fun b => f' (f b) := by
  simp [Host.countVcpu]

theorem countGuest_countGuest (slot : Fin G) (f f' : GuestBooks → GuestBooks) :
    (h.countGuest slot f).countGuest slot f' = h.countGuest slot fun b => f' (f b) := by
  simp [Host.countGuest]

/-- A vCPU that waits is found blocked and hands over to the one that is runnable. -/
theorem yield_outcome (coherent : plan.Coherent h) (now : Ticks) {running peer : Role G V}
    (here : h.machine.current = running) (asked : plan.nextRunnable running h = some peer) :
    plan.Outcome h (do
      let h ← plan.schedOn running.guest (.schedBlock running.model now) h
      let h := h.countVcpu running fun b => { b with blocked := b.blocked + 1 }
      let h := if plan.stateOf h running = some .blocked then
          h.countVcpu running fun b => { b with blockedReadbackOk := b.blockedReadbackOk + 1 }
        else h
      let h ← plan.schedOn peer.guest (schedulerRun peer now) h
      let h := h.countGuest running.guest fun b => { b with wfiYields := b.wfiYields + 1 }
      switchContext peer h) := by
  subst here
  rw [nextRunnable_eq coherent.placed] at asked
  have ready := runnable_of_pick asked
  have other : peer ≠ h.machine.current := by
    rintro rfl
    rw [coherent.running] at ready
    cases ready
  have seeded : h.machine.seeded peer = true := by
    refine coherent.seeded peer fun off => ?_
    rw [ready] at off
    cases off
  obtain ⟨hv₁, ran₁, moves₁⟩ := schedBlock_ok coherent.placed now coherent.running
  let noted : Host G V lrs aps := { h with hv := hv₁ }.countVcpu h.machine.current fun b =>
    { b with blocked := b.blocked + 1, blockedReadbackOk := b.blockedReadbackOk + 1 }
  have asleep : plan.stateOf ({ h with hv := hv₁ }.countVcpu h.machine.current
      fun b => { b with blocked := b.blocked + 1 }) h.machine.current = some .blocked := by
    have placed : plan.Placed ({ h with hv := hv₁ }.countVcpu h.machine.current
        fun b => { b with blocked := b.blocked + 1 } : Host G V lrs aps).hv := moves₁.placed
    refine (placed.stateOf_eq .blocked rfl).mpr ?_
    change plan.phases hv₁ h.machine.current = .blocked
    rw [moves₁.phases, Function.update_self]
  have left : plan.phases hv₁ peer = .runnable := by
    rw [moves₁.phases, Function.update_of_ne other, ready]
  obtain ⟨hv₂, ran₂, moves₂⟩ := schedRun_ok (h := noted) moves₁.placed now left fun r => by
    change plan.phases hv₁ r ≠ .running
    rw [moves₁.phases]
    exact blocked_idle (s := plan.schedule h) coherent.alone
  have handover : plan.HandsOver h
      (Function.update (plan.phases h.hv) h.machine.current .blocked) peer hv₂ := by
    refine ⟨?_, moves₂.placed, ?_⟩
    · rw [← asked, pick, pick]
      refine congrArg ((Role.circle G V).order h.machine.current |>.find? ·) (funext fun r => ?_)
      refine decide_eq_decide.mpr ?_
      rw [Function.update_apply]
      split_ifs with here
      · rw [here, coherent.running]
        decide
      · exact Iff.rfl
    · rw [moves₂.phases]
      change Function.update (plan.phases hv₁) peer .running = _
      rw [moves₁.phases]
      rfl
  dsimp only
  rw [ran₁]
  dsimp only [bind, Except.bind]
  rw [if_pos asleep, countVcpu_countVcpu, ran₂]
  dsimp only
  have switches : ∀ {h' : Host G V lrs aps}, h'.machine = h.machine →
      switchContext peer h' = .ok (h'.setMachine (switched peer h')) := by
    intro h' same
    apply switchContext_ok
    rw [same]
    exact seeded
  rw [switches]
  · exact .served (.act (.yielded handover asked))
  · rfl

theorem wfi_outcome (coherent : plan.Coherent h) (now : Ticks) :
    plan.Outcome h (plan.handleLinuxWfi now h) := by
  let counted := h.countGuest h.machine.current.guest fun b => { b with wfiTraps := b.wfiTraps + 1 }
  have counts : Undisturbed h counted := .countGuest _ _ _ (fun _ => rfl) fun _ => rfl
  have idle : Undisturbed h (maybeFireSpiWitness counted).advanceElr :=
    counts.trans ((Undisturbed.fired counted).trans (.advanceElr _))
  unfold handleLinuxWfi
  refine .after idle ?_
  dsimp only
  cases asked : plan.nextRunnable h.machine.current (maybeFireSpiWitness counted).advanceElr with
  | none => exact .idle (.refl _)
  | some peer => exact yield_outcome (coherent.undisturbed idle) now idle.current asked

/-- A secondary is started once, and anything else that is asked is refused. -/
theorem cpuOn_serves (coherent : plan.Coherent h) (mpidr entry contextId : UInt64) :
    ∃ code h' turn, plan.cpuOn mpidr entry contextId h = .ok (code, h') ∧
    plan.Serves h turn h' := by
  let refused := h.countGuest h.machine.current.guest fun b =>
    { b with cpuOnRefused := b.cpuOnRefused + 1 }
  have counts : Undisturbed h refused := .countGuest _ _ _ (fun _ => rfl) fun _ => rfl
  have refuses : ∀ code, ∃ code' h' turn, (Except.ok (code, refused) :
        Except (Halt G V lrs aps) (UInt64 × Host G V lrs aps)) = .ok (code', h') ∧
      plan.Serves h turn h' := fun code => ⟨code, refused, _, rfl, .after counts (.act .stayed)⟩
  unfold cpuOn
  dsimp only
  cases found : h.machine.current.ownVcpus.find? fun o =>
      guestMpidr o.vcpu &&& MPIDR_HWID_BITMASK = mpidr &&& MPIDR_HWID_BITMASK with
  | none => exact refuses _
  | some own =>
      dsimp only
      split_ifs with outside started
      · exact refuses _
      · exact refuses _
      · have own_guest : own.guest = h.machine.current.guest :=
          Role.mem_ownVcpus.mp (List.mem_of_find?_eq_some found)
        have fresh : plan.phases h.hv own = .offline :=
          (coherent.placed.stateOf_eq .offline rfl).mp (not_not.mp started)
        obtain ⟨hv', ran, moves⟩ := schedAdmit_ok (h := (h.setMachine
          (h.machine.seed own entry contextId h.sctlrAtBoot)).countGuest h.machine.current.guest
            fun b => { b with secondariesSeeded := b.secondariesSeeded + 1 })
          coherent.placed fresh
        rw [own_guest] at ran
        rw [ran]
        dsimp only [bind, Except.bind]
        let seeds : Host G V lrs aps := { h with
          hv := hv', machine := h.machine.seed own entry contextId h.sctlrAtBoot }
        have books := countGuest_countGuest (h := seeds) h.machine.current.guest
          (fun b => { b with secondariesSeeded := b.secondariesSeeded + 1 })
          fun b => { b with secondariesAdmitted := b.secondariesAdmitted + 1 }
        exact ⟨PSCI_SUCCESS, _, .enlist own, congrArg (fun h => Except.ok (PSCI_SUCCESS, h)) books,
          .act (.admitted entry contextId own_guest fresh moves)⟩

theorem fault_outcome (coherent : plan.Coherent h) (now : Ticks) :
    plan.Outcome h (plan.faultRetire now h) := retire_outcome coherent now nofun

theorem psci_outcome (coherent : plan.Coherent h) (now : Ticks) :
    plan.Outcome h (plan.handlePsci now h) := by
  unfold handlePsci
  dsimp only
  split_ifs
  · exact .idle (.writeX ..)
  · exact .idle (.writeX ..)
  · exact .idle (.writeX ..)
  · exact retire_outcome coherent now nofun
  · obtain ⟨code, h', turn, ran, serves⟩ := cpuOn_serves coherent
      (h.machine.readX 1) (h.machine.readX 2) (h.machine.readX 3)
    rw [ran]
    exact .served (serves.before (.writeX ..))
  · exact .idle (.writeX ..)

theorem sysreg_outcome (coherent : plan.Coherent h) (now : Ticks) (esr : UInt64) :
    plan.Outcome h (plan.handleLinuxSysregTrap now esr h) := by
  unfold handleLinuxSysregTrap
  dsimp only
  split
  · exact .idle ((Undisturbed.sendSgi h _).trans (.advanceElr _))
  · exact fault_outcome coherent now

/-- A retirement after something that left the schedule alone. -/
theorem fault_after (coherent : plan.Coherent h) (now : Ticks) (idle : Undisturbed h h') :
    plan.Outcome h (plan.faultRetire now h') :=
  .after idle (fault_outcome (coherent.undisturbed idle) now)

theorem vgic_outcome (coherent : plan.Coherent h) (now : Ticks) (a : DataAbort) (ipa : UInt64) :
    plan.Outcome h (plan.handleVgicAccess now a ipa h) := by
  unfold handleVgicAccess
  dsimp only
  split
  · exact fault_outcome coherent now
  · split
    · let dev := ((h.vgic h.machine.current.guest).mmioWrite ipa a.accessBytes (h.accessValue a)).2
      have written := (Undisturbed.writeGic h h.machine.current.guest dev).trans
        (.armed _ (dev.dev.spiRoute WITNESS_SPI))
      split
      · exact .idle (written.trans (.advanceElr _))
      · exact fault_after coherent now written
    · have same : ((h.vgic h.machine.current.guest).mmioRead ipa a.accessBytes).2.dev =
          (h.vgic h.machine.current.guest).dev := rfl
      have seen := Undisturbed.readGic h h.machine.current.guest same
      split
      · exact .idle (seen.trans ((Undisturbed.accessResult _ a _).trans (.advanceElr _)))
      · exact fault_after coherent now seen

theorem peer_outcome (coherent : plan.Coherent h) (now : Ticks) :
    plan.Outcome h (plan.handlePeerFault now true h) := by
  let counted := h.countGuest h.machine.current.guest fun b =>
    { b with peerFaults := b.peerFaults + 1 }
  have counts : Undisturbed h counted := .countGuest _ _ _ (fun _ => rfl) fun _ => rfl
  unfold handlePeerFault
  dsimp only
  split_ifs with many unproven
  · exact fault_after coherent now counts
  · exact absurd unproven.2 nofun
  · exact .idle (counts.trans (.advanceElr _))

theorem uart_outcome (coherent : plan.Coherent h) (now : Ticks) (a : DataAbort) (ipa : UInt64) :
    plan.Outcome h (plan.handleVpl011Access now a ipa h) := by
  unfold handleVpl011Access
  dsimp only
  split_ifs
  · exact fault_outcome coherent now
  · exact fault_outcome coherent now
  · obtain ⟨sent, dev, written, within⟩ := DeployedPl011.mmioWrite_within
      (coherent.uarts h.machine.current.guest) (ipa - VPL011_BASE) (h.accessValue a)
    rw [written]
    exact .idle ((Undisturbed.setUart h _ fun _ => within).trans (.advanceElr _))
  · have kept := Undisturbed.setUart h h.machine.current.guest
      (d := ((h.vpl011 h.machine.current.guest).mmioRead (ipa - VPL011_BASE) a.accessBytes).2) id
    exact .idle (kept.trans ((Undisturbed.accessResult _ a _).trans (.advanceElr _)))

theorem abort_outcome (coherent : plan.Coherent h) (now : Ticks) (esr far hpfar : UInt64) :
    plan.Outcome h (plan.handleLinuxDataAbort now true esr far hpfar h) := by
  unfold handleLinuxDataAbort
  dsimp only
  split_ifs
  · exact vgic_outcome coherent now _ _
  · exact peer_outcome coherent now
  · exact fault_outcome coherent now
  · exact uart_outcome coherent now _ _

theorem sync_outcome (coherent : plan.Coherent h) (now : Ticks) (esr far hpfar : UInt64) :
    plan.Outcome h (plan.handleLinuxSync now true esr far hpfar h) := by
  unfold handleLinuxSync
  dsimp only
  split_ifs
  · exact abort_outcome coherent now esr far hpfar
  · exact wfi_outcome coherent now
  · exact sysreg_outcome coherent now esr
  · exact psci_outcome coherent now
  · exact fault_outcome coherent now

end Baleen.Metal.Plan
