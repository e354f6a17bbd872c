import Baleen.Metal.Acts

/-!
# What the host counts

Every time a vCPU blocked it was either woken, or taken offline while it slept, or sleeps still; no
physical CPU is handed over by force without waking the sleepers first; and every secondary that was
given a context was admitted, once.
-/

namespace Baleen.Metal.Plan

open Sched RoundRobin

variable {G V lrs aps : Nat} {plan : Plan G V} {h h' : Host G V lrs aps} {turn : Turn (Role G V)}
  {r : Role G V} {p p' : Phase} {b : VcpuBooks}

structure Balanced (p : Phase) (b : VcpuBooks) : Prop where
  readback : b.blockedReadbackOk = b.blocked
  slept : b.blocked = b.woken + b.offlinedWhileBlocked + if p = .blocked then 1 else 0

theorem Balanced.rephase (balanced : Balanced p b) (same : p' = .blocked ↔ p = .blocked) :
    Balanced p' b := by
  refine ⟨balanced.readback, balanced.slept.trans ?_⟩
  simp only [same]

theorem balanced_wakeEntry (balanced : Balanced p b) : Balanced (wake p) (wakeEntry (p, b)).2 := by
  have slept := balanced.slept
  cases p with
  | blocked =>
      refine ⟨balanced.readback, ?_⟩
      rw [if_pos rfl] at slept
      rw [if_neg (by decide)]
      dsimp only [wakeEntry]
      omega
  | offline | runnable | running => exact ⟨balanced.readback, slept⟩

theorem balanced_offlineEntry (balanced : Balanced p b) :
    Balanced .offline (offlineEntry (p, b)).2 := by
  have slept := balanced.slept
  refine ⟨?_, ?_⟩
  · cases p <;> exact balanced.readback
  · rw [if_neg (by decide)]
    cases p with
    | blocked =>
        rw [if_pos rfl] at slept
        dsimp only [offlineEntry]
        omega
    | offline | runnable | running => exact slept

/-- The secondaries of a guest that were given a context. -/
def started (g : Fin G) (h : Host G V lrs aps) : Finset (Fin V) :=
  Finset.univ.filter fun v =>
    (⟨g, v⟩ : Role G V).isBoot = false ∧ h.machine.seeded ⟨g, v⟩ = true

structure Booked (plan : Plan G V) (h : Host G V lrs aps) : Prop where
  balanced : ∀ r, Balanced (plan.phases h.hv r) (h.vcpuBooks r)
  sweeps : h.preempts ≤ h.wakeSweeps
  admitted : ∀ g, (h.guestBooks g).secondariesAdmitted = (h.guestBooks g).secondariesSeeded
  starts : ∀ g, (h.guestBooks g).secondariesSeeded = (started g h).card

theorem started_congr (seeded : h'.machine.seeded = h.machine.seeded) (g : Fin G) :
    started g h' = started g h := by
  rw [started, started, seeded]

theorem Booked.undisturbed (booked : plan.Booked h) (idle : Undisturbed h h') : plan.Booked h' where
  balanced := by
    rw [idle.hv, idle.vcpuBooks]
    exact booked.balanced
  sweeps := by
    rw [idle.preempts, idle.wakeSweeps]
    exact booked.sweeps
  admitted g := by
    rw [idle.secondariesAdmitted, idle.secondariesSeeded]
    exact booked.admitted g
  starts g := by
    rw [idle.secondariesSeeded, started_congr idle.seeded]
    exact booked.starts g

theorem balanced_preempted (coherent : plan.Coherent h) (booked : plan.Booked h) (r : Role G V) :
    Balanced (preempted (plan.schedule h) r) (countWoken
      (Function.update (plan.phases h.hv) h.machine.current .runnable) h.vcpuBooks r) := by
  apply balanced_wakeEntry
  apply (booked.balanced r).rephase
  dsimp only [Plan.schedule]
  rw [Function.update_apply]
  split_ifs with here
  · rw [here, coherent.running]
    exact iff_of_false nofun nofun
  · exact Iff.rfl

theorem balanced_retired (booked : plan.Booked h) (slot : Fin G) (r : Role G V) :
    Balanced (retired (leaves slot) (plan.schedule h) r) (countWoken
      (fun r => if leaves slot r then .offline else plan.phases h.hv r)
      (countOfflined slot (plan.phases h.hv) h.vcpuBooks) r) := by
  apply balanced_wakeEntry
  rw [Plan.schedule, countOfflined, leaves]
  dsimp only
  by_cases own : r.guest = slot
  · rw [if_pos (decide_eq_true own), if_pos own]
    exact balanced_offlineEntry (booked.balanced r)
  · rw [if_neg (by simpa using own), if_neg own]
    exact booked.balanced r

theorem balanced_yielded (coherent : plan.Coherent h) (booked : plan.Booked h) (r : Role G V) :
    Balanced (Function.update (plan.phases h.hv) h.machine.current .blocked r)
      (Function.update h.vcpuBooks h.machine.current
        { h.vcpuBooks h.machine.current with
          blocked := (h.vcpuBooks h.machine.current).blocked + 1
          blockedReadbackOk := (h.vcpuBooks h.machine.current).blockedReadbackOk + 1 } r) := by
  have balanced := booked.balanced r
  rw [Function.update_apply, Function.update_apply]
  split_ifs with here
  · subst here
    have slept := balanced.slept
    rw [coherent.running, if_neg (by decide)] at slept
    refine ⟨congrArg (· + 1) balanced.readback, ?_⟩
    rw [if_pos rfl]
    exact congrArg (· + 1) slept
  · exact balanced

/-- One more secondary has a context. -/
theorem started_seed {own : Role G V} {entry contextId sctlr : UInt64}
    (secondary : own.isBoot = false)
    (unseeded : h.machine.seeded own = false)
    (machine : h'.machine = h.machine.seed own entry contextId sctlr) (g : Fin G) :
    (started g h').card = (started g h).card + if g = own.guest then 1 else 0 := by
  have seeds : ∀ r, h'.machine.seeded r = if r = own then true else h.machine.seeded r := by
    intro r
    rw [machine]
    exact Machine.seeded_seed ..
  split_ifs with here
  · subst here
    have grown : started own.guest h' = insert own.vcpu (started own.guest h) := by
      ext v
      rw [Finset.mem_insert, started, started, Finset.mem_filter, Finset.mem_filter, seeds]
      by_cases same : v = own.vcpu
      · subst same
        exact iff_of_true ⟨Finset.mem_univ _, secondary, if_pos rfl⟩ (.inl rfl)
      · have other : (⟨own.guest, v⟩ : Role G V) ≠ own :=
          fun equal => same (congrArg Role.vcpu equal)
        rw [if_neg other, or_iff_right same]
    rw [grown, Finset.card_insert_of_notMem]
    rw [started, Finset.mem_filter]
    rintro ⟨-, -, before⟩
    exact Bool.false_ne_true (unseeded.symm.trans before)
  · have same : started g h' = started g h := by
      refine Finset.filter_congr fun v _ => ?_
      have other : (⟨g, v⟩ : Role G V) ≠ own := fun equal => here (congrArg Role.guest equal)
      rw [seeds, if_neg other]
    rw [same, Nat.add_zero]

theorem Booked.act (booked : plan.Booked h) (coherent : plan.Coherent h)
    (act : plan.Act h turn h') : plan.Booked h' := by
  have switches : ∀ {next : Role G V} {left hv'}, plan.HandsOver h left next hv' →
      (∀ r, left r = .offline ↔ plan.phases h.hv r = .offline ∨ h'.retirement r.guest ≠ .live) →
      (switched next h).seeded = h.machine.seeded := fun handover gone =>
    (handover.done coherent fun r off => (gone r).mpr (.inl off)).seeded
  cases act with
  | stayed => exact booked
  | preempted handover =>
      refine ⟨fun r => ?_, Nat.succ_le_succ booked.sweeps, booked.admitted, fun g => ?_⟩
      · exact (balanced_preempted coherent booked r).rephase
          (handover.phase_eq r .blocked nofun nofun)
      · rw [started_congr (h := h) (switches handover (preempted_offline coherent))]
        exact booked.starts g
  | yielded handover asked =>
      refine ⟨fun r => ?_, booked.sweeps, fun g => ?_, fun g => ?_⟩
      · exact (balanced_yielded coherent booked r).rephase
          (handover.phase_eq r .blocked nofun nofun)
      · dsimp only
        rw [Function.update_apply]
        split_ifs with here
        · rw [← here]
          exact booked.admitted g
        · exact booked.admitted g
      · rw [started_congr (h := h) (switches handover (blocked_offline coherent)),
          ← booked.starts g]
        dsimp only
        rw [Function.update_apply]
        split_ifs with here
        · rw [← here]
        · rfl
  | retired gone handover =>
      refine ⟨fun r => ?_, Nat.le_succ_of_le booked.sweeps, booked.admitted, fun g => ?_⟩
      · exact (balanced_retired booked _ r).rephase (handover.phase_eq r .blocked nofun nofun)
      · rw [started_congr (h := h) (switches handover (retired_offline coherent gone))]
        exact booked.starts g
  | @admitted own hv' entry contextId own_guest fresh moves =>
      have live : h.retirement own.guest = .live := by
        rw [own_guest]
        exact coherent.live
      have secondary : own.isBoot = false := by
        by_contra boot
        exact coherent.present own (Bool.eq_true_of_not_eq_false boot) live fresh
      refine ⟨fun r => ?_, booked.sweeps, fun g => ?_, fun g => ?_⟩
      · refine (booked.balanced r).rephase ?_
        rw [moves.phases, Function.update_apply]
        split_ifs with here
        · rw [here, fresh]
          exact iff_of_false nofun nofun
        · exact Iff.rfl
      · dsimp only
        rw [Function.update_apply]
        split_ifs with here
        · exact congrArg (· + 1) (booked.admitted _)
        · exact booked.admitted g
      · rw [started_seed (h := h) secondary (coherent.fresh own live fresh) rfl, ← booked.starts g]
        dsimp only
        rw [Function.update_apply, own_guest]
        split_ifs with here
        · rw [← here]
        · rfl

end Baleen.Metal.Plan
