import Baleen.Lib.Visit
import Baleen.Metal.Placement

/-!
# Sweeps over the vCPUs

The two loops of the handlers, that wake who is blocked and that take a guest's vCPUs offline, and
the search for the next vCPU.  Each loop does to every vCPU it visits what it does to one, and the
search is the round robin's.
-/

namespace Baleen.Metal.Plan

open Sched RoundRobin

variable {G V lrs aps : Nat} {plan : Plan G V} {h : Host G V lrs aps} {r : Role G V}

/-- The schedule that the machine and the hypervisor carry out. -/
def schedule (plan : Plan G V) (h : Host G V lrs aps) : Schedule (Role G V) :=
  ⟨h.machine.current, plan.phases h.hv⟩

theorem nextRunnable_eq (placed : plan.Placed h.hv) (cur : Role G V) :
    plan.nextRunnable cur h = pick (Role.circle G V) cur (plan.phases h.hv) := by
  rw [nextRunnable, pick]
  refine congrArg (cur.rotation.find? ·) (funext fun r => ?_)
  exact decide_eq_decide.mpr (placed.stateOf_eq .runnable rfl)

/-- Only the hypervisor and the counters of the vCPUs are touched. -/
def Swept (h s : Host G V lrs aps) : Prop := s = { h with hv := s.hv, vcpuBooks := s.vcpuBooks }

/-- Where a vCPU is, and what was counted for it. -/
def entry (plan : Plan G V) (h : Host G V lrs aps) (r : Role G V) : Phase × VcpuBooks :=
  (plan.phases h.hv r, h.vcpuBooks r)

theorem entry_moves {hv' : Hypervisor} {p : Phase} {b : VcpuBooks} {s : Host G V lrs aps}
    (moves : plan.Moves r p h.hv hv') (hv : s.hv = hv')
    (books : s.vcpuBooks = Function.update h.vcpuBooks r b) :
    plan.entry s = Function.update (plan.entry h) r (p, b) := by
  funext j
  rw [entry, hv, moves.phases, books, Function.update_apply, Function.update_apply,
    Function.update_apply]
  split_ifs <;> rfl

def wakeEntry : Phase × VcpuBooks → Phase × VcpuBooks
  | (.blocked, b) => (.runnable, { b with woken := b.woken + 1 })
  | e => e

theorem wakeEntry_wakeEntry (e : Phase × VcpuBooks) : wakeEntry (wakeEntry e) = wakeEntry e := by
  obtain ⟨p, b⟩ := e
  cases p <;> rfl

theorem wakeEntry_fst (p : Phase) (b : VcpuBooks) : (wakeEntry (p, b)).1 = wake p := by
  cases p <;> rfl

theorem wakeOne_ok (placed : plan.Placed h.hv) (r : Role G V) :
    ∃ s, plan.wakeOne h r = .ok s ∧ (plan.Placed s.hv ∧ Swept h s) ∧
      plan.entry s = Function.update (plan.entry h) r (wakeEntry (plan.entry h r)) := by
  rw [wakeOne]
  by_cases blocked : plan.stateOf h r = some .blocked
  · rw [if_neg (not_not.mpr blocked)]
    have phase : plan.phases h.hv r = .blocked := (placed.stateOf_eq .blocked rfl).mp blocked
    obtain ⟨hv', ran, moves⟩ := schedWake_ok placed phase
    rw [ran]
    refine ⟨_, rfl, ⟨moves.placed, rfl⟩, ?_⟩
    rw [entry_moves moves rfl rfl, entry, phase]
    rfl
  · rw [if_pos blocked]
    refine ⟨h, rfl, ⟨placed, rfl⟩, ?_⟩
    have kept : wakeEntry (plan.entry h r) = plan.entry h r := by
      rw [entry]
      cases phase : plan.phases h.hv r with
      | blocked => exact absurd ((placed.stateOf_eq .blocked rfl).mpr phase) blocked
      | offline | runnable | running => rfl
    rw [kept, Function.update_eq_self]

/-- The counters after everybody who was blocked was woken. -/
def countWoken (phases : Role G V → Phase) (books : Role G V → VcpuBooks) : Role G V → VcpuBooks :=
  fun r => (wakeEntry (phases r, books r)).2

theorem wakeBlockedVcpus_ok (placed : plan.Placed h.hv) : ∃ hv', plan.wakeBlockedVcpus h =
      .ok { h with
        hv := hv', wakeSweeps := h.wakeSweeps + 1
        vcpuBooks := countWoken (plan.phases h.hv) h.vcpuBooks } ∧
    plan.Placed hv' ∧ plan.phases hv' = fun r => wake (plan.phases h.hv r) := by
  let start : Host G V lrs aps := { h with wakeSweeps := h.wakeSweeps + 1 }
  obtain ⟨s, ran, ⟨placed', swept⟩, entries⟩ :=
    Visit.foldlM_table (l := Role.census G V) (s := start)
    (f := plan.wakeOne) (P := fun s => plan.Placed s.hv ∧ Swept start s) wakeEntry_wakeEntry
    (fun r _ s kept => by
      obtain ⟨s', woken, ⟨placed', swept⟩, entries⟩ := wakeOne_ok kept.1 r
      refine ⟨s', woken, ⟨placed', ?_⟩, entries⟩
      rw [Swept, swept, kept.2])
    ⟨placed, rfl⟩
  have woken : ∀ r, plan.entry s r = wakeEntry (plan.phases h.hv r, h.vcpuBooks r) := by
    intro r
    rw [entries, if_pos (Role.mem_census r)]
    rfl
  refine ⟨s.hv, ?_, placed', funext fun r => ?_⟩
  · have books : s.vcpuBooks = countWoken (plan.phases h.hv) h.vcpuBooks :=
      funext fun r => congrArg Prod.snd (woken r)
    rw [wakeBlockedVcpus, ran, swept, books]
  · rw [← wakeEntry_fst _ (h.vcpuBooks r), ← woken, entry]

def offlineEntry : Phase × VcpuBooks → Phase × VcpuBooks
  | (.blocked, b) => (.offline, { b with offlinedWhileBlocked := b.offlinedWhileBlocked + 1 })
  | (_, b) => (.offline, b)

theorem offlineEntry_offlineEntry (e : Phase × VcpuBooks) :
    offlineEntry (offlineEntry e) = offlineEntry e := by
  obtain ⟨p, b⟩ := e
  cases p <;> rfl

theorem offlineOne_ok (placed : plan.Placed h.hv) (now : Ticks) (r : Role G V) :
    ∃ s, plan.offlineOne now h r = .ok s ∧ (plan.Placed s.hv ∧ Swept h s) ∧
      plan.entry s = Function.update (plan.entry h) r (offlineEntry (plan.entry h r)) := by
  rw [offlineOne]
  dsimp only
  by_cases offline : plan.stateOf h r = some .offline
  · rw [if_pos offline]
    have phase : plan.phases h.hv r = .offline := (placed.stateOf_eq .offline rfl).mp offline
    have kept : offlineEntry (plan.entry h r) = plan.entry h r := by
      rw [entry, phase]
      rfl
    refine ⟨h, rfl, ⟨placed, rfl⟩, ?_⟩
    rw [kept, Function.update_eq_self]
  · rw [if_neg offline]
    have online : plan.phases h.hv r ≠ .offline := fun phase =>
      offline ((placed.stateOf_eq .offline rfl).mpr phase)
    by_cases blocked : plan.stateOf h r = some .blocked
    · rw [if_pos blocked]
      have phase : plan.phases h.hv r = .blocked := (placed.stateOf_eq .blocked rfl).mp blocked
      obtain ⟨hv', ran, moves⟩ := schedOffline_ok (h := h.countVcpu r fun b =>
        { b with offlinedWhileBlocked := b.offlinedWhileBlocked + 1 }) placed now online
      rw [ran]
      refine ⟨_, rfl, ⟨moves.placed, rfl⟩, ?_⟩
      rw [entry_moves (h := h) moves rfl rfl, entry, phase]
      rfl
    · rw [if_neg blocked]
      obtain ⟨hv', ran, moves⟩ := schedOffline_ok placed now online
      rw [ran]
      have unblocked : plan.phases h.hv r ≠ .blocked := fun phase =>
        blocked ((placed.stateOf_eq .blocked rfl).mpr phase)
      refine ⟨_, rfl, ⟨moves.placed, rfl⟩, ?_⟩
      rw [entry_moves (s := { h with hv := hv' }) moves rfl (Function.update_eq_self ..).symm,
        entry]
      cases phase : plan.phases h.hv r with
      | blocked => exact absurd phase unblocked
      | offline | runnable | running => rfl

/-- The counters after a guest's vCPUs were taken offline. -/
def countOfflined (slot : Fin G) (phases : Role G V → Phase) (books : Role G V → VcpuBooks) :
    Role G V → VcpuBooks :=
  fun r => if r.guest = slot then (offlineEntry (phases r, books r)).2 else books r

def leaves (slot : Fin G) (r : Role G V) : Bool := r.guest = slot

theorem offlineAll_ok (placed : plan.Placed h.hv) (now : Ticks) (cur : Role G V) : ∃ hv',
    cur.ownVcpus.foldlM (plan.offlineOne now) h =
      .ok { h with
        hv := hv', vcpuBooks := countOfflined cur.guest (plan.phases h.hv) h.vcpuBooks } ∧
    plan.Placed hv' ∧ plan.phases hv' =
      fun r => if leaves cur.guest r then .offline else plan.phases h.hv r := by
  obtain ⟨s, ran, ⟨placed', swept⟩, entries⟩ := Visit.foldlM_table (l := cur.ownVcpus) (s := h)
    (f := plan.offlineOne now) (P := fun s => plan.Placed s.hv ∧ Swept h s)
    offlineEntry_offlineEntry
    (fun r _ s kept => by
      obtain ⟨s', offlined, ⟨placed', swept⟩, entries⟩ := offlineOne_ok kept.1 now r
      refine ⟨s', offlined, ⟨placed', ?_⟩, entries⟩
      rw [Swept, swept, kept.2])
    ⟨placed, rfl⟩
  have settled : ∀ r, plan.entry s r = if r.guest = cur.guest then
      offlineEntry (plan.phases h.hv r, h.vcpuBooks r)
      else (plan.phases h.hv r, h.vcpuBooks r) := by
    intro r
    rw [entries]
    simp only [Role.mem_ownVcpus]
    rfl
  refine ⟨s.hv, ?_, placed', funext fun r => ?_⟩
  · have books : s.vcpuBooks = countOfflined cur.guest (plan.phases h.hv) h.vcpuBooks := by
      funext r
      refine (congrArg Prod.snd (settled r)).trans ?_
      rw [countOfflined]
      split_ifs <;> rfl
    rw [ran, swept, books]
  · refine (congrArg Prod.fst (settled r)).trans ?_
    rw [leaves]
    by_cases own : r.guest = cur.guest
    · rw [if_pos own, if_pos (decide_eq_true own)]
      cases plan.phases h.hv r <;> rfl
    · rw [if_neg own, if_neg (by simpa using own)]

end Baleen.Metal.Plan
