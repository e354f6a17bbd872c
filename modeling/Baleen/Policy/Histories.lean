import Baleen.Policy.Bounded

/-!
# Histories

The policy together with the scheduler that it drives, under configuration calls, ticks and
the scheduler's own operations in any order and at any clock readings.
-/

namespace Baleen.Sched

/-- An operation of the scheduler. -/
inductive SysOp where
  | admitVcpu (dom : DomId) (vcpu : Vcpu)
  | run (dom : DomId) (vcpu : Vcpu) (pcpu : Pcpu) (now : UInt64)
  | preempt (dom : DomId) (vcpu : Vcpu) (now : UInt64)
  | block (dom : DomId) (vcpu : Vcpu) (now : UInt64)
  | wake (dom : DomId) (vcpu : Vcpu)
  | setAffinity (dom : DomId) (vcpu : Vcpu) (affinity : UInt64)
  | offline (dom : DomId) (vcpu : Vcpu) (now : UInt64)
  | offlineAll (dom : DomId) (now : UInt64)
  deriving DecidableEq, Repr

theorem System.sizes_setVcpu (s : System) (dom : DomId) (v : Vcpu) (c : VirtualCpu) :
    SameSizes s (s.setVcpu dom v c) :=
  ⟨Grid.length_set _ _ _ _, fun d => Grid.width_set _ _ _ d.toNat _, rfl⟩

theorem System.sizes_offline (dom : DomId) (v : Vcpu) (now : Ticks) (s : System) :
    SameSizes s (System.offline dom v now s).2 := by
  rcases offline_cases s dom v now with ⟨c, c', s', -, -, -, -, ran, moved⟩ | ⟨-, e, failed⟩
  · rw [ran]
    exact moved.sizes
  · rw [failed]
    exact SameSizes.refl s

namespace SysOp

open Sched.System

/-- The scheduler after one call, and the results. -/
def single (call : Op System SchedError Unit) (sys : System) :
    List (Except SchedError Unit) × System :=
  ([(call sys).1], (call sys).2)

def apply : SysOp → System → List (Except SchedError Unit) × System
  | admitVcpu dom v => single (System.admitVcpu dom v)
  | run dom v pcpu now => single (System.run dom v pcpu now.toNat)
  | preempt dom v now => single (System.preempt dom v now.toNat)
  | block dom v now => single (System.block dom v now.toNat)
  | wake dom v => single (System.wake dom v)
  | setAffinity dom v affinity => single (System.setAffinity dom v affinity.toNat)
  | offline dom v now => single (System.offline dom v now.toNat)
  | offlineAll dom now => System.offlineAll dom now.toNat

/-- No operation changes how many domains, vCPUs or physical CPUs there are. -/
theorem sizes (op : SysOp) (s : System) : SameSizes s (op.apply s).2 := by
  cases op with
  | admitVcpu dom v =>
      change SameSizes s (System.admitVcpu dom v s).2
      rcases admitVcpu_cases s dom v with ⟨c, s', -, ran, moved⟩ | ⟨e, failed⟩
      · rw [ran]
        exact moved.sizes
      · rw [failed]
        exact SameSizes.refl s
  | run dom v pcpu now =>
      change SameSizes s (System.run dom v pcpu now.toNat s).2
      rcases run_cases s dom v pcpu now.toNat with ⟨c, s', -, ran, moved⟩ | ⟨e, failed⟩
      · rw [ran]
        exact moved.sizes
      · rw [failed]
        exact SameSizes.refl s
  | preempt dom v now =>
      change SameSizes s (System.preempt dom v now.toNat s).2
      rcases preempt_cases s dom v now.toNat with ⟨c, c', s', -, -, -, ran, moved⟩ | ⟨e, failed⟩
      · rw [ran]
        exact moved.sizes
      · rw [failed]
        exact SameSizes.refl s
  | block dom v now =>
      change SameSizes s (System.block dom v now.toNat s).2
      rcases block_cases s dom v now.toNat with ⟨c, c', s', -, -, -, -, ran, moved⟩ | ⟨e, failed⟩
      · rw [ran]
        exact moved.sizes
      · rw [failed]
        exact SameSizes.refl s
  | wake dom v =>
      change SameSizes s (System.wake dom v s).2
      rcases wake_cases s dom v with ⟨c, s', -, ran, moved⟩ | ⟨-, e, failed⟩
      · rw [ran]
        exact moved.sizes
      · rw [failed]
        exact SameSizes.refl s
  | setAffinity dom v affinity =>
      change SameSizes s (System.setAffinity dom v affinity.toNat s).2
      rcases vcpu_cases s dom v with ⟨c, found, ok⟩ | ⟨-, e, failed⟩
      · cases stays : staysAffine (affinity.toNat &&& s.fullAffinity) c.state with
        | true =>
            simpa [System.setAffinity, ok, stays] using
              sizes_setVcpu s dom v { c with affinity := affinity.toNat &&& s.fullAffinity }
        | false => simpa [System.setAffinity, ok, stays] using SameSizes.refl s
      · simpa [System.setAffinity, failed] using SameSizes.refl s
  | offline dom v now =>
      change SameSizes s (System.offline dom v now.toNat s).2
      exact sizes_offline dom v now.toNat s
  | offlineAll dom now =>
      refine (@Op.sweep_keeps _ _ _ _ _ (SameSizes s) (fun _ => True) _ s ?_ (SameSizes.refl s)).1
      intro v _ s₁ r s₂ same ran
      split_ifs at ran
      obtain rfl : (System.offline dom v now.toNat s₁).2 = s₂ :=
        congrArg Prod.snd (Option.some.inj ran)
      exact ⟨same.trans (sizes_offline dom v now.toNat s₁), trivial⟩

end SysOp

end Baleen.Sched

namespace Baleen.Policy

open Sched

structure Machine where
  policy : Scheduler
  sys : System
  deriving DecidableEq, Repr

inductive Act where
  | setWeight (dom : DomId) (vcpu : Vcpu) (weight : UInt32)
  | setWakeBoost (enabled : Bool)
  | advance (now : UInt64)
  | operate (op : SysOp)
  deriving DecidableEq, Repr

/-- What the caller learns, and for a tick the decisions behind its count. -/
inductive Outcome where
  | configured
  | enacted (decisions : List Decision) (count : Nat)
  | returned (results : List (Except SchedError Unit))

namespace Machine

/-- The decisions that a tick enacts. -/
def decisions (m : Machine) (now : Ticks) : List Decision :=
  (Scheduler.trail (m.policy.account m.sys now) now (Scheduler.limit m.sys) m.sys).1

def act (m : Machine) : Act → Outcome × Machine
  | .setWeight dom v weight => (.configured, { m with policy := m.policy.setWeight dom v weight })
  | .setWakeBoost enabled => (.configured, { m with policy := m.policy.setWakeBoost enabled })
  | .advance now =>
      let ticked := m.policy.advance m.sys now.toNat
      (.enacted (m.decisions now.toNat) ticked.2.2, ⟨ticked.1, ticked.2.1⟩)
  | .operate op => (.returned (op.apply m.sys).1, { m with sys := (op.apply m.sys).2 })

def run (m : Machine) (acts : List Act) : Machine := acts.foldl (fun m a => (m.act a).2) m

@[simp]
theorem run_nil (m : Machine) : m.run [] = m := rfl

@[simp]
theorem run_cons (m : Machine) (a : Act) (acts : List Act) :
    m.run (a :: acts) = (m.act a).2.run acts := rfl

/-- What the caller learns over a run. -/
def outcomes (m : Machine) : List Act → List Outcome
  | [] => []
  | a :: acts => (m.act a).1 :: (m.act a).2.outcomes acts

end Machine

end Baleen.Policy
