import Baleen.Policy.Settling

/-!
# Bounded settling

The loop of `advance` with the decisions it enacts and the reason it ends.  With a positive
quantum a physical CPU that a preemption freed, or a placement filled, is not preempted again
at the same time, so two transitions for each physical CPU are enough and the loop ends
because there is nothing left to decide.
-/

namespace Baleen.Policy.Scheduler

open Sched Sched.System

variable {s : Scheduler} {sys sys' : System} {now : Ticks} {p : Pcpu}

/-- Why the loop ends: the cap is reached, the scheduler refuses a decision, or there is no
decision left. -/
inductive Halt where
  | capped
  | refused
  | idle
  deriving DecidableEq, Repr

/-- The decisions that the loop enacts, and why it ends. -/
def trail (s : Scheduler) (now : Ticks) : Nat → System → List Decision × Halt
  | 0, _ => ([], .capped)
  | fuel + 1, sys =>
      if s.next sys now = .idle then ([], .idle)
      else
        match enact now sys (s.next sys now) with
        | none => ([], .refused)
        | some sys' => (s.next sys now :: (trail s now fuel sys').1, (trail s now fuel sys').2)

/-- Whether a decision preempts the runner of this physical CPU. -/
def evicts (p : Pcpu) : Decision → Bool
  | .preempt _ _ q => q = p
  | _ => false

/-- The loop counts what it enacts. -/
theorem settle_count (s : Scheduler) (now : Ticks) (fuel : Nat) (sys : System) :
    (settle s now fuel sys).2 = (trail s now fuel sys).1.length := by
  induction fuel generalizing sys with
  | zero => rfl
  | succ fuel ih =>
      unfold settle trail
      split_ifs with idle
      · rw [idle]
        rfl
      · cases enacted : enact now sys (s.next sys now) with
        | none => rfl
        | some sys' => exact congrArg (· + 1) (ih sys')

theorem trail_of_idle (fuel : Nat) (idle : s.next sys now = .idle) :
    trail s now (fuel + 1) sys = ([], .idle) := by
  unfold trail
  rw [if_pos idle]

theorem trail_of_enacted (fuel : Nat) (busy : s.next sys now ≠ .idle)
    (enacted : enact now sys (s.next sys now) = some sys') : trail s now (fuel + 1) sys =
      (s.next sys now :: (trail s now fuel sys').1, (trail s now fuel sys').2) := by
  rw [trail, if_neg busy, enacted]

/-- A decision is never refused, and eases one physical CPU; that one alone may be preempted,
and only when two transitions are left for it. -/
theorem enact_eases (positive : 0 < s.quantum) (consistent : sys.Consistent)
    (busy : s.next sys now ≠ .idle) : ∃ sys' p, enact now sys (s.next sys now) = some sys' ∧
      sys'.Consistent ∧ SameSizes sys sys' ∧ Eases s sys sys' now p ∧
      ∀ q, evicts q (s.next sys now) = true → q = p ∧ s.pending sys now p = 2 := by
  rcases next_cases s sys now with ⟨dom, v, p, c, sys₁, able, decided, done, moved⟩ |
    ⟨dom, v, p, c, sys₁, able, decided, done, moved⟩ | ⟨-, -, idle, -⟩
  · refine ⟨sys₁, p, done, moved.consistent consistent, moved.sizes,
      able.eases positive consistent moved, ?_⟩
    intro q evicted
    rw [decided] at evicted
    cases evicted
  · refine ⟨sys₁, p, done, moved.consistent consistent, moved.sizes,
      able.eases consistent moved, ?_⟩
    intro q evicted
    rw [decided, evicts, decide_eq_true_iff] at evicted
    exact ⟨evicted.symm, able.pending_eq consistent⟩
  · exact absurd idle busy

/-- How often a physical CPU may still be preempted. -/
def evictable (s : Scheduler) (sys : System) (now : Ticks) (p : Pcpu) : Nat :=
  if s.pending sys now p = 2 then 1 else 0

theorem evictable_le_one (s : Scheduler) (sys : System) (now : Ticks) (p : Pcpu) :
    s.evictable sys now p ≤ 1 := by
  unfold evictable
  split_ifs <;> decide

/-- A preemption uses up the one that its physical CPU had left. -/
theorem Eases.evictable_add_le (eases : Eases s sys sys' now p) {d : Decision}
    (evicted : ∀ q, evicts q d = true → q = p ∧ s.pending sys now p = 2) (q : Pcpu) :
    s.evictable sys' now q + (if evicts q d then 1 else 0) ≤ s.evictable sys now q := by
  have bound := s.pending_le sys now p
  unfold evictable
  by_cases here : q = p
  · subst here
    have fewer := eases.fewer
    rw [if_neg (by omega)]
    split_ifs with taken two
    · exact le_refl 1
    · exact absurd (evicted q taken).2 two
    · exact Nat.zero_le 1
    · exact le_refl 0
  · rw [eases.others q here, if_neg fun taken => here (evicted q taken).1, Nat.add_zero]

theorem trail_bounded (positive : 0 < s.quantum) (fuel : Nat) (consistent : sys.Consistent)
    (narrow : sys.pcpus.length < 2 ^ 32) (enough : s.slack sys now < fuel) :
    (trail s now fuel sys).2 = .idle ∧ (trail s now fuel sys).1.length ≤ s.slack sys now ∧
      ∀ p, (trail s now fuel sys).1.countP (evicts p) ≤ s.evictable sys now p := by
  induction fuel generalizing sys with
  | zero => exact absurd enough (Nat.not_lt_zero _)
  | succ fuel ih =>
      by_cases busy : s.next sys now = .idle
      · rw [trail_of_idle fuel busy]
        exact ⟨rfl, Nat.zero_le _, fun p => Nat.zero_le _⟩
      · obtain ⟨sys', p, enacted, consistent', sizes, eases, evicted⟩ :=
          enact_eases positive consistent busy
        have fewer := eases.slack_lt sizes narrow
        obtain ⟨halt, length, counts⟩ := ih consistent' (by rwa [sizes.pcpus]) (by omega)
        rw [trail_of_enacted fuel busy enacted]
        refine ⟨halt, ?_, fun q => ?_⟩
        · rw [List.length_cons]
          omega
        · rw [List.countP_cons]
          have after := counts q
          have before := eases.evictable_add_le evicted q
          omega

/-- What the loop of a tick does when it is not cut short. -/
structure SettlesWithin (s : Scheduler) (sys : System) (now : Ticks) : Prop where
  few : (s.advance sys now).2.2 ≤ 2 * sys.pcpus.length
  once : ∀ p, (trail (s.account sys now) now (limit sys) sys).1.countP (evicts p) ≤ 1
  below : (s.advance sys now).2.2 < limit sys
  halt : (trail (s.account sys now) now (limit sys) sys).2 = .idle
  idle : (s.advance sys now).1.next (s.advance sys now).2.1 now = .idle

theorem lt_limit (small : capacity sys < 2 ^ 32) : 2 * sys.pcpus.length < limit sys := by
  rw [limit, Nat.mod_eq_of_lt small]
  unfold capacity
  omega

/-- While the cap fits its 32-bit word, a tick with a positive quantum settles within two
transitions for each physical CPU. -/
theorem advance_settles_within (s : Scheduler) (sys : System) (now : Ticks)
    (positive : 0 < s.quantum) (checked : sys.firstViolation = none)
    (domains : sys.domainCount ≤ 65535) (small : capacity sys < 2 ^ 32) :
    SettlesWithin s sys now := by
  have domains' : sys.domainCount < 2 ^ 16 := Nat.lt_succ_of_le domains
  have vcpus := fun d => (width_lt_capacity domains' d).trans small
  have cap := lt_limit small
  have narrow : sys.pcpus.length < 2 ^ 32 := by
    unfold capacity at small
    omega
  have consistent := consistent_of_firstViolation checked domains'.le (fun d => (vcpus d).le)
    narrow.le
  have positive' : 0 < (s.account sys now).quantum := by
    rwa [(s.account_settings sys now).2]
  have enough := (s.account sys now).slack_le sys now
  obtain ⟨halt, length, counts⟩ := trail_bounded positive' (limit sys) consistent narrow
    (lt_of_le_of_lt enough cap)
  have count : (s.advance sys now).2.2 =
      (trail (s.account sys now) now (limit sys) sys).1.length := settle_count ..
  refine ⟨?_, ?_, ?_, halt, (advance_settled positive checked domains' small).1⟩
  · rw [count]
    exact length.trans enough
  · exact fun p => (counts p).trans (evictable_le_one ..)
  · rw [count]
    exact lt_of_le_of_lt (length.trans enough) cap

/-- A preemption and its refill. -/
theorem advance_settles_within_pair :
    let sys : System := ⟨[[⟨.running 0, 0, 0, 1⟩, ⟨.runnable, 0, 0, 1⟩]], [some (0, 0)]⟩
    ((Scheduler.new 1 2 1).advance sys 1).2.2 = 2 ∧ SettlesWithin (Scheduler.new 1 2 1) sys 1 :=
  ⟨by decide +kernel, advance_settles_within _ _ _ (by decide) (by decide +kernel)
    (by decide +kernel) (by decide +kernel)⟩

/-- One runnable vCPU and `n` idle physical CPUs. -/
def lone (n : Nat) : System := ⟨[[⟨.runnable, 0, 0, 1⟩]], List.replicate n none⟩

theorem lone_checked (n : Nat) : (lone n).firstViolation = none := by
  have idle : (List.range (lone n).pcpus.length).findSome? (fun p =>
      ((lone n).pcpus[p]?).bind ((lone n).pcpuViolation p)) = none := by
    refine List.findSome?_eq_none_iff.mpr fun p _ => ?_
    unfold lone
    rw [List.getElem?_replicate]
    split_ifs <;> rfl
  unfold firstViolation
  rw [idle]
  rfl

theorem capacity_lone (n : Nat) : capacity (lone n) = 2 * n + 2 := by
  have total : ((Words.range16 (lone n).domainCount).map (lone n).vcpuCount).sum = 1 := rfl
  unfold capacity
  rw [total, lone, List.length_replicate]
  omega

theorem next_lone {n : Nat} (some : 0 < n) (narrow : 2 * n + 2 ≤ 2 ^ 32) (s : Scheduler)
    (now : Ticks) : s.next (lone n) now ≠ .idle := by
  intro idle
  have length : (lone n).pcpus.length = n := List.length_replicate
  have domains : (lone n).domainCount < 2 ^ 16 := by
    change 1 < 2 ^ 16
    decide
  have vcpus : ∀ d, (lone n).vcpuCount d < 2 ^ 32 := by
    intro d
    have below := width_lt_capacity domains d.toNat
    rw [capacity_lone] at below
    exact lt_of_lt_of_le below narrow
  have settled := settled_of_idle domains vcpus (by rw [length]; omega) idle
  have free : (lone n).occupant 0 = none := by
    refine occupant_of_vacant ?_
    change (List.replicate n (none : Option (DomId × Vcpu)))[0]? = _
    rw [List.getElem?_replicate, if_pos some]
  have permitted := settled.2 0 0 0 rfl (by rw [length]; exact some) free
  cases permitted

/-- With `2^31 - 1` physical CPUs and one vCPU the cap is `2^32`, which is 0 as a 32-bit word: the
loop does nothing, though the vCPU could be placed. -/
theorem advance_capped :
    (lone (2 ^ 31 - 1)).firstViolation = none ∧ (lone (2 ^ 31 - 1)).domainCount ≤ 65535 ∧
      0 < (Scheduler.new 1 1 1).quantum ∧
      ((Scheduler.new 1 1 1).advance (lone (2 ^ 31 - 1)) 0).1.next
        ((Scheduler.new 1 1 1).advance (lone (2 ^ 31 - 1)) 0).2.1 0 ≠ .idle ∧
      ¬SettlesWithin (Scheduler.new 1 1 1) (lone (2 ^ 31 - 1)) 0 := by
  obtain ⟨n, size⟩ : ∃ n, n = 2 ^ 31 - 1 := ⟨_, rfl⟩
  rw [← size]
  have none : limit (lone n) = 0 := by
    rw [limit, capacity_lone, size]
    decide
  have still : ((Scheduler.new 1 1 1).advance (lone n) 0).2.1 = lone n := by
    unfold advance
    rw [none]
    rfl
  have busy : ((Scheduler.new 1 1 1).advance (lone n) 0).1.next
      ((Scheduler.new 1 1 1).advance (lone n) 0).2.1 0 ≠ .idle := by
    rw [still]
    exact next_lone (by rw [size]; decide) (by rw [size]; decide) _ _
  refine ⟨lone_checked n, ?_, Nat.zero_lt_one, busy, fun settles => busy settles.idle⟩
  change 1 ≤ 65535
  decide

end Baleen.Policy.Scheduler
