import Baleen.Policy.Shares
import Baleen.Policy.Histories

/-!
# Wakers

A vCPU that enters the runnable pool is placed at the floor.  The offset that does so is taken
over its closed intervals alone, in place of the offset it had: a vCPU that stood above the
floor by an earlier offset falls back.
-/

namespace Baleen.Policy.Scheduler

open Sched Sched.System

variable {s : Scheduler} {sys : System} {now : Ticks} {dom : DomId} {v : Vcpu}

/-- The interval that a runner has not closed yet. -/
def inFlight (sys : System) (dom : DomId) (v : Vcpu) (now : Ticks) : Nat :=
  ((sys.onCpuSince dom v).map fun since => now - since).getD 0

/-- The service that a vCPU is ranked by, without a bound on the sum. -/
def effective (s : Scheduler) (sys : System) (dom : DomId) (v : Vcpu) (now : Ticks) : Nat :=
  (sys.runtime dom v).getD 0 + inFlight sys dom v now + s.offsetOf dom v

/-- The vCPU entered the pool after the last snapshot. -/
def Woken (s : Scheduler) (sys : System) (dom : DomId) (v : Vcpu) : Prop :=
  schedulable sys dom v = true ∧ s.wasSchedulableOf dom v = false

instance (s : Scheduler) (sys : System) (dom : DomId) (v : Vcpu) :
    Decidable (Woken s sys dom v) := instDecidableAnd

/-- The bookkeeping reaches the vCPU and has a cell for its offset. -/
def Placed (s : Scheduler) (sys : System) (dom : DomId) (v : Vcpu) : Prop :=
  (dom, v) ∈ sys.visits ∧ (s.offset.get? dom.toNat v.toNat).isSome

instance (s : Scheduler) (sys : System) (dom : DomId) (v : Vcpu) :
    Decidable (Placed s sys dom v) := instDecidableAnd

/-- A visit leaves the cells of the other vCPUs alone. -/
theorem placeWaker_other {floor : Option Share} {i : DomId × Vcpu} (other : i ≠ (dom, v)) :
    (placeWaker sys floor s i).offset.get? dom.toNat v.toNat = s.offset.get? dom.toNat v.toNat ∧
      (placeWaker sys floor s i).wasSchedulableOf dom v = s.wasSchedulableOf dom v := by
  obtain ⟨d, w⟩ := i
  have apart : d.toNat = dom.toNat → w.toNat ≠ v.toNat := by
    intro same clash
    exact other (Prod.ext (UInt16.toNat_inj.mp same) (UInt32.toNat_inj.mp clash))
  obtain ⟨offset, same, moved⟩ := placeWaker_cases sys floor s d w
  rw [same]
  constructor
  · rcases moved with rfl | ⟨-, -, -, value, rfl⟩
    · rfl
    · exact Grid.get?_set_other apart
  · unfold wasSchedulableOf
    rw [Grid.get?_set_other apart]

theorem placeWaker_settings (sys : System) (floor : Option Share) (s : Scheduler)
    (i : DomId × Vcpu) : (placeWaker sys floor s i).weights = s.weights ∧
      (placeWaker sys floor s i).wakeBoost = s.wakeBoost := by
  obtain ⟨dom, v⟩ := i
  obtain ⟨offset, same, -⟩ := placeWaker_cases sys floor s dom v
  rw [same]
  exact ⟨rfl, rfl⟩

/-- What the visits of others leave of a vCPU. -/
structure Untouched (s s' : Scheduler) (dom : DomId) (v : Vcpu) : Prop where
  offset : s'.offset.get? dom.toNat v.toNat = s.offset.get? dom.toNat v.toNat
  seen : s'.wasSchedulableOf dom v = s.wasSchedulableOf dom v
  weights : s'.weights = s.weights
  wakeBoost : s'.wakeBoost = s.wakeBoost

theorem untouched_foldl {floor : Option Share} {l : List (DomId × Vcpu)} (absent : (dom, v) ∉ l) :
    Untouched s (l.foldl (placeWaker sys floor) s) dom v := by
  refine foldl_placeWaker (Untouched s · dom v) ⟨rfl, rfl, rfl, rfl⟩ ?_
  intro x i member kept
  obtain ⟨offset, seen⟩ := @placeWaker_other x sys dom v floor i fun same => absent (same ▸ member)
  obtain ⟨weights, wakeBoost⟩ := placeWaker_settings sys floor x i
  exact ⟨offset.trans kept.offset, seen.trans kept.seen, weights.trans kept.weights,
    wakeBoost.trans kept.wakeBoost⟩

theorem visits_nodup (sys : System) : sys.visits.Nodup :=
  (pairwise_visits sys).imp fun before same => (same ▸ before).asymm (same ▸ before)

/-- The offset that the bookkeeping leaves at the vCPU that a visit is for. -/
def boosted (s : Scheduler) (sys : System) (floor : Option Share) (dom : DomId) (v : Vcpu) : Nat :=
  match floor with
  | some f =>
      if Woken s sys dom v ∧ s.wakeBoost = true ∧ (s.offset.get? dom.toNat v.toNat).isSome then
        floorService f (s.weightOf dom v) - (sys.runtime dom v).getD 0
      else s.offsetOf dom v
  | none => s.offsetOf dom v

theorem Untouched.boosted {s' : Scheduler} {floor : Option Share}
    (kept : Untouched s s' dom v) : boosted s' sys floor dom v = boosted s sys floor dom v := by
  have offset : s'.offsetOf dom v = s.offsetOf dom v := by rw [offsetOf, kept.offset, ← offsetOf]
  have weight : s'.weightOf dom v = s.weightOf dom v := by rw [weightOf, kept.weights, ← weightOf]
  have asleep : Woken s' sys dom v ↔ Woken s sys dom v := by rw [Woken, kept.seen, ← Woken]
  cases floor with
  | none => exact offset
  | some f =>
      unfold Scheduler.boosted
      refine if_congr ?_ (by rw [weight]) offset
      rw [asleep, kept.wakeBoost, kept.offset]

theorem offsetOf_placeWaker (s : Scheduler) (sys : System) (floor : Option Share) (dom : DomId)
    (v : Vcpu) : (placeWaker sys floor s (dom, v)).offsetOf dom v = boosted s sys floor dom v := by
  unfold placeWaker boosted
  cases floor with
  | none => rfl
  | some f =>
      dsimp only
      by_cases woken : Woken s sys dom v ∧ s.wakeBoost = true
      · obtain ⟨⟨pool, unseen⟩, on⟩ := woken
        have woke : (schedulable sys dom v && !s.wasSchedulableOf dom v && s.wakeBoost) = true := by
          rw [pool, unseen, on]
          rfl
        rw [if_pos woke]
        change ((s.offset.set dom.toNat v.toNat _).get? dom.toNat v.toNat).getD 0 = _
        rw [Grid.get?_set, if_pos ⟨rfl, rfl⟩]
        cases cell : s.offset.get? dom.toNat v.toNat with
        | none => simp [offsetOf, cell]
        | some old => simp [Woken, pool, unseen, on]
      · have asleep : ¬(schedulable sys dom v && !s.wasSchedulableOf dom v && s.wakeBoost) =
          true := by
          rw [Bool.and_eq_true, Bool.and_eq_true, Bool.not_eq_true']
          exact woken
        rw [if_neg asleep, if_neg fun h => woken ⟨h.1, h.2.1⟩]
        rfl

/-- The bookkeeping sets the offset of each waker it reaches, and no other. -/
theorem offsetOf_account (s : Scheduler) (sys : System) (now : Ticks) (dom : DomId) (v : Vcpu) :
    (s.account sys now).offsetOf dom v =
      if (dom, v) ∈ sys.visits then boosted s sys (s.floor sys now) dom v
      else s.offsetOf dom v := by
  unfold account
  split_ifs with visited
  · obtain ⟨earlier, later, split⟩ := List.append_of_mem visited
    have single := visits_nodup sys
    rw [split, List.nodup_middle, List.nodup_cons, List.mem_append, not_or] at single
    obtain ⟨⟨first, last⟩, -⟩ := single
    rw [split, List.foldl_append, List.foldl_cons]
    have before := @untouched_foldl s sys dom v (s.floor sys now) earlier first
    have after := fun x => @untouched_foldl x sys dom v (s.floor sys now) later last
    rw [offsetOf, (after _).offset, ← offsetOf, offsetOf_placeWaker, before.boosted]
  · rw [offsetOf, (untouched_foldl visited).offset, ← offsetOf]

/-- The bookkeeping lowers nobody, and leaves a waker where it stood or at the floor, whichever is
higher. -/
structure Kept (s : Scheduler) (sys : System) (now : Ticks) : Prop where
  kept : ∀ dom v, s.effective sys dom v now ≤ (s.account sys now).effective sys dom v now
  woken : s.wakeBoost = true → ∀ f, s.floor sys now = some f → ∀ dom v, Woken s sys dom v →
    (s.account sys now).effective sys dom v now =
      max (s.effective sys dom v now) (floorService f (s.weightOf dom v))

/-- A waker that is placed needs at least the offset that it has, and no more unless it has no open
interval; a waker that is not placed stands at the floor already. -/
def Rises (s : Scheduler) (sys : System) (now : Ticks) : Prop :=
  s.wakeBoost = true → ∀ f, s.floor sys now = some f → ∀ dom v, Woken s sys dom v →
    (Placed s sys dom v →
      s.offsetOf dom v ≤ floorService f (s.weightOf dom v) - (sys.runtime dom v).getD 0 ∧
        (floorService f (s.weightOf dom v) ≤ (sys.runtime dom v).getD 0 + s.offsetOf dom v ∨
          inFlight sys dom v now = 0)) ∧
    (¬Placed s sys dom v → floorService f (s.weightOf dom v) ≤ s.effective sys dom v now)

theorem offsetOf_account_placed {f : Share} (on : s.wakeBoost = true)
    (least : s.floor sys now = some f) (woken : Woken s sys dom v) (placed : Placed s sys dom v) :
    (s.account sys now).offsetOf dom v =
      floorService f (s.weightOf dom v) - (sys.runtime dom v).getD 0 := by
  rw [offsetOf_account, if_pos placed.1, least]
  exact if_pos ⟨woken, on, placed.2⟩

/-- The offset of a vCPU that is no waker, or that is not placed, stays. -/
theorem offsetOf_account_other (other : ¬(s.wakeBoost = true ∧ (∃ f, s.floor sys now = some f) ∧
    Woken s sys dom v ∧ Placed s sys dom v)) :
    (s.account sys now).offsetOf dom v = s.offsetOf dom v := by
  rw [offsetOf_account]
  split_ifs with visited
  · cases least : s.floor sys now with
    | none => rfl
    | some f =>
        refine if_neg ?_
        rintro ⟨woken, on, cell⟩
        exact other ⟨on, ⟨f, least⟩, woken, visited, cell⟩
  · rfl

/-- The bookkeeping never sheds service exactly when no waker needs less than the offset it has. -/
theorem account_kept_iff (s : Scheduler) (sys : System) (now : Ticks) :
    Kept s sys now ↔ Rises s sys now := by
  constructor
  · intro holds on f least dom v woken
    have after := holds.woken on f least dom v woken
    constructor
    · intro placed
      rw [effective, effective, offsetOf_account_placed on least woken placed] at after
      omega
    · intro unplaced
      rw [effective, effective, offsetOf_account_other fun h => unplaced h.2.2.2] at after
      unfold effective
      omega
  · intro rises
    have placed : s.wakeBoost = true → ∀ f, s.floor sys now = some f → ∀ dom v,
        Woken s sys dom v → (s.account sys now).effective sys dom v now =
          max (s.effective sys dom v now) (floorService f (s.weightOf dom v)) := by
      intro on f least dom v woken
      obtain ⟨inside, outside⟩ := rises on f least dom v woken
      by_cases placed : Placed s sys dom v
      · have enough := inside placed
        rw [effective, effective, offsetOf_account_placed on least woken placed]
        omega
      · have above := outside placed
        unfold effective at above ⊢
        rw [offsetOf_account_other fun h => placed h.2.2.2]
        omega
    refine ⟨fun dom v => ?_, placed⟩
    by_cases waker : s.wakeBoost = true ∧ (∃ f, s.floor sys now = some f) ∧
        Woken s sys dom v ∧ Placed s sys dom v
    · obtain ⟨on, ⟨f, least⟩, woken, -⟩ := waker
      rw [placed on f least dom v woken]
      exact Nat.le_max_left _ _
    · unfold effective
      rw [offsetOf_account_other waker]

/-- The third vCPU wakes beside a runner with 100 ticks, sleeps, and wakes beside one that has just
begun. -/
def twiceWoken : Machine :=
  Machine.run ⟨Scheduler.new 1 3 10, System.new 1 3 1⟩
    [.operate (.admitVcpu 0 0), .advance 0, .operate (.admitVcpu 0 2), .advance 100,
      .operate (.block 0 0 100), .operate (.block 0 2 100), .advance 100,
      .operate (.admitVcpu 0 1), .advance 100, .operate (.wake 0 2)]

theorem account_sheds : twiceWoken.sys.firstViolation = none ∧
    effective twiceWoken.policy twiceWoken.sys 0 2 100 = 100 ∧
    effective (twiceWoken.policy.account twiceWoken.sys 100) twiceWoken.sys 0 2 100 = 0 ∧
    ¬Kept twiceWoken.policy twiceWoken.sys 100 := by
  have before : effective twiceWoken.policy twiceWoken.sys 0 2 100 = 100 := by decide +kernel
  have after : effective (twiceWoken.policy.account twiceWoken.sys 100) twiceWoken.sys 0 2 100 =
    0 := by
    decide +kernel
  refine ⟨by decide +kernel, before, after, ?_⟩
  intro holds
  have kept := holds.kept 0 2
  rw [before, after] at kept
  exact absurd kept (by decide)

end Baleen.Policy.Scheduler
