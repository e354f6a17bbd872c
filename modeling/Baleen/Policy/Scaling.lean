import Baleen.Policy.SinglePcpu
import Baleen.Policy.Useful
import Baleen.Policy.Overflow

/-!
# Scale invariance

Weights matter by their ratios alone: a policy whose weights are all multiplied by one factor
compares shares in the same way and puts wakers at the same offset, so a run of it takes the
same decisions.  The relation of the two policies is a function, `scale`, that every step
commutes with.
-/

namespace Baleen.Policy

open Sched Sched.System

variable {c : Nat}

def Share.scale (c : Nat) (a : Share) : Share := ⟨a.service, c * a.weight⟩

theorem Share.Exact.of_scale (positive : 0 < c) {a b : Share}
    (exact : (a.scale c).Exact (b.scale c)) : a.Exact b := by
  have unscale : ∀ m w : Nat, m * (c * w) ≤ U128_MAX → m * w ≤ U128_MAX := by
    intro m w fits
    calc m * w ≤ m * (c * w) := Nat.mul_le_mul_left m (Nat.le_mul_of_pos_left w positive)
      _ ≤ U128_MAX := fits
  exact ⟨unscale _ _ exact.left, unscale _ _ exact.right⟩

theorem moreDeserving_scale (positive : 0 < c) {a b : Share}
    (exact : (a.scale c).Exact (b.scale c)) :
    moreDeserving (a.scale c) (b.scale c) = moreDeserving a b := by
  rw [Bool.eq_iff_iff, exact.iff, (exact.of_scale positive).iff]
  change a.service * (c * b.weight) < b.service * (c * a.weight) ↔ _
  rw [Nat.mul_left_comm a.service, Nat.mul_left_comm b.service]
  exact Nat.mul_lt_mul_left positive

theorem floorService_scale (positive : 0 < c) {f a : Share}
    (exact : (f.scale c).service * (a.scale c).weight ≤ U128_MAX) :
    Scheduler.floorService (f.scale c) (a.scale c).weight = Scheduler.floorService f a.weight := by
  have exact' : f.service * a.weight ≤ U128_MAX :=
    (Nat.mul_le_mul_left _ (Nat.le_mul_of_pos_left a.weight positive)).trans exact
  unfold Scheduler.floorService saturatingMul
  rw [Nat.min_eq_left exact, Nat.min_eq_left exact']
  change f.service * (c * a.weight) / (c * f.weight) = _
  rw [Nat.mul_left_comm]
  exact Nat.mul_div_mul_left _ _ positive

namespace Scheduler

variable {s : Scheduler} {sys sys' : System} {now : Ticks} {dom : DomId} {v : Vcpu}

/-- A weight after the clamp, multiplied. -/
def scaleWeight (c : Nat) (w : UInt32) : UInt32 := UInt32.ofNat (c * (max w MIN_WEIGHT).toNat)

def scale (c : Nat) (s : Scheduler) : Scheduler :=
  { s with weights := s.weights.map fun row => row.map (scaleWeight c) }

/-- Every scaled weight is a 32-bit word. -/
def Fits (c : Nat) (s : Scheduler) : Prop :=
  ∀ d w weight, s.weights.get? d w = some weight → c * (max weight MIN_WEIGHT).toNat < 2 ^ 32

/-- The policy has a weight for every vCPU that its loops visit. -/
def Sized (s : Scheduler) (sys : System) : Prop :=
  ∀ i ∈ sys.visits, (s.weights.get? i.1.toNat i.2.toNat).isSome

theorem clamped_pos (w : UInt32) : 0 < (max w MIN_WEIGHT).toNat := by
  have least : MIN_WEIGHT ≤ max w MIN_WEIGHT := by
    rw [UInt32.le_iff_toNat_le, UInt32.toNat_max]
    exact Nat.le_max_right _ _
  exact Nat.lt_of_lt_of_le Nat.zero_lt_one (UInt32.le_iff_toNat_le.mp least)

/-- The clamp does nothing to a scaled weight. -/
theorem clamp_scaleWeight (positive : 0 < c) {w : UInt32}
    (fits : c * (max w MIN_WEIGHT).toNat < 2 ^ 32) :
    (max (scaleWeight c w) MIN_WEIGHT).toNat = c * (max w MIN_WEIGHT).toNat := by
  have word : (scaleWeight c w).toNat = c * (max w MIN_WEIGHT).toNat := Words.toNat_ofNat32 fits
  rw [UInt32.toNat_max, word]
  exact Nat.max_eq_left (Nat.mul_pos positive (clamped_pos w))

theorem weightOf_scale (positive : 0 < c) (fits : Fits c s)
    (known : (s.weights.get? dom.toNat v.toNat).isSome) :
    (s.scale c).weightOf dom v = c * s.weightOf dom v := by
  obtain ⟨w, cell⟩ := Option.isSome_iff_exists.mp known
  rw [weightOf, weightOf, scale, Grid.get?_map, cell]
  exact clamp_scaleWeight positive (fits _ _ w cell)

/-- Who may be the floor. -/
theorem mem_established {d : Unit × Share} (member : d ∈ sys.visits.filterMap fun (dom, v) =>
    if schedulable sys dom v && s.wasSchedulableOf dom v then some ((), s.share sys dom v now)
    else none) :
    ∃ i ∈ sys.visits, schedulable sys i.1 i.2 = true ∧ d = ((), s.share sys i.1 i.2 now) := by
  obtain ⟨i, visited, chosen⟩ := List.mem_filterMap.mp member
  obtain ⟨dom, v⟩ := i
  dsimp only at chosen
  split_ifs at chosen with established
  exact ⟨(dom, v), visited, (Bool.and_eq_true_iff.mp established).1, (Option.some.inj chosen).symm⟩

theorem floor_spec {f : Share} (least : s.floor sys now = some f) :
    ∃ i ∈ sys.visits, schedulable sys i.1 i.2 = true ∧ f = s.share sys i.1 i.2 now := by
  obtain ⟨d, chosen, rfl⟩ := Option.map_eq_some_iff.mp least
  obtain ⟨i, visited, pool, rfl⟩ := mem_established (Choose.mem_of_best chosen)
  exact ⟨i, visited, pool, rfl⟩

/-- What the comparisons rest on: the shares of the pool are scaled, and compared exactly. -/
structure Scaled (c : Nat) (s : Scheduler) (sys : System) (now : Ticks) : Prop where
  positive : 0 < c
  fits : Fits c s
  sized : Sized s sys
  exact : Unsaturated (s.scale c) sys now

namespace Scaled

variable (scaled : Scaled c s sys now)

include scaled

theorem weightOf {i : DomId × Vcpu} (visited : i ∈ sys.visits) :
    (s.scale c).weightOf i.1 i.2 = c * s.weightOf i.1 i.2 :=
  weightOf_scale scaled.positive scaled.fits (scaled.sized i visited)

theorem share {i : DomId × Vcpu} (visited : i ∈ sys.visits) :
    (s.scale c).share sys i.1 i.2 now = (s.share sys i.1 i.2 now).scale c := by
  rw [Scheduler.share, scaled.weightOf visited]
  rfl

theorem moreDeserving {i j : DomId × Vcpu} (visitedI : i ∈ sys.visits) (visitedJ : j ∈ sys.visits)
    (poolI : schedulable sys i.1 i.2 = true) (poolJ : schedulable sys j.1 j.2 = true) :
    moreDeserving ((s.share sys i.1 i.2 now).scale c) ((s.share sys j.1 j.2 now).scale c) =
      moreDeserving (s.share sys i.1 i.2 now) (s.share sys j.1 j.2 now) := by
  refine moreDeserving_scale scaled.positive ⟨?_, ?_⟩
  · rw [← scaled.share visitedI, ← scaled.share visitedJ]
    exact scaled.exact i visitedI j visitedJ poolI poolJ
  · rw [← scaled.share visitedI, ← scaled.share visitedJ]
    exact scaled.exact j visitedJ i visitedI poolJ poolI

theorem placements : (s.scale c).placements sys now =
    (s.placements sys now).map fun d => (d.1, d.2.scale c) := by
  rw [Scheduler.placements, Scheduler.placements, List.map_filterMap]
  apply List.filterMap_congr
  rintro ⟨dom, v⟩ visited
  dsimp only
  split_ifs with ready
  · rw [scaled.share visited, Option.map_map]
    rfl
  · rfl

theorem bestPlacement : (s.scale c).bestPlacement sys now = s.bestPlacement sys now := by
  rw [Scheduler.bestPlacement, Scheduler.bestPlacement, scaled.placements]
  apply Choose.best_map_fst (Share.scale c)
  rintro ⟨⟨d, w, p⟩, a⟩ first ⟨⟨d', w', p'⟩, b⟩ second
  obtain ⟨visited, ready, -, rfl⟩ := mem_placements.mp first
  obtain ⟨visited', ready', -, rfl⟩ := mem_placements.mp second
  have duel := scaled.moreDeserving visited visited' (schedulable_of_stateOf ready)
    (schedulable_of_stateOf ready')
  exact duel

theorem someAffineWaiterBeats {i : DomId × Vcpu} (visited : i ∈ sys.visits)
    (pool : schedulable sys i.1 i.2 = true) (p : Pcpu) :
    (s.scale c).someAffineWaiterBeats sys p ((s.share sys i.1 i.2 now).scale c) now =
      s.someAffineWaiterBeats sys p (s.share sys i.1 i.2 now) now := by
  unfold Scheduler.someAffineWaiterBeats
  rw [Bool.eq_iff_iff, List.any_eq_true, List.any_eq_true]
  apply exists_congr
  rintro ⟨dom, v⟩
  refine and_congr_right fun waits => ?_
  dsimp only
  by_cases ready : sys.stateOf dom v = some .runnable
  · have duel := scaled.moreDeserving waits visited (schedulable_of_stateOf ready) pool
    rw [scaled.share waits, duel]
  · simp [ready]

theorem preemptions : (s.scale c).preemptions sys now =
    (s.preemptions sys now).map fun d => (d.1, d.2.scale c) := by
  rw [Scheduler.preemptions, Scheduler.preemptions, List.map_filterMap]
  apply List.filterMap_congr
  rintro ⟨dom, v⟩ visited
  dsimp only
  cases running : sys.stateOf dom v with
  | none => rfl
  | some state =>
      cases state with
      | running p =>
          have pool : schedulable sys dom v = true := by rw [schedulable, running]
          dsimp only
          rw [scaled.share visited, scaled.someAffineWaiterBeats visited pool]
          change (if (s.expired sys dom v now && _) = true then _ else none) = _
          split_ifs <;> rfl
      | _ => rfl

theorem bestPreemption : (s.scale c).bestPreemption sys now = s.bestPreemption sys now := by
  rw [Scheduler.bestPreemption, Scheduler.bestPreemption, scaled.preemptions]
  apply Choose.best_map_fst (Share.scale c)
  rintro ⟨⟨d, w, p⟩, a⟩ first ⟨⟨d', w', p'⟩, b⟩ second
  obtain ⟨visited, running, -, -, rfl⟩ := mem_preemptions.mp first
  obtain ⟨visited', running', -, -, rfl⟩ := mem_preemptions.mp second
  have duel := scaled.moreDeserving visited' visited (by rw [schedulable, running'])
    (by rw [schedulable, running])
  exact duel

theorem next : (s.scale c).next sys now = s.next sys now := by
  rw [Scheduler.next, Scheduler.next, scaled.bestPlacement, scaled.bestPreemption]

theorem floor : (s.scale c).floor sys now = (s.floor sys now).map (Share.scale c) := by
  rw [Scheduler.floor, Scheduler.floor]
  have candidates : (sys.visits.filterMap fun (dom, v) =>
      if schedulable sys dom v && (s.scale c).wasSchedulableOf dom v then
        some ((), (s.scale c).share sys dom v now) else none) =
      (sys.visits.filterMap fun (dom, v) =>
        if schedulable sys dom v && s.wasSchedulableOf dom v then
          some ((), s.share sys dom v now) else none).map fun d => (d.1, d.2.scale c) := by
    rw [List.map_filterMap]
    apply List.filterMap_congr
    rintro ⟨dom, v⟩ visited
    dsimp only
    rw [scaled.share visited]
    change (if (schedulable sys dom v && s.wasSchedulableOf dom v) = true then _ else none) = _
    split_ifs <;> rfl
  rw [candidates, Choose.best_map (Share.scale c) ?_, Option.map_map, Option.map_map]
  · rfl
  intro d first e second
  obtain ⟨i, visited, pool, rfl⟩ := mem_established first
  obtain ⟨j, visited', pool', rfl⟩ := mem_established second
  have duel := scaled.moreDeserving visited visited' pool pool'
  exact duel

/-- The service that puts a waker at the floor. -/
theorem target {f : Share} (least : s.floor sys now = some f) {i : DomId × Vcpu}
    (visited : i ∈ sys.visits) (pool : schedulable sys i.1 i.2 = true) :
    floorService (f.scale c) (c * s.weightOf i.1 i.2) = floorService f (s.weightOf i.1 i.2) := by
  obtain ⟨j, established, pool', rfl⟩ := floor_spec least
  have product := scaled.exact j established i visited pool' pool
  rw [scaled.share established, scaled.share visited] at product
  have same := floorService_scale scaled.positive product
  exact same

theorem placeWaker {x : Scheduler} (weights : x.weights = s.weights) {i : DomId × Vcpu}
    (visited : i ∈ sys.visits) :
    placeWaker sys ((s.floor sys now).map (Share.scale c)) (x.scale c) i =
      (placeWaker sys (s.floor sys now) x i).scale c := by
  obtain ⟨dom, v⟩ := i
  cases least : s.floor sys now with
  | none => rfl
  | some f =>
      rw [Option.map_some]
      simp only [Scheduler.placeWaker]
      change setWasSchedulable (if (schedulable sys dom v && !x.wasSchedulableOf dom v &&
        x.wakeBoost) = true then _ else _) dom v _ = _
      split_ifs with woke
      · have pool : schedulable sys dom v = true := by
          rw [Bool.and_eq_true, Bool.and_eq_true] at woke
          exact woke.1.1
        have same : x.weightOf dom v = s.weightOf dom v := by
          rw [Scheduler.weightOf, weights, ← Scheduler.weightOf]
        have copied : (x.scale c).weightOf dom v = (s.scale c).weightOf dom v := by
          simp only [Scheduler.weightOf, scale, weights]
        have weight := scaled.weightOf visited
        have target := scaled.target least visited pool
        rw [copied, weight, target, ← same]
        rfl
      · rfl

theorem account : (s.scale c).account sys now = (s.account sys now).scale c := by
  have visit : ∀ l : List (DomId × Vcpu), (∀ i ∈ l, i ∈ sys.visits) → ∀ x : Scheduler,
      x.weights = s.weights →
      l.foldl (Scheduler.placeWaker sys ((s.floor sys now).map (Share.scale c))) (x.scale c) =
        (l.foldl (Scheduler.placeWaker sys (s.floor sys now)) x).scale c := by
    intro l
    induction l with
    | nil => exact fun _ _ _ => rfl
    | cons i l ih =>
        intro visited x weights
        rw [List.foldl_cons, List.foldl_cons,
          scaled.placeWaker weights (visited i List.mem_cons_self)]
        refine ih (fun j member => visited j (List.mem_cons_of_mem _ member)) _ ?_
        exact (placeWaker_settings sys _ x i).1.trans weights
  unfold Scheduler.account
  rw [scaled.floor]
  exact visit sys.visits (fun _ member => member) s rfl

end Scaled

theorem enact_sizes (enacted : enact now sys (s.next sys now) = some sys') :
    SameSizes sys sys' := by
  rcases next_cases s sys now with ⟨_, _, _, _, _, -, -, ran, moved⟩ |
    ⟨_, _, _, _, _, -, -, ran, moved⟩ | ⟨-, -, -, rest⟩
  · obtain rfl := Option.some.inj (ran.symm.trans enacted)
    exact moved.sizes
  · obtain rfl := Option.some.inj (ran.symm.trans enacted)
    exact moved.sizes
  · cases rest.symm.trans enacted

theorem Sized.congr (sized : Sized s sys) (same : SameSizes sys sys') : Sized s sys' := by
  intro i visited
  rw [same.visits] at visited
  exact sized i visited

theorem settle_scale (positive : 0 < c) (fits : Fits c s) (fuel : Nat) (sized : Sized s sys)
    (exact : ∀ sys' ∈ passes (s.scale c) now fuel sys, Unsaturated (s.scale c) sys' now) :
    settle (s.scale c) now fuel sys = settle s now fuel sys ∧
      trail (s.scale c) now fuel sys = trail s now fuel sys := by
  induction fuel generalizing sys with
  | zero => exact ⟨rfl, rfl⟩
  | succ fuel ih =>
      have first : Unsaturated (s.scale c) sys now := by
        refine exact sys ?_
        unfold passes
        split <;> exact List.mem_cons_self
      have scaled : Scaled c s sys now := ⟨positive, fits, sized, first⟩
      unfold settle trail
      unfold passes at exact
      rw [scaled.next] at exact ⊢
      cases enacted : enact now sys (s.next sys now) with
      | none => exact ⟨rfl, rfl⟩
      | some sys' =>
          rw [enacted] at exact
          obtain ⟨settled, trailed⟩ := ih (sized.congr (enact_sizes enacted))
            fun sys'' member => exact sys'' (List.mem_cons_of_mem _ member)
          simp only [settled, trailed, and_self]

/-- The condition on a tick: no product saturates, neither in the bookkeeping nor in a decision. -/
structure Exact (s : Scheduler) (sys : System) (now : Ticks) : Prop where
  floor : Unsaturated s sys now
  decisions : ∀ sys' ∈ passes (s.account sys now) now (limit sys) sys,
    Unsaturated (s.account sys now) sys' now

theorem fits_account (fits : Fits c s) : Fits c (s.account sys now) := by
  unfold Fits
  rw [(s.account_settings sys now).1]
  exact fits

theorem Sized.account (sized : Sized s sys) : Sized (s.account sys now) sys := by
  unfold Sized
  rw [(s.account_settings sys now).1]
  exact sized

theorem advance_scale (positive : 0 < c) (fits : Fits c s) (sized : Sized s sys)
    (exact : Exact (s.scale c) sys now) :
    (s.scale c).advance sys now =
        ((s.advance sys now).1.scale c, (s.advance sys now).2.1, (s.advance sys now).2.2) ∧
      trail ((s.scale c).account sys now) now (limit sys) sys =
        trail (s.account sys now) now (limit sys) sys := by
  have scaled : Scaled c s sys now := ⟨positive, fits, sized, exact.floor⟩
  have decisions := exact.decisions
  rw [scaled.account] at decisions
  obtain ⟨settled, trailed⟩ := settle_scale positive (fits_account fits) (limit sys)
    sized.account decisions
  unfold advance
  simp only [scaled.account, settled, trailed, and_self]

theorem setWeight_scale (positive : 0 < c) (dom : DomId) (v : Vcpu) {w : UInt32}
    (fits : c * (max w MIN_WEIGHT).toNat < 2 ^ 32) :
    (s.scale c).setWeight dom v (scaleWeight c w) = (s.setWeight dom v w).scale c := by
  have twice : max (max w MIN_WEIGHT) MIN_WEIGHT = max w MIN_WEIGHT := by
    rw [← UInt32.toNat_inj, UInt32.toNat_max, UInt32.toNat_max]
    omega
  have clamped : max (scaleWeight c w) MIN_WEIGHT = scaleWeight c (max w MIN_WEIGHT) := by
    rw [← UInt32.toNat_inj, clamp_scaleWeight positive fits, scaleWeight, twice]
    exact (Words.toNat_ofNat32 fits).symm
  rw [setWeight, clamped]
  unfold setWeight scale
  rw [Grid.map_set]

theorem fits_setWeight (fits : Fits c s) (dom : DomId) (v : Vcpu) {w : UInt32}
    (small : c * (max w MIN_WEIGHT).toNat < 2 ^ 32) : Fits c (s.setWeight dom v w) := by
  intro i j weight cell
  rw [setWeight, Grid.get?_set] at cell
  split_ifs at cell
  · obtain ⟨_, -, rfl⟩ := Option.map_eq_some_iff.mp cell
    have twice : (max (max w MIN_WEIGHT) MIN_WEIGHT).toNat = (max w MIN_WEIGHT).toNat := by
      rw [UInt32.toNat_max, UInt32.toNat_max]
      omega
    rwa [twice]
  · exact fits i j weight cell

theorem Sized.setWeight (sized : Sized s sys) (dom : DomId) (v : Vcpu) (w : UInt32) :
    Sized (s.setWeight dom v w) sys := by
  intro i visited
  rw [Scheduler.setWeight, Grid.get?_set]
  split_ifs with here
  · rw [here.1, here.2, Option.isSome_map]
    exact sized i visited
  · exact sized i visited

end Scheduler

end Baleen.Policy

namespace Baleen.Policy

open Sched Scheduler

variable {c : Nat}

namespace Act

def scale (c : Nat) : Act → Act
  | .setWeight dom v weight => .setWeight dom v (scaleWeight c weight)
  | a => a

/-- The scaled weight is a 32-bit word. -/
def Fits (c : Nat) : Act → Prop
  | .setWeight _ _ weight => c * (max weight MIN_WEIGHT).toNat < 2 ^ 32
  | _ => True

end Act

namespace Machine

def scale (c : Nat) (m : Machine) : Machine := ⟨m.policy.scale c, m.sys⟩

/-- No product saturates in the step. -/
def Exact (m : Machine) : Act → Prop
  | .advance now => m.policy.Exact m.sys now.toNat
  | _ => True

/-- No product saturates in any step of a run. -/
def ExactRun (m : Machine) : List Act → Prop
  | [] => True
  | a :: acts => m.Exact a ∧ (m.act a).2.ExactRun acts

/-- A check of one tick. -/
theorem exact_of_all {s : Scheduler} {sys : System} {now : Ticks}
    (before : (sys.visits.all fun i => sys.visits.all fun j =>
      decide ((s.share sys i.1 i.2 now).service * (s.share sys j.1 j.2 now).weight ≤ U128_MAX)) =
        true)
    (after : ((passes (s.account sys now) now (limit sys) sys).all fun x =>
      x.visits.all fun i => x.visits.all fun j =>
        decide (((s.account sys now).share x i.1 i.2 now).service *
          ((s.account sys now).share x j.1 j.2 now).weight ≤ U128_MAX)) = true) :
    Scheduler.Exact s sys now :=
  ⟨unsaturated_of_all before, fun x member =>
    unsaturated_of_all (List.all_eq_true.mp after x member)⟩

/-- All weights can be scaled. -/
structure Scalable (c : Nat) (m : Machine) : Prop where
  fits : m.policy.Fits c
  sized : m.policy.Sized m.sys

theorem Scalable.act {m : Machine} (scalable : m.Scalable c) {a : Act} (fits : a.Fits c) :
    (m.act a).2.Scalable c := by
  cases a with
  | setWeight dom v weight =>
      exact ⟨fits_setWeight scalable.fits dom v fits, scalable.sized.setWeight dom v weight⟩
  | setWakeBoost enabled => exact ⟨scalable.fits, scalable.sized⟩
  | advance now =>
      exact ⟨fits_account scalable.fits, scalable.sized.account.congr (settle_sizes _ _ _ _)⟩
  | operate op => exact ⟨scalable.fits, scalable.sized.congr (op.sizes m.sys)⟩

/-- Scaling commutes with every step. -/
theorem act_scale (positive : 0 < c) {m : Machine} (scalable : m.Scalable c) {a : Act}
    (fits : a.Fits c) (exact : (m.scale c).Exact (a.scale c)) :
    (m.scale c).act (a.scale c) = ((m.act a).1, (m.act a).2.scale c) := by
  cases a with
  | setWeight dom v weight =>
      have same := m.policy.setWeight_scale positive dom v fits
      simp only [act, Act.scale, scale, same]
  | setWakeBoost enabled => rfl
  | advance now =>
      obtain ⟨advanced, trailed⟩ := advance_scale positive scalable.fits scalable.sized exact
      simp only [act, Act.scale, scale, decisions, advanced, trailed]
  | operate op => rfl

/-- A run under scaled weights takes the same decisions, and ends in the same tables and
offsets. -/
theorem run_scale (positive : 1 ≤ c) (m : Machine) (acts : List Act) (fits : m.policy.Fits c)
    (sized : m.policy.Sized m.sys) (fitActs : ∀ a ∈ acts, a.Fits c)
    (exact : (m.scale c).ExactRun (acts.map (Act.scale c))) :
    (m.scale c).outcomes (acts.map (Act.scale c)) = m.outcomes acts ∧
      ((m.scale c).run (acts.map (Act.scale c))).sys = (m.run acts).sys ∧
      ((m.scale c).run (acts.map (Act.scale c))).policy.offset = (m.run acts).policy.offset := by
  suffices simulation : (m.scale c).outcomes (acts.map (Act.scale c)) = m.outcomes acts ∧
      (m.scale c).run (acts.map (Act.scale c)) = (m.run acts).scale c by
    rw [simulation.2]
    exact ⟨simulation.1, rfl, rfl⟩
  have scalable : m.Scalable c := ⟨fits, sized⟩
  clear fits sized
  induction acts generalizing m with
  | nil => exact ⟨rfl, rfl⟩
  | cons a acts ih =>
      have fit := fitActs a List.mem_cons_self
      have step := act_scale positive scalable fit exact.1
      have rest := exact.2
      rw [step] at rest
      obtain ⟨outcomes, state⟩ := ih (m.act a).2
        (fun b member => fitActs b (List.mem_cons_of_mem _ member)) rest (scalable.act fit)
      rw [List.map_cons, Machine.outcomes, Machine.outcomes, run_cons, run_cons, step]
      exact ⟨congrArg ((m.act a).1 :: ·) outcomes, state⟩

/-- A new policy has the least weight everywhere. -/
theorem fits_new (small : c < 2 ^ 32) (domains vcpus : Nat) (quantum : Ticks) :
    (Scheduler.new domains vcpus quantum).Fits c := by
  intro d w weight cell
  rw [Scheduler.new, Grid.get?_fill] at cell
  split_ifs at cell
  obtain rfl := Option.some.inj cell
  have least : (max MIN_WEIGHT MIN_WEIGHT).toNat = 1 := by decide
  rw [least, Nat.mul_one]
  exact small

/-- Two vCPUs of weights 1 and 2, of which one sleeps and wakes. -/
def naps : List Act :=
  [.setWeight 0 1 2, .operate (.admitVcpu 0 0), .operate (.admitVcpu 0 1), .advance 0, .advance 5,
    .operate (.block 0 0 6), .operate (.wake 0 0), .advance 9]

theorem run_scale_naps :
    (scale 3 ⟨Scheduler.new 1 2 2, System.new 1 2 1⟩).outcomes (naps.map (Act.scale 3)) =
        outcomes ⟨Scheduler.new 1 2 2, System.new 1 2 1⟩ naps ∧
      ((scale 3 ⟨Scheduler.new 1 2 2, System.new 1 2 1⟩).run (naps.map (Act.scale 3))).sys =
        (run ⟨Scheduler.new 1 2 2, System.new 1 2 1⟩ naps).sys ∧
      ((scale 3 ⟨Scheduler.new 1 2 2, System.new 1 2 1⟩).run
        (naps.map (Act.scale 3))).policy.offset =
          (run ⟨Scheduler.new 1 2 2, System.new 1 2 1⟩ naps).policy.offset := by
  refine run_scale (by decide) _ naps (fits_new (c := 3) (by decide) 1 2 2) ?_ ?_ ?_
  · intro i visited
    have all : ((System.new 1 2 1).visits.all fun i =>
        ((Scheduler.new 1 2 2).weights.get? i.1.toNat i.2.toNat).isSome) = true := by
      decide +kernel
    exact List.all_eq_true.mp all i visited
  · intro a member
    simp only [naps, List.mem_cons, List.not_mem_nil, or_false] at member
    rcases member with rfl | rfl | rfl | rfl | rfl | rfl | rfl | rfl
    · change 3 * (max (2 : UInt32) MIN_WEIGHT).toNat < 2 ^ 32
      decide
    all_goals exact trivial
  · exact ⟨trivial, trivial, trivial, exact_of_all (by decide +kernel) (by decide +kernel),
      exact_of_all (by decide +kernel) (by decide +kernel), trivial, trivial,
      exact_of_all (by decide +kernel) (by decide +kernel), trivial⟩

/-- Two vCPUs under a policy that has a weight for the first one only. -/
def unweighted : List Act :=
  [.setWeight 0 0 1, .operate (.admitVcpu 0 0), .operate (.admitVcpu 0 1), .advance 0, .advance 1,
    .advance 2]

/-- The weight that is missing is not multiplied: the scaled run preempts where the other does not.
-/
theorem run_scale_unweighted :
    let m : Machine := ⟨Scheduler.new 1 1 1, System.new 1 2 1⟩
    m.policy.Fits 3 ∧ (∀ a ∈ unweighted, a.Fits 3) ∧
      (m.scale 3).ExactRun (unweighted.map (Act.scale 3)) ∧
      ((m.scale 3).run (unweighted.map (Act.scale 3))).sys ≠ (m.run unweighted).sys := by
  refine ⟨fits_new (c := 3) (by decide) 1 1 1, fun a member => ?_, ?_, by decide +kernel⟩
  · simp only [unweighted, List.mem_cons, List.not_mem_nil, or_false] at member
    rcases member with rfl | rfl | rfl | rfl | rfl | rfl
    · change 3 * (max (1 : UInt32) MIN_WEIGHT).toNat < 2 ^ 32
      decide
    all_goals exact trivial
  · exact ⟨trivial, trivial, trivial, exact_of_all (by decide +kernel) (by decide +kernel),
      exact_of_all (by decide +kernel) (by decide +kernel),
      exact_of_all (by decide +kernel) (by decide +kernel), trivial⟩

end Machine

end Baleen.Policy
