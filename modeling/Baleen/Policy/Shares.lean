import Mathlib.Tactic.Ring
import Baleen.Lib.Choose
import Baleen.Policy.Decisions

/-!
# Shares and their order

Shares whose service and weight are machine words are compared exactly.  The loops visit the
vCPUs in lexicographic order, so that a tie goes to the earlier one.  The bookkeeping for
wakers leaves the service of vCPUs alone that never leave the runnable pool.
-/

namespace Baleen.Policy

open Sched Sched.System

/-- A share of at most a 64-bit service over a positive 32-bit weight. -/
structure Share.Small (a : Share) : Prop where
  service : a.service ≤ 2 ^ 64
  weight_pos : 0 < a.weight
  weight : a.weight < 2 ^ 32

/-- Neither product of a comparison saturates. -/
structure Share.Exact (a b : Share) : Prop where
  left : a.service * b.weight ≤ U128_MAX
  right : b.service * a.weight ≤ U128_MAX

theorem Share.Exact.symm {a b : Share} (exact : a.Exact b) : b.Exact a := ⟨exact.right, exact.left⟩

theorem Share.Exact.iff {a b : Share} (exact : a.Exact b) :
    moreDeserving a b = true ↔ a.service * b.weight < b.service * a.weight := by
  rw [moreDeserving, decide_eq_true_iff, saturatingMul, saturatingMul, Nat.min_eq_left exact.left,
    Nat.min_eq_left exact.right]

theorem Share.Small.exact {a b : Share} (small : a.Small) (small' : b.Small) : a.Exact b := by
  have fits : ∀ {x y : Share}, x.Small → y.Small → x.service * y.weight ≤ U128_MAX := by
    intro x y smallX smallY
    calc x.service * y.weight ≤ 2 ^ 64 * 2 ^ 32 := Nat.mul_le_mul smallX.service smallY.weight.le
      _ ≤ U128_MAX := by decide
  exact ⟨fits small small', fits small' small⟩

theorem moreDeserving_iff {a b : Share} (small : a.Small) (small' : b.Small) :
    moreDeserving a b = true ↔ a.service * b.weight < b.service * a.weight :=
  (small.exact small').iff

theorem moreDeserving_asymm (a b : Share) (less : moreDeserving a b = true) :
    moreDeserving b a = false := by
  rw [moreDeserving, decide_eq_true_iff] at less
  rw [moreDeserving, decide_eq_false_iff_not]
  exact less.asymm

/-- What is less than something is less than everything above it. -/
theorem moreDeserving_of_not {a b c : Share} (exactAB : a.Exact b) (exactCB : c.Exact b)
    (exactAC : a.Exact c) (positive : 0 < c.weight) (less : moreDeserving a b = true)
    (above : moreDeserving c b = false) : moreDeserving a c = true := by
  rw [exactAB.iff] at less
  rw [← Bool.not_eq_true, exactCB.iff, Nat.not_lt] at above
  rw [exactAC.iff]
  have scaled : a.service * c.weight * b.weight < c.service * a.weight * b.weight := by
    calc a.service * c.weight * b.weight = a.service * b.weight * c.weight := by ring
      _ < b.service * a.weight * c.weight := Nat.mul_lt_mul_of_pos_right less positive
      _ = b.service * c.weight * a.weight := by ring
      _ ≤ c.service * b.weight * a.weight := Nat.mul_le_mul_right _ above
      _ = c.service * a.weight * b.weight := by ring
  exact Nat.lt_of_mul_lt_mul_right scaled

/-- What is not above something is less than everything that is above that. -/
theorem moreDeserving_of_not_above {a b c : Share} (exactAB : a.Exact b) (exactBC : b.Exact c)
    (exactAC : a.Exact c) (positive : 0 < a.weight) (below : moreDeserving b a = false)
    (less : moreDeserving b c = true) : moreDeserving a c = true := by
  rw [exactBC.iff] at less
  rw [← Bool.not_eq_true, exactAB.symm.iff, Nat.not_lt] at below
  rw [exactAC.iff]
  have scaled : a.service * c.weight * b.weight < c.service * a.weight * b.weight := by
    calc a.service * c.weight * b.weight = a.service * b.weight * c.weight := by ring
      _ ≤ b.service * a.weight * c.weight := Nat.mul_le_mul_right _ below
      _ = b.service * c.weight * a.weight := by ring
      _ < c.service * b.weight * a.weight := Nat.mul_lt_mul_of_pos_right less positive
      _ = c.service * a.weight * b.weight := by ring
  exact Nat.lt_of_mul_lt_mul_right scaled

theorem moreDeserving_mono (a b c : Share) (smallA : a.Small) (smallB : b.Small) (smallC : c.Small)
    (less : moreDeserving a b = true) (above : moreDeserving c b = false) :
    moreDeserving a c = true :=
  moreDeserving_of_not (smallA.exact smallB) (smallC.exact smallB) (smallA.exact smallC)
    smallC.weight_pos less above

/-- The order in which the loops visit the vCPUs. -/
def Before (i j : DomId × Vcpu) : Prop :=
  i.1.toNat < j.1.toNat ∨ (i.1 = j.1 ∧ i.2.toNat < j.2.toNat)

theorem Before.asymm {i j : DomId × Vcpu} (before : Before i j) : ¬Before j i := by
  rcases before with less | ⟨same, less⟩
  · rintro (less' | ⟨same', -⟩)
    · exact less.asymm less'
    · rw [same'] at less
      exact less.ne rfl
  · rintro (less' | ⟨-, less'⟩)
    · rw [same] at less'
      exact less'.ne rfl
    · exact less.asymm less'

theorem pairwise_range16 (n : Nat) :
    (Words.range16 n).Pairwise fun a b => a.toNat < b.toNat := by
  refine List.pairwise_map.mpr (List.pairwise_lt_range.imp_of_mem ?_)
  intro i j memberI memberJ less
  rw [List.mem_range] at memberI memberJ
  rwa [Words.toNat_ofNat16 (by omega), Words.toNat_ofNat16 (by omega)]

theorem pairwise_range32 (n : Nat) :
    (Words.range32 n).Pairwise fun a b => a.toNat < b.toNat := by
  refine List.pairwise_map.mpr (List.pairwise_lt_range.imp_of_mem ?_)
  intro i j memberI memberJ less
  rw [List.mem_range] at memberI memberJ
  rwa [Words.toNat_ofNat32 (by omega), Words.toNat_ofNat32 (by omega)]

theorem pairwise_visits (sys : System) : sys.visits.Pairwise Before := by
  refine List.pairwise_flatMap.mpr ⟨fun dom _ => ?_, ?_⟩
  · refine List.pairwise_map.mpr ((pairwise_range32 _).imp fun less => ?_)
    exact .inr ⟨rfl, less⟩
  · refine (pairwise_range16 _).imp fun less i memberI j memberJ => ?_
    obtain ⟨_, -, rfl⟩ := List.mem_map.mp memberI
    obtain ⟨_, -, rfl⟩ := List.mem_map.mp memberJ
    exact .inl less

namespace Scheduler

variable {s : Scheduler} {sys : System} {now : Ticks}

theorem weightOf_pos (s : Scheduler) (dom : DomId) (v : Vcpu) : 0 < s.weightOf dom v := by
  change 0 < (ite (_ ≤ MIN_WEIGHT) MIN_WEIGHT _).toNat
  split_ifs with least
  · decide
  · rw [UInt32.le_iff_toNat_le, Nat.not_le] at least
    exact Nat.zero_lt_of_lt least

theorem weightOf_lt (s : Scheduler) (dom : DomId) (v : Vcpu) : s.weightOf dom v < 2 ^ 32 :=
  UInt32.toNat_lt _

/-- The chosen candidate comes first among all: by its share, then by its position. -/
theorem bestPlacement_first {dom : DomId} {v : Vcpu} {p : Pcpu}
    (small : ∀ i ∈ sys.visits, sys.stateOf i.1 i.2 = some .runnable →
      (s.share sys i.1 i.2 now).Small)
    (best : s.bestPlacement sys now = some (dom, v, p)) :
    ∀ d w q, ((d, w, q), s.share sys d w now) ∈ s.placements sys now →
      moreDeserving (s.share sys d w now) (s.share sys dom v now) = false ∧
        (Before (d, w) (dom, v) →
          moreDeserving (s.share sys dom v now) (s.share sys d w now) = true) := by
  obtain ⟨share, chosen⟩ := bestPlacement_spec best
  obtain ⟨-, -, -, rfl⟩ := mem_placements.mp (Choose.mem_of_best chosen)
  have valid : ∀ x ∈ s.placements sys now, x.2.Small := by
    rintro ⟨⟨d, w, q⟩, x⟩ member
    obtain ⟨visited, ready, -, rfl⟩ := mem_placements.mp member
    exact small (d, w) visited ready
  obtain ⟨earlier, later, split, worse, rest⟩ :=
    Choose.best_first valid moreDeserving_mono moreDeserving_asymm chosen
  have ordered : (s.placements sys now).Pairwise fun x y =>
      Before (x.1.1, x.1.2.1) (y.1.1, y.1.2.1) := by
    refine List.pairwise_filterMap.mpr ((pairwise_visits sys).imp ?_)
    rintro ⟨d, w⟩ ⟨d', w'⟩ before x placed y placed'
    dsimp only at placed placed'
    split_ifs at placed with ready
    split_ifs at placed' with ready'
    obtain ⟨_, -, rfl⟩ := Option.map_eq_some_iff.mp placed
    obtain ⟨_, -, rfl⟩ := Option.map_eq_some_iff.mp placed'
    exact before
  rw [split, List.pairwise_append, List.pairwise_cons] at ordered
  obtain ⟨-, ⟨after, -⟩, -⟩ := ordered
  intro d w q member
  rw [split] at member
  rcases List.mem_append.mp member with early | late
  · have less := worse _ early
    exact ⟨moreDeserving_asymm _ _ less, fun _ => less⟩
  · rcases List.mem_cons.mp late with same | late
    · obtain ⟨⟨rfl, rfl, rfl⟩, -⟩ : (d = dom ∧ w = v ∧ q = p) ∧ _ := by simpa using same
      exact ⟨by simp [moreDeserving], fun self => absurd self self.asymm⟩
    · exact ⟨rest _ late, fun before => absurd before (after _ late).asymm⟩

/-- No vCPU has been moved to the floor. -/
def Unboosted (s : Scheduler) : Prop :=
  ∀ d w, s.offset.get? d w = (s.wasSchedulable.get? d w).map fun _ => 0

/-- A vCPU in the pool is no waker. -/
def Seen (sys : System) (s : Scheduler) (i : DomId × Vcpu) : Prop :=
  schedulable sys i.1 i.2 = true → s.wasSchedulable.get? i.1.toNat i.2.toNat ≠ some false

theorem offsetOf_of_unboosted (unboosted : Unboosted s) (dom : DomId) (v : Vcpu) :
    s.offsetOf dom v = 0 := by
  rw [offsetOf, unboosted]
  cases s.wasSchedulable.get? dom.toNat v.toNat <;> rfl

theorem unboosted_placeWaker {floor : Option Share} {i : DomId × Vcpu} (unboosted : Unboosted s)
    (calm : floor = none ∨ Seen sys s i) : Unboosted (placeWaker sys floor s i) := by
  obtain ⟨dom, v⟩ := i
  obtain ⟨offset, same, moved⟩ := placeWaker_cases sys floor s dom v
  have shape : ∀ d w, ((s.wasSchedulable.set dom.toNat v.toNat (schedulable sys dom v)).get?
      d w).map (fun _ => 0) = (s.wasSchedulable.get? d w).map fun _ => 0 := by
    intro d w
    rw [Grid.get?_set]
    split_ifs with here
    · obtain ⟨rfl, rfl⟩ := here
      cases s.wasSchedulable.get? dom.toNat v.toNat <;> rfl
    · rfl
  intro d w
  rw [same, shape, ← unboosted]
  rcases moved with rfl | ⟨boosted, pool, unseen, value, rfl⟩
  · rfl
  · -- A waker that the policy has no cell for: the write goes nowhere.
    have seen := (calm.resolve_left boosted) pool
    have absent : s.offset.get? dom.toNat v.toNat = none := by
      rw [unboosted]
      unfold wasSchedulableOf at unseen
      cases cell : s.wasSchedulable.get? dom.toNat v.toNat with
      | none => rfl
      | some b =>
          rw [cell] at unseen seen
          exact absurd (congrArg some unseen) seen
    dsimp only
    rw [Grid.get?_set]
    split_ifs with here
    · rw [← here.1, ← here.2, absent, Option.map_none]
    · rfl

theorem seen_placeWaker {floor : Option Share} {i j : DomId × Vcpu}
    (seen : i = j ∨ Seen sys s j) : Seen sys (placeWaker sys floor s i) j := by
  obtain ⟨dom, v⟩ := i
  obtain ⟨offset, same, -⟩ := placeWaker_cases sys floor s dom v
  intro pool
  rw [same, Grid.get?_set]
  split_ifs with here
  · have own : (dom, v) = j := by
      rw [UInt16.toNat_inj, UInt32.toNat_inj] at here
      exact Prod.ext here.1 here.2
    rw [← own] at pool
    rw [pool]
    cases s.wasSchedulable.get? dom.toNat v.toNat <;> simp
  · rcases seen with rfl | seen
    · exact absurd ⟨rfl, rfl⟩ here
    · exact seen pool

/-- The bookkeeping of a tick without wakers. -/
theorem account_unboosted (unboosted : Unboosted s)
    (calm : s.floor sys now = none ∨ ∀ i ∈ sys.visits, Seen sys s i) :
    Unboosted (s.account sys now) := by
  refine (foldl_placeWaker (fun x => Unboosted x ∧
    (s.floor sys now = none ∨ ∀ i ∈ sys.visits, Seen sys x i)) ⟨unboosted, calm⟩ ?_).1
  rintro x i visited ⟨unboosted, calm⟩
  refine ⟨unboosted_placeWaker unboosted (calm.imp_right fun seen => seen i visited), ?_⟩
  exact calm.imp_right fun seen j member => seen_placeWaker (.inr (seen j member))

theorem account_seen {i : DomId × Vcpu} (visited : i ∈ sys.visits) :
    Seen sys (s.account sys now) i := by
  obtain ⟨earlier, later, split⟩ := List.append_of_mem visited
  unfold account
  rw [split, List.foldl_append, List.foldl_cons]
  refine foldl_placeWaker (Seen sys · i) (seen_placeWaker (.inl rfl)) ?_
  exact fun x j _ seen => seen_placeWaker (.inr seen)

theorem floor_eq_none (unseen : ∀ i ∈ sys.visits, s.wasSchedulableOf i.1 i.2 = false) :
    s.floor sys now = none := by
  rw [floor, Option.map_eq_none_iff, Choose.best_eq_none, List.filterMap_eq_nil_iff]
  rintro ⟨dom, v⟩ visited
  simp [unseen (dom, v) visited]

end Scheduler

end Baleen.Policy
