import Mathlib.Algebra.BigOperators.Group.Finset.Basic
import Mathlib.Algebra.Order.BigOperators.Group.Finset
import Mathlib.Algebra.Order.Field.Rat
import Mathlib.Tactic.Linarith

/-!
# Weighted sharing of one server

Members share one server in turns.  A turn lasts at least a quantum and ends when some
member has received strictly less service for its weight than the one being served; the
next turn goes to the member with the least, ties broken by a fixed relation.  Shares are
compared by cross multiplication.
-/

namespace FairShare

variable {ι : Type} [DecidableEq ι]

structure Rules (ι : Type) where
  members : Finset ι
  weight : ι → ℕ
  quantum : ℕ
  before : ι → ι → Prop
  weight_pos : ∀ i, 0 < weight i
  quantum_pos : 0 < quantum

/-- The service each member has received, who is served, and for how long already. -/
structure State (ι : Type) where
  service : ι → ℕ
  runner : Option ι
  elapsed : ℕ

namespace State

/-- The service once another tick has passed. -/
def served (x : State ι) (i : ι) : ℕ :=
  if x.runner = some i then x.service i + 1 else x.service i

theorem served_runner {x : State ι} {r : ι} (running : x.runner = some r) :
    x.served r = x.service r + 1 := if_pos running

theorem served_waiter {x : State ι} {i : ι} (waiting : x.runner ≠ some i) :
    x.served i = x.service i := if_neg waiting

theorem le_served (x : State ι) (i : ι) : x.service i ≤ x.served i := by
  unfold served
  split_ifs
  · exact Nat.le_succ _
  · exact le_rfl

end State

namespace Rules

variable (R : Rules ι)

/-- `i` has strictly less service for its weight than `j`. -/
def Beats (f : ι → ℕ) (i j : ι) : Prop := f i * R.weight j < f j * R.weight i

/-- `i` is served before `j`. -/
def Precedes (f : ι → ℕ) (i j : ι) : Prop :=
  R.Beats f i j ∨ (f i * R.weight j = f j * R.weight i ∧ R.before i j)

/-- The member to serve next. -/
def First (f : ι → ℕ) (r : ι) : Prop :=
  r ∈ R.members ∧ ∀ k ∈ R.members, k ≠ r → ¬R.Precedes f k r

/-- The turn is over at the next tick. -/
def Due (x : State ι) (r : ι) : Prop :=
  x.runner = some r ∧ R.quantum ≤ x.elapsed + 1 ∧ ∃ k ∈ R.members, R.Beats x.served k r

/-- One tick, and what is decided after it. -/
inductive Step (x : State ι) : State ι → Prop where
  | keep {r : ι} (running : x.runner = some r) (stays : ¬R.Due x r) :
      Step x ⟨x.served, some r, x.elapsed + 1⟩
  | dispatch {r : ι} (free : x.runner = none ∨ ∃ old, R.Due x old) (first : R.First x.served r) :
      Step x ⟨x.served, some r, 0⟩
  | drop {r : ι} (due : R.Due x r) : Step x ⟨x.served, none, 0⟩
  | idle (unserved : x.runner = none) : Step x ⟨x.served, none, 0⟩

/-- What holds of the member being served. -/
structure Turn (x : State ι) (r : ι) : Prop where
  member : r ∈ R.members
  within : x.elapsed < R.quantum → ∀ j ∈ R.members,
    x.service r * R.weight j ≤ x.service j * R.weight r + x.elapsed * R.weight j
  ended : R.quantum ≤ x.elapsed → ∀ j ∈ R.members,
    x.service r * R.weight j ≤ x.service j * R.weight r
  /-- How far a waiting member was ahead when the turn began. -/
  gap : ∀ j ∈ R.members, j ≠ r →
    x.service j * R.weight r + x.elapsed * R.weight j ≤
      x.service r * R.weight j + R.quantum * R.weight r

/-- No member is more than a quantum of its own ahead of another. -/
structure Lag (x : State ι) : Prop where
  bound : ∀ i ∈ R.members, ∀ j ∈ R.members,
    x.service i * R.weight j ≤ x.service j * R.weight i + R.quantum * R.weight j
  turn : ∀ r, x.runner = some r → R.Turn x r

variable {R} {x y : State ι} {r : ι}

theorem not_beats_of_first {f : ι → ℕ} (first : R.First f r) {j : ι} (member : j ∈ R.members) :
    f r * R.weight j ≤ f j * R.weight r := by
  by_cases own : j = r
  · rw [own]
  · exact Nat.le_of_not_lt fun less => first.2 j member own (.inl less)

theorem Lag.served (lag : R.Lag x) : ∀ i ∈ R.members, ∀ j ∈ R.members,
    x.served i * R.weight j ≤ x.served j * R.weight i + R.quantum * R.weight j := by
  intro i memberI j memberJ
  have grown : x.service j * R.weight i ≤ x.served j * R.weight i :=
    Nat.mul_le_mul_right _ (x.le_served j)
  by_cases running : x.runner = some i
  · obtain ⟨-, within, ended, -⟩ := lag.turn i running
    have tick : R.weight j ≤ R.quantum * R.weight j := Nat.le_mul_of_pos_left _ R.quantum_pos
    rw [State.served_runner running, Nat.add_mul, Nat.one_mul]
    rcases Nat.lt_or_ge x.elapsed R.quantum with early | late
    · have ahead := within early j memberJ
      have slice : (x.elapsed + 1) * R.weight j ≤ R.quantum * R.weight j :=
        Nat.mul_le_mul_right _ early
      rw [Nat.add_mul, Nat.one_mul] at slice
      linarith
    · have ahead := ended late j memberJ
      linarith
  · rw [State.served_waiter running]
    have before := lag.bound i memberI j memberJ
    linarith

/-- A turn that begins with the least served. -/
theorem Lag.begin (lag : R.Lag x) (first : R.First x.served r) :
    R.Turn ⟨x.served, some r, 0⟩ r where
  member := first.1
  within := by
    intro _ j member
    have least := not_beats_of_first first member
    simpa using least
  ended := fun late => absurd R.quantum_pos (Nat.not_lt.mpr late)
  gap := by
    intro j member _
    have ahead := lag.served j member r first.1
    simpa using ahead

/-- A turn that goes on. -/
theorem Turn.continue (turn : R.Turn x r) (running : x.runner = some r) (stays : ¬R.Due x r) :
    R.Turn ⟨x.served, some r, x.elapsed + 1⟩ r where
  member := turn.member
  within := by
    intro early j member
    have ahead := turn.within (Nat.lt_of_succ_lt early) j member
    have grown : x.service j * R.weight r ≤ x.served j * R.weight r :=
      Nat.mul_le_mul_right _ (x.le_served j)
    simp only [State.served_runner running, Nat.add_mul, Nat.one_mul]
    linarith
  ended := by
    intro late j member
    refine Nat.le_of_not_lt fun beaten => stays ⟨running, late, j, member, beaten⟩
  gap := by
    intro j member other
    have ahead := turn.gap j member other
    have waiting : x.runner ≠ some j := by
      rw [running]
      exact fun same => other (Option.some.inj same).symm
    simp only [State.served_runner running, State.served_waiter waiting, Nat.add_mul, Nat.one_mul]
    linarith

theorem Step.lag (step : R.Step x y) (lag : R.Lag x) : R.Lag y := by
  cases step with
  | @keep r running stays =>
      refine ⟨lag.served, fun r' running' => ?_⟩
      obtain rfl := Option.some.inj running'
      exact (lag.turn r running).continue running stays
  | @dispatch r free first =>
      refine ⟨lag.served, fun r' running => ?_⟩
      obtain rfl := Option.some.inj running
      exact lag.begin first
  | drop => exact ⟨lag.served, nofun⟩
  | idle => exact ⟨lag.served, nofun⟩

/-- A lone member keeps the server. -/
theorem Step.lone (step : R.Step x y) (alone : R.members = {r}) (running : x.runner = some r) :
    y.runner = some r ∧ y.service r = x.service r + 1 := by
  have stays : ∀ old, ¬R.Due x old := by
    rintro old ⟨running', -, k, member, beats⟩
    obtain rfl := Option.some.inj (running.symm.trans running')
    rw [alone, Finset.mem_singleton] at member
    rw [member] at beats
    exact lt_irrefl _ beats
  cases step with
  | keep running' =>
      obtain rfl := Option.some.inj (running.symm.trans running')
      exact ⟨rfl, State.served_runner running⟩
  | dispatch free =>
      rcases free with idle | ⟨old, due⟩
      · rw [running] at idle
        cases idle
      · exact absurd due (stays old)
  | drop due => exact absurd due (stays _)
  | idle unserved =>
      rw [running] at unserved
      cases unserved

omit [DecidableEq ι] in
/-- Nobody has been served. -/
theorem Lag.start (unserved : ∀ i ∈ R.members, x.service i = 0) (idle : x.runner = none) :
    R.Lag x := by
  refine ⟨fun i member j _ => ?_, fun r running => ?_⟩
  · rw [unserved i member, Nat.zero_mul]
    exact Nat.zero_le _
  · rw [idle] at running
    cases running

omit [DecidableEq ι] in
/-- The lag as a difference of shares. -/
theorem Lag.sub_le (lag : R.Lag x) {i j : ι} (memberI : i ∈ R.members) (memberJ : j ∈ R.members)
    {lightest : ℕ} (positive : 0 < lightest) (light : lightest ≤ R.weight i) :
    (x.service i : ℚ) / R.weight i - x.service j / R.weight j ≤ R.quantum / lightest := by
  have weightI : (0 : ℚ) < R.weight i := Nat.cast_pos.mpr (R.weight_pos i)
  have weightJ : (0 : ℚ) < R.weight j := Nat.cast_pos.mpr (R.weight_pos j)
  have bound : (x.service i : ℚ) * R.weight j ≤
      R.quantum * R.weight j + R.weight i * x.service j := by
    have ahead := lag.bound i memberI j memberJ
    have cast : (x.service i : ℚ) * R.weight j ≤
        x.service j * R.weight i + R.quantum * R.weight j := by exact_mod_cast ahead
    linarith
  have own : (x.service i : ℚ) / R.weight i - x.service j / R.weight j ≤
      R.quantum / R.weight i := by
    rw [sub_le_iff_le_add, div_add_div _ _ weightI.ne' weightJ.ne', div_le_div_iff₀ weightI
      (mul_pos weightI weightJ)]
    have scaled := mul_le_mul_of_nonneg_left bound weightI.le
    linarith
  refine own.trans (div_le_div_of_nonneg_left (Nat.cast_nonneg _) ?_ ?_)
  · exact Nat.cast_pos.mpr positive
  · exact Nat.cast_le.mpr light

/-- The ticks that one turn of a member may last. -/
def charge (R : Rules ι) (lightest : ℕ) (j : ι) : ℕ :=
  max R.quantum (R.weight j * R.quantum / lightest + 1)

variable {lightest : ℕ} {i : ι}

omit [DecidableEq ι] in
theorem Turn.elapsed_lt_charge (turn : R.Turn x r) (member : i ∈ R.members) (other : i ≠ r)
    (positive : 0 < lightest) (light : lightest ≤ R.weight i) :
    x.elapsed + 1 ≤ R.charge lightest r := by
  rcases Nat.lt_or_ge x.elapsed R.quantum with early | late
  · exact (Nat.succ_le_of_lt early).trans (le_max_left _ _)
  · have level := turn.ended late i member
    have ahead := turn.gap i member other
    have turnLength : x.elapsed * R.weight i ≤ R.weight r * R.quantum := by linarith
    have short : x.elapsed ≤ R.weight r * R.quantum / lightest := by
      rw [Nat.le_div_iff_mul_le positive]
      exact (Nat.mul_le_mul_left _ light).trans turnLength
    exact (Nat.succ_le_succ short).trans (le_max_right _ _)

/-- What a waiting member has sat through: the turns of members that it now precedes, and
the turn that is going on. -/
def Waited (R : Rules ι) (lightest : ℕ) (x : State ι) (ticks : ℕ) (i r : ι) : Prop :=
  ∃ past ⊆ R.members.erase i, (∀ j ∈ past, j ≠ r ∧ R.Precedes x.service i j) ∧
    ticks ≤ ∑ j ∈ past, R.charge lightest j + (x.elapsed + 1)

/-- The waits of all members: none before the first turn, and none while being served. -/
structure Waits (R : Rules ι) (lightest : ℕ) (x : State ι) (wait : ι → ℕ) : Prop where
  idle : x.runner = none → ∀ i ∈ R.members, wait i = 0
  served : ∀ i, x.runner = some i → wait i = 0
  waited : ∀ r, x.runner = some r → ∀ i ∈ R.members, i ≠ r → R.Waited lightest x (wait i) i r

/-- The waits after a tick. -/
def waitNext (y : State ι) (wait : ι → ℕ) (i : ι) : ℕ := if y.runner = some i then 0 else wait i + 1

/-- A member gives way only when every other one is served before it. -/
def Orderly (R : Rules ι) (x : State ι) : Prop :=
  ∀ old, R.Due x old → ∀ k ∈ R.members, k ≠ old → R.Precedes x.served k old

theorem Waited.continue {ticks : ℕ} (waited : R.Waited lightest x ticks i r)
    (running : x.runner = some r) (other : i ≠ r) :
    R.Waited lightest ⟨x.served, some r, x.elapsed + 1⟩ (ticks + 1) i r := by
  obtain ⟨past, inside, ahead, count⟩ := waited
  refine ⟨past, inside, fun j member => ⟨(ahead j member).1, ?_⟩, Nat.succ_le_succ count⟩
  have waiting : ∀ k, k ≠ r → x.served k = x.service k := by
    intro k apart
    apply State.served_waiter
    rw [running]
    exact fun same => apart (Option.some.inj same).symm
  have before := (ahead j member).2
  unfold Precedes Beats at before ⊢
  simp only [waiting i other, waiting j (ahead j member).1]
  exact before

/-- The turn of `old` is over and the wait of another member goes on. -/
theorem Waited.switch {ticks : ℕ} {old : ι} (waited : R.Waited lightest x ticks i old)
    (turn : R.Turn x old) (due : R.Due x old) (orderly : R.Orderly x) (member : i ∈ R.members)
    (other : i ≠ old) (positive : 0 < lightest) (light : lightest ≤ R.weight i)
    (first : R.First x.served r) (unserved : i ≠ r) :
    R.Waited lightest ⟨x.served, some r, 0⟩ (ticks + 1) i r := by
  obtain ⟨past, inside, ahead, count⟩ := waited
  have fresh : old ∉ past := fun again => (ahead old again).1 rfl
  have waiting : ∀ k, k ≠ old → x.served k = x.service k := by
    intro k apart
    apply State.served_waiter
    rw [due.1]
    exact fun same => apart (Option.some.inj same).symm
  have precedes : ∀ j ∈ insert old past, R.Precedes x.served i j := by
    intro j seen
    rcases Finset.mem_insert.mp seen with rfl | earlier
    · exact orderly j due i member other
    · have before := (ahead j earlier).2
      unfold Precedes Beats at before ⊢
      rw [waiting i other, waiting j (ahead j earlier).1]
      exact before
  refine ⟨insert old past, ?_, fun j seen => ⟨?_, precedes j seen⟩, ?_⟩
  · refine Finset.insert_subset (Finset.mem_erase.mpr ⟨other.symm, turn.member⟩) inside
  · rintro rfl
    exact first.2 i member unserved (precedes j seen)
  · have length := turn.elapsed_lt_charge member other positive light
    rw [Finset.sum_insert fresh]
    simp only
    omega

theorem Step.waits {wait : ι → ℕ} (step : R.Step x y) (lag : R.Lag x) (orderly : R.Orderly x)
    (positive : 0 < lightest) (light : ∀ i ∈ R.members, lightest ≤ R.weight i)
    (busy : y.runner ≠ none) (waits : R.Waits lightest x wait) :
    R.Waits lightest y (waitNext y wait) := by
  refine ⟨fun idle => absurd idle busy, fun i served => if_pos served, ?_⟩
  intro r running i member other
  have waiting : waitNext y wait i = wait i + 1 := by
    apply if_neg
    rw [running]
    exact fun same => other (Option.some.inj same).symm
  rw [waiting]
  cases step with
  | @keep r' before stays =>
      obtain rfl := Option.some.inj running
      exact (waits.waited _ before i member other).continue before other
  | @dispatch r' free first =>
      obtain rfl := Option.some.inj running
      have begins : wait i = 0 → R.Waited lightest ⟨x.served, some r', 0⟩ (wait i + 1) i r' := by
        intro none
        refine ⟨∅, Finset.empty_subset _, nofun, ?_⟩
        rw [none]
        exact le_add_self
      rcases free with idle | ⟨old, due⟩
      · exact begins (waits.idle idle i member)
      · by_cases own : i = old
        · exact begins (waits.served i (own ▸ due.1))
        · exact (waits.waited old due.1 i member own).switch (lag.turn old due.1) due orderly member
            own positive (light i member) first other
  | drop => exact absurd rfl busy
  | idle => exact absurd rfl busy

theorem Waits.congr {wait wait' : ι → ℕ} (waits : R.Waits lightest x wait) (lag : R.Lag x)
    (same : ∀ i ∈ R.members, wait' i = wait i) : R.Waits lightest x wait' where
  idle unserved i member := (same i member).trans (waits.idle unserved i member)
  served i running := (same i (lag.turn i running).member).trans (waits.served i running)
  waited r running i member other := by
    rw [same i member]
    exact waits.waited r running i member other

/-- No member waits longer than one turn of each of the others. -/
theorem Waits.bound {wait : ι → ℕ} (waits : R.Waits lightest x wait) (lag : R.Lag x)
    (positive : 0 < lightest) (light : ∀ i ∈ R.members, lightest ≤ R.weight i)
    (member : i ∈ R.members) : wait i ≤ ∑ j ∈ R.members.erase i, R.charge lightest j := by
  cases running : x.runner with
  | none =>
      rw [waits.idle running i member]
      exact Nat.zero_le _
  | some r =>
      by_cases own : i = r
      · rw [waits.served i (own ▸ running)]
        exact Nat.zero_le _
      · have turn := lag.turn r running
        obtain ⟨past, inside, ahead, count⟩ := waits.waited r running i member own
        have fresh : r ∉ past := fun again => (ahead r again).1 rfl
        calc wait i ≤ ∑ j ∈ past, R.charge lightest j + (x.elapsed + 1) := count
          _ ≤ ∑ j ∈ past, R.charge lightest j + R.charge lightest r :=
              Nat.add_le_add_left (turn.elapsed_lt_charge member own positive (light i member)) _
          _ = ∑ j ∈ insert r past, R.charge lightest j := by
              rw [Finset.sum_insert fresh, Nat.add_comm]
          _ ≤ ∑ j ∈ R.members.erase i, R.charge lightest j :=
              Finset.sum_le_sum_of_subset (Finset.insert_subset
                (Finset.mem_erase.mpr ⟨Ne.symm own, turn.member⟩) inside)

end Rules

end FairShare
