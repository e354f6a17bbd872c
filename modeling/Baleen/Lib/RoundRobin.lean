import Mathlib.Logic.Function.Basic
import Mathlib.Tactic.Common

/-!
# One processor shared in a circle

Tasks take turns on one processor.  A task that is preempted, or that retires with its group, wakes
everybody who is blocked and hands over to the first task after it that is runnable; one that waits
hands over without waking anybody, or keeps the processor if nobody is runnable.  Exactly one task
runs at any time, and a task that is preempted past comes nearer to the front each time.
-/

namespace RoundRobin

inductive Phase where
  | offline
  | runnable
  | running
  | blocked
  deriving DecidableEq, Repr

/-- Whom a task asks, in order, and how many it asks before another one. -/
structure Circle (ι : Type) where
  size : Nat
  order : ι → List ι
  ahead : ι → ι → Nat
  complete : ∀ i j, j ∈ order i
  first : ∀ {i j : ι} {test : ι → Bool}, (order i).find? test = some j →
    ∀ k, test k = true → ahead i j ≤ ahead i k
  apart : ∀ {i j k : ι}, ahead i j = ahead i k → j = k
  bounded : ∀ i j, ahead i j < size
  nearer : ∀ {i j k : ι}, ahead i j < ahead i k → ahead j k < ahead i k

structure Schedule (ι : Type) where
  current : ι
  phase : ι → Phase

inductive Turn (ι : Type) where
  | stay
  | enlist (i : ι)
  | preempt
  | yield
  | retire (gone : ι → Bool)

def wake : Phase → Phase
  | .blocked => .runnable
  | p => p

variable {ι : Type} {c : Circle ι} {s s' : Schedule ι} {i j k : ι} {t : Turn ι} {gone : ι → Bool}
  {phase : ι → Phase}

/-- The first runnable task after `i`. -/
def pick (c : Circle ι) (i : ι) (phase : ι → Phase) : Option ι :=
  (c.order i).find? fun j => phase j = .runnable

/-- The phases that are left when a group retires. -/
def retired (gone : ι → Bool) (s : Schedule ι) : ι → Phase :=
  fun i => wake (if gone i then .offline else s.phase i)

/-- A bound on how often a task is still passed over. -/
def wait (c : Circle ι) (s : Schedule ι) (i : ι) : Nat :=
  match s.phase i with
  | .blocked => c.size - 1
  | _ => c.ahead s.current i

/-- How much nearer a turn brings everybody who waits, at least. -/
def gain : Turn ι → Nat
  | .preempt => 1
  | _ => 0

/-- One task runs. -/
def Alone (s : Schedule ι) : Prop := ∀ i, s.phase i = .running ↔ i = s.current

/-- A task is enlisted once, and a task that retires takes itself off. -/
def may (s : Schedule ι) : Turn ι → Prop
  | .enlist i => s.phase i = .offline
  | .retire gone => gone s.current = true
  | _ => True

theorem wake_eq_running {p : Phase} : wake p = .running ↔ p = .running := by
  cases p <;> simp [wake]

theorem wake_idle {p : Phase} (idle : p ≠ .running) (present : p ≠ .offline) :
    wake p = .runnable := by
  cases p with
  | offline => exact absurd rfl present
  | running => exact absurd rfl idle
  | runnable | blocked => rfl

theorem pick_eq_none : pick c i phase = none ↔ ∀ j, phase j ≠ .runnable := by
  rw [pick, List.find?_eq_none]
  constructor
  · intro failed j ready
    exact failed j (c.complete i j) (decide_eq_true ready)
  · intro failed j _ ready
    exact failed j (of_decide_eq_true ready)

theorem runnable_of_pick (picked : pick c i phase = some j) : phase j = .runnable :=
  of_decide_eq_true (List.find?_some (p := fun j => decide (phase j = .runnable)) picked)

/-- Who is passed over comes nearer. -/
theorem ahead_of_pick (picked : pick c i phase = some j) (ready : phase k = .runnable)
    (other : k ≠ j) : c.ahead j k < c.ahead i k := by
  have before : c.ahead i j ≤ c.ahead i k := c.first picked k (decide_eq_true ready)
  apply c.nearer
  apply Nat.lt_of_le_of_ne before
  intro same
  exact other (c.apart same).symm

theorem retired_idle (alone : Alone s) (leaves : gone s.current = true) :
    retired gone s i ≠ .running := by
  rw [retired, Ne, wake_eq_running]
  split_ifs with goes
  · exact nofun
  · rintro runs
    rw [(alone i).mp runs] at goes
    exact goes leaves

/-- Nobody takes over from a task that retires exactly if nobody is left. -/
theorem pick_retired (alone : Alone s) (leaves : gone s.current = true) :
    pick c s.current (retired gone s) = none ↔ ∀ i, gone i = true ∨ s.phase i = .offline := by
  rw [pick_eq_none]
  refine forall_congr' fun i => ?_
  have idle : retired gone s i ≠ .running := retired_idle alone leaves
  rw [retired] at idle ⊢
  split_ifs at idle ⊢ with goes
  · exact iff_of_true nofun (.inl goes)
  · cases phase : s.phase i <;> simp_all [wake]

theorem ahead_le_wait (c : Circle ι) (s : Schedule ι) (i : ι) :
    c.ahead s.current i ≤ wait c s i := by
  have bounded := c.bounded s.current i
  unfold wait
  split
  · omega
  · exact Nat.le_refl _

theorem wait_lt (c : Circle ι) (s : Schedule ι) (i : ι) : wait c s i < c.size := by
  have bounded := c.bounded s.current i
  unfold wait
  split
  · omega
  · exact bounded

variable [DecidableEq ι]

/-- The phases of the others when the processor is taken away. -/
def preempted (s : Schedule ι) : ι → Phase :=
  fun i => wake (Function.update s.phase s.current .runnable i)

def hand (phase : ι → Phase) (i : ι) : Schedule ι := ⟨i, Function.update phase i .running⟩

/-- Nothing if nobody can take over. -/
def serve (c : Circle ι) : Turn ι → Schedule ι → Option (Schedule ι)
  | .stay, s => some s
  | .enlist i, s => some { s with phase := Function.update s.phase i .runnable }
  | .preempt, s => (pick c s.current (preempted s)).map (hand (preempted s))
  | .yield, s =>
      match pick c s.current s.phase with
      | none => some s
      | some i => some (hand (Function.update s.phase s.current .blocked) i)
  | .retire gone, s => (pick c s.current (retired gone s)).map (hand (retired gone s))

/-- Whoever is handed the processor runs alone if nobody else did. -/
theorem alone_hand (idle : ∀ i, phase i ≠ .running) : Alone (hand phase i) := by
  intro j
  rw [hand]
  dsimp only
  rw [Function.update_apply]
  split_ifs with here
  · exact iff_of_true rfl here
  · exact iff_of_false (idle j) here

theorem preempted_idle (alone : Alone s) : preempted s i ≠ .running := by
  rw [preempted, Ne, wake_eq_running, Function.update_apply]
  split_ifs with here
  · exact nofun
  · exact fun runs => here ((alone i).mp runs)

theorem blocked_idle (alone : Alone s) :
    Function.update s.phase s.current .blocked i ≠ .running := by
  rw [Function.update_apply]
  split_ifs with here
  · exact nofun
  · exact fun runs => here ((alone i).mp runs)

/-- A task that is preempted can go on itself, so somebody takes over. -/
theorem pick_preempted (c : Circle ι) (s : Schedule ι) :
    ∃ i, pick c s.current (preempted s) = some i := by
  apply Option.ne_none_iff_exists'.mp
  intro nobody
  apply pick_eq_none.mp nobody s.current
  rw [preempted, Function.update_self]
  rfl

theorem alone_serve (alone : Alone s) (allowed : may s t) (served : serve c t s = some s') :
    Alone s' := by
  cases t with
  | stay =>
      cases served
      exact alone
  | enlist i =>
      cases served
      intro j
      dsimp only
      rw [Function.update_apply]
      split_ifs with here
      · refine iff_of_false nofun fun runs => ?_
        rw [may, ← here, (alone j).mpr runs] at allowed
        cases allowed
      · exact alone j
  | preempt =>
      obtain ⟨i, -, rfl⟩ := Option.map_eq_some_iff.mp served
      exact alone_hand fun j => preempted_idle alone
  | yield =>
      rw [serve] at served
      cases picked : pick c s.current s.phase with
      | none =>
          rw [picked] at served
          cases served
          exact alone
      | some i =>
          rw [picked] at served
          cases served
          exact alone_hand fun j => blocked_idle alone
  | retire gone =>
      obtain ⟨i, -, rfl⟩ := Option.map_eq_some_iff.mp served
      exact alone_hand fun j => retired_idle alone allowed

/-- A handover brings a runnable task nearer. -/
theorem wait_hand (picked : pick c s.current phase = some j) (ready : phase i = .runnable)
    (other : i ≠ j) : wait c (hand phase j) i < wait c s i := by
  have nearer := ahead_of_pick picked ready other
  have waited := ahead_le_wait c s i
  have handed : (hand phase j).phase i = .runnable := by
    rw [hand]
    dsimp only
    rw [Function.update_of_ne other, ready]
  unfold wait at waited ⊢
  rw [handed]
  exact Nat.lt_of_lt_of_le nearer waited

/-- Somebody who waits, and goes on waiting, never loses ground and gains some with each
preemption. -/
theorem wait_serve (alone : Alone s) (allowed : may s t) (served : serve c t s = some s')
    (waits : i ≠ s.current) (waits' : i ≠ s'.current) (present : s.phase i ≠ .offline)
    (present' : s'.phase i ≠ .offline) :
    wait c s' i + gain t ≤ wait c s i := by
  have idle : s.phase i ≠ .running := fun runs => waits ((alone i).mp runs)
  cases t with
  | stay =>
      cases served
      exact Nat.le_refl _
  | enlist j =>
      cases served
      have other : i ≠ j := by
        rintro rfl
        exact present allowed
      unfold wait
      dsimp only
      rw [Function.update_of_ne other]
      exact Nat.le_refl _
  | preempt =>
      obtain ⟨j, picked, rfl⟩ := Option.map_eq_some_iff.mp served
      refine wait_hand picked ?_ waits'
      rw [preempted, Function.update_of_ne waits]
      exact wake_idle idle present
  | yield =>
      rw [serve] at served
      cases picked : pick c s.current s.phase with
      | none =>
          rw [picked] at served
          cases served
          exact Nat.le_refl _
      | some j =>
          rw [picked] at served
          cases served
          have other : i ≠ j := waits'
          have kept : (hand (Function.update s.phase s.current .blocked) j).phase i =
            s.phase i := by
            rw [hand]
            dsimp only
            rw [Function.update_of_ne other, Function.update_of_ne waits]
          unfold wait
          rw [kept]
          cases phase : s.phase i with
          | blocked => exact Nat.le_refl _
          | runnable => exact Nat.le_of_lt (ahead_of_pick picked phase waits')
          | offline => exact absurd phase present
          | running => exact absurd phase idle
  | retire gone =>
      obtain ⟨j, picked, rfl⟩ := Option.map_eq_some_iff.mp served
      refine Nat.le_of_lt (wait_hand picked ?_ waits')
      have kept : (hand (retired gone s) j).phase i = retired gone s i :=
        Function.update_of_ne waits' ..
      rw [kept] at present'
      rw [retired] at present' ⊢
      split_ifs at present' ⊢ with goes
      · exact absurd rfl present'
      · exact wake_idle idle present

end RoundRobin
