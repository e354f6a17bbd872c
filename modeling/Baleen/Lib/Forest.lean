import Mathlib.Logic.Relation
import Mathlib.Data.Finset.Card
import Mathlib.Data.Finset.Range

/-!
# Forests of parent pointers

A node is absent, a root, or hangs below another node.  A forest is a map in which
every present node has a finite chain of parents up to a root.  Removing a node leaves
exactly the nodes outside its subtree connected to a root.
-/

namespace Forest

inductive Edge (ν : Type) where
  | absent
  | root
  | below (parent : ν)
  deriving DecidableEq, Repr

variable {ν : Type}

/-- A node whose chain of parents ends at a root. -/
inductive Rooted (f : ν → Edge ν) : ν → Prop where
  | root {x} (here : f x = .root) : Rooted f x
  | child {x p} (here : f x = .below p) (above : Rooted f p) : Rooted f x

/-- `x` is `top` or in the subtree under it. -/
def Under (f : ν → Edge ν) (x top : ν) : Prop :=
  Relation.ReflTransGen (fun x p => f x = .below p) x top

structure IsTree (f : ν → Edge ν) : Prop where
  rooted : ∀ {x}, f x ≠ .absent → Rooted f x
  unique : ∀ {x y}, f x = .root → f y = .root → x = y

variable {f g : ν → Edge ν} {x y r p : ν}

/-- `g` lacks some of the nodes of `f`. -/
def Thinned (f g : ν → Edge ν) : Prop := ∀ x, g x = f x ∨ g x = .absent

namespace Rooted

theorem present (rooted : Rooted f x) : f x ≠ .absent := by
  cases rooted with
  | root here => simp [here]
  | child here _ => simp [here]

theorem of_thinned (thinned : Thinned f g) (rooted : Rooted g x) : Rooted f x := by
  induction rooted with
  | @root x here =>
      rcases thinned x with same | gone
      · exact .root (same ▸ here)
      · simp [here] at gone
  | @child x p here _ ih =>
      rcases thinned x with same | gone
      · exact .child (same ▸ here) ih
      · simp [here] at gone

/-- A chain survives if each of its nodes does. -/
theorem transfer (rooted : Rooted f x) (kept : ∀ {y}, Rooted f y → g y = f y) : Rooted g x := by
  induction rooted with
  | root here => exact .root ((kept (.root here)).trans here)
  | child here above ih => exact .child ((kept (.child here above)).trans here) ih

/-- No node is above itself. -/
theorem acyclic (rooted : Rooted f x) : ¬Relation.TransGen (fun x p => f x = .below p) x x := by
  induction rooted with
  | root here =>
      intro loop
      obtain ⟨p, step, -⟩ := Relation.TransGen.head'_iff.mp loop
      simp [here] at step
  | child here _ ih =>
      intro loop
      obtain ⟨p, step, back⟩ := Relation.TransGen.head'_iff.mp loop
      obtain rfl : _ = p := by simpa [here] using step
      exact ih (Relation.TransGen.tail'_iff.mpr ⟨_, back, step⟩)

end Rooted

/-- Without its root's chain, a node is connected to a root only outside the subtree of a
removed node. -/
theorem rooted_update [DecidableEq ν] :
    Rooted (Function.update f r .absent) x ↔ Rooted f x ∧ ¬Under f x r := by
  constructor
  · intro rooted
    induction rooted with
    | @root x here =>
        have apart : x ≠ r := by
          rintro rfl
          simp at here
        rw [Function.update_of_ne apart] at here
        refine ⟨.root here, fun under => ?_⟩
        rcases under.cases_head with rfl | ⟨p, step, -⟩
        · exact apart rfl
        · simp [here] at step
    | @child x p here _ ih =>
        have apart : x ≠ r := by
          rintro rfl
          simp at here
        rw [Function.update_of_ne apart] at here
        refine ⟨.child here ih.1, fun under => ?_⟩
        rcases under.cases_head with rfl | ⟨q, step, rest⟩
        · exact apart rfl
        · obtain rfl : p = q := by simpa [here] using step
          exact ih.2 rest
  · rintro ⟨rooted, outside⟩
    induction rooted with
    | @root x here =>
        have apart : x ≠ r := fun same => outside (same ▸ .refl)
        exact .root (by rw [Function.update_of_ne apart, here])
    | @child x p here _ ih =>
        have apart : x ≠ r := fun same => outside (same ▸ .refl)
        exact .child (by rw [Function.update_of_ne apart, here])
          (ih fun under => outside (.head here under))

namespace IsTree

theorem parent_present (tree : IsTree f) (here : f x = .below p) : f p ≠ .absent := by
  cases tree.rooted (x := x) (by simp [here]) with
  | root isRoot => simp [here] at isRoot
  | child here' above =>
      obtain rfl : p = _ := by simpa [here] using here'
      exact above.present

/-- Thinning that leaves no node below an absent one, and takes only nodes that have lost
their root, takes exactly those. -/
theorem thinned_eq {f₀ : ν → Edge ν} (tree : IsTree f₀) (less : Thinned f₀ f)
    (thinned : Thinned f g)
    (kept : ∀ {x}, Rooted f x → g x = f x) (stable : ∀ {x p}, g x = .below p → g p ≠ .absent) :
    (∀ {x}, Rooted f x → g x = f x) ∧ ∀ {x}, ¬Rooted f x → g x = .absent := by
  refine ⟨kept, fun {x} unrooted => ?_⟩
  by_contra present
  refine unrooted ?_
  have before : f x = g x ∧ f₀ x = g x := by
    have same := (thinned x).resolve_right present
    exact ⟨same.symm, (same.trans ((less x).resolve_right (by rw [← same]; exact present))).symm⟩
  -- Induction on the chain of `x` in the tree before: its nodes are all still there.
  have rooted : Rooted g x := by
    have chain := tree.rooted (x := x) (by rw [before.2]; exact present)
    clear unrooted before
    induction chain with
    | @root x here =>
        have same := (thinned x).resolve_right present
        exact .root
          (same.trans (((less x).resolve_right (by rw [← same]; exact present)).trans here))
    | @child x p here _ ih =>
        have same := (thinned x).resolve_right present
        have here' :=
          same.trans (((less x).resolve_right (by rw [← same]; exact present)).trans here)
        exact .child here' (ih (stable here'))
  exact rooted.of_thinned thinned

/-- A thinned tree in which every node kept its root is a tree. -/
theorem thin (tree : IsTree f) (thinned : Thinned f g)
    (rooted : ∀ {x}, g x ≠ .absent → Rooted g x) :
    IsTree g where
  rooted := rooted
  unique := by
    intro x y here here'
    refine tree.unique (x := x) (y := y) ?_ ?_
    · exact ((thinned x).resolve_right (by simp [here])).symm.trans here
    · exact ((thinned y).resolve_right (by simp [here'])).symm.trans here'

/-- A new node below a present one. -/
theorem graft [DecidableEq ν] (tree : IsTree f) (fresh : f x = .absent) (above : f p ≠ .absent) :
    IsTree (Function.update f x (.below p)) := by
  have apart : p ≠ x := by
    rintro rfl
    exact above fresh
  have keeps : ∀ {y}, Rooted f y → Rooted (Function.update f x (.below p)) y := by
    refine fun rooted => rooted.transfer ?_
    intro z rooted'
    rw [Function.update_of_ne]
    rintro rfl
    exact rooted'.present fresh
  refine ⟨fun {y} present => ?_, fun {y z} here here' => ?_⟩
  · by_cases same : y = x
    · subst same
      exact .child (Function.update_self ..) (keeps (tree.rooted above))
    · rw [Function.update_of_ne same] at present
      exact keeps (tree.rooted present)
  · have old : ∀ {y}, Function.update f x (.below p) y = .root → f y = .root := by
      intro y here
      by_cases same : y = x
      · subst same
        simp at here
      · rwa [Function.update_of_ne same] at here
    exact tree.unique (old here) (old here')

/-- A first node. -/
theorem plant [DecidableEq ν] (empty : ∀ y, f y = .absent) (x : ν) :
    IsTree (Function.update f x .root) := by
  have here : ∀ {y}, Function.update f x .root y ≠ .absent → y = x := by
    intro y present
    by_contra apart
    rw [Function.update_of_ne apart] at present
    exact present (empty y)
  refine ⟨fun {y} present => ?_, fun {y z} root root' => ?_⟩
  · obtain rfl := here present
    exact .root (Function.update_self ..)
  · exact (here (by simp [root])).trans (here (by simp [root'])).symm

end IsTree

/-- The node `k` parents up. -/
def climb (f : ν → Edge ν) : Nat → ν → Option ν
  | 0, x => some x
  | k + 1, x =>
      match f x with
      | .below p => climb f k p
      | _ => none

theorem climb_add (f : ν → Edge ν) (j k : Nat) (x : ν) :
    climb f (j + k) x = (climb f j x).bind (climb f k) := by
  induction j generalizing x with
  | zero => simp [climb]
  | succ j ih =>
      rw [Nat.succ_add]
      simp only [climb]
      cases f x with
      | below p => exact ih p
      | absent => rfl
      | root => rfl

theorem under_iff_climb : Under f x y ↔ ∃ k, climb f k x = some y := by
  constructor
  · intro under
    induction under using Relation.ReflTransGen.head_induction_on with
    | refl => exact ⟨0, rfl⟩
    | head step _ ih =>
        obtain ⟨k, climbed⟩ := ih
        exact ⟨k + 1, by simpa [climb, step] using climbed⟩
  · rintro ⟨k, climbed⟩
    induction k generalizing x with
    | zero =>
        obtain rfl : x = y := by simpa [climb] using climbed
        exact .refl
    | succ k ih =>
        simp only [climb] at climbed
        cases here : f x with
        | below p =>
            rw [here] at climbed
            exact .head here (ih climbed)
        | absent => simp [here] at climbed
        | root => simp [here] at climbed

theorem Rooted.climbs (rooted : Rooted f x) : ∃ k r, climb f k x = some r ∧ f r = .root := by
  induction rooted with
  | root here => exact ⟨0, _, rfl, here⟩
  | child here _ ih =>
      obtain ⟨k, r, climbed, isRoot⟩ := ih
      exact ⟨k + 1, r, by simpa [climb, here] using climbed, isRoot⟩

theorem climb_root (isRoot : f r = .root) (k : Nat) : climb f (k + 1) r = none := by
  simp [climb, isRoot]

/-- The nodes of a chain to a root are distinct. -/
theorem climb_injective {i j k : Nat} (climbed : climb f k x = some r) (isRoot : f r = .root)
    (below : i ≤ j) (inside : j ≤ k) (same : climb f i x = climb f j x) : i = j := by
  by_contra apart
  obtain ⟨d, rfl⟩ := Nat.exists_eq_add_of_lt (Nat.lt_of_le_of_ne below apart)
  obtain ⟨e, rfl⟩ := Nat.exists_eq_add_of_le inside
  -- From the repeated node the root is both `e` and `e + (d + 1)` parents up.
  have short : (climb f i x).bind (climb f e) = some r := by
    rw [same, ← climb_add]
    exact climbed
  have long : (climb f i x).bind (climb f (e + (d + 1))) = some r := by
    rw [← climb_add, ← climbed]
    congr 1
    omega
  cases here : climb f i x with
  | none => simp [here] at short
  | some z =>
      rw [here, Option.bind_some] at short long
      rw [climb_add, short, Option.bind_some, climb_root isRoot] at long
      cases long

/-- With at most `n` nodes, every root is fewer than `n` parents up. -/
theorem Rooted.climbs_within {n : Nat} (index : ν → Nat) (distinct : Function.Injective index)
    (small : ∀ {y}, f y ≠ .absent → index y < n) (rooted : Rooted f x) :
    ∃ k < n, ∃ r, climb f k x = some r ∧ f r = .root := by
  obtain ⟨k, r, climbed, isRoot⟩ := rooted.climbs
  refine ⟨k, ?_, r, climbed, isRoot⟩
  have visited : ∀ i ≤ k, ∃ y, climb f i x = some y ∧ f y ≠ .absent := by
    intro i inside
    obtain ⟨e, rfl⟩ := Nat.exists_eq_add_of_le inside
    rw [climb_add] at climbed
    cases here : climb f i x with
    | none => simp [here] at climbed
    | some y =>
        refine ⟨y, rfl, fun gone => ?_⟩
        rw [here, Option.bind_some] at climbed
        cases e with
        | zero =>
            obtain rfl : y = r := by simpa [climb] using climbed
            simp [gone] at isRoot
        | succ e => simp [climb, gone] at climbed
  have fits : (Finset.range (k + 1)).card ≤ (Finset.range n).card := by
    refine Finset.card_le_card_of_injOn (fun i => index ((climb f i x).getD x)) ?_ ?_
    · intro i member
      obtain ⟨y, here, present⟩ := visited i (by simpa [Nat.lt_succ_iff] using member)
      simpa [here] using small present
    · intro i member j member' same
      obtain ⟨y, here, -⟩ := visited i (by simpa [Nat.lt_succ_iff] using member)
      obtain ⟨z, here', -⟩ := visited j (by simpa [Nat.lt_succ_iff] using member')
      simp only [here, here', Option.getD_some] at same
      have equal : climb f i x = climb f j x := by rw [here, here', distinct same]
      rcases Nat.le_total i j with le | le
      · exact climb_injective climbed isRoot le (by simpa [Nat.lt_succ_iff] using member') equal
      · exact (climb_injective climbed isRoot le (by simpa [Nat.lt_succ_iff] using member)
          equal.symm).symm
  rw [Finset.card_range, Finset.card_range] at fits
  exact fits

end Forest
