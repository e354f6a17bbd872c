import Mathlib.Data.List.Basic

/-!
# Sequences of checks

A checker runs its checks in order and stops at the first that fails, so it passes
exactly when every one of them does.
-/

namespace Checks

variable {ε α : Type}

/-- Fail with `e` unless the condition holds. -/
def require (p : Prop) [Decidable p] (e : ε) : Except ε Unit := if p then .ok () else .error e

@[simp]
theorem require_ok {p : Prop} [Decidable p] {e : ε} : require p e = .ok () ↔ p := by
  unfold require
  split_ifs with holds
  · exact ⟨fun _ => holds, fun _ => rfl⟩
  · exact ⟨fun failed => (nomatch failed), fun impossible => absurd impossible holds⟩

@[simp]
theorem seq_ok {x : Except ε Unit} {y : Unit → Except ε α} {r : α} :
    (x >>= y) = .ok r ↔ x = .ok () ∧ y () = .ok r := by
  cases x with
  | error e => exact ⟨fun failed => (nomatch failed), fun both => (nomatch both.1)⟩
  | ok u => exact ⟨fun run => ⟨rfl, run⟩, fun both => both.2⟩

@[simp]
theorem pure_ok {r r' : α} : (pure r : Except ε α) = .ok r' ↔ r = r' :=
  ⟨fun same => Except.ok.inj same, fun same => congrArg _ same⟩

@[simp]
theorem forM_ok {items : List α} {f : α → Except ε Unit} :
    forM items f = .ok () ↔ ∀ x ∈ items, f x = .ok () := by
  induction items with
  | nil => simp
  | cons x rest ih => simp [ih]

/-- Every two items, in the order a nested loop visits them. -/
def pairwise (f : α → α → Except ε Unit) : List α → Except ε Unit
  | [] => pure ()
  | x :: rest => do
      forM rest (f x)
      pairwise f rest

theorem pairwise_ok {f : α → α → Except ε Unit} {items : List α} :
    pairwise f items = .ok () ↔ items.Pairwise fun x y => f x y = .ok () := by
  induction items with
  | nil => simp [pairwise]
  | cons x rest ih => simp [pairwise, ih]

end Checks
