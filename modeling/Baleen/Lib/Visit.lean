import Mathlib.Data.List.Nodup
import Mathlib.Logic.Function.Basic
import Mathlib.Tactic.Common

/-!
# Loops over distinct items

A loop that visits each of several distinct items once.  What the visit to one item establishes
from a property that the other visits keep holds in the end, if they keep it too.  A loop that may
fail, and whose visits each change one entry of a table in a way that repeats itself, changes the
entries it visits and no others.
-/

namespace Visit

variable {σ ι : Type} {f : σ → ι → σ} {items : List ι} {P Q : σ → Prop} {r : ι} {s : σ}

theorem foldl_keeps (each : ∀ i ∈ items, ∀ s, P s → P (f s i)) (start : P s) :
    P (items.foldl f s) := by
  induction items generalizing s with
  | nil => exact start
  | cons i rest ih =>
      exact ih (fun j member => each j (List.mem_cons_of_mem _ member))
        (each i (List.mem_cons_self ..) s start)

theorem foldl_once (distinct : items.Nodup) (others : ∀ i ∈ items, i ≠ r → ∀ s, P s → P (f s i))
    (here : ∀ s, P s → Q (f s r)) (settled : ∀ i ∈ items, i ≠ r → ∀ s, Q s → Q (f s i))
    (member : r ∈ items) (start : P s) : Q (items.foldl f s) := by
  obtain ⟨before, rest, rfl⟩ := List.append_of_mem member
  have apart : ∀ i ∈ before ++ rest, i ≠ r := by
    rintro i visited rfl
    exact (List.nodup_middle.mp distinct).notMem visited
  rw [List.foldl_append, List.foldl_cons]
  apply foldl_keeps
  · intro i visited
    exact settled i (by simp [visited]) (apart i (List.mem_append_right _ visited))
  · apply here
    apply foldl_keeps _ start
    intro i visited
    exact others i (by simp [visited]) (apart i (List.mem_append_left _ visited))

/-- What every visit does to its own entry is done to the entries of all items. -/
theorem foldlM_table {ε α : Type} [DecidableEq ι] {l : List ι} {f : σ → ι → Except ε σ}
    {read : σ → ι → α} {g : α → α} (again : ∀ a, g (g a) = g a)
    (each : ∀ i ∈ l, ∀ s, P s → ∃ s', f s i = .ok s' ∧ P s' ∧
      read s' = Function.update (read s) i (g (read s i)))
    (start : P s) : ∃ s', l.foldlM f s = .ok s' ∧ P s' ∧
      ∀ j, read s' j = if j ∈ l then g (read s j) else read s j := by
  induction l generalizing s with
  | nil => exact ⟨s, rfl, start, fun j => (if_neg List.not_mem_nil).symm⟩
  | cons i rest ih =>
      obtain ⟨s₁, visited, kept, here⟩ := each i (List.mem_cons_self ..) s start
      obtain ⟨s₂, ran, kept', later⟩ := ih
        (fun j member => each j (List.mem_cons_of_mem _ member)) kept
      refine ⟨s₂, ?_, kept', fun j => ?_⟩
      · rw [List.foldlM_cons, visited]
        exact ran
      · rw [later, here, Function.update_apply]
        by_cases same : j = i
        · subst same
          rw [if_pos rfl, again, ite_self, if_pos (List.mem_cons_self ..)]
        · simp only [if_neg same, List.mem_cons, or_iff_right same]

end Visit
