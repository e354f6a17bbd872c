import Mathlib.Tactic.Common

/-!
# Refinement of a component that answers calls

A component takes calls one after another and answers each.  One component refines another if a
relation of their states is kept by every call and related states give the same answers; then
no sequence of calls tells the two apart.
-/

namespace Refine

variable {σ τ ι α : Type}

/-- The answers to calls in sequence, and the state after them. -/
def serve (step : ι → σ → α × σ) : List ι → σ → List α × σ
  | [], s => ([], s)
  | i :: rest, s =>
    ((step i s).1 :: (serve step rest (step i s).2).1, (serve step rest (step i s).2).2)

variable {step : ι → σ → α × σ} {step' : ι → τ → α × τ}

theorem serve_refines (related : σ → τ → Prop)
    (steps : ∀ i s t, related s t →
      (step i s).1 = (step' i t).1 ∧ related (step i s).2 (step' i t).2)
    (items : List ι) {s : σ} {t : τ} (start : related s t) :
    (serve step items s).1 = (serve step' items t).1 ∧
      related (serve step items s).2 (serve step' items t).2 := by
  induction items generalizing s t with
  | nil => exact ⟨rfl, start⟩
  | cons i rest ih =>
      obtain ⟨answer, next⟩ := steps i s t start
      obtain ⟨answers, final⟩ := ih next
      refine ⟨?_, final⟩
      rw [serve, serve, answer, answers]

/-- The refinement by an abstraction function. -/
theorem serve_abstracts (view : σ → τ)
    (steps : ∀ i s, (step i s).1 = (step' i (view s)).1 ∧ view (step i s).2 = (step' i (view s)).2)
    (items : List ι) (s : σ) :
    (serve step items s).1 = (serve step' items (view s)).1 ∧
      view (serve step items s).2 = (serve step' items (view s)).2 := by
  refine serve_refines (fun s t => view s = t) ?_ items rfl
  rintro i s t rfl
  exact steps i s

end Refine
