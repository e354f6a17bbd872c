import Mathlib.Tactic.Common

/-!
# Runs of events

A system takes events one after another, each in a state that allows it.  What every allowed event
keeps holds after every run, and what every allowed event balances is balanced over every run: what
a quantity gained and lost on the way is accounted for by its values at the ends.
-/

namespace Guarded

variable {σ ι : Type} {may : σ → ι → Prop} {step : ι → σ → σ}

/-- Every event of the run is allowed where it happens. -/
def Legal (may : σ → ι → Prop) (step : ι → σ → σ) : List ι → σ → Prop
  | [], _ => True
  | i :: rest, s => may s i ∧ Legal may step rest (step i s)

instance [∀ s i, Decidable (may s i)] : ∀ (items : List ι) (s : σ),
    Decidable (Legal may step items s)
  | [], _ => .isTrue trivial
  | i :: rest, s =>
      have := instDecidableLegal rest (step i s)
      inferInstanceAs (Decidable (may s i ∧ Legal may step rest (step i s)))

/-- The state after a run. -/
def after (step : ι → σ → σ) (items : List ι) (s : σ) : σ := items.foldl (fun s i => step i s) s

/-- What the events of a run amount to. -/
def total (step : ι → σ → σ) (amount : σ → ι → Nat) : List ι → σ → Nat
  | [], _ => 0
  | i :: rest, s => amount s i + total step amount rest (step i s)

@[simp] theorem after_nil (s : σ) : after step [] s = s := rfl

@[simp] theorem after_cons (i : ι) (rest : List ι) (s : σ) :
    after step (i :: rest) s = after step rest (step i s) := rfl

theorem after_append (items items' : List ι) (s : σ) :
    after step (items ++ items') s = after step items' (after step items s) := List.foldl_append

theorem Legal.append {items items' : List ι} {s : σ} (legal : Legal may step (items ++ items') s) :
    Legal may step items s ∧ Legal may step items' (after step items s) := by
  induction items generalizing s with
  | nil => exact ⟨trivial, legal⟩
  | cons i rest ih =>
      obtain ⟨allowed, later⟩ := legal
      obtain ⟨first, second⟩ := ih later
      exact ⟨⟨allowed, first⟩, second⟩

theorem Legal.concat {items items' : List ι} {s : σ} (legal : Legal may step items s)
    (legal' : Legal may step items' (after step items s)) : Legal may step (items ++ items') s := by
  induction items generalizing s with
  | nil => exact legal'
  | cons i rest ih => exact ⟨legal.1, ih legal.2 legal'⟩

theorem Legal.keeps {P : σ → Prop} (each : ∀ s i, P s → may s i → P (step i s)) {items : List ι}
    {s : σ} (start : P s) (legal : Legal may step items s) : P (after step items s) := by
  induction items generalizing s with
  | nil => exact start
  | cons i rest ih => exact ih (each s i start legal.1) legal.2

/-- Gains and losses over a run, from those of every event. -/
theorem Legal.balance {P : σ → Prop} (value : σ → Nat) (gain loss : σ → ι → Nat)
    (each : ∀ s i, P s → may s i → P (step i s) ∧ value s + gain s i = value (step i s) + loss s i)
    {items : List ι} {s : σ} (start : P s) (legal : Legal may step items s) :
    value s + total step gain items s = value (after step items s) + total step loss items s := by
  induction items generalizing s with
  | nil => rfl
  | cons i rest ih =>
      obtain ⟨next, here⟩ := each s i start legal.1
      have later := ih next legal.2
      rw [total, total, after_cons]
      omega

/-- Some run leads from one state to another. -/
def Reaches (may : σ → ι → Prop) (step : ι → σ → σ) (s s' : σ) : Prop :=
  ∃ items, Legal may step items s ∧ after step items s = s'

theorem Reaches.refl (s : σ) : Reaches may step s s := ⟨[], trivial, rfl⟩

theorem Reaches.single {s : σ} {i : ι} (allowed : may s i) : Reaches may step s (step i s) :=
  ⟨[i], ⟨allowed, trivial⟩, rfl⟩

theorem Reaches.trans {s₁ s₂ s₃ : σ} (first : Reaches may step s₁ s₂)
    (second : Reaches may step s₂ s₃) : Reaches may step s₁ s₃ := by
  obtain ⟨items, legal, rfl⟩ := first
  obtain ⟨items', legal', rfl⟩ := second
  exact ⟨items ++ items', legal.concat legal', after_append items items' s₁⟩

theorem Reaches.keeps {P : σ → Prop} (each : ∀ s i, P s → may s i → P (step i s)) {s s' : σ}
    (reaches : Reaches may step s s') (start : P s) : P s' := by
  obtain ⟨items, legal, rfl⟩ := reaches
  exact legal.keeps each start

end Guarded
