import Baleen.Lib.Op

/-!
# Operations that keep a property of the state

A property kept by the parts of an operation is kept by the whole, whether it succeeds,
fails, or has its failure caught.
-/

namespace Op

variable {σ ε ε' α β : Type} {P : σ → Prop}

/-- The property survives the operation, a failure included. -/
def Keeps (P : σ → Prop) (x : Op σ ε α) : Prop := ∀ s, P s → P (x s).2

theorem Keeps.ran {x : Op σ ε α} (kept : Keeps P x) {s s' : σ} {r : Except ε α} (holds : P s)
    (ran : x s = (r, s')) : P s' := by
  have after := kept s holds
  rwa [ran] at after

theorem Keeps.pure (a : α) : Keeps P (Pure.pure a : Op σ ε α) := fun _ holds => holds

theorem Keeps.fail (e : ε) : Keeps P (Op.fail e : Op σ ε α) := fun _ holds => holds

theorem Keeps.read : Keeps P (Op.read : Op σ ε σ) := fun _ holds => holds

theorem Keeps.modify {f : σ → σ} (kept : ∀ s, P s → P (f s)) :
    Keeps P (Op.modify f : Op σ ε Unit) := kept

theorem Keeps.query (q : σ → Except ε α) : Keeps P (Op.query q) := fun _ holds => holds

theorem Keeps.ensure (test : σ → Bool) (e : ε) : Keeps P (Op.ensure test e) := by
  intro s holds
  unfold Op.ensure
  split_ifs <;> exact holds

theorem Keeps.bind {x : Op σ ε α} {f : α → Op σ ε β} (first : Keeps P x)
    (next : ∀ a, Keeps P (f a)) : Keeps P (x >>= f) := by
  intro s holds
  have kept := first s holds
  rw [bind_apply]
  match run : x s, kept with
  | (.ok a, s'), kept => exact next a s' kept
  | (.error _, s'), kept => exact kept

theorem Keeps.attempt {x : Op σ ε α} (kept : Keeps P x) :
    Keeps P (Op.attempt x : Op σ ε' (Except ε α)) := kept

theorem Keeps.ignore {x : Op σ ε α} (kept : Keeps P x) : Keeps P (Op.ignore x) := kept

theorem Keeps.sweep {ι : Type} {step : ι → σ → Option (Except ε α × σ)}
    (kept : ∀ i s r, P s → step i s = some r → P r.2) (items : List ι) {s : σ} (start : P s) :
    P (Op.sweep step items s).2 := by
  induction items generalizing s with
  | nil => exact start
  | cons i rest ih =>
      unfold Op.sweep
      cases ran : step i s with
      | none => exact ih start
      | some r => exact ih (kept i s r start ran)

end Op
