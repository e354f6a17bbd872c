import Baleen.Lib.Op

/-!
# Two runs side by side

Two operations agree on two states if they return the same outcome and leave states that
are related, by one relation after a success and by another after a failure.  The rules
follow the operations' own structure, so two runs of one program are compared step by step.
The rules for outcomes alone compare what is returned, and say nothing of the states left.
-/

namespace Op

variable {σ τ σ' τ' ε ε' α β ι : Type}

inductive Agree (good bad : σ → τ → Prop) : Except ε α × σ → Except ε α × τ → Prop where
  | ok {a s t} (related : good s t) : Agree good bad (.ok a, s) (.ok a, t)
  | error {e s t} (related : bad s t) : Agree good bad (.error e, s) (.error e, t)

section Rules

variable {good bad mid : σ → τ → Prop} {s : σ} {t : τ}

theorem Agree.outcome {r : Except ε α × σ} {r' : Except ε α × τ} (agree : Agree good bad r r') :
    r.1 = r'.1 := by
  cases agree with
  | ok _ => rfl
  | error _ => rfl

theorem Agree.state {related : σ → τ → Prop} {r : Except ε α × σ} {r' : Except ε α × τ}
    (agree : Agree related related r r') : related r.2 r'.2 := by
  cases agree with
  | ok related => exact related
  | error related => exact related

theorem Agree.mono {good' bad' : σ → τ → Prop} {r : Except ε α × σ} {r' : Except ε α × τ}
    (agree : Agree good bad r r') (better : ∀ s t, good s t → good' s t)
    (worse : ∀ s t, bad s t → bad' s t) : Agree good' bad' r r' := by
  cases agree with
  | ok related => exact .ok (better _ _ related)
  | error related => exact .error (worse _ _ related)

/-- What one of the two runs is known to leave on its own. -/
theorem Agree.and_right {P : τ → Prop} {r : Except ε α × σ} {r' : Except ε α × τ}
    (agree : Agree good bad r r') (holds : ∀ a, r'.1 = .ok a → P r'.2) :
    Agree (fun s t => good s t ∧ P t) bad r r' := by
  cases agree with
  | ok related => exact .ok ⟨related, holds _ rfl⟩
  | error related => exact .error related

/-- A state that does not decide the outcome may change. -/
theorem agree_of_outcome {r : Except ε α × σ} {r' : Except ε α × τ} (same : r.1 = r'.1)
    (succeeded : ∀ a, r.1 = .ok a → r'.1 = .ok a → good r.2 r'.2)
    (failed : ∀ e, r.1 = .error e → r'.1 = .error e → bad r.2 r'.2) : Agree good bad r r' := by
  obtain ⟨outcome, s⟩ := r
  obtain ⟨outcome', t⟩ := r'
  obtain rfl : outcome = outcome' := same
  cases outcome with
  | ok a => exact .ok (succeeded a rfl rfl)
  | error e => exact .error (failed e rfl rfl)

theorem agree_bind {x : Op σ ε α} {y : Op τ ε α} {f : α → Op σ ε β} {g : α → Op τ ε β}
    (first : Agree mid bad (x s) (y t))
    (next : ∀ a s' t', mid s' t' → Agree good bad (f a s') (g a t')) :
    Agree good bad ((x >>= f) s) ((y >>= g) t) := by
  rw [bind_apply, bind_apply]
  match x s, y t, first with
  | (.ok a, s'), (.ok _, t'), .ok related => exact next a s' t' related
  | (.error _, _), (.error _, _), .error related => exact .error related

theorem agree_ensure {test : σ → Bool} {test' : τ → Bool} {e : ε} {f : Unit → Op σ ε β}
    {g : Unit → Op τ ε β} (same : test s = test' t) (refused : bad s t)
    (next : test s = true → Agree good bad (f () s) (g () t)) :
    Agree good bad ((ensure test e >>= f) s) ((ensure test' e >>= g) t) := by
  rw [ensure_bind_apply, ensure_bind_apply, ← same]
  split_ifs with passed
  · exact next passed
  · exact .error refused

theorem agree_query {q : σ → Except ε α} {q' : τ → Except ε α} {f : α → Op σ ε β}
    {g : α → Op τ ε β} (same : q s = q' t) (refused : bad s t)
    (next : ∀ a, q s = .ok a → Agree good bad (f a s) (g a t)) :
    Agree good bad ((query q >>= f) s) ((query q' >>= g) t) := by
  rw [query_bind_apply, query_bind_apply, ← same]
  cases answer : q s with
  | ok a => exact next a answer
  | error e => exact .error refused

theorem agree_zoom {component : σ' → σ} {component' : τ' → τ} {update : σ' → σ → σ'}
    {update' : τ' → τ → τ'} {wrap : ε → ε'} {x : Op σ ε α} {y : Op τ ε α}
    {good' bad' : σ' → τ' → Prop} {s : σ'} {t : τ'}
    (ran : Agree (fun u v => good' (update s u) (update' t v))
      (fun u v => bad' (update s u) (update' t v)) (x (component s)) (y (component' t))) :
    Agree good' bad' (zoom component update wrap x s) (zoom component' update' wrap y t) := by
  unfold zoom
  match x (component s), y (component' t), ran with
  | (.ok _, _), (.ok _, _), .ok related => exact .ok related
  | (.error _, _), (.error _, _), .error related => exact .error related

/-- Two sweeps over the same items that take the same decisions. -/
theorem agree_sweep {related : σ → τ → Prop} {step : ι → σ → Option (Except ε α × σ)}
    {step' : ι → τ → Option (Except ε α × τ)}
    (each : ∀ i s t, related s t → (step i s = none ∧ step' i t = none) ∨
      ∃ r r', step i s = some r ∧ step' i t = some r' ∧ Agree related related r r')
    (items : List ι) (start : related s t) :
    related (sweep step items s).2 (sweep step' items t).2 := by
  induction items generalizing s t with
  | nil => exact start
  | cons i rest ih =>
      rcases each i s t start with ⟨skipped, skipped'⟩ | ⟨r, r', ran, ran', agree⟩
      · simp only [sweep, skipped, skipped']
        exact ih start
      · simp only [sweep, ran, ran']
        exact ih agree.state

end Rules

section Outcomes

variable {α' : Type} {s : σ} {t : τ}

theorem outcome_ensure_iff {test : σ → Bool} {test' : τ → Bool} {e : ε} {f : Unit → Op σ ε β}
    {g : Unit → Op τ ε β} (same : test s = test' t) :
    ((ensure test e >>= f) s).1 = ((ensure test' e >>= g) t).1 ↔
      (test s = true → (f () s).1 = (g () t).1) := by
  rw [ensure_bind_apply, ensure_bind_apply, ← same]
  split_ifs with passed
  · simp [passed]
  · simp [passed]

theorem outcome_ensure {test : σ → Bool} {test' : τ → Bool} {e : ε} {f : Unit → Op σ ε β}
    {g : Unit → Op τ ε β} (same : test s = test' t)
    (next : test s = true → (f () s).1 = (g () t).1) :
    ((ensure test e >>= f) s).1 = ((ensure test' e >>= g) t).1 :=
  (outcome_ensure_iff same).mpr next

/-- A test whose error nothing after it returns. -/
theorem outcome_fresh_ensure_iff {test : σ → Bool} {test' : τ → Bool} {e : ε}
    {f : Unit → Op σ ε β} {g : Unit → Op τ ε β} (fresh : (f () s).1 ≠ .error e)
    (fresh' : (g () t).1 ≠ .error e) :
    ((ensure test e >>= f) s).1 = ((ensure test' e >>= g) t).1 ↔
      test s = test' t ∧ (test s = true → (f () s).1 = (g () t).1) := by
  rw [ensure_bind_apply, ensure_bind_apply]
  cases test s <;> cases test' t <;> simp [fresh, fresh'.symm]

theorem outcome_query {q : σ → Except ε α} {q' : τ → Except ε α'} {f : α → Op σ ε β}
    {g : α' → Op τ ε β} (fails : ∀ e, q s = .error e ↔ q' t = .error e)
    (next : ∀ a b, q s = .ok a → q' t = .ok b → (f a s).1 = (g b t).1) :
    ((query q >>= f) s).1 = ((query q' >>= g) t).1 := by
  rw [query_bind_apply, query_bind_apply]
  match answer : q s, answer' : q' t with
  | .ok a, .ok b => exact next a b answer answer'
  | .error e, .error e' =>
      have same := (fails e).mp answer
      rw [answer'] at same
      rw [Except.error.inj same]
  | .ok a, .error e =>
      have same := (fails e).mpr answer'
      rw [answer] at same
      cases same
  | .error e, .ok b =>
      have same := (fails e).mp answer
      rw [answer'] at same
      cases same

theorem outcome_query_same {q : σ → Except ε α} {q' : τ → Except ε α} {f : α → Op σ ε β}
    {g : α → Op τ ε β} (same : q s = q' t) (next : ∀ a, q s = .ok a → (f a s).1 = (g a t).1) :
    ((query q >>= f) s).1 = ((query q' >>= g) t).1 := by
  refine outcome_query (fun e => by rw [same]) fun a b answer answer' => ?_
  obtain rfl : a = b := by
    rw [← same, answer] at answer'
    exact Except.ok.inj answer'
  exact next a answer

theorem outcome_return (x : Op σ ε α) (k : α → β) (s : σ) :
    ((x >>= fun a => pure (k a)) s).1 = (x s).1.map k := by
  rw [bind_apply]
  match x s with
  | (.ok _, _) => rfl
  | (.error _, _) => rfl

/-- A write after an operation does not change what it returns. -/
theorem outcome_then_modify (x : Op σ ε Unit) (f : σ → σ) (s : σ) :
    ((x >>= fun _ => modify f) s).1 = (x s).1 := by
  rw [bind_apply]
  match x s with
  | (.ok _, _) => rfl
  | (.error _, _) => rfl

section Zoom

variable {component : σ' → σ} {update : σ' → σ → σ'} {wrap : ε → ε'}

/-- An operation on a component, and a result made of its own. -/
theorem outcome_zoom_return {x : Op σ ε α} {k : α → β} (u : σ') :
    ((zoom component update wrap x >>= fun a => pure (k a)) u).1 =
      ((x (component u)).1.mapError wrap).map k :=
  outcome_return (zoom component update wrap x) k u

theorem outcome_zoom_congr {x : Op σ ε α} {k : α → β} {u u' : σ'}
    (same : (x (component u)).1 = (x (component u')).1) :
    ((zoom component update wrap x >>= fun a => pure (k a)) u).1 =
      ((zoom component update wrap x >>= fun a => pure (k a)) u').1 := by
  rw [outcome_zoom_return, outcome_zoom_return, same]

/-- The same, with a write of the larger state in between. -/
theorem outcome_zoom_modify_congr {x : Op σ ε α} {f : σ' → σ'} {b : β} {u u' : σ'}
    (same : (x (component u)).1 = (x (component u')).1) :
    ((zoom component update wrap x >>= fun _ => modify f >>= fun _ => pure b) u).1 =
      ((zoom component update wrap x >>= fun _ => modify f >>= fun _ => pure b) u').1 := by
  have settled : ∀ v,
      ((zoom component update wrap x >>= fun _ => modify f >>= fun _ => pure b) v).1 =
        ((x (component v)).1.mapError wrap).map fun _ => b := by
    intro v
    match ran : x (component v) with
    | (.ok a, s') =>
        rw [bind_of_ok (zoom_ok ran)]
        rfl
    | (.error e, s') =>
        rw [bind_of_error (zoom_error ran)]
        rfl
  rw [settled, settled, same]

end Zoom

end Outcomes

end Op
