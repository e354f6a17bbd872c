import Baleen.Lib.Op

/-!
# Sweeps whose results are asserted

A sweep that stops at the first item whose operation fails.  Such a sweep that comes to
its end visited every item, each with success.
-/

namespace Op

variable {σ τ ε α ι : Type}

/-- Visit the items in order; a failed operation ends the sweep. -/
def sweepAsserted (step : ι → σ → Option (Except ε α × σ)) : List ι → Op σ ε Unit
  | [], s => (.ok (), s)
  | i :: rest, s =>
      match step i s with
      | none => sweepAsserted step rest s
      | some (.ok _, s') => sweepAsserted step rest s'
      | some (.error e, s') => (.error e, s')

/-- Visiting the item led from the first state to the second, and nothing failed. -/
def Visits (step : ι → σ → Option (Except ε α × σ)) (i : ι) (s s' : σ) : Prop :=
  (step i s = none ∧ s' = s) ∨ ∃ a, step i s = some (.ok a, s')

variable {step : ι → σ → Option (Except ε α × σ)}

@[simp]
theorem sweepAsserted_nil {s s' : σ} :
    sweepAsserted step [] s = (.ok (), s') ↔ s' = s := by
  simp only [sweepAsserted, Prod.mk.injEq, true_and, eq_comm]

theorem sweepAsserted_cons {i : ι} {rest : List ι} {s s' : σ} :
    sweepAsserted step (i :: rest) s = (.ok (), s') ↔
      ∃ t, Visits step i s t ∧ sweepAsserted step rest t = (.ok (), s') := by
  unfold Visits
  rw [sweepAsserted]
  match ran : step i s with
  | none => simp
  | some (.ok a, t) => simp
  | some (.error e, t) => simp

/-- An asserted sweep that comes to its end leaves what the plain sweep leaves, if their
steps do. -/
theorem sweep_of_asserted {plain : ι → σ → Option (Except ε α × σ)} {items : List ι} {s s' : σ}
    (same : ∀ i s s', Visits step i s s' →
      (plain i s = none ∧ s' = s) ∨ ∃ r, plain i s = some (r, s'))
    (done : sweepAsserted step items s = (.ok (), s')) : (sweep plain items s).2 = s' := by
  induction items generalizing s with
  | nil => exact (sweepAsserted_nil.mp done).symm
  | cons i rest ih =>
      obtain ⟨t, visited, later⟩ := sweepAsserted_cons.mp done
      rcases same i s t visited with ⟨skipped, rfl⟩ | ⟨r, ran⟩
      · rw [sweep, skipped]
        exact ih later
      · rw [sweep, ran]
        exact ih later

/-- The rule for asserted sweeps: an invariant of the state, and a property that each
visited item acquires and no later visit takes away. -/
theorem sweepAsserted_rule {items : List ι} {P : σ → Prop} {D : ι → σ → Prop} {s s' : σ}
    (visit : ∀ i s s', P s → Visits step i s s' → P s' ∧ D i s')
    (stable : ∀ i j s s', P s → D j s → Visits step i s s' → D j s')
    (start : P s) (done : sweepAsserted step items s = (.ok (), s')) :
    P s' ∧ ∀ i ∈ items, D i s' := by
  -- The items already visited stay settled.
  suffices general : ∀ (settled : ι → Prop) (s : σ), P s → (∀ j, settled j → D j s) →
      sweepAsserted step items s = (.ok (), s') → P s' ∧ ∀ j, settled j ∨ j ∈ items → D j s' by
    obtain ⟨kept, all⟩ := general (fun _ => False) s start (fun _ no => no.elim) done
    exact ⟨kept, fun i member => all i (.inr member)⟩
  clear start done
  induction items with
  | nil =>
      intro settled s start done ran
      obtain rfl := sweepAsserted_nil.mp ran
      exact ⟨start, fun j old => done j (old.resolve_right List.not_mem_nil)⟩
  | cons i rest ih =>
      intro settled s start done ran
      obtain ⟨t, visited, later⟩ := sweepAsserted_cons.mp ran
      obtain ⟨kept, here⟩ := visit i s t start visited
      obtain ⟨final, all⟩ := ih (fun j => settled j ∨ j = i) t kept (by
        rintro j (old | rfl)
        · exact stable i j s t start (done j old) visited
        · exact here) later
      refine ⟨final, ?_⟩
      rintro j (old | member)
      · exact all j (.inl (.inl old))
      · rcases List.mem_cons.mp member with rfl | member
        · exact all j (.inl (.inr rfl))
        · exact all j (.inr member)

/-- Two asserted sweeps of the same items, as long as the first keeps what no visit can
bring back. -/
theorem sweepAsserted_both {step' : ι → τ → Option (Except ε α × τ)} {R : σ → τ → Prop}
    {K : σ → Prop} {items : List ι} {s s' : σ} {t t' : τ}
    (visit : ∀ i s s' t t', R s t → K s' → Visits step i s s' → Visits step' i t t' → R s' t')
    (lost : ∀ i s s', K s' → Visits step i s s' → K s)
    (related : R s t) (stays : K s') (done : sweepAsserted step items s = (.ok (), s'))
    (done' : sweepAsserted step' items t = (.ok (), t')) : R s' t' := by
  -- What is kept at the end was kept all along.
  have before : ∀ {items : List ι} {s : σ}, sweepAsserted step items s = (.ok (), s') → K s := by
    intro items
    induction items with
    | nil =>
        intro s done
        obtain rfl := sweepAsserted_nil.mp done
        exact stays
    | cons i rest ih =>
        intro s done
        obtain ⟨u, visited, later⟩ := sweepAsserted_cons.mp done
        exact lost i s u (ih later) visited
  induction items generalizing s t with
  | nil =>
      obtain rfl := sweepAsserted_nil.mp done
      obtain rfl := sweepAsserted_nil.mp done'
      exact related
  | cons i rest ih =>
      obtain ⟨u, visited, later⟩ := sweepAsserted_cons.mp done
      obtain ⟨u', visited', later'⟩ := sweepAsserted_cons.mp done'
      exact ih (visit i s u t u' related (before later) visited visited') later later'

end Op
