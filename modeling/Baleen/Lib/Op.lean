import Mathlib.Tactic.Common

/-!
# Fallible operations on a state

`Op σ ε α` is an operation on a mutable `σ` that returns an `α` or fails with an
`ε`.  Whatever was written before a failure stays written: a failing operation
returns its state too, so that "a rejected call changes nothing" is a property to
prove and not a convention of the type.
-/

/-- A fallible operation on a mutable state. -/
def Op (σ ε α : Type) : Type := σ → Except ε α × σ

namespace Op

variable {σ τ ε ε' α β ι : Type}

instance : Monad (Op σ ε) where
  pure a := fun s => (.ok a, s)
  bind x f := fun s =>
    match x s with
    | (.ok a, s') => f a s'
    | (.error e, s') => (.error e, s')

/-- Fail without touching the state. -/
def fail (e : ε) : Op σ ε α := fun s => (.error e, s)

/-- Read the state through a fallible query. -/
def query (q : σ → Except ε α) : Op σ ε α := fun s => (q s, s)

/-- Read the whole state. -/
def read : Op σ ε σ := fun s => (.ok s, s)

/-- Go on only if the state passes a test. -/
def ensure (test : σ → Bool) (e : ε) : Op σ ε Unit :=
  fun s => if test s then (.ok (), s) else (.error e, s)

/-- Overwrite the state. -/
def modify (f : σ → σ) : Op σ ε Unit := fun s => (.ok (), f s)

/-- Run an operation and hand its result over instead of propagating a failure. -/
def attempt (x : Op σ ε α) : Op σ ε' (Except ε α) := fun s => (.ok (x s).1, (x s).2)

/-- Run an operation and discard its result, a failure included. -/
def ignore (x : Op σ ε α) : Op σ ε Unit := fun s => (.ok (), (x s).2)

/-- Run an operation on a component of a larger state, translating its error. -/
def zoom (component : τ → σ) (update : τ → σ → τ) (wrap : ε → ε') (x : Op σ ε α) :
    Op τ ε' α :=
  fun t => ((x (component t)).1.mapError wrap, update t (x (component t)).2)

@[simp] theorem pure_apply (a : α) (s : σ) : (pure a : Op σ ε α) s = (.ok a, s) := rfl

@[simp] theorem fail_apply (e : ε) (s : σ) : (fail e : Op σ ε α) s = (.error e, s) := rfl

@[simp] theorem query_apply (q : σ → Except ε α) (s : σ) : query q s = (q s, s) := rfl

@[simp] theorem modify_apply (f : σ → σ) (s : σ) :
    (modify f : Op σ ε Unit) s = (.ok (), f s) := rfl

@[simp] theorem attempt_apply (x : Op σ ε α) (s : σ) :
    (attempt x : Op σ ε' (Except ε α)) s = (.ok (x s).1, (x s).2) := rfl

@[simp] theorem ignore_apply (x : Op σ ε α) (s : σ) :
    ignore x s = (.ok (), (x s).2) := rfl

theorem bind_apply (x : Op σ ε α) (f : α → Op σ ε β) (s : σ) :
    (x >>= f) s =
      match x s with
      | (.ok a, s') => f a s'
      | (.error e, s') => (.error e, s') := rfl

theorem bind_of_ok {x : Op σ ε α} {f : α → Op σ ε β} {s s' : σ} {a : α}
    (ran : x s = (.ok a, s')) : (x >>= f) s = f a s' := by
  rw [bind_apply, ran]

theorem bind_of_error {x : Op σ ε α} {f : α → Op σ ε β} {s s' : σ} {e : ε}
    (ran : x s = (.error e, s')) : (x >>= f) s = (.error e, s') := by
  rw [bind_apply, ran]

/-- A sequence succeeds when both of its parts do. -/
theorem bind_eq_ok {x : Op σ ε α} {f : α → Op σ ε β} {s s' : σ} {b : β} :
    (x >>= f) s = (.ok b, s') ↔ ∃ a t, x s = (.ok a, t) ∧ f a t = (.ok b, s') := by
  match run : x s with
  | (.ok a, t) =>
      rw [bind_of_ok run]
      refine ⟨fun ran => ⟨a, t, rfl, ran⟩, ?_⟩
      rintro ⟨a', t', same, ran⟩
      cases same
      exact ran
  | (.error e, t) =>
      rw [bind_of_error run]
      refine ⟨fun ran => (by cases ran), ?_⟩
      rintro ⟨a', t', same, -⟩
      cases same

theorem bind_assoc (x : Op σ ε α) (f : α → Op σ ε β) {γ : Type} (g : β → Op σ ε γ) :
    (x >>= f) >>= g = x >>= fun a => f a >>= g := by
  funext s
  match run : x s with
  | (.ok a, t) => rw [bind_of_ok run, bind_apply, bind_of_ok run, bind_apply]
  | (.error e, t) => rw [bind_of_error run, bind_of_error (bind_of_error run)]

@[simp] theorem pure_bind_apply (a : α) (f : α → Op σ ε β) (s : σ) :
    ((pure a : Op σ ε α) >>= f) s = f a s := rfl

@[simp] theorem fail_bind_apply (e : ε) (f : α → Op σ ε β) (s : σ) :
    ((fail e : Op σ ε α) >>= f) s = (.error e, s) := rfl

@[simp] theorem read_bind_apply (f : σ → Op σ ε β) (s : σ) :
    ((read : Op σ ε σ) >>= f) s = f s s := rfl

@[simp] theorem query_bind_apply (q : σ → Except ε α) (f : α → Op σ ε β) (s : σ) :
    (query q >>= f) s =
      match q s with
      | .ok a => f a s
      | .error e => (.error e, s) := by
  rw [bind_apply, query_apply]
  cases q s <;> rfl

@[simp] theorem ensure_bind_apply (test : σ → Bool) (e : ε) (f : Unit → Op σ ε β) (s : σ) :
    (ensure test e >>= f) s = if test s then f () s else (.error e, s) := by
  rw [bind_apply, ensure]
  split_ifs <;> rfl

theorem query_bind_eq_ok {q : σ → Except ε α} {f : α → Op σ ε β} {s s' : σ} {b : β} :
    (query q >>= f) s = (.ok b, s') ↔ ∃ a, q s = .ok a ∧ f a s = (.ok b, s') := by
  rw [query_bind_apply]
  cases q s <;> simp

theorem ensure_bind_eq_ok {test : σ → Bool} {e : ε} {f : Unit → Op σ ε β} {s s' : σ} {b : β} :
    (ensure test e >>= f) s = (.ok b, s') ↔ test s = true ∧ f () s = (.ok b, s') := by
  rw [ensure_bind_apply]
  cases test s <;> simp

@[simp] theorem modify_bind_apply (g : σ → σ) (f : Unit → Op σ ε β) (s : σ) :
    ((modify g : Op σ ε Unit) >>= f) s = f () (g s) := rfl

@[simp] theorem attempt_bind_apply (x : Op σ ε α) (f : Except ε α → Op σ ε' β) (s : σ) :
    ((attempt x : Op σ ε' (Except ε α)) >>= f) s = f (x s).1 (x s).2 := rfl

@[simp] theorem ignore_bind_apply (x : Op σ ε α) (f : Unit → Op σ ε β) (s : σ) :
    (ignore x >>= f) s = f () (x s).2 := rfl

section Zoom

variable {component : τ → σ} {update : τ → σ → τ} {wrap : ε → ε'} {x : Op σ ε α} {t : τ} {s' : σ}

theorem zoom_ok {a : α} (ran : x (component t) = (.ok a, s')) :
    zoom component update wrap x t = (.ok a, update t s') := by
  rw [zoom, ran]
  rfl

theorem zoom_error {e : ε} (ran : x (component t) = (.error e, s')) :
    zoom component update wrap x t = (.error (wrap e), update t s') := by
  rw [zoom, ran]
  rfl

end Zoom

/-- Visit the items in order, running the operation that `step` selects for each
(or none), and keep every result.  A failed item does not stop the sweep. -/
def sweep (step : ι → σ → Option (Except ε α × σ)) : List ι → σ → List (Except ε α) × σ
  | [], s => ([], s)
  | i :: rest, s =>
      match step i s with
      | none => sweep step rest s
      | some (r, s') => (r :: (sweep step rest s').1, (sweep step rest s').2)

section Sweep

variable {step : ι → σ → Option (Except ε α × σ)} {P : σ → Prop} {D : ι → σ → Prop}
  {good : Except ε α → Prop}

/-- A property kept by every step is kept by the sweep, and so is a property that
every step's result has. -/
theorem sweep_keeps {items : List ι} {s : σ}
    (keeps : ∀ i ∈ items, ∀ s r s', P s → step i s = some (r, s') → P s' ∧ good r)
    (start : P s) :
    P (sweep step items s).2 ∧ ∀ r ∈ (sweep step items s).1, good r := by
  induction items generalizing s with
  | nil => exact ⟨start, by simp [sweep]⟩
  | cons i rest ih =>
      have later : ∀ j ∈ rest, ∀ s r s', P s → step j s = some (r, s') → P s' ∧ good r :=
        fun j hj => keeps j (List.mem_cons_of_mem _ hj)
      cases run : step i s with
      | none => simpa [sweep, run] using ih later start
      | some result =>
          obtain ⟨r, s'⟩ := result
          obtain ⟨start', fine⟩ := keeps i (by simp) s r s' start run
          obtain ⟨kept, others⟩ := ih later start'
          simp only [sweep, run, List.mem_cons]
          exact ⟨kept, by rintro r (rfl | h); exacts [fine, others r h]⟩

/-- If visiting an item settles it and no later visit unsettles it, the sweep
settles every item. -/
theorem sweep_settles {items : List ι} {s : σ}
    (keeps : ∀ i ∈ items, ∀ s r s', P s → step i s = some (r, s') → P s')
    (skipped : ∀ i ∈ items, ∀ s, P s → step i s = none → D i s)
    (ran : ∀ i ∈ items, ∀ s r s', P s → step i s = some (r, s') → D i s')
    (stable : ∀ i ∈ items, ∀ j ∈ items, ∀ s r s', P s → D j s → step i s = some (r, s') → D j s')
    (start : P s) : ∀ i ∈ items, D i (sweep step items s).2 := by
  -- The items already visited stay settled while the rest is swept.
  suffices general : ∀ (rest done : List ι) (s : σ), (∀ i ∈ rest, i ∈ items) →
      (∀ i ∈ done, i ∈ items ∧ D i s) → P s →
      (∀ i ∈ done, D i (sweep step rest s).2) ∧ ∀ i ∈ rest, D i (sweep step rest s).2 from
    (general items [] s (fun _ h => h) (by simp) start).2
  intro rest
  induction rest with
  | nil => exact fun done s _ settled _ => ⟨fun i hi => (settled i hi).2, by simp⟩
  | cons i rest ih =>
      intro done s sub settled start
      have hi : i ∈ items := sub i (by simp)
      have sub' : ∀ j ∈ rest, j ∈ items := fun j hj => sub j (List.mem_cons_of_mem _ hj)
      cases run : step i s with
      | none =>
          have now : ∀ j ∈ i :: done, j ∈ items ∧ D j s := by
            rintro j (_ | ⟨_, hj⟩)
            · exact ⟨hi, skipped i hi s start run⟩
            · exact settled j hj
          obtain ⟨old, new⟩ := ih (i :: done) s sub' now start
          simp only [sweep, run]
          exact ⟨fun j hj => old j (List.mem_cons_of_mem _ hj), fun j hj => by
            rcases List.mem_cons.mp hj with rfl | hj
            exacts [old j (by simp), new j hj]⟩
      | some result =>
          obtain ⟨r, s'⟩ := result
          have now : ∀ j ∈ i :: done, j ∈ items ∧ D j s' := by
            rintro j (_ | ⟨_, hj⟩)
            · exact ⟨hi, ran i hi s r s' start run⟩
            · exact ⟨(settled j hj).1,
                stable i hi j (settled j hj).1 s r s' start (settled j hj).2 run⟩
          obtain ⟨old, new⟩ := ih (i :: done) s' sub' now (keeps i hi s r s' start run)
          simp only [sweep, run]
          exact ⟨fun j hj => old j (List.mem_cons_of_mem _ hj), fun j hj => by
            rcases List.mem_cons.mp hj with rfl | hj
            exacts [old j (by simp), new j hj]⟩

/-- The rule for sweeps: an invariant of the state, a property of every result, and a
property that each visited item acquires and no later visit takes away. -/
theorem sweep_rule (step : ι → σ → Option (Except ε α × σ)) (items : List ι) (P : σ → Prop)
    (good : Except ε α → Prop) (D : ι → σ → Prop) {s : σ}
    (ran : ∀ i ∈ items, ∀ s r s', P s → step i s = some (r, s') → P s' ∧ good r ∧ D i s')
    (skipped : ∀ i ∈ items, ∀ s, P s → step i s = none → D i s)
    (stable : ∀ i ∈ items, ∀ j ∈ items, ∀ s r s', P s → D j s → step i s = some (r, s') → D j s')
    (start : P s) :
    P (sweep step items s).2 ∧ (∀ r ∈ (sweep step items s).1, good r) ∧
      ∀ i ∈ items, D i (sweep step items s).2 := by
  obtain ⟨kept, fine⟩ := sweep_keeps (fun i hi s r s' holds run =>
    have facts := ran i hi s r s' holds run
    ⟨facts.1, facts.2.1⟩) start
  refine ⟨kept, fine, sweep_settles ?_ skipped ?_ stable start⟩
  · exact fun i hi s r s' holds run => (ran i hi s r s' holds run).1
  · exact fun i hi s r s' holds run => (ran i hi s r s' holds run).2.2

end Sweep

/-- The same rule for a loop whose steps cannot fail. -/
theorem foldl_rule (f : σ → ι → σ) (items : List ι) (P : σ → Prop) (D : ι → σ → Prop) {s : σ}
    (visit : ∀ i ∈ items, ∀ s, P s → P (f s i) ∧ D i (f s i))
    (stable : ∀ i ∈ items, ∀ j, ∀ s, P s → D j s → D j (f s i)) (start : P s) :
    P (items.foldl f s) ∧ ∀ i ∈ items, D i (items.foldl f s) := by
  -- Generalise over the items that are already settled.
  suffices general : ∀ (settled : ι → Prop) (s : σ), P s → (∀ j, settled j → D j s) →
      P (items.foldl f s) ∧ ∀ j, settled j ∨ j ∈ items → D j (items.foldl f s) by
    obtain ⟨kept, done⟩ := general (fun _ => False) s start (fun _ no => no.elim)
    exact ⟨kept, fun i hi => done i (.inr hi)⟩
  clear start
  induction items with
  | nil =>
      intro settled s start done
      refine ⟨start, ?_⟩
      rintro j (hj | hj)
      · exact done j hj
      · cases hj
  | cons i rest ih =>
      intro settled s start done
      obtain ⟨kept, here⟩ := visit i (List.mem_cons_self ..) s start
      obtain ⟨final, all⟩ := ih
        (fun j hj => visit j (List.mem_cons_of_mem _ hj))
        (fun j hj => stable j (List.mem_cons_of_mem _ hj))
        (fun j => settled j ∨ j = i) (f s i) kept (by
          rintro j (hj | rfl)
          · exact stable i (List.mem_cons_self ..) j s start (done j hj)
          · exact here)
      refine ⟨final, ?_⟩
      rintro j (hj | hj)
      · exact all j (.inl (.inl hj))
      · rcases List.mem_cons.mp hj with rfl | hj
        · exact all j (.inl (.inr rfl))
        · exact all j (.inr hj)

/-- After a run: `good` of the result and state of a success, `bad` of the state that a
failure leaves. -/
def Yields (good : α → σ → Prop) (bad : σ → Prop) : Except ε α × σ → Prop
  | (.ok a, s) => good a s
  | (.error _, s) => bad s

section Yields

variable {good : β → σ → Prop} {bad : σ → Prop} {s : σ}

theorem yields_bind {x : Op σ ε α} {f : α → Op σ ε β} (mid : α → σ → Prop)
    (first : Yields mid bad (x s)) (next : ∀ a s', mid a s' → Yields good bad (f a s')) :
    Yields good bad ((x >>= f) s) := by
  rw [bind_apply]
  match ran : x s, first with
  | (.ok a, s'), holds => exact next a s' holds
  | (.error _, _), holds => exact holds

theorem yields_ensure {test : σ → Bool} {e : ε} {f : Unit → Op σ ε β} (refused : bad s)
    (next : test s = true → Yields good bad (f () s)) :
    Yields good bad ((ensure test e >>= f) s) := by
  rw [ensure_bind_apply]
  split_ifs with passed
  · exact next passed
  · exact refused

/-- The components of a larger state: only the selected one is written. -/
theorem yields_zoom {component : τ → σ} {update : τ → σ → τ} {wrap : ε → ε'} {x : Op σ ε α}
    {good : α → τ → Prop} {bad : τ → Prop} {t : τ}
    (ran : Yields (fun a s' => good a (update t s')) (fun s' => bad (update t s'))
      (x (component t))) : Yields good bad (zoom component update wrap x t) := by
  unfold zoom
  match x (component t), ran with
  | (.ok _, _), holds => exact holds
  | (.error _, _), holds => exact holds

theorem Yields.mono {good good' : α → σ → Prop} {bad bad' : σ → Prop} {r : Except ε α × σ}
    (yields : Yields good bad r) (better : ∀ a s, good a s → good' a s)
    (worse : ∀ s, bad s → bad' s) : Yields good' bad' r := by
  match r, yields with
  | (.ok a, s), holds => exact better a s holds
  | (.error _, s), holds => exact worse s holds

/-- An operation on a component whose failures write nothing, and a result made of its own. -/
theorem yields_zoom_return {component : τ → σ} {update : τ → σ → τ} {wrap : ε → ε'} {x : Op σ ε α}
    {k : α → β} {good : τ → Prop} {t : τ} (same : update t (component t) = t)
    (ran : Yields (fun _ s' => good (update t s')) (· = component t) (x (component t))) :
    Yields (fun _ => good) (· = t) ((zoom component update wrap x >>= fun a => pure (k a)) t) := by
  refine yields_bind (fun _ => good) (yields_zoom (ran.mono (fun _ _ holds => holds) ?_)) ?_
  · rintro s' rfl
    exact same
  · exact fun _ _ holds => holds

/-- Either way the state has the property. -/
theorem Yields.state {P : σ → Prop} {r : Except ε α × σ} (yields : Yields (fun _ => P) P r) :
    P r.2 := by
  match r, yields with
  | (.ok _, _), holds => exact holds
  | (.error _, _), holds => exact holds

end Yields

/-- The state after operations in sequence, whether they succeed or fail. -/
def run (act : ι → Op σ ε α) (items : List ι) (s : σ) : σ := items.foldl (fun s i => (act i s).2) s

theorem run_append (act : ι → Op σ ε α) (items items' : List ι) (s : σ) :
    run act (items ++ items') s = run act items' (run act items s) := by
  simp [run]

theorem run_concat (act : ι → Op σ ε α) (items : List ι) (i : ι) (s : σ) :
    run act (items ++ [i]) s = (act i (run act items s)).2 := by
  simp [run]

/-- A property that every operation keeps holds after every run. -/
theorem run_invariant {act : ι → Op σ ε α} {P : σ → Prop}
    (keeps : ∀ i s, P s → P (act i s).2) {s : σ} (start : P s) (items : List ι) :
    P (run act items s) := by
  induction items generalizing s with
  | nil => exact start
  | cons i rest ih => exact ih (keeps i s start)

end Op
