import Baleen.Lib.Loop

/-!
# Operations with checked arithmetic

An operation that may panic, beside the one that computes on.  Unless it panics it does the
same, and whether it panics is settled part by part.
-/

namespace Op

variable {σ ε α β : Type}

/-- A failure that a caller sees, or the end of the program. -/
inductive Fault (ε : Type) where
  | raised (e : ε)
  | panic
  deriving DecidableEq, Repr

/-- An operation without checks. -/
def unchecked (y : Op σ ε α) : Op σ (Fault ε) α := zoom id (fun _ s => s) Fault.raised y

/-- Discard the result and a failure, but not a panic. -/
def settle (x : Op σ (Fault ε) α) : Op σ (Fault ε) Unit := fun s =>
  match x s with
  | (.error .panic, s') => (.error .panic, s')
  | (_, s') => (.ok (), s')

def Panics (x : Op σ (Fault ε) α) (s : σ) : Prop := (x s).1 = .error .panic

/-- Unless `x` panics it does what `y` does. -/
def Checks (x : Op σ (Fault ε) α) (y : Op σ ε α) : Prop :=
  ∀ s, ¬Panics x s → x s = unchecked y s

section Rules

variable {x : Op σ (Fault ε) α} {y : Op σ ε α} {s s' : σ} {a : α} {e : ε}

theorem unchecked_ok (ran : y s = (.ok a, s')) : unchecked y s = (.ok a, s') :=
  @zoom_ok _ _ _ _ _ id _ _ _ _ _ _ ran

theorem unchecked_error (ran : y s = (.error e, s')) :
    unchecked y s = (.error (.raised e), s') :=
  @zoom_error _ _ _ _ _ id _ _ _ _ _ _ ran

@[simp]
theorem not_panics_unchecked (y : Op σ ε α) (s : σ) : ¬Panics (unchecked y) s := by
  unfold Panics
  match ran : y s with
  | (.ok a, s') =>
      rw [unchecked_ok ran]
      exact nofun
  | (.error e, s') =>
      rw [unchecked_error ran]
      exact nofun

@[simp]
theorem not_panics_pure (a : α) (s : σ) : ¬Panics (pure a : Op σ (Fault ε) α) s :=
  not_panics_unchecked (pure a) s

@[simp]
theorem not_panics_raised (e : ε) (s : σ) :
    ¬Panics (fail (.raised e) : Op σ (Fault ε) α) s := not_panics_unchecked (fail e) s

theorem checks_unchecked (y : Op σ ε α) : Checks (unchecked y) y := fun _ _ => rfl

theorem checks_pure (a : α) : Checks (pure a : Op σ (Fault ε) α) (pure a) := fun _ _ => rfl

theorem checks_raised (e : ε) : Checks (fail (.raised e) : Op σ (Fault ε) α) (fail e) :=
  fun _ _ => rfl

theorem checks_read : Checks (read : Op σ (Fault ε) σ) read := fun _ _ => rfl

theorem checks_modify (f : σ → σ) : Checks (modify f : Op σ (Fault ε) Unit) (modify f) :=
  fun _ _ => rfl

/-- A sequence panics in its first part, or after its first part went through. -/
theorem Checks.panics_bind (checks : Checks x y) (f : α → Op σ (Fault ε) β) (s : σ) :
    Panics (x >>= f) s ↔ Panics x s ∨ ∃ a s', y s = (.ok a, s') ∧ Panics (f a) s' := by
  by_cases early : Panics x s
  · refine iff_of_true ?_ (.inl early)
    have ran : x s = (.error .panic, (x s).2) := Prod.ext early rfl
    unfold Panics
    rw [bind_of_error ran]
  · have same := checks s early
    rw [or_iff_right early]
    unfold Panics
    match ran : y s with
    | (.ok a, s') =>
        rw [unchecked_ok ran] at same
        rw [bind_of_ok same]
        constructor
        · exact fun late => ⟨a, s', rfl, late⟩
        · rintro ⟨b, t, found, late⟩
          cases found
          exact late
    | (.error e, s') =>
        rw [unchecked_error ran] at same
        rw [bind_of_error same]
        constructor
        · exact nofun
        · rintro ⟨b, t, found, -⟩
          cases found

theorem Checks.bind {f : α → Op σ (Fault ε) β} {g : α → Op σ ε β} (checks : Checks x y)
    (next : ∀ a, Checks (f a) (g a)) : Checks (x >>= f) (y >>= g) := by
  intro s calm
  rw [checks.panics_bind, not_or] at calm
  have same := checks s calm.1
  match ran : y s with
  | (.ok a, s') =>
      rw [unchecked_ok ran] at same
      rw [bind_of_ok same]
      have later := next a s' fun panics => calm.2 ⟨a, s', ran, panics⟩
      rw [later]
      unfold unchecked zoom
      simp only [id_eq, bind_of_ok ran]
  | (.error e, s') =>
      rw [unchecked_error ran] at same
      rw [bind_of_error same, unchecked_error (bind_of_error ran)]

@[simp]
theorem panics_settle (x : Op σ (Fault ε) α) (s : σ) : Panics (settle x) s ↔ Panics x s := by
  unfold Panics settle
  match x s with
  | (.ok _, _) => exact ⟨nofun, nofun⟩
  | (.error .panic, _) => exact ⟨fun _ => rfl, fun _ => rfl⟩
  | (.error (.raised _), _) => exact ⟨nofun, nofun⟩

theorem Checks.settle (checks : Checks x y) : Checks (settle x) (ignore y) := by
  intro s calm
  rw [panics_settle] at calm
  have same := checks s calm
  unfold Op.settle
  match ran : y s with
  | (.ok a, s') =>
      rw [unchecked_ok ran] at same
      have ignored : ignore y s = (.ok (), s') := by rw [ignore_apply, ran]
      rw [same, unchecked_ok ignored]
  | (.error e, s') =>
      rw [unchecked_error ran] at same
      have ignored : ignore y s = (.ok (), s') := by rw [ignore_apply, ran]
      rw [same, unchecked_ok ignored]

end Rules

/-- The loop from `s` begins a round in `b`. -/
inductive Begins (test : σ → Prop) (body : Op σ ε Unit) : σ → σ → Prop where
  | first {s : σ} : test s → Begins test body s s
  | later {s s' b : σ} : test s → body s = (.ok (), s') → Begins test body s' b →
      Begins test body s b

/-- A loop by fuel panics exactly if one of the rounds that it begins does. -/
theorem panics_loop {test : σ → Prop} [DecidablePred test] {body : Op σ ε Unit}
    {checked : Op σ (Fault ε) Unit} (checks : Checks checked body)
    {loop : Nat → Op σ (Fault ε) Unit} {measure : σ → Nat}
    (unfolds : ∀ fuel s, loop (fuel + 1) s =
      if test s then (checked >>= fun _ => loop fuel) s else (.ok (), s))
    (falls : ∀ s s', test s → body s = (.ok (), s') → measure s' < measure s)
    (fuel : Nat) (s : σ) (enough : measure s < fuel) :
    Panics (loop fuel) s ↔ ∃ b, Begins test body s b ∧ Panics checked b := by
  induction fuel generalizing s with
  | zero => exact absurd enough (Nat.not_lt_zero _)
  | succ fuel ih =>
      have shown : Panics (loop (fuel + 1)) s ↔
          test s ∧ (Panics checked s ∨ ∃ s', body s = (.ok (), s') ∧ Panics (loop fuel) s') := by
        unfold Panics
        rw [unfolds]
        by_cases goes : test s
        · have parts := checks.panics_bind (fun _ => loop fuel) s
          rw [if_pos goes, and_iff_right goes]
          refine parts.trans (or_congr Iff.rfl ?_)
          exact ⟨fun ⟨_, s', ran, panics⟩ => ⟨s', ran, panics⟩,
            fun ⟨s', ran, panics⟩ => ⟨(), s', ran, panics⟩⟩
        · rw [if_neg goes]
          exact ⟨nofun, fun both => absurd both.1 goes⟩
      rw [shown]
      constructor
      · rintro ⟨goes, here | ⟨s', ran, later⟩⟩
        · exact ⟨s, .first goes, here⟩
        · have less := falls s s' goes ran
          obtain ⟨b, begins, panics⟩ := (ih s' (by omega)).mp later
          exact ⟨b, .later goes ran begins, panics⟩
      · rintro ⟨b, begins, panics⟩
        cases begins with
        | first goes => exact ⟨goes, .inl panics⟩
        | later goes ran begins =>
            have less := falls _ _ goes ran
            exact ⟨goes, .inr ⟨_, ran, (ih _ (by omega)).mpr ⟨b, begins, panics⟩⟩⟩

end Op
