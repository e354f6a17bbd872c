import Baleen.Lib.Op
import Mathlib.Data.List.Iterate

/-!
# Loops that may fail

The course of `while test { body }` on a mutable state, with no bound on its rounds.  A
definition by fuel takes this course as soon as a measure shows that the rounds run out.
-/

namespace Op

variable {σ ε : Type} {test : σ → Prop} {body : Op σ ε Unit}

/-- The states in which the rounds began that went through, and what the loop returns.  A
failure of the body leaves the loop. -/
inductive While (test : σ → Prop) (body : Op σ ε Unit) :
    σ → List σ → Except ε Unit × σ → Prop where
  | done {s : σ} : ¬test s → While test body s [] (.ok (), s)
  | failed {s s' : σ} {e : ε} : test s → body s = (.error e, s') →
      While test body s [] (.error e, s')
  | round {s s' : σ} {begun : List σ} {r : Except ε Unit × σ} : test s → body s = (.ok (), s') →
      While test body s' begun r → While test body s (s :: begun) r

namespace While

variable {s : σ} {begun : List σ} {r : Except ε Unit × σ}

/-- Every round that counts went through. -/
theorem ran (course : While test body s begun r) : ∀ b ∈ begun, ∃ s', body b = (.ok (), s') := by
  induction course with
  | done _ => exact fun b member => absurd member List.not_mem_nil
  | failed _ _ => exact fun b member => absurd member List.not_mem_nil
  | round _ ran _ ih =>
      intro b member
      rcases List.mem_cons.mp member with rfl | later
      · exact ⟨_, ran⟩
      · exact ih b later

/-- How the loop ends: at a state that fails the test, or in a round that fails. -/
theorem ends {P : σ → Prop} (course : While test body s begun r)
    (kept : ∀ s s', P s → test s → body s = (.ok (), s') → P s') (start : P s) :
    (∃ last, P last ∧ ¬test last ∧ r = (.ok (), last)) ∨
      ∃ last e s', P last ∧ test last ∧ body last = (.error e, s') ∧ r = (.error e, s') := by
  induction course with
  | done stops => exact .inl ⟨_, start, stops, rfl⟩
  | failed goes ran => exact .inr ⟨_, _, _, start, goes, ran, rfl⟩
  | round goes ran _ ih => exact ih (kept _ _ start goes ran)

/-- A cursor that every completed round moves on. -/
theorem cursor {κ : Type} (at' : σ → κ) (next : κ → κ) (course : While test body s begun r)
    (moves : ∀ s s', test s → body s = (.ok (), s') → at' s' = next (at' s))
    (stays : ∀ s s' e, test s → body s = (.error e, s') → at' s' = at' s) :
    begun.map at' = List.iterate next (at' s) begun.length ∧
      at' r.2 = next^[begun.length] (at' s) := by
  induction course with
  | done _ => exact ⟨rfl, rfl⟩
  | failed goes ran => exact ⟨rfl, stays _ _ _ goes ran⟩
  | round goes ran _ ih =>
      obtain ⟨visited, last⟩ := ih
      rw [moves _ _ goes ran] at visited last
      exact ⟨congrArg _ visited, last⟩

end While

/-- A loop by fuel takes the course of the loop when a measure falls in every round. -/
theorem while_of_fuel [DecidablePred test] {loop : Nat → Op σ ε Unit} {measure : σ → Nat}
    (unfolds : ∀ fuel s, loop (fuel + 1) s =
      if test s then (body >>= fun _ => loop fuel) s else (.ok (), s))
    (falls : ∀ s s', test s → body s = (.ok (), s') → measure s' < measure s)
    (fuel : Nat) (s : σ) (enough : measure s < fuel) :
    ∃ begun, While test body s begun (loop fuel s) ∧ begun.length ≤ measure s := by
  induction fuel generalizing s with
  | zero => exact absurd enough (Nat.not_lt_zero _)
  | succ fuel ih =>
      rw [unfolds]
      by_cases goes : test s
      · rw [if_pos goes]
        match ran : body s with
        | (.error e, s') =>
            rw [bind_of_error ran]
            exact ⟨[], .failed goes ran, Nat.zero_le _⟩
        | (.ok (), s') =>
            rw [bind_of_ok ran]
            have less := falls s s' goes ran
            obtain ⟨begun, course, few⟩ := ih s' (by omega)
            exact ⟨s :: begun, .round goes ran course, by simp only [List.length_cons]; omega⟩
      · rw [if_neg goes]
        exact ⟨[], .done goes, Nat.zero_le _⟩

end Op
