import Mathlib.Data.List.Induction
import Mathlib.Tactic.Common

/-!
# The best of a list of candidates

A loop that keeps the best candidate so far and replaces it only by a strictly better one
returns the earliest of the best.
-/

namespace Choose

variable {α κ : Type} {better : κ → κ → Bool} {l : List (α × κ)} {c : α × κ}

/-- The body of the loop. -/
def keep (better : κ → κ → Bool) (best : Option (α × κ)) (c : α × κ) : Option (α × κ) :=
  match best with
  | none => some c
  | some b => if better c.2 b.2 then some c else some b

theorem keep_some (b c : α × κ) :
    keep better (some b) c = if better c.2 b.2 then some c else some b := rfl

def best (better : κ → κ → Bool) (l : List (α × κ)) : Option (α × κ) := l.foldl (keep better) none

theorem best_concat (l : List (α × κ)) (c : α × κ) :
    best better (l ++ [c]) = keep better (best better l) c := by
  rw [best, List.foldl_append]
  rfl

theorem best_eq_none : best better l = none ↔ l = [] := by
  constructor
  · intro empty
    induction l using List.reverseRecOn with
    | nil => rfl
    | append_singleton l c _ =>
        rw [best_concat] at empty
        cases kept : best better l with
        | none =>
            rw [kept] at empty
            cases empty
        | some b =>
            rw [kept, keep_some] at empty
            split_ifs at empty
  · rintro rfl
    rfl

theorem mem_of_best (chosen : best better l = some c) : c ∈ l := by
  induction l using List.reverseRecOn generalizing c with
  | nil => cases chosen
  | append_singleton l d ih =>
      rw [best_concat] at chosen
      cases kept : best better l with
      | none =>
          rw [kept] at chosen
          obtain rfl := Option.some.inj chosen
          exact List.mem_append_right _ List.mem_cons_self
      | some b =>
          rw [kept, keep_some] at chosen
          split_ifs at chosen
          · obtain rfl := Option.some.inj chosen
            exact List.mem_append_right _ List.mem_cons_self
          · obtain rfl := Option.some.inj chosen
            exact List.mem_append_left _ (ih kept)

/-- Rewriting the keys keeps the choice when it keeps every comparison. -/
theorem best_map {κ' : Type} {better' : κ' → κ' → Bool} (f : κ → κ')
    (same : ∀ d ∈ l, ∀ e ∈ l, better' (f d.2) (f e.2) = better d.2 e.2) :
    best better' (l.map fun d => (d.1, f d.2)) = (best better l).map fun d => (d.1, f d.2) := by
  induction l using List.reverseRecOn with
  | nil => rfl
  | append_singleton l c ih =>
      have earlier := ih fun d first e second =>
        same d (List.mem_append_left _ first) e (List.mem_append_left _ second)
      rw [List.map_append, List.map_singleton, best_concat, best_concat, earlier]
      cases kept : best better l with
      | none => rfl
      | some b =>
          have last : c ∈ l ++ [c] := List.mem_append_right _ List.mem_cons_self
          have duel := same c last b (List.mem_append_left _ (mem_of_best kept))
          rw [Option.map_some, keep_some, keep_some, duel]
          split_ifs <;> rfl

theorem best_map_fst {κ' : Type} {better' : κ' → κ' → Bool} (f : κ → κ')
    (same : ∀ d ∈ l, ∀ e ∈ l, better' (f d.2) (f e.2) = better d.2 e.2) :
    (best better' (l.map fun d => (d.1, f d.2))).map (·.1) = (best better l).map (·.1) := by
  rw [best_map f same, Option.map_map]
  rfl

/-- Candidates before the chosen one are strictly worse, later ones are not better. -/
theorem best_first {P : κ → Prop} (valid : ∀ d ∈ l, P d.2)
    (mono : ∀ a b c, P a → P b → P c → better a b = true → better c b = false → better a c = true)
    (asymm : ∀ a b, better a b = true → better b a = false) (chosen : best better l = some c) :
    ∃ earlier later, l = earlier ++ c :: later ∧ (∀ d ∈ earlier, better c.2 d.2 = true) ∧
      ∀ d ∈ later, better d.2 c.2 = false := by
  induction l using List.reverseRecOn generalizing c with
  | nil => cases chosen
  | append_singleton l d ih =>
      have valid' : ∀ e ∈ l, P e.2 := fun e member => valid e (List.mem_append_left _ member)
      have last : P d.2 := valid d (List.mem_append_right _ List.mem_cons_self)
      rw [best_concat] at chosen
      cases kept : best better l with
      | none =>
          rw [kept] at chosen
          obtain rfl := Option.some.inj chosen
          obtain rfl := best_eq_none.mp kept
          exact ⟨[], [], rfl, nofun, nofun⟩
      | some b =>
          have current : P b.2 := valid' b (mem_of_best kept)
          rw [kept, keep_some] at chosen
          obtain ⟨earlier, later, rfl, worse, rest⟩ := ih valid' kept
          split_ifs at chosen with improves
          · obtain rfl := Option.some.inj chosen
            refine ⟨earlier ++ b :: later, [], rfl, fun e member => ?_, nofun⟩
            have passed : P e.2 := valid' e member
            rcases List.mem_append.mp member with before | after
            · exact mono _ _ _ last current passed improves (asymm _ _ (worse e before))
            · rcases List.mem_cons.mp after with rfl | after
              · exact improves
              · exact mono _ _ _ last current passed improves (rest e after)
          · obtain rfl := Option.some.inj chosen
            refine ⟨earlier, later ++ [d], by simp, worse, fun e member => ?_⟩
            rcases List.mem_append.mp member with after | final
            · exact rest e after
            · rw [List.mem_singleton.mp final]
              exact Bool.eq_false_iff.mpr improves

/-- No candidate is better than the chosen one. -/
theorem not_better_of_best {P : κ → Prop} (valid : ∀ d ∈ l, P d.2)
    (mono : ∀ a b c, P a → P b → P c → better a b = true → better c b = false → better a c = true)
    (asymm : ∀ a b, better a b = true → better b a = false) (chosen : best better l = some c) :
    ∀ d ∈ l, better d.2 c.2 = false := by
  obtain ⟨earlier, later, rfl, worse, rest⟩ := best_first valid mono asymm chosen
  intro d member
  rcases List.mem_append.mp member with before | after
  · exact asymm _ _ (worse d before)
  · rcases List.mem_cons.mp after with rfl | after
    · by_contra better
      rw [Bool.not_eq_false] at better
      rw [asymm _ _ better] at better
      cases better
    · exact rest d after

/-- A search that one candidate at most can pass. -/
theorem find?_iff {l : List α} {p : α → Bool}
    (unique : ∀ a ∈ l, ∀ b ∈ l, p a = true → p b = true → a = b) {a : α} :
    l.find? p = some a ↔ a ∈ l ∧ p a = true := by
  constructor
  · intro found
    exact ⟨List.mem_of_find?_eq_some found, List.find?_some found⟩
  · rintro ⟨member, passes⟩
    obtain ⟨b, found⟩ := Option.isSome_iff_exists.mp (List.find?_isSome.mpr ⟨a, member, passes⟩)
    rw [found, unique a member b (List.mem_of_find?_eq_some found) passes (List.find?_some found)]

end Choose
