import Mathlib.Tactic.Common
import Mathlib.Data.List.Perm.Basic

/-!
# Slabs: tables whose dead entries are reused

A slab is a list of records, some of them live.  A new record takes the first
dead entry or is appended; a record dies in place.  The storage position carries
no meaning, so results are stated about the list of live records, up to
permutation where a record is placed.
-/

namespace Slab

variable {α : Type} (active : α → Bool)

/-- The live records, in storage order. -/
def live (slab : List α) : List α := slab.filter active

/-- Store a record in the first dead entry, or at the end. -/
def insert (slab : List α) (a : α) : List α :=
  match slab.findIdx? fun b => !active b with
  | some i => slab.set i a
  | none => slab ++ [a]

variable {active}

@[simp] theorem mem_live {slab : List α} {a : α} :
    a ∈ live active slab ↔ a ∈ slab ∧ active a = true := List.mem_filter

@[simp] theorem live_nil : live active [] = [] := rfl

theorem split_at {slab : List α} {i : Nat} {a : α} (found : slab[i]? = some a) :
    ∃ before after, slab = before ++ a :: after ∧ before.length = i := by
  obtain ⟨bound, rfl⟩ := List.getElem?_eq_some_iff.mp found
  refine ⟨slab.take i, slab.drop (i + 1), ?_, by simp; omega⟩
  rw [← List.drop_eq_getElem_cons bound, List.take_append_drop]

/-- Overwriting a live record by a dead one removes it from the live records. -/
theorem live_set_dead {slab : List α} {i : Nat} {a dead : α} (found : slab[i]? = some a)
    (wasLive : active a = true) (isDead : active dead = false) :
    ∃ before after, live active slab = before ++ a :: after ∧
      live active (slab.set i dead) = before ++ after := by
  obtain ⟨before, after, rfl, rfl⟩ := split_at found
  refine ⟨live active before, live active after, ?_, ?_⟩
  · simp [live, wasLive]
  · simp [live, isDead]

theorem live_set_dead_perm {slab : List α} {i : Nat} {a dead : α} (found : slab[i]? = some a)
    (wasLive : active a = true) (isDead : active dead = false) :
    (live active slab).Perm (a :: live active (slab.set i dead)) := by
  obtain ⟨before, after, whole, rest⟩ := live_set_dead found wasLive isDead
  rw [whole, rest]
  exact List.perm_middle

/-- Overwriting any record by a dead one makes nothing live. -/
theorem live_set_dead_sublist (slab : List α) (i : Nat) {dead : α} (isDead : active dead = false) :
    (live active (slab.set i dead)).Sublist (live active slab) := by
  induction slab generalizing i with
  | nil => exact List.Sublist.refl _
  | cons a rest ih =>
      unfold live at ih ⊢
      cases i with
      | zero =>
          simp only [List.set_cons_zero, List.filter_cons, isDead, Bool.false_eq_true, if_false]
          split_ifs
          · exact List.sublist_cons_self _ _
          · exact List.Sublist.refl _
      | succ i =>
          simp only [List.set_cons_succ, List.filter_cons]
          split_ifs
          · exact (ih i).cons_cons a
          · exact ih i

/-- A stored record joins the live records, wherever it was placed; giving its
entry back restores them exactly. -/
theorem live_insert (slab : List α) {a : α} (isLive : active a = true) :
    ∃ before after, live active slab = before ++ after ∧
      live active (insert active slab a) = before ++ a :: after := by
  cases search : slab.findIdx? fun b => !active b with
  | none => exact ⟨live active slab, [], by simp, by simp [insert, search, live, isLive]⟩
  | some i =>
      obtain ⟨bound, dead, -⟩ := List.findIdx?_eq_some_iff_getElem.mp search
      obtain ⟨old, found, isDead⟩ : ∃ old, slab[i]? = some old ∧ active old = false :=
        ⟨slab[i], List.getElem?_eq_getElem bound, by simpa using dead⟩
      obtain ⟨before, after, rfl, rfl⟩ := split_at found
      refine ⟨live active before, live active after, ?_, ?_⟩
      · simp [live, isDead]
      · simp only [insert, search]
        simp [live, isLive]

theorem live_insert_perm {slab : List α} {a : α} (isLive : active a = true) :
    (live active (insert active slab a)).Perm (a :: live active slab) := by
  obtain ⟨before, after, whole, joined⟩ := live_insert slab isLive
  rw [whole, joined]
  exact List.perm_middle

/-- Where the live records have distinct keys, a key names one entry. -/
theorem index_unique {κ : Type} {key : α → κ} {slab : List α}
    (distinct : ((live active slab).map key).Nodup) {i j : Nat} {a b : α}
    (at_i : slab[i]? = some a) (at_j : slab[j]? = some b) (live_a : active a = true)
    (live_b : active b = true) (same : key a = key b) : i = j := by
  induction slab generalizing i j with
  | nil => simp at at_i
  | cons x rest ih =>
      -- The head cannot share its key with a live record behind it.
      have clash : ∀ {c : α} {k : Nat}, active x = true → rest[k]? = some c → active c = true →
          key x ≠ key c := by
        intro c k headLive found tailLive equal
        simp only [live, List.filter_cons, headLive, if_true, List.map_cons,
          List.nodup_cons] at distinct
        refine distinct.1 (List.mem_map.mpr ⟨c, ?_, equal.symm⟩)
        exact List.mem_filter.mpr ⟨List.mem_of_getElem? found, tailLive⟩
      have tail : ((live active rest).map key).Nodup := by
        cases headLive : active x <;> simp only [live, List.filter_cons, headLive] at distinct
        · simpa [live] using distinct
        · exact (List.nodup_cons.mp distinct).2
      cases i with
      | zero =>
          cases j with
          | zero => rfl
          | succ j =>
              obtain rfl : x = a := by simpa using at_i
              exact absurd same (clash live_a (by simpa using at_j) live_b)
      | succ i =>
          cases j with
          | zero =>
              obtain rfl : x = b := by simpa using at_j
              exact absurd same.symm (clash live_b (by simpa using at_i) live_a)
          | succ j => exact congrArg _ (ih tail (by simpa using at_i) (by simpa using at_j))

end Slab
