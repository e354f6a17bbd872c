import Baleen.Hypervisor.Model
import Baleen.Lib.Forest
import Mathlib.Data.Finset.Prod

/-!
# Sweeping the control matrix

The control edges over one target are a map of parent pointers.  Revocation and
destruction remove a node and then sweep the matrix until it is stable; the sweep
removes exactly the nodes that lost their root.
-/

namespace Baleen

open Forest (Edge IsTree Rooted Thinned Under)

def Control.edge : Control → Edge DomId
  | .absent => .absent
  | .root => .root
  | .via delegator => .below delegator

@[simp]
theorem Control.edge_eq_absent {c : Control} : c.edge = .absent ↔ c = .absent := by
  cases c <;> simp [edge]

theorem Control.edge_eq_below {c : Control} {d : DomId} : c.edge = .below d ↔ c = .via d := by
  cases c <;> simp [edge]

theorem Control.edge_injective : Function.Injective Control.edge := by
  intro c c' same
  cases c <;> cases c' <;> simp_all [edge]

namespace Hypervisor

/-- The edges over one target. -/
def column (controls : Grid Control) (target holder : DomId) : Edge DomId :=
  (controlAt controls holder.toNat target.toNat).edge

/-- A matrix with `n` rows of `n` cells. -/
structure Square (n : Nat) (controls : Grid Control) : Prop where
  rows : controls.length = n
  width : ∀ i < n, controls.width i = n

variable {n : Nat} {controls controls' : Grid Control}

theorem controlAt_clear (controls : Grid Control) (h t i j : Nat) :
    controlAt (controls.set h t .absent) i j =
      if h = i ∧ t = j then .absent else controlAt controls i j := by
  unfold controlAt
  rw [Grid.get?_set]
  split_ifs
  · cases controls.get? h t <;> rfl
  · rfl

theorem Square.get? (square : Square n controls) {i j : Nat} (row : i < n) (cell : j < n) :
    ∃ c, controls.get? i j = some c :=
  Grid.exists_get? (by rw [square.width i row]; exact cell)

theorem Square.controlAt_set (square : Square n controls) {h t : Nat} (row : h < n) (cell : t < n)
    (c : Control) (i j : Nat) :
    controlAt (controls.set h t c) i j = if h = i ∧ t = j then c else controlAt controls i j := by
  obtain ⟨old, present⟩ := square.get? row cell
  unfold controlAt
  rw [Grid.get?_set]
  split_ifs
  · rw [present]
    rfl
  · rfl

theorem Square.set (square : Square n controls) (h t : Nat) (c : Control) :
    Square n (controls.set h t c) where
  rows := by rw [Grid.length_set, square.rows]
  width i row := by rw [Grid.width_set, square.width i row]

theorem Square.inside (square : Square n controls) {i j : Nat}
    (present : controlAt controls i j ≠ .absent) : i < n ∧ j < n := by
  unfold controlAt at present
  cases found : controls.get? i j with
  | none => simp [found] at present
  | some c =>
      have row : i < n := square.rows ▸ Grid.lt_length_of_get? found
      exact ⟨row, square.width i row ▸ Grid.lt_width_of_get? found⟩

/-- Cells were cleared, none of them on a chain to a root. -/
structure Pruned (controls controls' : Grid Control) : Prop where
  thinned : ∀ h t, controlAt controls' h t = controlAt controls h t ∨
    controlAt controls' h t = .absent
  kept : ∀ {t h}, Rooted (column controls t) h → Rooted (column controls' t) h
  square : ∀ {n}, Square n controls → Square n controls'

theorem Pruned.refl (controls : Grid Control) : Pruned controls controls :=
  ⟨fun _ _ => .inl rfl, fun rooted => rooted, fun square => square⟩

theorem Pruned.trans {controls'' : Grid Control} (first : Pruned controls controls')
    (second : Pruned controls' controls'') : Pruned controls controls'' where
  thinned h t := by
    rcases second.thinned h t with same | gone
    · rw [same]
      exact first.thinned h t
    · exact .inr gone
  kept rooted := second.kept (first.kept rooted)
  square square := second.square (first.square square)

theorem Pruned.column_thinned (pruned : Pruned controls controls') (t : DomId) :
    Thinned (column controls t) (column controls' t) := by
  intro h
  rcases pruned.thinned h.toNat t.toNat with same | gone
  · exact .inl (congrArg Control.edge same)
  · exact .inr (by rw [column, gone]; rfl)

/-- An orphan is on no chain to a root. -/
theorem pruned_clear {h t : Nat} (orphan : orphaned controls h t = true) :
    Pruned controls (controls.set h t .absent) where
  thinned i j := by
    rw [controlAt_clear]
    split_ifs
    · exact .inr rfl
    · exact .inl rfl
  kept := by
    intro target holder rooted
    refine rooted.transfer ?_
    intro y rooted'
    unfold column
    rw [controlAt_clear, if_neg]
    rintro ⟨rfl, rfl⟩
    unfold orphaned at orphan
    cases here : controlAt controls y.toNat target.toNat with
    | absent => simp [here] at orphan
    | root => simp [here] at orphan
    | via parent =>
        simp only [here, decide_eq_true_eq] at orphan
        have above : column controls target y = .below parent := by rw [column, here]; rfl
        cases rooted' with
        | root isRoot => simp [above] at isRoot
        | child step rest =>
            obtain rfl : parent = _ := by simpa [above] using step
            exact rest.present (by rw [column, orphan]; rfl)
  square square := square.set ..

/-- The number of edges in the matrix. -/
def edges (n : Nat) (controls : Grid Control) : Nat :=
  ((Finset.range n ×ˢ Finset.range n).filter fun x => controlAt controls x.2 x.1 ≠ .absent).card

theorem edges_le (n : Nat) (controls : Grid Control) : edges n controls ≤ n * n := by
  refine (Finset.card_filter_le _ _).trans ?_
  rw [Finset.card_product, Finset.card_range]

theorem edges_clear {h t : Nat} (row : h < n) (cell : t < n)
    (present : controlAt controls h t ≠ .absent) :
    edges n (controls.set h t .absent) < edges n controls := by
  refine Finset.card_lt_card ⟨fun x member => ?_, fun sub => ?_⟩
  · rw [Finset.mem_filter] at member ⊢
    refine ⟨member.1, fun gone => member.2 ?_⟩
    rw [controlAt_clear]
    split_ifs
    · rfl
    · exact gone
  · have member : (t, h) ∈ (Finset.range n ×ˢ Finset.range n).filter fun x =>
        controlAt controls x.2 x.1 ≠ .absent := by
      simp [row, cell, present]
    have kept := (Finset.mem_filter.mp (sub member)).2
    exact kept (by rw [controlAt_clear, if_pos ⟨rfl, rfl⟩])

/-- What a pass over some cells did, by whether it reports a change. -/
theorem foldl_prune_spec (cells : List (Nat × Nat)) (controls : Grid Control) (changed : Bool)
    (inside : ∀ cell ∈ cells, cell.1 < n ∧ cell.2 < n) :
    let swept := cells.foldl prune (controls, changed)
    Pruned controls swept.1 ∧ edges n swept.1 ≤ edges n controls ∧
      (swept.2 = true → changed = true ∨ edges n swept.1 < edges n controls) ∧
      (swept.2 = false → changed = false ∧ swept.1 = controls ∧
        ∀ cell ∈ cells, orphaned controls cell.2 cell.1 = false) := by
  induction cells generalizing controls changed with
  | nil =>
      exact ⟨.refl controls, le_refl _, fun report => .inl report,
        fun report => ⟨report, rfl, by simp⟩⟩
  | cons cell rest ih =>
      have inside' : ∀ cell ∈ rest, cell.1 < n ∧ cell.2 < n :=
        fun c member => inside c (List.mem_cons_of_mem _ member)
      obtain ⟨below, row⟩ := inside cell (List.mem_cons_self ..)
      cases orphan : orphaned controls cell.2 cell.1 with
      | true =>
          have step : prune (controls, changed) cell =
              (controls.set cell.2 cell.1 .absent, true) := by
            rw [prune, orphan, if_pos rfl]
          obtain ⟨pruned, fewer, -, quiet⟩ := ih (controls.set cell.2 cell.1 .absent) true inside'
          have present : controlAt controls cell.2 cell.1 ≠ .absent := by
            intro gone
            simp [orphaned, gone] at orphan
          have less := edges_clear row below present
          simp only [List.foldl_cons, step]
          refine ⟨(pruned_clear orphan).trans pruned, fewer.trans less.le,
            fun _ => .inr (lt_of_le_of_lt fewer less), fun report => ?_⟩
          exact absurd (quiet report).1 (by simp)
      | false =>
          have step : prune (controls, changed) cell = (controls, changed) := by
            rw [prune, orphan]
            rfl
          obtain ⟨pruned, fewer, report, quiet⟩ := ih controls changed inside'
          simp only [List.foldl_cons, step]
          refine ⟨pruned, fewer, report, fun none => ?_⟩
          obtain ⟨clean, same, clear⟩ := quiet none
          refine ⟨clean, same, ?_⟩
          rintro c (_ | ⟨_, member⟩)
          · exact orphan
          · exact clear c member

theorem mem_cells {cell : Nat × Nat} : cell ∈ cells n ↔ cell.1 < n ∧ cell.2 < n := by
  obtain ⟨t, h⟩ := cell
  simp [cells]

theorem sweepUntilStable_spec {fuel : Nat} (enough : edges n controls < fuel) :
    Pruned controls (sweepUntilStable n fuel controls) ∧
      ∀ h t, h < n → t < n → orphaned (sweepUntilStable n fuel controls) h t = false := by
  induction fuel generalizing controls with
  | zero => exact absurd enough (Nat.not_lt_zero _)
  | succ fuel ih =>
      obtain ⟨pruned, -, report, quiet⟩ :=
        foldl_prune_spec (cells n) controls false fun _ => mem_cells.mp
      unfold sweepUntilStable
      split_ifs with changed
      · have less := (report changed).resolve_left (by simp)
        have fewer : edges n (sweepPass n controls).1 < fuel :=
          lt_of_lt_of_le less (Nat.lt_succ_iff.mp enough)
        obtain ⟨pruned', clear⟩ := ih fewer
        exact ⟨pruned.trans pruned', clear⟩
      · obtain ⟨-, same, clear⟩ := quiet (Bool.eq_false_iff.mpr changed)
        refine ⟨pruned, fun h t row cell => ?_⟩
        have fixed : (sweepPass n controls).1 = controls := same
        rw [fixed]
        exact clear (t, h) (mem_cells.mpr ⟨cell, row⟩)

/-- The sweep clears exactly the nodes that have lost their root. -/
theorem sweep_exact (square : Square n controls) {f : DomId → Edge DomId} {t : DomId}
    (tree : IsTree f) (less : Thinned f (column controls t)) :
    let swept := sweepUntilStable n (n * n + 1) controls
    (∀ {h}, Rooted (column controls t) h → column swept t h = column controls t h) ∧
      ∀ {h}, ¬Rooted (column controls t) h → column swept t h = .absent := by
  intro swept
  obtain ⟨pruned, clear⟩ := sweepUntilStable_spec (Nat.lt_succ_of_le (edges_le n controls))
  have thinned := pruned.column_thinned t
  refine tree.thinned_eq less thinned ?_ ?_
  · intro h rooted
    exact (thinned h).resolve_right (pruned.kept rooted).present
  · intro h parent here gone
    have here : controlAt swept h.toNat t.toNat = .via parent := Control.edge_eq_below.mp here
    have gone : controlAt swept parent.toNat t.toNat = .absent := Control.edge_eq_absent.mp gone
    obtain ⟨row, cell⟩ := (pruned.square square).inside (i := h.toNat) (j := t.toNat)
      (by rw [here]; simp)
    have orphan : orphaned swept h.toNat t.toNat = false := clear h.toNat t.toNat row cell
    simp [orphaned, here, gone] at orphan

/-- After removing one node of a tree, the sweep removes the rest of its subtree. -/
theorem sweep_subtree (square : Square n controls) {f : DomId → Edge DomId} {t r : DomId}
    (tree : IsTree f) (removed : column controls t = Function.update f r .absent) (h : DomId)
    [Decidable (Under f h r)] :
    column (sweepUntilStable n (n * n + 1) controls) t h =
      if Under f h r then .absent else f h := by
  have less : Thinned f (column controls t) := by
    intro x
    rw [removed, Function.update_apply]
    split_ifs
    · exact .inr rfl
    · exact .inl rfl
  obtain ⟨kept, gone⟩ := sweep_exact square tree less
  rw [removed] at kept gone
  by_cases under : Under f h r
  · rw [if_pos under]
    exact gone fun rooted => (Forest.rooted_update.mp rooted).2 under
  · rw [if_neg under]
    have apart : h ≠ r := fun same => under (same ▸ .refl)
    by_cases present : f h = .absent
    · rw [present]
      exact gone fun rooted => (Forest.rooted_update.mp rooted).1.present present
    · rw [kept (Forest.rooted_update.mpr ⟨tree.rooted present, under⟩),
        Function.update_of_ne apart]

/-- A tree that lost no node is left alone. -/
theorem sweep_untouched (square : Square n controls) {t : DomId}
    (tree : IsTree (column controls t)) (h : DomId) :
    column (sweepUntilStable n (n * n + 1) controls) t h = column controls t h := by
  obtain ⟨kept, gone⟩ := sweep_exact square tree fun _ => .inl rfl
  by_cases present : column controls t h = .absent
  · rw [present]
    exact gone fun rooted => rooted.present present
  · exact kept (tree.rooted present)

/-- What the sweep leaves of a thinned tree is a tree. -/
theorem sweep_tree (square : Square n controls) {f : DomId → Edge DomId} {t : DomId}
    (tree : IsTree f) (less : Thinned f (column controls t)) :
    IsTree (column (sweepUntilStable n (n * n + 1) controls) t) := by
  obtain ⟨kept, gone⟩ := sweep_exact square tree less
  refine tree.thin ?_ ?_
  · intro h
    by_cases rooted : Rooted (column controls t) h
    · rw [kept rooted]
      exact less h
    · exact .inr (gone rooted)
  · intro h present
    by_cases rooted : Rooted (column controls t) h
    · exact rooted.transfer kept
    · exact absurd (gone rooted) present

end Hypervisor

end Baleen
