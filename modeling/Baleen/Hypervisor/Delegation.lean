import Baleen.Hypervisor.Runs
import Baleen.Hypervisor.Sweep

/-!
# The delegation forest

For each target, the control edges over it form a tree under the domain that created
it, between live domains.  A revocation removes one subtree of one tree, a destruction
the tree over the domain and its subtree in every other.
-/

namespace Baleen.Hypervisor

open Forest (Edge IsTree Rooted Thinned Under climb)

variable {n : Nat} {controls controls' : Grid Control}

structure Delegations (n : Nat) (life : List DomainLife) (controls : Grid Control) : Prop where
  square : Square n controls
  tree : ∀ t, IsTree (column controls t)
  diagonal : ∀ t : DomId, controlAt controls t.toNat t.toNat = .absent
  alive : ∀ {h t : DomId}, controlAt controls h.toNat t.toNat ≠ .absent →
    life[h.toNat]? = some .live ∧ life[t.toNat]? = some .live

namespace Delegations

variable {life : List DomainLife}

theorem new (c : Config) : Delegations c.numDomains (Hypervisor.new c).life
    (Hypervisor.new c).controls := by
  have empty : ∀ i j, controlAt (Hypervisor.new c).controls i j = .absent := by
    intro i j
    unfold controlAt Hypervisor.new
    simp only [Grid.get?_fill]
    split_ifs <;> rfl
  exact {
    square := ⟨Grid.length_fill .., fun i row => by
      simp only [Hypervisor.new, Grid.width_fill, if_pos row]⟩
    tree := by
      intro t
      have none : ∀ h, column (Hypervisor.new c).controls t h = .absent := by
        intro h
        rw [column, empty]
        rfl
      exact ⟨fun present => absurd (none _) present, fun root => by simp [none] at root⟩
    diagonal := fun t => empty _ _
    alive := fun present => absurd (empty _ _) present }

/-- Clearing edges and nothing else. -/
theorem thin (delegations : Delegations n life controls) {life' : List DomainLife}
    (square : Square n controls') (tree : ∀ t, IsTree (column controls' t))
    (thinned : ∀ t, Thinned (column controls t) (column controls' t))
    (alive : ∀ {h t : DomId}, controlAt controls' h.toNat t.toNat ≠ .absent →
      life'[h.toNat]? = life[h.toNat]? ∧ life'[t.toNat]? = life[t.toNat]?) :
    Delegations n life' controls' where
  square := square
  tree := tree
  diagonal t := by
    have before : column controls t t = .absent :=
      Control.edge_eq_absent.mpr (delegations.diagonal t)
    rcases thinned t t with same | gone
    · exact Control.edge_eq_absent.mp (same.trans before)
    · exact Control.edge_eq_absent.mp gone
  alive := by
    intro h t present
    obtain ⟨sameHolder, sameTarget⟩ := alive present
    rw [sameHolder, sameTarget]
    refine delegations.alive fun gone => present ?_
    rcases thinned t h with same | gone'
    · exact Control.edge_eq_absent.mp (same.trans (Control.edge_eq_absent.mpr gone))
    · exact Control.edge_eq_absent.mp gone'

theorem column_set (square : Square n controls) {h t : DomId} (row : h.toNat < n)
    (cell : t.toNat < n) (c : Control) (t' : DomId) :
    column (controls.set h.toNat t.toNat c) t' =
      if t = t' then Function.update (column controls t) h c.edge else column controls t' := by
  funext x
  unfold column
  rw [square.controlAt_set row cell]
  by_cases target : t = t'
  · subst target
    simp only [and_true, if_true, Function.update_apply, UInt16.toNat_inj, eq_comm (a := x)]
    split_ifs <;> rfl
  · simp [target, UInt16.toNat_inj]

theorem column_clear (controls : Grid Control) (h t t' : DomId) :
    column (controls.set h.toNat t.toNat .absent) t' =
      if t = t' then Function.update (column controls t) h .absent else column controls t' := by
  funext x
  unfold column
  rw [controlAt_clear]
  by_cases target : t = t'
  · subst target
    simp only [and_true, if_true, Function.update_apply, UInt16.toNat_inj, eq_comm (a := x)]
    split_ifs <;> rfl
  · simp [target, UInt16.toNat_inj]

theorem create (delegations : Delegations n life controls) {creator target : DomId}
    (inside : target.toNat < n) (inside' : creator.toNat < n)
    (dead : life[target.toNat]? = some .dead) (alive : life[creator.toNat]? = some .live) :
    Delegations n (life.set target.toNat .live)
      (controls.set creator.toNat target.toNat .root) := by
  have apart : creator ≠ target := by
    rintro rfl
    rw [alive] at dead
    cases dead
  have unheld : ∀ h, column controls target h = .absent := by
    intro h
    rw [column, Control.edge_eq_absent]
    by_contra present
    have := (delegations.alive present).2
    rw [dead] at this
    cases this
  have lives : ∀ {d : DomId}, life[d.toNat]? = some .live ∨ d = target →
      (life.set target.toNat .live)[d.toNat]? = some .live := by
    intro d either
    rw [List.getElem?_set]
    split_ifs with here small
    · rfl
    · exact absurd (List.getElem?_eq_some_iff.mp dead).1 small
    · exact either.resolve_right fun same => here (by rw [same])
  exact {
    square := delegations.square.set ..
    tree := by
      intro t
      rw [column_set delegations.square inside' inside]
      split_ifs with here
      · exact .plant unheld creator
      · exact delegations.tree t
    diagonal := by
      intro t
      rw [delegations.square.controlAt_set inside' inside, if_neg, delegations.diagonal t]
      rintro ⟨same, same'⟩
      exact apart ((UInt16.toNat_inj.mp same).trans (UInt16.toNat_inj.mp same').symm)
    alive := by
      intro h t present
      rw [delegations.square.controlAt_set inside' inside] at present
      split_ifs at present with here
      · obtain ⟨rfl, rfl⟩ : creator = h ∧ target = t :=
          ⟨UInt16.toNat_inj.mp here.1, UInt16.toNat_inj.mp here.2⟩
        exact ⟨lives (.inl alive), lives (.inr rfl)⟩
      · obtain ⟨holder, ofEntry⟩ := delegations.alive present
        exact ⟨lives (.inl holder), lives (.inl ofEntry)⟩ }

theorem delegate (delegations : Delegations n life controls) {caller target recipient : DomId}
    (inside : target.toNat < n) (inside' : recipient.toNat < n)
    (held : controlAt controls caller.toNat target.toNat ≠ .absent) (apart : recipient ≠ target)
    (alive : life[recipient.toNat]? = some .live)
    (fresh : controlAt controls recipient.toNat target.toNat = .absent) :
    Delegations n life (controls.set recipient.toNat target.toNat (.via caller)) where
  square := delegations.square.set ..
  tree := by
    intro t
    rw [column_set delegations.square inside' inside]
    split_ifs with here
    · exact (delegations.tree target).graft (Control.edge_eq_absent.mpr fresh)
        fun gone => held (Control.edge_eq_absent.mp gone)
    · exact delegations.tree t
  diagonal := by
    intro t
    rw [delegations.square.controlAt_set inside' inside, if_neg, delegations.diagonal t]
    rintro ⟨same, same'⟩
    exact apart ((UInt16.toNat_inj.mp same).trans (UInt16.toNat_inj.mp same').symm)
  alive := by
    intro h t present
    rw [delegations.square.controlAt_set inside' inside] at present
    split_ifs at present with here
    · rw [← here.1, ← here.2]
      exact ⟨alive, (delegations.alive held).2⟩
    · exact delegations.alive present

theorem revoke (delegations : Delegations n life controls) (holder target : DomId) :
    Delegations n life (sweepUntilStable n (n * n + 1)
      (controls.set holder.toNat target.toNat .absent)) := by
  have square := delegations.square.set holder.toNat target.toNat .absent
  have less : ∀ t, Thinned (column controls t)
      (column (controls.set holder.toNat target.toNat .absent) t) := by
    intro t x
    rw [column_clear]
    split_ifs with here
    · subst here
      rw [Function.update_apply]
      split_ifs
      · exact .inr rfl
      · exact .inl rfl
    · exact .inl rfl
  obtain ⟨pruned, -⟩ := sweepUntilStable_spec (Nat.lt_succ_of_le (edges_le n
    (controls.set holder.toNat target.toNat .absent)))
  refine delegations.thin (pruned.square square)
    (fun t => sweep_tree square (delegations.tree t) (less t)) ?_ fun _ => ⟨rfl, rfl⟩
  intro t x
  rcases pruned.column_thinned t x with same | gone
  · rw [same]
    exact less t x
  · exact .inr gone

end Delegations

theorem column_revoke {life : List DomainLife} (delegations : Delegations n life controls)
    (holder target h t : DomId) [Decidable (Under (column controls target) h holder)] :
    column (sweepUntilStable n (n * n + 1) (controls.set holder.toNat target.toNat .absent)) t h =
      if t = target ∧ Under (column controls target) h holder then .absent
      else column controls t h := by
  have square := delegations.square.set holder.toNat target.toNat .absent
  have cleared := Delegations.column_clear controls holder target t
  by_cases here : target = t
  · subst here
    rw [if_pos rfl] at cleared
    rw [sweep_subtree square (delegations.tree target) cleared]
    simp
  · rw [if_neg here] at cleared
    rw [sweep_untouched square (cleared ▸ delegations.tree t), cleared,
      if_neg fun both => here both.1.symm]

theorem clearControls_spec {hv : Hypervisor} (square : Square hv.domainCount hv.controls)
    (target : DomId) :
    Square hv.domainCount (hv.clearControls target).controls ∧
      ∀ i j, controlAt (hv.clearControls target).controls i j =
        if i = target.toNat ∨ j = target.toNat then .absent else controlAt hv.controls i j := by
  let step (c : Grid Control) (h : Nat) : Grid Control :=
    (c.set h target.toNat .absent).set target.toNat h .absent
  have read : ∀ (c : Grid Control) (h i j : Nat), controlAt (step c h) i j =
      if (target.toNat = i ∧ h = j) ∨ (h = i ∧ target.toNat = j) then .absent
      else controlAt c i j := by
    intro c h i j
    simp only [step, controlAt_clear, ite_or]
  have swept := Op.foldl_rule step (List.range hv.domainCount)
    (fun c => Square hv.domainCount c ∧ ∀ i j, controlAt c i j = controlAt hv.controls i j ∨
      controlAt c i j = .absent ∧ (i = target.toNat ∨ j = target.toNat))
    (fun h c => controlAt c h target.toNat = .absent ∧ controlAt c target.toNat h = .absent)
    ?visit ?stable ⟨square, fun _ _ => .inl rfl⟩
  case visit =>
    rintro h - c ⟨fits, spared⟩
    refine ⟨⟨(fits.set ..).set .., fun i j => ?_⟩, ?_, ?_⟩
    · rw [read]
      split_ifs with here
      · exact .inr ⟨rfl, here.elim (fun both => .inl both.1.symm) fun both => .inr both.2.symm⟩
      · exact spared i j
    · rw [read, if_pos (.inr ⟨rfl, rfl⟩)]
    · rw [read, if_pos (.inl ⟨rfl, rfl⟩)]
  case stable =>
    rintro h - x c - ⟨holds, held⟩
    rw [read, read]
    refine ⟨?_, ?_⟩
    · split_ifs
      · rfl
      · exact holds
    · split_ifs
      · rfl
      · exact held
  obtain ⟨⟨fits, spared⟩, clear⟩ := swept
  have fold : (hv.clearControls target).controls =
      (List.range hv.domainCount).foldl step hv.controls := rfl
  rw [fold]
  refine ⟨fits, fun i j => ?_⟩
  split_ifs with touched
  · by_contra present
    obtain ⟨row, cell⟩ := fits.inside present
    rcases touched with rfl | rfl
    · exact present (clear j (List.mem_range.mpr cell)).2
    · exact present (clear i (List.mem_range.mpr row)).1
  · exact (spared i j).resolve_right fun gone => touched gone.2

theorem column_clearControls {hv : Hypervisor} (square : Square hv.domainCount hv.controls)
    (target t : DomId) :
    column (hv.clearControls target).controls t =
      if t = target then fun _ => .absent
      else Function.update (column hv.controls t) target .absent := by
  funext h
  unfold column
  rw [(clearControls_spec square target).2]
  by_cases ofEntry : t = target
  · subst ofEntry
    simp [Control.edge]
  · have ofEntry' : ¬t.toNat = target.toNat := fun same => ofEntry (UInt16.toNat_inj.mp same)
    simp only [ofEntry, ofEntry', or_false, if_false, Function.update_apply, UInt16.toNat_inj]
    split_ifs <;> rfl

theorem thinned_clearControls {hv : Hypervisor} (square : Square hv.domainCount hv.controls)
    (target t : DomId) :
    Thinned (column hv.controls t) (column (hv.clearControls target).controls t) := by
  intro h
  rw [column_clearControls square]
  split_ifs
  · exact .inr rfl
  · rw [Function.update_apply]
    split_ifs
    · exact .inr rfl
    · exact .inl rfl

/-- The edges that a teardown leaves. -/
theorem column_destroy {hv : Hypervisor}
    (delegations : Delegations hv.domainCount hv.life hv.controls) (target h t : DomId)
    [Decidable (Under (column hv.controls t) h target)] :
    column (sweepUntilStable hv.domainCount (hv.domainCount * hv.domainCount + 1)
        (hv.clearControls target).controls) t h =
      if t = target ∨ Under (column hv.controls t) h target then .absent
      else column hv.controls t h := by
  obtain ⟨square, -⟩ := clearControls_spec delegations.square target
  have cleared := column_clearControls delegations.square target t
  by_cases ofEntry : t = target
  · rw [if_pos ofEntry] at cleared
    have tree : IsTree (column (hv.clearControls target).controls t) := by
      rw [cleared]
      exact ⟨fun present => absurd rfl present, fun root => by simp at root⟩
    rw [sweep_untouched square tree, cleared, if_pos (.inl ofEntry)]
  · rw [if_neg ofEntry] at cleared
    rw [sweep_subtree square (delegations.tree t) cleared]
    simp [ofEntry]

theorem Delegations.destroy {hv : Hypervisor}
    (delegations : Delegations hv.domainCount hv.life hv.controls) (target : DomId) :
    Delegations hv.domainCount (hv.life.set target.toNat .dead)
      (sweepUntilStable hv.domainCount (hv.domainCount * hv.domainCount + 1)
        (hv.clearControls target).controls) := by
  obtain ⟨square, cleared⟩ := clearControls_spec delegations.square target
  have less := thinned_clearControls delegations.square target
  obtain ⟨pruned, -⟩ := sweepUntilStable_spec (Nat.lt_succ_of_le (edges_le hv.domainCount
    (hv.clearControls target).controls))
  refine delegations.thin (pruned.square square)
    (fun t => sweep_tree square (delegations.tree t) (less t)) ?_ ?_
  · intro t x
    rcases pruned.column_thinned t x with same | gone
    · rw [same]
      exact less t x
    · exact .inr gone
  · intro h t present
    -- A surviving edge has neither end at the destroyed domain.
    have before := (pruned.thinned h.toNat t.toNat).resolve_right present
    have here : ¬(h.toNat = target.toNat ∨ t.toNat = target.toNat) := by
      intro touched
      rw [before, cleared, if_pos touched] at present
      exact present rfl
    rw [List.getElem?_set_ne fun same => here (.inl same.symm),
      List.getElem?_set_ne fun same => here (.inr same.symm)]
    exact ⟨rfl, rfl⟩

theorem isLive_iff {hv : Hypervisor} {d : DomId} :
    hv.isLive d = true ↔ hv.life[d.toNat]? = some .live :=
  decide_eq_true_iff

theorem holdsControl_iff {hv : Hypervisor} {h t : DomId} :
    hv.holdsControl h t = true ↔ controlAt hv.controls h.toNat t.toNat ≠ .absent :=
  decide_eq_true_iff

/-- Transitions that write neither the lifecycle nor the controls. -/
structure SameAuthority (hv hv' : Hypervisor) : Prop where
  domainCount : hv'.domainCount = hv.domainCount
  life : hv'.life = hv.life
  controls : hv'.controls = hv.controls

theorem Signalled.sameAuthority {actor : DomId} {hv hv' : Hypervisor}
    (signalled : Signalled actor hv hv') : SameAuthority hv hv' := by
  obtain @⟨target, s', -, -⟩ := signalled
  rcases wakeIfDeliverable_cases { hv with evtchn := s' } target.1 target.2 with
    ⟨same, -⟩ | ⟨vcpu, c, s'', -, -, -, -, woken⟩
  · rw [same]
    exact ⟨rfl, rfl, rfl⟩
  · rw [woken]
    exact ⟨rfl, rfl, rfl⟩

/-- The control edges of a hypervisor form a forest between live domains. -/
def Delegated (hv : Hypervisor) : Prop := Delegations hv.domainCount hv.life hv.controls

theorem SameAuthority.delegated {hv hv' : Hypervisor} (same : SameAuthority hv hv')
    (delegated : hv.Delegated) : hv'.Delegated := by
  unfold Delegated
  rw [same.domainCount, same.life, same.controls]
  exact delegated

theorem Delegated.effect {actor : DomId} {hv hv' : Hypervisor} (delegated : hv.Delegated)
    (inside : actor.toNat < hv.domainCount) (alive : hv.isLive actor = true)
    (effect : Effect actor hv hv') : hv'.Delegated := by
  cases effect with
  | @credit _ c' _ _ =>
      have same : SameAuthority hv { hv with credit := hv.credit.set actor.toNat c' } :=
        ⟨List.length_set, rfl, rfl⟩
      exact same.delegated delegated
  | signal signalled => exact signalled.sameAuthority.delegated delegated
  | create inside' _ dead =>
      exact Delegations.create delegated inside' inside dead (isLive_iff.mp alive)
  | @destroy target now inside' _ =>
      have torn := Delegations.destroy delegated target
      unfold Delegated domainCount
      rw [teardown_life, teardown_controls, teardown_credit]
      exact torn
  | delegate inside' inside'' held apart recipient fresh =>
      refine Delegations.delegate delegated inside' inside'' (holdsControl_iff.mp held) apart
        (isLive_iff.mp recipient) ?_
      by_contra present
      simp [holdsControl_iff.mpr present] at fresh
  | revoke _ _ _ _ => exact Delegations.revoke delegated ..
  | _ => exact delegated

theorem Reachable.delegated {c : Config} {hv : Hypervisor} (reachable : Reachable c hv) :
    hv.Delegated := by
  refine reachable.preserved ?_ ?_ ?_
  · have start := Delegations.new c
    unfold Delegated domainCount
    simpa [Hypervisor.new] using start
  · rintro t hv hv' - delegated (⟨inside, alive, effect⟩ | signalled)
    · exact delegated.effect inside alive effect
    · exact signalled.sameAuthority.delegated delegated
  · intro hv hv' delegated rejected
    rw [rejected.others]
    exact delegated

/-- `holder` is `top`, or `top` is its delegator over `target`, or that delegator's, and so
on. -/
def InSubtree (hv : Hypervisor) (target top holder : DomId) : Prop :=
  Relation.ReflTransGen (fun h p => hv.controlEdge h target = .via p) holder top

theorem under_column {hv : Hypervisor} {target top holder : DomId} :
    Under (column hv.controls target) holder top ↔ hv.InSubtree target top holder := by
  unfold Under InSubtree column
  simp only [Control.edge_eq_below]
  rfl

theorem climbsTo_iff {hv : Hypervisor} {caller target node : DomId} {steps : Nat} :
    hv.climbsTo caller target steps node = true ↔
      ∃ k < steps, climb (column hv.controls target) k node = some caller := by
  induction steps generalizing node with
  | zero => simp [climbsTo]
  | succ steps ih =>
      unfold climbsTo
      split_ifs with here
      · exact ⟨fun _ => ⟨0, Nat.succ_pos _, by rw [climb, here]⟩, fun _ => rfl⟩
      · have edge : column hv.controls target node = (hv.controlEdge node target).edge := rfl
        constructor
        · intro climbs
          cases via : hv.controlEdge node target with
          | absent => simp [via] at climbs
          | root => simp [via] at climbs
          | via parent =>
              rw [via] at climbs edge
              obtain ⟨k, less, climbed⟩ := ih.mp climbs
              exact ⟨k + 1, Nat.succ_lt_succ less, by
                simpa [climb, edge, Control.edge] using climbed⟩
        · rintro ⟨k, less, climbed⟩
          cases k with
          | zero => exact absurd (by simpa [climb] using climbed) here
          | succ k =>
              simp only [climb, edge] at climbed
              cases via : hv.controlEdge node target with
              | absent => simp [via, Control.edge] at climbed
              | root => simp [via, Control.edge] at climbed
              | via parent =>
                  rw [via] at climbed
                  exact ih.mpr ⟨k, Nat.lt_of_succ_lt_succ less, climbed⟩

/-- Every edge is fewer hops from its root than there are domains. -/
theorem Delegated.climbs {hv : Hypervisor} (delegated : hv.Delegated) {target node : DomId}
    (present : column hv.controls target node ≠ .absent) :
    ∃ k < hv.domainCount, ∃ r, climb (column hv.controls target) k node = some r ∧
      column hv.controls target r = .root := by
  refine ((delegated.tree target).rooted present).climbs_within UInt16.toNat
    (fun _ _ => UInt16.toNat_inj.mp) ?_
  intro y here
  exact (delegated.square.inside fun gone => here (Control.edge_eq_absent.mpr gone)).1

/-- The bounded walk finds every delegator. -/
theorem Delegated.controlSubtreeContains_iff {hv : Hypervisor} (delegated : hv.Delegated)
    {caller target node : DomId} (held : hv.holdsControl caller target = true) :
    hv.controlSubtreeContains caller node target = true ↔ hv.InSubtree target caller node := by
  unfold controlSubtreeContains
  rw [climbsTo_iff, ← under_column, Forest.under_iff_climb]
  constructor
  · rintro ⟨k, -, climbed⟩
    exact ⟨k, climbed⟩
  · rintro ⟨k, climbed⟩
    refine ⟨k, ?_, climbed⟩
    have present : column hv.controls target node ≠ .absent := by
      cases k with
      | zero =>
          obtain rfl : node = caller := by simpa [climb] using climbed
          exact fun gone => holdsControl_iff.mp held (Control.edge_eq_absent.mp gone)
      | succ k =>
          intro gone
          simp [climb, gone] at climbed
    obtain ⟨depth, within, r, atRoot, isRoot⟩ := delegated.climbs present
    -- Above the root there is nothing to find.
    by_contra beyond
    obtain ⟨e, rfl⟩ := Nat.exists_eq_add_of_le (show depth + 1 ≤ k by omega)
    rw [Nat.add_assoc, Forest.climb_add, atRoot, Option.bind_some, Nat.add_comm,
      Forest.climb_root isRoot] at climbed
    cases climbed

theorem Delegated.revoked {hv : Hypervisor} (delegated : hv.Delegated) (holder target : DomId)
    (h t : DomId) :
    let revoked := (hv.setControl holder target .absent).sweepOrphanedControlEdges
    (t = target ∧ hv.InSubtree target holder h → revoked.controlEdge h t = .absent) ∧
      (¬(t = target ∧ hv.InSubtree target holder h) →
        revoked.controlEdge h t = hv.controlEdge h t) := by
  classical
  have exact' := column_revoke delegated holder target h t
  rw [under_column] at exact'
  refine ⟨fun removed => ?_, fun spared => ?_⟩
  · rw [if_pos removed] at exact'
    exact Control.edge_eq_absent.mp exact'
  · rw [if_neg spared] at exact'
    exact Control.edge_injective exact'

theorem Delegated.destroyed {hv : Hypervisor} (delegated : hv.Delegated) (target : DomId)
    (now : Ticks) (h t : DomId) :
    (t = target ∨ h = target ∨ hv.InSubtree t target h →
        (hv.teardown target now).2.controlEdge h t = .absent) ∧
      (¬(t = target ∨ h = target ∨ hv.InSubtree t target h) →
        (hv.teardown target now).2.controlEdge h t = hv.controlEdge h t) := by
  classical
  have exact' := column_destroy delegated target h t
  rw [← teardown_controls target now] at exact'
  refine ⟨fun removed => ?_, fun spared => ?_⟩
  · rw [if_pos] at exact'
    · exact Control.edge_eq_absent.mp exact'
    · rcases removed with ofEntry | rfl | below
      · exact .inl ofEntry
      · exact .inr .refl
      · exact .inr (under_column.mpr below)
  · rw [if_neg] at exact'
    · exact Control.edge_injective exact'
    · rintro (ofEntry | below)
      · exact spared (.inl ofEntry)
      · exact spared (.inr (.inr (under_column.mp below)))

/-- The control edges over `target` form a tree between live domains. -/
structure DelegationTree (hv : Hypervisor) (target : DomId) : Prop where
  oneRoot : ∀ h h', hv.controlEdge h target = .root → hv.controlEdge h' target = .root → h = h'
  delegator : ∀ h p, hv.controlEdge h target = .via p → hv.controlEdge p target ≠ .absent
  acyclic : ∀ h, ¬Relation.TransGen (fun h p => hv.controlEdge h target = .via p) h h
  endsAtRoot : ∀ h, hv.controlEdge h target ≠ .absent →
    ∃ r, hv.controlEdge r target = .root ∧ hv.InSubtree target r h
  diagonal : hv.controlEdge target target = .absent
  alive : ∀ h, hv.controlEdge h target ≠ .absent → hv.isLive h = true ∧ hv.isLive target = true

theorem Delegated.delegationTree {hv : Hypervisor} (delegated : hv.Delegated) (target : DomId) :
    DelegationTree hv target := by
  have tree := delegated.tree target
  have via : ∀ {h p : DomId}, hv.controlEdge h target = .via p ↔
      column hv.controls target h = .below p := Control.edge_eq_below.symm
  have present : ∀ {h : DomId}, hv.controlEdge h target ≠ .absent ↔
      column hv.controls target h ≠ .absent := Control.edge_eq_absent.not.symm
  have root : ∀ {h : DomId}, hv.controlEdge h target = .root ↔
      column hv.controls target h = .root := by
    intro h
    have edge : column hv.controls target h = (hv.controlEdge h target).edge := rfl
    rw [edge]
    cases hv.controlEdge h target <;> simp [Control.edge]
  exact {
    oneRoot := fun h h' here here' => tree.unique (root.mp here) (root.mp here')
    delegator := fun h p here => present.mpr (tree.parent_present (via.mp here))
    acyclic := by
      intro h loop
      have held : column hv.controls target h ≠ .absent := by
        obtain ⟨p, step, -⟩ := Relation.TransGen.head'_iff.mp loop
        rw [via.mp step]
        simp
      simp only [via] at loop
      exact (tree.rooted held).acyclic loop
    endsAtRoot := by
      intro h held
      obtain ⟨k, r, climbed, isRoot⟩ := (tree.rooted (present.mp held)).climbs
      exact ⟨r, root.mpr isRoot, under_column.mp (Forest.under_iff_climb.mpr ⟨k, climbed⟩)⟩
    diagonal := delegated.diagonal target
    alive := by
      intro h held
      obtain ⟨holder, ofEntry⟩ := delegated.alive held
      exact ⟨isLive_iff.mpr holder, isLive_iff.mpr ofEntry⟩ }

theorem controlRevoke_apply {hv : Hypervisor} {caller target holder : DomId}
    (inside : target.toNat < hv.domainCount) (inside' : holder.toNat < hv.domainCount) :
    controlRevoke caller target holder hv =
      if hv.holdsControl caller target = true ∧
          hv.controlSubtreeContains caller holder target = true then
        (.ok .done, (hv.setControl holder target .absent).sweepOrphanedControlEdges)
      else (.error .denied, hv) := by
  simp only [controlRevoke, inRange, Op.ensure_bind_apply, inside, inside', decide_true, if_true,
    Op.modify_bind_apply, Op.pure_apply]
  cases hv.holdsControl caller target <;>
    cases hv.controlSubtreeContains caller holder target <;> rfl

/-- In every reachable state the edges over each target form a tree; a revocation succeeds
exactly for holders above the revoked one and removes exactly its subtree over that target;
a destruction removes exactly the edges the domain held, those over it, and the subtrees
delegated through it. -/
theorem delegation_forest (c : Config) (hv : Hypervisor) (reachable : Reachable c hv) :
    (∀ target, DelegationTree hv target) ∧
      (∀ caller target holder : DomId, caller.toNat < hv.domainCount →
        target.toNat < hv.domainCount → holder.toNat < hv.domainCount →
        ((∃ out, (controlRevoke caller target holder hv).1 = .ok out) ↔
            hv.holdsControl caller target = true ∧ hv.InSubtree target caller holder) ∧
          ∀ out, (controlRevoke caller target holder hv).1 = .ok out → ∀ h t : DomId,
            (t = target ∧ hv.InSubtree target holder h →
                (controlRevoke caller target holder hv).2.controlEdge h t = .absent) ∧
              (¬(t = target ∧ hv.InSubtree target holder h) →
                (controlRevoke caller target holder hv).2.controlEdge h t =
                  hv.controlEdge h t)) ∧
      ∀ (caller target : DomId) (now : Ticks) out,
        (domainDestroy caller target now hv).1 = .ok out → ∀ h t : DomId,
          (t = target ∨ h = target ∨ hv.InSubtree t target h →
              (domainDestroy caller target now hv).2.controlEdge h t = .absent) ∧
            (¬(t = target ∨ h = target ∨ hv.InSubtree t target h) →
              (domainDestroy caller target now hv).2.controlEdge h t = hv.controlEdge h t) := by
  have delegated := reachable.delegated
  refine ⟨delegated.delegationTree, ?_, ?_⟩
  · intro caller target holder _ inside inside'
    rw [controlRevoke_apply inside inside']
    split_ifs with permitted
    · obtain ⟨held, below⟩ := permitted
      refine ⟨⟨fun _ => ⟨held, ?_⟩, fun _ => ⟨.done, rfl⟩⟩, fun _ _ =>
        delegated.revoked holder target⟩
      exact (delegated.controlSubtreeContains_iff held).mp below
    · refine ⟨⟨?_, ?_⟩, ?_⟩
      · rintro ⟨out, done⟩
        cases done
      · rintro ⟨held, below⟩
        exact absurd ⟨held, (delegated.controlSubtreeContains_iff held).mpr below⟩ permitted
      · intro out done
        cases done
  · intro caller target now out done h t
    have destroyed := delegated.destroyed target now h t
    have outcome : (domainDestroy caller target now hv).2 = (hv.teardown target now).2 := by
      simp only [domainDestroy, inRange, selfOrControls, Op.ensure_bind_apply, Op.modify_bind_apply,
        Op.pure_apply] at done ⊢
      split_ifs at done ⊢
      rfl
    rw [outcome]
    exact destroyed

/-- A chain of three holders, revoked in the middle. -/
theorem delegation_forest_chain :
    let hv := Op.run apply [.guest 0 (.domainCreate 1 false), .guest 0 (.domainCreate 2 false),
      .guest 0 (.domainCreate 3 false), .guest 0 (.controlGrant 3 1), .guest 1 (.controlGrant 3 2)]
      (new ⟨4, 1, 1, 1, 1, 1, 0⟩)
    hv.controlEdge 2 3 = .via 1 ∧ (controlRevoke 0 3 1 hv).1 = .ok .done ∧
      (controlRevoke 0 3 1 hv).2.controlEdge 2 3 = .absent := by
  intro hv
  have done : (controlRevoke 0 3 1 hv).1 = .ok .done := by decide +kernel
  have via : hv.controlEdge 2 3 = .via 1 := by decide +kernel
  refine ⟨via, done, ?_⟩
  have revoked :=
    ((delegation_forest ⟨4, 1, 1, 1, 1, 1, 0⟩ hv ⟨_, rfl⟩).2.1 0 3 1 (by decide +kernel)
    (by decide +kernel) (by decide +kernel)).2 .done done 2 3
  exact revoked.1 ⟨rfl, .single via⟩

end Baleen.Hypervisor
