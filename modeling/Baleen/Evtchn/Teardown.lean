import Baleen.Evtchn.Ports
import Baleen.Lib.Keeps

/-!
# Bulk release of ports

Closing every port of a domain, and freeing the half-open ports that await it.
-/

namespace Baleen.Evtchn.System

variable {s s' s'' : System} {target : DomId}

theorem SameSizes.disconnect (s : System) (dom : DomId) (c : EventChannel) :
    SameSizes s (s.disconnect dom c) := by
  unfold System.disconnect
  split
  · exact .setChan ..
  · exact .refl s

theorem close_sizes (start : System) (dom : DomId) (port : Port) :
    Op.Keeps (SameSizes start) (close dom port) := by
  refine (Op.Keeps.query _).bind fun c => (Op.Keeps.ensure _ _).bind fun _ => ?_
  refine Op.Keeps.bind (.modify fun s same => same.trans (.disconnect s dom c)) fun _ => ?_
  exact .modify fun s same => same.trans (.setChan s dom port .FREE)

theorem closeAll_sizes (dom : DomId) (s : System) : SameSizes s (closeAll dom s).2 := by
  refine Op.Keeps.sweep ?_ _ (.refl s)
  intro port s' r same ran
  simp only [Option.ite_none_right_eq_some, Option.some.injEq] at ran
  obtain ⟨-, rfl⟩ := ran
  exact close_sizes s dom port s' same

theorem clearUnboundInto_sizes (target : DomId) (s : System) :
    SameSizes s (clearUnboundInto target s) := by
  have row : ∀ dom s', SameSizes s s' → SameSizes s (s'.clearRow target dom) := by
    intro dom s' same
    unfold clearRow
    induction s'.ports dom generalizing s' with
    | nil => exact same
    | cons port rest ih =>
        rw [List.foldl_cons]
        apply ih
        split_ifs
        · exact same.trans (.setChan ..)
        · exact same
  have rows : ∀ (doms : List DomId) s', SameSizes s s' →
      SameSizes s (doms.foldl (fun s dom => s.clearRow target dom) s') := by
    intro doms
    induction doms with
    | nil => exact fun _ same => same
    | cons dom rest ih => exact fun s' same => ih _ (row dom s' same)
  exact rows _ s (.refl s)

/-- A port of `target` that was closed, or the peer of one, or an untouched port. -/
structure Closed (target : DomId) (s s' : System) : Prop where
  consistent : s'.Consistent
  sizes : SameSizes s s'
  ports : ∀ d p, s'.chan? d p = s.chan? d p ∨ (d = target ∧ s'.chan? d p = some .FREE) ∨
    (∃ c q, s.chan? d p = some c ∧ c.state = .interdomain target q ∧
      s'.chan? d p = some ⟨.unbound target, false, false⟩)

theorem Closed.refl (consistent : s.Consistent) (target : DomId) : Closed target s s :=
  ⟨consistent, SameSizes.refl s, fun _ _ => .inl rfl⟩

theorem chan?_close {c : EventChannel} {port : Port} (consistent : s.Consistent)
    (found : s.chan? target port = some c) (d : DomId) (p : Port) :
    ((s.disconnect target c).setChan target port .FREE).chan? d p =
      if target = d ∧ port = p then some .FREE
      else if c.state = .interdomain d p then some ⟨.unbound target, false, false⟩
      else s.chan? d p := by
  cases state : c.state with
  | interdomain r q =>
      obtain ⟨peer, present, back⟩ := consistent.reciprocal found state
      have first : s.disconnect target c = s.setChan r q ⟨.unbound target, false, false⟩ := by
        simp [disconnect, state]
      obtain ⟨y, here⟩ : ∃ y, (s.disconnect target c).chan? target port = some y := by
        rw [first, chan?_setChan present]
        split_ifs
        · exact ⟨_, rfl⟩
        · exact ⟨c, found⟩
      rw [chan?_setChan here, first, chan?_setChan present]
      simp only [PortState.interdomain.injEq]
  | _ =>
      have first : s.disconnect target c = s := by simp [disconnect, state]
      rw [first, chan?_setChan found]
      simp

theorem Closed.close (closed : Closed target s s') {c : EventChannel} {port : Port}
    (found : s'.chan? target port = some c) (known : target.toNat < s.domainCount) :
    Closed target s ((s'.disconnect target c).setChan target port .FREE) where
  consistent := closed.consistent.close found (by rw [closed.sizes.domainCount]; exact known)
  sizes := by
    refine closed.sizes.trans (SameSizes.trans ?_ (SameSizes.setChan ..))
    unfold disconnect
    split
    · exact SameSizes.setChan ..
    · exact SameSizes.refl s'
  ports := by
    intro d p
    rw [chan?_close closed.consistent found]
    split_ifs with here peer
    · exact .inr (.inl ⟨here.1.symm, rfl⟩)
    · -- The peer pointed at `target`, so it was not touched before.
      obtain ⟨z, present, back⟩ := closed.consistent.reciprocal found peer
      rcases closed.ports d p with same | ⟨-, free⟩ | ⟨_, _, _, _, halfOpen⟩
      · exact .inr (.inr ⟨z, port, same ▸ present, back, rfl⟩)
      · rw [present] at free
        cases free
        cases back
      · rw [present] at halfOpen
        cases halfOpen
        cases back
    · exact closed.ports d p

theorem closeAll_spec (consistent : s.Consistent) (known : target.toNat < s.domainCount) :
    (∀ r ∈ (closeAll target s).1, r = .ok ()) ∧ Closed target s (closeAll target s).2 ∧
      ∀ p ∈ s.ports target, ∀ c, (closeAll target s).2.chan? target p = some c →
        c.state = .free := by
  let step (port : Port) (s : System) : Option (Except EvtchnError Unit × System) :=
    if s.stateOf target port ≠ some .free then some (close target port s) else none
  have advance : ∀ port ∈ s.ports target, ∀ s₁ r s₂, Closed target s s₁ →
      step port s₁ = some (r, s₂) → r = .ok () ∧ ∃ c, s₁.chan? target port = some c ∧
        s₂ = (s₁.disconnect target c).setChan target port .FREE := by
    intro port member s₁ r s₂ closed ran
    simp only [step] at ran
    split_ifs at ran with busy
    rcases close_cases s₁ target port with ⟨c, present, -, done⟩ | ⟨free, -⟩
    · rw [done] at ran
      cases ran
      exact ⟨rfl, c, present, rfl⟩
    · -- A visited port lies in the table, so it is not free for want of a cell.
      have inside : port.toNat < s₁.domains.width target.toNat := by
        have visited := Words.mem_range32.mp member
        have width : s₁.portCount target = s.portCount target := closed.sizes.portCount target
        unfold portCount at width
        unfold portCount at visited
        omega
      obtain ⟨c, present⟩ := Grid.exists_get? inside
      exact absurd (stateOf_eq_some.mpr ⟨c, present, free c present⟩) busy
  have swept := Op.sweep_rule step (s.ports target) (Closed target s) (· = .ok ())
    (fun port s₁ => ∀ c, s₁.chan? target port = some c → c.state = .free)
    ?ran ?skipped ?stable (Closed.refl consistent target)
  case ran =>
    intro port member s₁ r s₂ closed ran
    obtain ⟨fine, c, present, rfl⟩ := advance port member s₁ r s₂ closed ran
    refine ⟨closed.close present known, fine, ?_⟩
    intro c' after
    rw [chan?_close closed.consistent present, if_pos ⟨rfl, rfl⟩] at after
    cases after
    rfl
  case skipped =>
    intro port _ s₁ _ skipped c present
    simp only [step, ite_not] at skipped
    split_ifs at skipped with free
    obtain ⟨c', present', state⟩ := stateOf_eq_some.mp free
    rw [present] at present'
    cases present'
    exact state
  case stable =>
    intro port member port' _ s₁ r s₂ closed done ran c after
    obtain ⟨-, c', present, rfl⟩ := advance port member s₁ r s₂ closed ran
    rw [chan?_close closed.consistent present] at after
    split_ifs at after with here peer
    · cases after
      rfl
    · obtain ⟨z, present', back⟩ := closed.consistent.reciprocal present peer
      have free := done z present'
      rw [back] at free
      cases free
    · exact done c after
  obtain ⟨closed, fine, settled⟩ := swept
  exact ⟨fine, closed, settled⟩

/-- Half-open ports awaiting `target` may have been freed, no other port was touched. -/
structure Cleared (target : DomId) (s s' : System) : Prop where
  consistent : s'.Consistent
  sizes : SameSizes s s'
  ports : ∀ d p, s'.chan? d p = s.chan? d p ∨
    (s.stateOf d p = some (.unbound target) ∧ s'.chan? d p = some .FREE)

theorem Cleared.refl (consistent : s.Consistent) (target : DomId) : Cleared target s s :=
  ⟨consistent, SameSizes.refl s, fun _ _ => .inl rfl⟩

theorem Cleared.trans (first : Cleared target s s') (second : Cleared target s' s'') :
    Cleared target s s'' where
  consistent := second.consistent
  sizes := first.sizes.trans second.sizes
  ports := by
    intro d p
    rcases second.ports d p with same | ⟨waiting, free⟩
    · rw [same]
      exact first.ports d p
    · rcases first.ports d p with same' | ⟨waiting', free'⟩
      · right
        refine ⟨?_, free⟩
        unfold stateOf at waiting ⊢
        rwa [same'] at waiting
      · exact .inr ⟨waiting', free⟩

/-- An invitation that was withdrawn does not come back. -/
theorem Cleared.gone (cleared : Cleared target s s') {d : DomId} {p : Port}
    (gone : s.stateOf d p ≠ some (.unbound target)) :
    s'.stateOf d p ≠ some (.unbound target) := by
  rcases cleared.ports d p with same | ⟨waiting, -⟩
  · unfold stateOf at gone ⊢
    rwa [same]
  · exact absurd waiting gone

/-- Free one port if it awaits `target`. -/
def clearPort (target d : DomId) (s : System) (p : Port) : System :=
  if s.stateOf d p = some (.unbound target) then s.setChan d p .FREE else s

theorem clearPort_spec (consistent : s.Consistent) (d : DomId) (p : Port) :
    Cleared target s (clearPort target d s p) ∧
      (clearPort target d s p).stateOf d p ≠ some (.unbound target) := by
  unfold clearPort
  split_ifs with waiting
  · obtain ⟨c, present, state⟩ := stateOf_eq_some.mp waiting
    refine ⟨⟨?_, SameSizes.setChan .., ?_⟩, ?_⟩
    · refine consistent.rewrite present ?_ ?_ ?_ ?_ ?_
      · intro r q; simp [state]
      · intro r q; simp [EventChannel.FREE]
      · exact fun _ => ⟨rfl, rfl⟩
      · intro r; simp [EventChannel.FREE]
      · intro v i; simp [EventChannel.FREE]
    · intro d' p'
      rw [chan?_setChan present]
      split_ifs with here
      · obtain ⟨rfl, rfl⟩ := here
        exact .inr ⟨waiting, rfl⟩
      · exact .inl rfl
    · unfold stateOf
      rw [chan?_setChan present, if_pos ⟨rfl, rfl⟩]
      simp [EventChannel.FREE]
  · exact ⟨Cleared.refl consistent target, waiting⟩

theorem clearRow_spec (consistent : s.Consistent) (d : DomId) :
    Cleared target s (s.clearRow target d) ∧
      ∀ p ∈ s.ports d, (s.clearRow target d).stateOf d p ≠ some (.unbound target) :=
  Op.foldl_rule (clearPort target d) (s.ports d) (Cleared target s)
    (fun p s₁ => s₁.stateOf d p ≠ some (.unbound target))
    (fun p _ _ cleared =>
      have port := clearPort_spec cleared.consistent d p
      ⟨cleared.trans port.1, port.2⟩)
    (fun p _ _ _ cleared gone => (clearPort_spec cleared.consistent d p).1.gone gone)
    (Cleared.refl consistent target)

theorem clearUnboundInto_spec (consistent : s.Consistent) (target : DomId) :
    Cleared target s (clearUnboundInto target s) ∧ ∀ d ∈ Words.range16 s.domainCount,
      ∀ p ∈ s.ports d, (clearUnboundInto target s).stateOf d p ≠ some (.unbound target) :=
  Op.foldl_rule (fun s d => clearRow target d s) (Words.range16 s.domainCount) (Cleared target s)
    (fun d s₁ => ∀ p ∈ s.ports d, s₁.stateOf d p ≠ some (.unbound target))
    (fun d _ _ cleared =>
      have row := clearRow_spec cleared.consistent d
      ⟨cleared.trans row.1, fun p member =>
        row.2 p (by rw [cleared.sizes.ports]; exact member)⟩)
    (fun d _ _ _ cleared gone p member =>
      (clearRow_spec cleared.consistent d).1.gone (gone p member))
    (Cleared.refl consistent target)

end Baleen.Evtchn.System
