import Baleen.Grant.Maps

/-!
# Bulk release of grants and mappings

Draining unmaps a chosen set of live mappings, revoking withdraws a chosen set of
unmapped entries.  No sub-step is refused, and entries and mappings that were not
chosen stay as they are.
-/

namespace Baleen.Grant.System

variable {s s' : System}

/-- Equality of the table sizes. -/
structure SameSizes (s s' : System) : Prop where
  domainCount : s'.domainCount = s.domainCount
  entryCount : ∀ d, s'.entryCount d = s.entryCount d

theorem SameSizes.refl (s : System) : SameSizes s s := ⟨rfl, fun _ => rfl⟩

theorem SameSizes.trans {s'' : System} (first : SameSizes s s') (second : SameSizes s' s'') :
    SameSizes s s'' where
  domainCount := second.domainCount.trans first.domainCount
  entryCount d := (second.entryCount d).trans (first.entryCount d)

theorem SameSizes.setEntry (s : System) (grantor : DomId) (gref : GrantRef) (e : GrantEntry) :
    SameSizes s (s.setEntry grantor gref e) := ⟨by simp, fun _ => by simp⟩

theorem SameSizes.grefs (same : SameSizes s s') (d : DomId) : s'.grefs d = s.grefs d := by
  unfold System.grefs
  rw [same.entryCount]

theorem SameSizes.allRefs (same : SameSizes s s') : s'.allRefs = s.allRefs := by
  unfold System.allRefs
  rw [same.domainCount]
  simp only [same.grefs]

/-- The mappings `gone` were unmapped. -/
structure Drained (gone : Mapping → Prop) (s s' : System) : Prop where
  consistent : s'.Consistent
  terms : SameTerms s s'
  sizes : SameSizes s s'
  live : ∀ m, m ∈ s'.live ↔ m ∈ s.live ∧ ¬gone m
  entries : ∀ d g, (∀ m ∈ s.live, gone m → ¬(m.grantor = d ∧ m.gref = g)) →
    s'.entryAt d g = s.entryAt d g

theorem Drained.congr {gone gone' : Mapping → Prop} (drained : Drained gone s s')
    (same : ∀ m, gone m ↔ gone' m) : Drained gone' s s' := by
  obtain rfl : gone = gone' := funext fun m => propext (same m)
  exact drained

theorem drain_spec (consistent : s.Consistent) {gone : List Mapping}
    (distinct : (gone.map Mapping.name).Nodup) (chosen : ∀ m ∈ gone, m ∈ s.live) :
    (drain (gone.map Mapping.name) s).1 = (gone.map s.backingOf).map .ok ∧
      s.backing.Perm (gone.map s.backingOf ++ (drain (gone.map Mapping.name) s).2.backing) ∧
      Drained (· ∈ gone) s (drain (gone.map Mapping.name) s).2 := by
  induction gone generalizing s with
  | nil =>
      refine ⟨rfl, List.Perm.refl _, consistent, fun _ _ => rfl, SameSizes.refl s, ?_, ?_⟩
      · simp [drain, Op.sweep]
      · exact fun _ _ _ => rfl
  | cons m rest ih =>
      obtain ⟨a, s₁, ran, released⟩ := unmap_ok consistent (chosen m (by simp))
      obtain ⟨fresh, distinct'⟩ := List.nodup_cons.mp distinct
      -- A mapping still to come has another name, so it is still live.
      have other : ∀ m' ∈ rest, m' ≠ m := by
        rintro m' member rfl
        exact fresh (List.mem_map_of_mem member)
      have remains : ∀ m' ∈ rest, m' ∈ s₁.live := by
        intro m' member
        have before := released.live_perm.mem_iff.mp (chosen m' (List.mem_cons_of_mem _ member))
        exact (List.mem_cons.mp before).resolve_left (other m' member)
      obtain ⟨results, backing, drained⟩ :=
        ih (released.consistent consistent) distinct' remains
      have same : s₁.backingOf = s.backingOf := funext released.sameTerms.backingOf
      have first : s.backingOf m = ⟨a.frame, m.writable⟩ := backingOf_of_active released.active
      rw [same] at results backing
      have unfold₁ : drain ((m :: rest).map Mapping.name) s =
          (.ok ⟨a.frame, m.writable⟩ :: (drain (rest.map Mapping.name) s₁).1,
            (drain (rest.map Mapping.name) s₁).2) := by
        simp only [drain, List.map_cons, Op.sweep, Mapping.name, ran]
      have gone : m ∉ s₁.live := by
        intro again
        have nodup := (released.live_perm.map Mapping.name).nodup_iff.mp consistent.names
        exact (List.nodup_cons.mp nodup).1 (List.mem_map_of_mem again)
      rw [unfold₁]
      refine ⟨by simp [results, first], ?_, drained.consistent, ?_, ?_, ?_, ?_⟩
      · rw [List.map_cons, first]
        exact released.backing.trans (backing.cons _)
      · exact fun d g => (drained.terms d g).trans (released.sameTerms d g)
      · exact SameSizes.trans ⟨released.domainCount, released.entryCount⟩ drained.sizes
      · intro m'
        rw [drained.live, released.live_perm.mem_iff, List.mem_cons, List.mem_cons]
        constructor
        · rintro ⟨before, kept⟩
          exact ⟨.inr before, fun bad => bad.elim (fun eq => gone (eq ▸ before)) kept⟩
        · rintro ⟨before, kept⟩
          exact ⟨before.resolve_left fun eq => kept (.inl eq), fun bad => kept (.inr bad)⟩
      · intro d g apart
        rw [drained.entries d g, released.entryAt, if_neg]
        · exact apart m released.mem_live (List.mem_cons_self ..)
        · intro m' isLive member
          refine apart m' ?_ (List.mem_cons_of_mem _ member)
          exact released.live_perm.mem_iff.mpr (List.mem_cons_of_mem _ isLive)

/-- Draining the live mappings that pass a test. -/
theorem drain_filter (consistent : s.Consistent) (test : Mapping → Bool) :
    (drain ((s.live.filter test).map Mapping.name) s).1 =
        ((s.live.filter test).map s.backingOf).map .ok ∧
      s.backing.Perm ((s.live.filter test).map s.backingOf ++
        (drain ((s.live.filter test).map Mapping.name) s).2.backing) ∧
      Drained (fun m => test m = true) s (drain ((s.live.filter test).map Mapping.name) s).2 := by
  have distinct : ((s.live.filter test).map Mapping.name).Nodup :=
    (List.Sublist.map Mapping.name List.filter_sublist).nodup consistent.names
  obtain ⟨results, backing, drained⟩ :=
    drain_spec consistent distinct fun m member => (List.mem_filter.mp member).1
  refine ⟨results, backing, drained.consistent, drained.terms, drained.sizes, ?_, ?_⟩
  · intro m
    rw [drained.live, List.mem_filter]
    tauto
  · exact fun d g apart => drained.entries d g fun m isLive member =>
      apart m isLive (List.mem_filter.mp member).2

theorem drainMapsOf_eq (s : System) (grantee : DomId) :
    drainMapsOf grantee s =
      drain ((s.live.filter fun m => m.grantee = grantee).map Mapping.name) s := by
  unfold drainMapsOf live Slab.live
  congr 1
  rw [List.filter_filter]
  simp only [Bool.and_comm]
  refine List.map_congr_left ?_
  intro m member
  obtain ⟨-, test⟩ := List.mem_filter.mp member
  have mine : m.grantee = grantee := of_decide_eq_true (Bool.and_eq_true _ _ ▸ test).2
  simp [Mapping.name, mine]

theorem drainForeignMapsOf_eq (s : System) (target : DomId) :
    drainForeignMapsOf target s =
      drain ((s.live.filter fun m => m.grantor = target && m.grantee ≠ target).map
        Mapping.name) s := by
  unfold drainForeignMapsOf live Slab.live
  congr 1
  rw [List.filter_filter]
  simp only [Bool.and_comm, Bool.and_assoc]
  rfl

/-- The entries `gone` may have been withdrawn, no other was touched. -/
structure Revoked (gone : DomId → GrantRef → Prop) (s s' : System) : Prop where
  consistent : s'.Consistent
  maps : s'.maps = s.maps
  sizes : SameSizes s s'
  entries : ∀ d g, s'.entryAt d g = s.entryAt d g ∨
    (s'.entryAt d g = some .free ∧ gone d g ∧ (s.grantEntry d g).isSome)

theorem Revoked.live {gone : DomId → GrantRef → Prop} (revoked : Revoked gone s s') :
    s'.live = s.live := by
  unfold System.live
  rw [revoked.maps]

theorem Revoked.grantEntry {gone : DomId → GrantRef → Prop} (revoked : Revoked gone s s')
    {d : DomId} {g : GrantRef} {a : Access} (active : s'.grantEntry d g = some a) :
    s.grantEntry d g = some a := by
  rw [grantEntry_eq_some] at active ⊢
  rcases revoked.entries d g with same | ⟨free, -⟩
  · rw [← same, active]
  · simp [free] at active

/-- Withdraw an entry that an item names, if its permit passes a test. -/
def revokeStep {ι : Type} (slot : ι → DomId × GrantRef) (test : Access → Bool) (item : ι)
    (s : System) : Option (Except GrantError Unit × System) :=
  if (s.grantEntry (slot item).1 (slot item).2).any test then
    some (endAccess (slot item).1 (slot item).2 s)
  else none

theorem revoke_sweep {ι : Type} (consistent : s.Consistent) (slot : ι → DomId × GrantRef)
    (test : Access → Bool) (items : List ι)
    (unmapped : ∀ i ∈ items, ∀ a, s.grantEntry (slot i).1 (slot i).2 = some a → test a = true →
      a.maps = 0) :
    let swept := Op.sweep (revokeStep slot test) items s
    (∀ r ∈ swept.1, r = .ok ()) ∧
      Revoked (fun d g => (∃ i ∈ items, slot i = (d, g)) ∧ ∃ a, s.grantEntry d g = some a ∧
        test a = true) s swept.2 ∧
      ∀ i ∈ items, ∀ a, swept.2.grantEntry (slot i).1 (slot i).2 = some a → test a = false := by
  let P := Revoked (fun d g => (∃ i ∈ items, slot i = (d, g)) ∧ ∃ a, s.grantEntry d g = some a ∧
    test a = true) s
  have start : P s := ⟨consistent, rfl, SameSizes.refl s, fun _ _ => .inl rfl⟩
  have advance : ∀ i ∈ items, ∀ s₁ r s₂, P s₁ → revokeStep slot test i s₁ = some (r, s₂) →
      P s₂ ∧ r = .ok () ∧ s₂ = s₁.setEntry (slot i).1 (slot i).2 .free := by
    intro i member s₁ r s₂ revoked ran
    unfold revokeStep at ran
    split_ifs at ran with chosen
    obtain ⟨a, active, passed⟩ : ∃ a, s₁.grantEntry (slot i).1 (slot i).2 = some a ∧
        test a = true := by simpa [Option.any_eq_true] using chosen
    have before := revoked.grantEntry active
    have idle := unmapped i member a before passed
    rcases endAccess_cases s₁ (slot i).1 (slot i).2 with ⟨b, active', -, done⟩ | ⟨refused, -⟩
    · obtain rfl : a = b := by simpa [active] using active'
      rw [done] at ran
      cases ran
      refine ⟨⟨revoked.consistent.endAccess active idle, revoked.maps,
        revoked.sizes.trans (SameSizes.setEntry ..), ?_⟩, rfl, rfl⟩
      intro d g
      rw [entryAt_setEntry, grantEntry_eq_some.mp active]
      split_ifs with here
      · obtain ⟨rfl, rfl⟩ := here
        exact .inr ⟨rfl, ⟨⟨i, member, rfl⟩, a, before, passed⟩, by simp [before]⟩
      · exact revoked.entries d g
    · exact absurd idle (refused a active)
  have swept := Op.sweep_rule (revokeStep slot test) items P (· = .ok ())
    (fun i s₁ => ∀ a, s₁.grantEntry (slot i).1 (slot i).2 = some a → test a = false)
    ?ran ?skipped ?stable start
  case ran =>
    intro i member s₁ r s₂ revoked ran
    obtain ⟨revoked', fine, rfl⟩ := advance i member s₁ r s₂ revoked ran
    refine ⟨revoked', fine, ?_⟩
    intro a active
    rw [grantEntry_eq_some, entryAt_setEntry] at active
    cases found : s₁.entryAt (slot i).1 (slot i).2 <;> simp [found] at active
  case skipped =>
    intro i _ s₁ _ skipped a active
    simpa [revokeStep, active] using skipped
  case stable =>
    intro i member j _ s₁ r s₂ revoked done ran a active
    obtain ⟨-, -, rfl⟩ := advance i member s₁ r s₂ revoked ran
    rw [grantEntry_eq_some, entryAt_setEntry] at active
    split_ifs at active with here
    · cases found : s₁.entryAt (slot i).1 (slot i).2 <;> simp [found] at active
    · exact done a (grantEntry_eq_some.mpr active)
  obtain ⟨revoked, fine, settled⟩ := swept
  exact ⟨fine, revoked, settled⟩

theorem revokeAll_eq (s : System) (grantor : DomId) :
    revokeAll grantor s =
      Op.sweep (revokeStep (fun gref => (grantor, gref)) fun _ => true) (s.grefs grantor) s := by
  have step : (fun gref s => if isGranted s grantor gref = true then some (endAccess grantor gref s)
      else none) = revokeStep (fun gref => (grantor, gref)) fun _ => true := by
    funext gref s
    unfold revokeStep isGranted
    cases s.grantEntry grantor gref <;> rfl
  unfold revokeAll
  rw [step]

theorem revokeGrantsTo_eq (s : System) (grantee : DomId) :
    revokeGrantsTo grantee s =
      Op.sweep (revokeStep id fun a => a.grantee = grantee) s.allRefs s := by
  have step : (fun (slot : DomId × GrantRef) s =>
      if granteeOf s slot.1 slot.2 = some grantee then some (endAccess slot.1 slot.2 s)
      else none) = revokeStep id fun a => a.grantee = grantee := by
    funext slot s
    unfold revokeStep granteeOf
    cases active : s.grantEntry slot.1 slot.2 <;> simp [active]
  unfold revokeGrantsTo
  rw [step]

theorem revokeAll_spec (consistent : s.Consistent) (grantor : DomId)
    (unmapped : ∀ m ∈ s.live, m.grantor ≠ grantor) :
    (∀ r ∈ (revokeAll grantor s).1, r = .ok ()) ∧
      Revoked (fun d _ => d = grantor) s (revokeAll grantor s).2 ∧
      ∀ g ∈ s.grefs grantor, (revokeAll grantor s).2.grantEntry grantor g = none := by
  have idle : ∀ {g a}, s.grantEntry grantor g = some a → a.maps = 0 := by
    intro g a active
    rw [(consistent.counts active).1, List.countP_eq_zero]
    exact fun m isLive here => unmapped m isLive (ofEntry_iff.mp here).1
  obtain ⟨fine, revoked, settled⟩ := revoke_sweep consistent (fun gref => (grantor, gref))
    (fun _ => true) (s.grefs grantor) fun g _ a active _ => idle active
  rw [revokeAll_eq]
  refine ⟨fine, { revoked with entries := ?_ }, ?_⟩
  · intro d g
    rcases revoked.entries d g with same | ⟨free, ⟨⟨i, -, here⟩, -⟩, was⟩
    · exact .inl same
    · exact .inr ⟨free, (congrArg Prod.fst here).symm, was⟩
  · intro g member
    by_contra active
    obtain ⟨a, active⟩ := Option.ne_none_iff_exists'.mp active
    exact Bool.noConfusion (settled g member a active)

theorem revokeGrantsTo_spec (consistent : s.Consistent) (grantee : DomId)
    (unheld : ∀ m ∈ s.live, m.grantee ≠ grantee) :
    (∀ r ∈ (revokeGrantsTo grantee s).1, r = .ok ()) ∧
      Revoked (fun d g => ∃ a, s.grantEntry d g = some a ∧ a.grantee = grantee) s
        (revokeGrantsTo grantee s).2 ∧
      ∀ slot ∈ s.allRefs, (revokeGrantsTo grantee s).2.granteeOf slot.1 slot.2 ≠ some grantee := by
  have idle : ∀ {d g a}, s.grantEntry d g = some a → a.grantee = grantee → a.maps = 0 := by
    intro d g a active mine
    rw [(consistent.counts active).1, List.countP_eq_zero]
    intro m isLive here
    obtain ⟨rfl, rfl⟩ := ofEntry_iff.mp here
    obtain ⟨b, active', holder, -⟩ := consistent.backed isLive
    obtain rfl : a = b := by simpa [active] using active'
    exact unheld m isLive (holder.symm.trans mine)
  obtain ⟨fine, revoked, settled⟩ := revoke_sweep consistent id
    (fun a => a.grantee = grantee) s.allRefs fun slot _ a active mine =>
      idle active (by simpa using mine)
  rw [revokeGrantsTo_eq]
  refine ⟨fine, { revoked with entries := ?_ }, ?_⟩
  · intro d g
    rcases revoked.entries d g with same | ⟨free, ⟨-, a, active, mine⟩, was⟩
    · exact .inl same
    · exact .inr ⟨free, ⟨a, active, by simpa using mine⟩, was⟩
  · intro slot member held
    obtain ⟨a, active, mine⟩ := Option.map_eq_some_iff.mp held
    simpa [mine] using settled slot member a active

end Baleen.Grant.System
