import Baleen.Sim.LinkProbes

/-!
# What a map and a copy tell their caller

Both look at the grant before they ask who it is for, so both tell anyone whether there is
a grant and whether it is stale.
-/

namespace Baleen

namespace Grant.System

variable {g g' : System} {d : DomId} {r : GrantRef}

/-- In tables of one shape, an entry is found by what is active there. -/
theorem entry_congr (rows : g.domainCount = g'.domainCount)
    (width : g.entryCount d = g'.entryCount d) (same : g.grantEntry d r = g'.grantEntry d r) :
    g.entry d r = g'.entry d r := by
  unfold grantEntry entryAt Grid.get? at same
  unfold entryCount Grid.width at width
  unfold domainCount at rows
  unfold entry domain
  match here : g.domains[d.toNat]?, there : g'.domains[d.toNat]? with
  | none, none => rfl
  | none, some row =>
      have outside := List.getElem?_eq_none_iff.mp here
      have inside := (List.getElem?_eq_some_iff.mp there).1
      omega
  | some row, none =>
      have outside := List.getElem?_eq_none_iff.mp there
      have inside := (List.getElem?_eq_some_iff.mp here).1
      omega
  | some row, some row' =>
      simp only [here, there, Option.bind_some, Option.map_some, Option.getD_some] at same width ⊢
      match cell : row[r.toNat]?, cell' : row'[r.toNat]? with
      | none, none => rfl
      | none, some e =>
          have outside := List.getElem?_eq_none_iff.mp cell
          have inside := (List.getElem?_eq_some_iff.mp cell').1
          omega
      | some e, none =>
          have outside := List.getElem?_eq_none_iff.mp cell'
          have inside := (List.getElem?_eq_some_iff.mp cell).1
          omega
      | some e, some e' =>
          simp only [cell, cell'] at same ⊢
          cases e <;> cases e' <;> simp_all

end Grant.System

namespace Noninterference

open Grant (GrantRef GrantHandle Access GrantError)
open P2m (Mfn PageType FrameInfo P2mError)
open Hypervisor (Reachable Regular)

variable {c : Config} {hv s t : Hypervisor} {a : DomId}

/-- Whether the grantor still owns the frame of an active grant. -/
def offer (hv : Hypervisor) (grantor : DomId) (gref : GrantRef) : Option Bool :=
  (hv.grant.grantedFrame grantor gref).map fun frame => hv.p2m.ownerOf frame = some grantor

theorem offer_of_active {d : DomId} {r : GrantRef} {x : Access}
    (active : hv.grant.grantEntry d r = some x) :
    offer hv d r = some (decide (hv.p2m.ownerOf x.frame = some d)) := by
  simp [offer, Grant.System.grantedFrame, active]

theorem offer_eq_none {d : DomId} {r : GrantRef} :
    offer hv d r = none ↔ hv.grant.grantEntry d r = none := by
  simp [offer, Grant.System.grantedFrame]

theorem active_of_offer {d : DomId} {r : GrantRef} (offered : offer hv d r = some true) :
    ∃ x, hv.grant.grantEntry d r = some x ∧ hv.p2m.ownerOf x.frame = some d := by
  cases active : hv.grant.grantEntry d r with
  | none => simp [offer_eq_none.mpr active] at offered
  | some x => exact ⟨x, rfl, by simpa [offer_of_active active] using offered⟩

theorem entry_eq (here : Reachable c s) (there : Reachable c t) {d : DomId} {r : GrantRef}
    (same : s.grant.grantEntry d r = t.grant.grantEntry d r) :
    s.grant.entry d r = t.grant.entry d r := by
  refine Grant.System.entry_congr ?_ ?_ same
  · rw [(Hypervisor.rows_eq here).2.1, (Hypervisor.rows_eq there).2.1]
  · rw [Hypervisor.entryCount_eq here, Hypervisor.entryCount_eq there]

/-- Two active grants, of which `a` is the grantee of both and then they are one, or of
neither. -/
theorem SameView.grantees (view : SameView a s t) (regular : Regular s) (regular' : Regular t)
    {d : DomId} {r : GrantRef} {x y : Access} (active : s.grant.grantEntry d r = some x)
    (active' : t.grant.grantEntry d r = some y) :
    (x.grantee = a ∧ x = y) ∨ (x.grantee ≠ a ∧ y.grantee ≠ a) := by
  by_cases mine : x.grantee = a
  · have same := (view.cap regular regular' active mine).1
    rw [active'] at same
    exact .inl ⟨mine, (Option.some.inj same).symm⟩
  · refine .inr ⟨mine, fun mine' => mine ?_⟩
    have same := (view.symm.cap regular' regular active' mine').1
    rw [active] at same
    rwa [Option.some.inj same]

theorem copy_of_active {g : Grant.System} {d : DomId} {r : GrantRef} {x : Access}
    (active : g.grantEntry d r = some x) (write : Bool) : g.copy a d r write =
      if x.grantee ≠ a ∨ (write && x.readonly) = true then .error .permissionDenied
      else .ok () := by
  have found := Grant.System.entry_of_entryAt (Grant.System.grantEntry_eq_some.mp active)
  simp only [Grant.System.copy, found]
  split_ifs <;> simp_all

/-- What the outcome of a map or of a copy tells of the grant: that there is none, that it is
stale, or that it was looked into. -/
def told : Except HvError HvOutcome → Option Bool
  | .error .staleGrant => some false
  | .error (.grant .permissionDenied) => some true
  | .error (.grant .overflow) => some true
  | .error (.grant _) => none
  | _ => some true

/-- Without an active grant, the refusal says so. -/
theorem told_inactive {g : Grant.System} {d : DomId} {r : GrantRef}
    (inactive : g.grantEntry d r = none) :
    g.entry d r = .ok .free ∨ ∃ e, g.entry d r = .error e ∧ told (.error (.grant e)) = none := by
  unfold Grant.System.grantEntry Grant.System.entryAt Grid.get? at inactive
  unfold Grant.System.entry Grant.System.domain
  cases row : g.domains[d.toNat]? with
  | none => exact .inr ⟨.badDomain, rfl, rfl⟩
  | some entries =>
      simp only [row, Option.bind_some] at inactive ⊢
      cases cell : entries[r.toNat]? with
      | none => exact .inr ⟨.badGrantRef, rfl, rfl⟩
      | some e =>
          cases e with
          | free => exact .inl rfl
          | access x => simp [cell] at inactive

theorem grantCopy_outcome (d : DomId) (r : GrantRef) (write : Bool) :
    (Hypervisor.grantCopy a d r write hv).1 =
      if offer hv d r = some false then .error .staleGrant
      else ((hv.grant.copy a d r write).mapError .grant).map fun _ => .done := by
  have asked := Op.outcome_return
    (Op.query fun hv : Hypervisor => (hv.grant.copy a d r write).mapError HvError.grant)
    (fun _ => HvOutcome.done) hv
  rw [Op.query_apply] at asked
  unfold Hypervisor.grantCopy offer
  simp only [Op.ensure_bind_apply _ _ _ hv]
  cases hv.grant.grantedFrame d r with
  | none => simpa using asked
  | some frame =>
      by_cases owned : hv.p2m.ownerOf frame = some d
      · simpa [owned] using asked
      · simp [owned]

theorem told_grantCopy (hv : Hypervisor) (d : DomId) (r : GrantRef) (write : Bool) :
    told (Hypervisor.grantCopy a d r write hv).1 = offer hv d r := by
  rw [grantCopy_outcome]
  cases active : hv.grant.grantEntry d r with
  | none =>
      rw [offer_eq_none.mpr active, if_neg (by simp)]
      unfold Grant.System.copy
      rcases told_inactive active with free | ⟨e, failed, silent⟩
      · rw [free]
        rfl
      · rw [failed]
        exact silent
  | some x =>
      rw [offer_of_active active]
      by_cases owned : hv.p2m.ownerOf x.frame = some d
      · rw [if_neg (by simp [owned]), copy_of_active active]
        simp only [owned, decide_true]
        split_ifs <;> rfl
      · rw [if_pos (by simp [owned])]
        simp [owned, told]

/-- A copy tells whether there is a grant and whether it is stale, and nothing more. -/
theorem SameView.grantCopy_outcome_iff (view : SameView a s t) (here : Reachable c s)
    (there : Reachable c t) (d : DomId) (r : GrantRef) (write : Bool) :
    (Hypervisor.grantCopy a d r write s).1 = (Hypervisor.grantCopy a d r write t).1 ↔
      offer s d r = offer t d r := by
  constructor
  · intro same
    rw [← told_grantCopy (a := a) s d r write, same, told_grantCopy]
  · intro same
    rw [grantCopy_outcome, grantCopy_outcome, same]
    have copies : s.grant.copy a d r write = t.grant.copy a d r write := by
      match active : s.grant.grantEntry d r, active' : t.grant.grantEntry d r with
      | none, none =>
          unfold Grant.System.copy
          rw [entry_eq here there (active.trans active'.symm)]
      | none, some y => simp [offer_eq_none.mpr active, offer_of_active active'] at same
      | some x, none => simp [offer_eq_none.mpr active', offer_of_active active] at same
      | some x, some y =>
          rw [copy_of_active active, copy_of_active active']
          rcases view.grantees here.regular there.regular active active' with
            ⟨-, rfl⟩ | ⟨other, other'⟩
          · rfl
          · rw [if_pos (.inl other), if_pos (.inl other')]
    rw [copies]

theorem map_of_active {g : Grant.System} {d : DomId} {r : GrantRef} {x : Access}
    (active : g.grantEntry d r = some x) (writable : Bool) :
    (Grant.System.map a d r writable g).1 =
      if x.grantee ≠ a ∨ (writable && x.readonly) = true then .error .permissionDenied
      else if x.maps + 1 < 2 ^ 32 then .ok (g.freeHandle a) else .error .overflow := by
  have found := Grant.System.entry_of_entryAt (Grant.System.grantEntry_eq_some.mp active)
  by_cases addressed : x.grantee = a
  case neg => simp [Grant.System.map, found, addressed]
  cases denied : writable && x.readonly with
  | true =>
      simp only [Grant.System.map, Op.query_bind_apply, found, Op.ensure_bind_apply, addressed,
        decide_true, if_true, denied, Bool.not_true, Bool.false_eq_true, if_false, or_true]
  | false =>
      simp only [Grant.System.map, Op.query_bind_apply, found, Op.ensure_bind_apply, addressed,
        decide_true, if_true, denied, Bool.not_false, ne_eq, not_true_eq_false, Bool.false_eq_true,
        or_self, if_false, Grant.System.countsAfterMap]
      split_ifs <;> rfl

/-- Mapping a grant that is not stale: the grant refuses, or its frame does. -/
theorem grantMap_of_owned {d : DomId} {r : GrantRef} {x : Access}
    (active : hv.grant.grantEntry d r = some x) (owned : hv.p2m.ownerOf x.frame = some d)
    (writable : Bool) : (Hypervisor.grantMap a d r writable hv).1 =
      ((Grant.System.map a d r writable hv.grant).1.mapError .grant).bind fun handle =>
        ((Hypervisor.acquirePage x.frame writable hv.p2m).1.mapError .p2m).map fun _ =>
          .handle handle := by
  have granted : hv.grant.grantedFrame d r = some x.frame := by
    simp [Grant.System.grantedFrame, active]
  unfold Hypervisor.grantMap
  rw [Op.query_bind_apply, granted]
  dsimp only
  rw [Op.ensure_bind_apply, if_pos (decide_eq_true owned)]
  cases mapped : Grant.System.map a d r writable hv.grant with
  | mk result g' =>
      cases result with
      | error e =>
          rw [Op.bind_of_error (Hypervisor.onGrant_error mapped)]
          rfl
      | ok handle =>
          rw [Op.bind_of_ok (Hypervisor.onGrant_ok mapped), Op.attempt_bind_apply]
          have acquired : (Hypervisor.onP2m (Hypervisor.acquirePage x.frame writable)
              { hv with grant := g' }).1 =
                (Hypervisor.acquirePage x.frame writable hv.p2m).1.mapError .p2m := rfl
          rw [acquired]
          cases (Hypervisor.acquirePage x.frame writable hv.p2m).1 with
          | ok u => rfl
          | error e => rfl

theorem grantMap_of_offer {d : DomId} {r : GrantRef} {writable : Bool} :
    (offer hv d r = none →
      (Hypervisor.grantMap a d r writable hv).1 = .error (.grant .wrongState)) ∧
    (offer hv d r = some false →
      (Hypervisor.grantMap a d r writable hv).1 = .error .staleGrant) := by
  unfold Hypervisor.grantMap offer
  rw [Op.query_bind_apply]
  cases hv.grant.grantedFrame d r with
  | none => simp
  | some frame =>
      dsimp only
      rw [Op.ensure_bind_apply]
      simp only [Option.map_some, reduceCtorEq, false_imp_iff, true_and, Option.some.injEq]
      intro stale
      rw [if_neg (by simpa using stale)]

theorem told_grantMap (hv : Hypervisor) (d : DomId) (r : GrantRef) (writable : Bool) :
    told (Hypervisor.grantMap a d r writable hv).1 = offer hv d r := by
  obtain ⟨missing, stale⟩ := @grantMap_of_offer hv a d r writable
  cases active : hv.grant.grantEntry d r with
  | none =>
      have none' := offer_eq_none.mpr active
      rw [missing none', none']
      rfl
  | some x =>
      by_cases owned : hv.p2m.ownerOf x.frame = some d
      · rw [offer_of_active active, grantMap_of_owned active owned, map_of_active active]
        simp only [owned, decide_true]
        split_ifs
        · rfl
        · cases (Hypervisor.acquirePage x.frame writable hv.p2m).1 <;> rfl
        · rfl
      · have stale' : offer hv d r = some false := by
          rw [offer_of_active active]
          simp [owned]
        rw [stale stale', stale']
        rfl

/-- A map tells whether there is a grant and whether it is stale; the rest is shown. -/
theorem SameView.grantMap_outcome_iff (view : SameView a s t) (here : Reachable c s)
    (there : Reachable c t) (d : DomId) (r : GrantRef) (writable : Bool) :
    (Hypervisor.grantMap a d r writable s).1 = (Hypervisor.grantMap a d r writable t).1 ↔
      offer s d r = offer t d r := by
  have regular := here.regular
  have regular' := there.regular
  constructor
  · intro same
    rw [← told_grantMap (a := a) s d r writable, same, told_grantMap]
  · intro same
    obtain ⟨missing, stale⟩ := @grantMap_of_offer s a d r writable
    obtain ⟨missing', stale'⟩ := @grantMap_of_offer t a d r writable
    match offered : offer s d r with
    | none => rw [missing offered, missing' (same ▸ offered)]
    | some false => rw [stale offered, stale' (same ▸ offered)]
    | some true =>
        have offered' := same ▸ offered
        obtain ⟨x, active, owned⟩ := active_of_offer offered
        obtain ⟨y, active', owned'⟩ := active_of_offer offered'
        rw [grantMap_of_owned active owned, grantMap_of_owned active' owned']
        rcases view.grantees regular regular' active active' with ⟨mine, rfl⟩ | ⟨other, other'⟩
        · have mapped := (view.held.map_agree (entry_eq here there (active.trans active'.symm))
            writable).outcome
          rw [mapped]
          have acquired : (Hypervisor.acquirePage x.frame writable s.p2m).1 =
              (Hypervisor.acquirePage x.frame writable t.p2m).1 := by
            obtain ⟨i, known, -⟩ := P2m.System.ownerOf_eq_some.mp owned
            obtain ⟨j, known', -⟩ := P2m.System.ownerOf_eq_some.mp owned'
            obtain ⟨written, plain⟩ := (view.cap regular regular' active mine).2.2 owned
            rw [Hypervisor.acquirePage_eq, P2m.System.getChild_outcome known,
              P2m.System.getChild_outcome known']
            cases writable with
            | true => exact acquireTag_cancel known known' written
            | false => exact acquireTag_cancel known known' plain
          rw [acquired]
        · rw [map_of_active active, map_of_active active', if_pos (.inl other),
            if_pos (.inl other')]
          rfl

end Noninterference

end Baleen
