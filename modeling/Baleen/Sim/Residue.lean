import Baleen.Sim.OwnCalls

/-!
# What calls tell beyond the observation

The residue of a call: what it reads of others, and answers its caller with, that the
caller's observation does not show.  Reachable states that a domain observes alike answer a
call alike if and only if its residue is the same in both.
-/

namespace Baleen.Noninterference

open P2m (Mfn P2mError)
open Sched (SchedError Pcpu)
open Hypervisor (Reachable Addressable)

variable {c : Config} {s t : Hypervisor} {a : DomId}

/-- Whether the state of a vCPU, if there is one, permits the mask. -/
def accepts (hv : Hypervisor) (target : DomId) (vcpu : Vcpu) (affinity : Nat) : Bool :=
  (hv.sched.stateOf target vcpu).all
    (Sched.System.staysAffine (affinity &&& hv.sched.fullAffinity))

/-- What a link reads of the child, of the parent and of what the child is used for. -/
def linkResidue (hv : Hypervisor) (a : DomId) (parent : Mfn) (slot : UInt32) (child : Mfn)
    (writable leaf execute : Bool) : List Bool :=
  hv.p2m.isAllocated child ::
    if consents hv a child writable && decide (slot.toNat < P2m.TABLE_SLOTS) &&
        !(writable && (execute && leaf)) then
      hv.p2m.isAllocated parent ::
        ((hv.p2m.entryRef a parent slot child writable leaf execute).map
          (hv.p2m.childRefuses child)).toList
    else []

/-- What a call by `a` reads of others that they have not shown it. -/
def residue (hv : Hypervisor) (a : DomId) (call : HvCall) : List Bool :=
  if hv.isLive a then
    match call with
    | .grantMap grantor gref _ => (offer hv grantor gref).toList
    | .grantCopy grantor gref _ => (offer hv grantor gref).toList
    | .schedSetAffinity target vcpu affinity =>
        if hv.holdsControl a target then [accepts hv target vcpu affinity] else []
    | .p2mFree mfn => [hv.p2m.isAllocated mfn]
    | .p2mPin mfn _ => [hv.p2m.isAllocated mfn]
    | .p2mUnpin mfn => [hv.p2m.isAllocated mfn]
    | .p2mUnlink parent _ => [hv.p2m.isAllocated parent]
    | .p2mLink parent slot child writable leaf execute =>
        linkResidue hv a parent slot child writable leaf execute
    | .controlRevoke target holder =>
        if hv.holdsControl a target then [hv.controlSubtreeContains a holder target] else []
    | _ => []
  else []

/-- The calls that read of others only what they have shown. -/
def readsShown : HvCall → Bool
  | .grantMap .. | .grantCopy .. | .schedRun .. | .schedSetAffinity .. | .p2mAllocate .. => false
  | .p2mFree .. | .p2mPin .. | .p2mUnpin .. | .p2mLink .. | .p2mUnlink .. => false
  | .controlRevoke .. => false
  | _ => true

theorem residue_nil {call : HvCall} (reads : readsShown call = true) (hv : Hypervisor) :
    residue hv a call = [] := by
  unfold residue
  split_ifs
  · cases call <;> first | rfl | cases reads
  · rfl

/-- A call on frames, and what its outcome tells. -/
theorem frames_iff {x : Op P2m.System P2m.P2mError Unit} {b b' : Bool}
    (told : (x s.p2m).1 = (x t.p2m).1 ↔ b = b') :
    ((Hypervisor.onP2m x >>= fun _ => (pure .done : Op Hypervisor HvError HvOutcome)) s).1 =
        ((Hypervisor.onP2m x >>= fun _ => (pure .done : Op Hypervisor HvError HvOutcome)) t).1 ↔
      [b] = [b'] := by
  rw [p2mDone_outcome, p2mDone_outcome, p2mDone_injective.eq_iff, told, List.cons.injEq]
  simp

section View

variable (view : SameView a s t) (here : Reachable c s) (there : Reachable c t)

include view here there

theorem SameView.p2mLink_outcome_eq_iff (parent : Mfn) (slot : UInt32) (child : Mfn)
    (writable leaf execute : Bool) :
    (Hypervisor.p2mLink a parent slot child writable leaf execute s).1 =
        (Hypervisor.p2mLink a parent slot child writable leaf execute t).1 ↔
      linkResidue s a parent slot child writable leaf execute =
        linkResidue t a parent slot child writable leaf execute := by
  rw [view.p2mLink_outcome_iff here.regular there.regular]
  unfold linkResidue
  rw [List.cons.injEq]
  refine and_congr_right fun present => ?_
  rw [← (view.consents_iff here.regular there.regular child writable).mpr present,
    ← view.pages.entryRef_eq parent slot writable leaf execute present]
  cases consents s a child writable
  case false => simp
  by_cases inTable : slot.toNat < P2m.TABLE_SLOTS
  case neg => simp [inTable]
  cases writable && (execute && leaf)
  case true => simp
  simp only [inTable, decide_true, Bool.and_self, Bool.not_false, if_true, forall_const,
    List.cons.injEq]
  cases s.p2m.entryRef a parent slot child writable leaf execute <;> simp

omit view there in
/-- A holder that does not exist is below no one who does. -/
theorem subtree_inside (alive : s.isLive a = true) {holder : DomId}
    (outside : ¬holder.toNat < s.domainCount) (target : DomId) :
    s.controlSubtreeContains a holder target = false := by
  have stranger : holder ≠ a := by
    rintro rfl
    exact outside (here.inside_of_live alive)
  have absent : s.controlEdge holder target = .absent := by
    by_contra edge
    exact outside (here.delegated.square.inside edge).1
  simp [Hypervisor.controlSubtreeContains, Hypervisor.climbsTo, stranger, absent]

/-- A revocation tells whether the holder is below the caller. -/
theorem SameView.controlRevoke_outcome_iff (alive : s.isLive a = true) (target holder : DomId) :
    (Hypervisor.controlRevoke a target holder s).1 =
        (Hypervisor.controlRevoke a target holder t).1 ↔
      (s.holdsControl a target = true → s.controlSubtreeContains a holder target =
        t.controlSubtreeContains a holder target) := by
  have bound := domainCount_eq here there
  by_cases inside : target.toNat < s.domainCount
  case neg =>
    refine iff_of_true ?_ fun held => absurd (controlled_inside here held) inside
    refine Op.outcome_ensure (by rw [bound]) fun known => absurd ?_ inside
    simpa using known
  by_cases inside' : holder.toNat < s.domainCount
  case neg =>
    refine iff_of_true ?_ fun _ => ?_
    · refine Op.outcome_ensure (by rw [bound]) fun _ => ?_
      refine Op.outcome_ensure (by rw [bound]) fun known => absurd ?_ inside'
      simpa using known
    · rw [subtree_inside here alive inside',
        subtree_inside there (by rwa [← view.alive]) (bound ▸ inside')]
  rw [Hypervisor.controlRevoke_apply inside inside',
    Hypervisor.controlRevoke_apply (bound ▸ inside) (bound ▸ inside'), ← view.controls]
  cases s.holdsControl a target with
  | false => simp
  | true =>
      cases s.controlSubtreeContains a holder target <;>
        cases t.controlSubtreeContains a holder target <;> simp

omit view in
theorem fullAffinity_eq : s.sched.fullAffinity = t.sched.fullAffinity := by
  unfold Sched.System.fullAffinity
  rw [Hypervisor.pcpus_length here, Hypervisor.pcpus_length there]

omit view in
theorem setAffinity_outcome_iff (target : DomId) (v : Vcpu) (affinity : Nat) :
    (Sched.System.setAffinity target v affinity s.sched).1 =
        (Sched.System.setAffinity target v affinity t.sched).1 ↔
      accepts s target v affinity = accepts t target v affinity := by
  have missing := @vcpu_missing c s t here there target v
  unfold Sched.System.setAffinity accepts
  rw [Op.read_bind_apply, Op.read_bind_apply, Op.query_bind_apply, Op.query_bind_apply,
    fullAffinity_eq here there]
  match found : s.sched.vcpu target v, found' : t.sched.vcpu target v with
  | .ok x, .ok y =>
      rw [Sched.System.stateOf_of_vcpu found, Sched.System.stateOf_of_vcpu found']
      dsimp only
      rw [Op.ensure_bind_apply, Op.ensure_bind_apply, Option.all_some, Option.all_some]
      cases Sched.System.staysAffine (affinity &&& t.sched.fullAffinity) x.state <;>
        cases Sched.System.staysAffine (affinity &&& t.sched.fullAffinity) y.state <;> simp
  | .ok x, .error e =>
      have failed := (missing e).mpr found'
      rw [found] at failed
      cases failed
  | .error e, .ok y =>
      have failed := (missing e).mp found
      rw [found'] at failed
      cases failed
  | .error e, .error e' =>
      have same := (missing e).mp found
      rw [found'] at same
      rw [Sched.System.stateOf_of_error found, Sched.System.stateOf_of_error found',
        Except.error.inj same]
      simp

/-- Setting an affinity tells whether the run state of the vCPU permits the mask. -/
theorem SameView.schedSetAffinity_outcome_iff (target : DomId) (v : Vcpu) (affinity : Nat) :
    (Hypervisor.schedSetAffinity a target v affinity s).1 =
        (Hypervisor.schedSetAffinity a target v affinity t).1 ↔
      (s.holdsControl a target = true →
        accepts s target v affinity = accepts t target v affinity) := by
  have done : ∀ hv : Hypervisor,
      ((Hypervisor.onSched (Sched.System.setAffinity target v affinity) >>= fun _ =>
        (pure .done : Op Hypervisor HvError HvOutcome)) hv).1 =
          ((Sched.System.setAffinity target v affinity hv.sched).1.mapError HvError.sched).map
            fun _ => .done := fun hv => Op.outcome_zoom_return hv
  have wrapped : ∀ r r' : Except SchedError Unit,
      ((r.mapError HvError.sched).map fun _ => HvOutcome.done) =
        ((r'.mapError HvError.sched).map fun _ => HvOutcome.done) ↔ r = r' := by
    rintro (e | u) (e' | u') <;> simp [Except.mapError, Except.map]
  have own : a = target → accepts s target v affinity = accepts t target v affinity := by
    rintro rfl
    unfold accepts
    rw [view.states, fullAffinity_eq here there]
  refine (Op.outcome_ensure_iff (by rw [domainCount_eq here there])).trans ?_
  by_cases inside : target.toNat < s.domainCount
  case neg =>
    simp only [inside, decide_false, Bool.false_eq_true, false_imp_iff, true_iff]
    exact fun held => absurd (controlled_inside here held) inside
  refine (imp_iff_right (decide_eq_true inside)).trans ?_
  refine (Op.outcome_ensure_iff (by exact view.selfOrControls target)).trans ?_
  rw [done, done, wrapped, setAffinity_outcome_iff here there]
  by_cases self : a = target
  · simp [own self]
  · simp [self]

/-- A domain that is not alive is answered alike. -/
theorem SameView.dispatch_dead (dead : ¬s.isLive a = true) (call : HvCall) :
    (Hypervisor.dispatch a call s).1 = (Hypervisor.dispatch a call t).1 := by
  refine Op.outcome_ensure (by rw [domainCount_eq here there]) fun _ => ?_
  exact Op.outcome_ensure view.alive fun alive => absurd alive dead

variable (addressable : Addressable c)

include addressable

theorem SameView.dispatch_outcome_shown (same : s.credit[a.toNat]? = t.credit[a.toNat]?)
    {call : HvCall} (reads : readsShown call = true) :
    (Hypervisor.dispatch a call s).1 = (Hypervisor.dispatch a call t).1 := by
  refine Op.outcome_ensure (by rw [domainCount_eq here there]) fun _ => ?_
  refine Op.outcome_ensure view.alive fun _ => ?_
  cases call with
  | creditGrant amount => rw [Op.outcome_return, Op.outcome_return, onCredit_outcome same]
  | creditSpend amount => rw [Op.outcome_return, Op.outcome_return, onCredit_outcome same]
  | evtchnAllocUnbound remote =>
      refine Op.outcome_ensure (by rw [view.lifeOf here there]) fun _ => ?_
      exact Op.outcome_zoom_congr (view.allocUnbound_outcome here there addressable remote)
  | evtchnBindInterdomain remote remotePort =>
      exact Op.outcome_zoom_congr
        (view.bindInterdomain_outcome here there addressable remote remotePort)
  | evtchnBindVirq vcpu virq =>
      refine Op.outcome_ensure (bindable here there vcpu) fun _ => ?_
      exact Op.outcome_zoom_congr (view.bindVirq_outcome here there addressable vcpu virq)
  | evtchnBindIpi vcpu =>
      refine Op.outcome_ensure (bindable here there vcpu) fun _ => ?_
      exact Op.outcome_zoom_congr (view.bindIpi_outcome here there addressable vcpu)
  | evtchnClose port =>
      exact Op.outcome_zoom_congr (view.close_outcome here there addressable port)
  | evtchnSend port => exact view.evtchnSend_outcome here there addressable port
  | evtchnMask port =>
      exact Op.outcome_zoom_congr (view.setMasked_outcome here there addressable port true)
  | evtchnUnmask port => exact view.evtchnUnmask_outcome here there addressable port
  | evtchnConsume port =>
      exact Op.outcome_zoom_congr (view.consume_outcome here there addressable port)
  | grantAccess gref grantee frame readonly =>
      refine Op.outcome_ensure (by rw [view.lifeOf here there]) fun _ => ?_
      exact Op.outcome_zoom_congr (view.grantAccess_outcome here there gref grantee frame readonly)
  | grantEndAccess gref => exact view.grantEndAccess_outcome here there gref
  | grantUnmap handle => exact view.grantUnmap_outcome here there handle
  | schedAdmit vcpu => exact Op.outcome_zoom_congr (view.admitVcpu_outcome here there vcpu)
  | schedPreempt vcpu now => exact Op.outcome_zoom_congr (view.preempt_outcome here there vcpu now)
  | schedBlock vcpu now => exact view.schedBlock_outcome here there addressable vcpu now
  | schedWake vcpu => exact Op.outcome_zoom_congr (view.wake_outcome here there vcpu)
  | schedOffline vcpu now => exact Op.outcome_zoom_congr (view.offline_outcome here there vcpu now)
  | domainCreate target mayCreate => exact view.domainCreate_outcome here there target mayCreate
  | domainDestroy target now => exact view.domainDestroy_outcome here there target now
  | controlGrant target recipient => exact view.controlGrant_outcome here there target recipient
  | deviceAssign dev recipient => exact view.deviceAssign_outcome here there dev recipient
  | deviceRelease dev holder => exact view.deviceRelease_outcome here there dev holder
  | grantMap | grantCopy | schedRun | schedSetAffinity | p2mAllocate => cases reads
  | p2mFree | p2mPin | p2mUnpin | p2mLink | p2mUnlink | controlRevoke => cases reads

omit addressable in
/-- The other calls tell their residue, but for those that look for a frame or for a CPU. -/
theorem SameView.dispatch_outcome_hidden (alive : s.isLive a = true) {call : HvCall}
    (reads : readsShown call = false) (allocates : ∀ mfn, call ≠ .p2mAllocate mfn)
    (runs : ∀ vcpu pcpu now, call ≠ .schedRun vcpu pcpu now) :
    (Hypervisor.dispatch a call s).1 = (Hypervisor.dispatch a call t).1 ↔
      residue s a call = residue t a call := by
  have alive' : t.isLive a = true := by rwa [← view.alive]
  have pages := here.regular.memory.pages
  have pages' := there.regular.memory.pages
  have toList : ∀ {o o' : Option Bool}, o.toList = o'.toList ↔ o = o' := by
    rintro (_ | b) (_ | b') <;> simp
  unfold residue
  rw [if_pos alive, if_pos alive']
  refine (Op.outcome_ensure_iff (by rw [domainCount_eq here there])).trans ?_
  refine (imp_iff_right (decide_eq_true (here.inside_of_live alive))).trans ?_
  refine (Op.outcome_ensure_iff (by exact view.alive)).trans ((imp_iff_right alive).trans ?_)
  cases call with
  | grantMap grantor gref writable =>
      exact (view.grantMap_outcome_iff here there grantor gref writable).trans toList.symm
  | grantCopy grantor gref write =>
      exact (view.grantCopy_outcome_iff here there grantor gref write).trans toList.symm
  | schedRun vcpu pcpu now => exact absurd rfl (runs vcpu pcpu now)
  | schedSetAffinity target vcpu affinity =>
      refine (view.schedSetAffinity_outcome_iff here there target vcpu affinity).trans ?_
      dsimp only
      rw [← view.controls]
      cases s.holdsControl a target <;> simp
  | p2mAllocate mfn => exact absurd rfl (allocates mfn)
  | p2mFree mfn => exact frames_iff (view.pages.free_outcome_iff mfn)
  | p2mPin mfn level => exact frames_iff (view.pages.pin_outcome_iff mfn level)
  | p2mUnpin mfn => exact frames_iff (view.pages.unpin_outcome_iff pages pages' mfn)
  | p2mLink parent slot child writable leaf execute =>
      exact view.p2mLink_outcome_eq_iff here there parent slot child writable leaf execute
  | p2mUnlink parent slot =>
      exact frames_iff (view.pages.unlink_outcome_iff pages pages' parent slot)
  | controlRevoke target holder =>
      refine (view.controlRevoke_outcome_iff here there alive target holder).trans ?_
      dsimp only
      rw [← view.controls]
      cases s.holdsControl a target <;> simp
  | _ => cases reads

/-- Between states in one view, a call is answered alike if and only if it reads alike what
the view does not show. -/
theorem SameView.dispatch_outcome_iff (same : s.credit[a.toNat]? = t.credit[a.toNat]?)
    (call : HvCall) (allocates : ∀ mfn, call ≠ .p2mAllocate mfn)
    (runs : ∀ vcpu pcpu now, call ≠ .schedRun vcpu pcpu now) :
    (Hypervisor.dispatch a call s).1 = (Hypervisor.dispatch a call t).1 ↔
      residue s a call = residue t a call := by
  cases reads : readsShown call with
  | true =>
      rw [residue_nil reads, residue_nil reads]
      exact iff_of_true (view.dispatch_outcome_shown here there addressable same reads) rfl
  | false =>
      by_cases alive : s.isLive a = true
      · exact view.dispatch_outcome_hidden here there alive reads allocates runs
      · have dead : ¬t.isLive a = true := by rwa [← view.alive]
        unfold residue
        rw [if_neg alive, if_neg dead]
        exact iff_of_true (view.dispatch_dead here there alive call) rfl

end View

/-- Between reachable states that `a` observes alike, with its credit account, a call other
than for a frame or for a CPU has one outcome if and only if its residue is the same. -/
theorem outcome_iff_residue (c : Config) (addressable : Addressable c)
    (devices : c.numDevices < 2 ^ 16) (s t : Hypervisor) (here : Reachable c s)
    (there : Reachable c t) (a : DomId) (handles : s.grant.handleSlots a < 2 ^ 32)
    (handles' : t.grant.handleSlots a < 2 ^ 32) (observed : obsPlus s a = obsPlus t a)
    (account : s.credit[a.toNat]? = t.credit[a.toNat]?) (call : HvCall)
    (allocates : ∀ mfn, call ≠ .p2mAllocate mfn)
    (runs : ∀ vcpu pcpu now, call ≠ .schedRun vcpu pcpu now) :
    (Hypervisor.dispatch a call s).1 = (Hypervisor.dispatch a call t).1 ↔
      residue s a call = residue t a call := by
  have view := SameView.of_obsPlus addressable devices here there handles handles' observed
  exact view.dispatch_outcome_iff here there addressable account call allocates runs

/-- Three domains, of which `0` has a frame that it may then grant to `2`. -/
def peers : Config := ⟨3, 1, 1, 1, 1, 1, 0⟩

def ungranted : Hypervisor :=
  Op.run Hypervisor.apply [.guest 0 (.domainCreate 1 false), .guest 0 (.domainCreate 2 false),
    .guest 0 (.p2mAllocate 0)] (.new peers)

def granted : Hypervisor := (Hypervisor.apply (.guest 0 (.grantAccess 0 2 0 false)) ungranted).2

theorem ungranted_reachable : Reachable peers ungranted := ⟨_, rfl⟩

theorem granted_reachable : Reachable peers granted :=
  ⟨[.guest 0 (.domainCreate 1 false), .guest 0 (.domainCreate 2 false),
    .guest 0 (.p2mAllocate 0), .guest 0 (.grantAccess 0 2 0 false)], rfl⟩

theorem obsPlus_granted : obsPlus ungranted 1 = obsPlus granted 1 := by decide +kernel

/-- What the grant to domain `2` tells domain `1` is what the residue says. -/
theorem outcome_iff_residue_granted :
    (Hypervisor.dispatch 1 (.grantCopy 0 0 false) ungranted).1 =
        (Hypervisor.dispatch 1 (.grantCopy 0 0 false) granted).1 ↔
      residue ungranted 1 (.grantCopy 0 0 false) = residue granted 1 (.grantCopy 0 0 false) :=
  outcome_iff_residue peers (by constructor <;> decide) (by decide) ungranted granted
    ungranted_reachable granted_reachable 1 (by decide +kernel) (by decide +kernel) obsPlus_granted
    (by decide +kernel) _ (fun _ => nofun) (fun _ _ _ => nofun)

/-- A domain learns of a grant between two others. -/
theorem outcome_reveals_grant : ¬∀ (c : Config) (s t : Hypervisor) (a : DomId) (call : HvCall),
    Reachable c s → Reachable c t → obsPlus s a = obsPlus t a →
    s.credit[a.toNat]? = t.credit[a.toNat]? → (∀ mfn, call ≠ .p2mAllocate mfn) →
    (∀ vcpu pcpu now, call ≠ .schedRun vcpu pcpu now) →
    (Hypervisor.dispatch a call s).1 = (Hypervisor.dispatch a call t).1 := by
  intro confidential
  have same := confidential peers ungranted granted 1 (.grantCopy 0 0 false) ungranted_reachable
    granted_reachable obsPlus_granted (by decide +kernel) (fun _ => nofun) (fun _ _ _ => nofun)
  have refused : (Hypervisor.dispatch 1 (.grantCopy 0 0 false) ungranted).1 =
      .error (.grant .wrongState) := by decide +kernel
  have denied : (Hypervisor.dispatch 1 (.grantCopy 0 0 false) granted).1 =
      .error (.grant .permissionDenied) := by decide +kernel
  rw [refused, denied] at same
  cases same

end Baleen.Noninterference
