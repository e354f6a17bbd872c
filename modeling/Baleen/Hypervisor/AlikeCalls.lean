import Baleen.Hypervisor.Alike
import Baleen.Hypervisor.Shape

/-!
# Calls on states that are alike

One lemma for each call that crosses subsystems, then the dispatch.  The calls that only
one subsystem serves follow from that subsystem's own.
-/

namespace Baleen

open Evtchn (Port Virq EvtchnError)
open Sched (Pcpu SchedError)
open Grant (GrantRef GrantHandle GrantError Unmapped)
open P2m (Mfn PtLevel P2mError Link)
open Device (DevId DeviceError)

theorem P2m.System.Alike.isForeignLinkedBy {s t : P2m.System} (alike : s.Alike t) (frame : Mfn)
    (linker : DomId) : s.isForeignLinkedBy frame linker = t.isForeignLinkedBy frame linker := by
  have found : ∀ s : P2m.System, s.isForeignLinkedBy frame linker = true ↔
      ∃ l ∈ s.live, l.child = frame ∧ s.ownerOf l.parent = some linker ∧
        some linker ≠ s.ownerOf frame := by
    intro s
    unfold P2m.System.isForeignLinkedBy P2m.System.live
    rw [List.any_eq_true]
    simp only [Slab.mem_live, Bool.and_eq_true, decide_eq_true_eq, and_assoc]
  rw [Bool.eq_iff_iff, found, found]
  simp only [alike.ownerOf, alike.links.mem_iff]

namespace Hypervisor

variable {s t : Hypervisor}

theorem agree_return {α β : Type} {x y : Op Hypervisor HvError α} {k : α → β}
    (ran : Op.Agree Alike Alike (x s) (y t)) :
    Op.Agree Alike Alike ((x >>= fun a => pure (k a)) s) ((y >>= fun a => pure (k a)) t) :=
  Op.agree_bind ran fun _ _ _ alike => .ok alike

namespace Alike

theorem inRange {α : Type} {f g : Unit → Op Hypervisor HvError α} (alike : Alike s t)
    (dom : DomId) (next : Op.Agree Alike Alike (f () s) (g () t)) :
    Op.Agree Alike Alike ((inRange dom >>= f) s) ((inRange dom >>= g) t) :=
  Op.agree_ensure (by rw [alike.domainCount]) alike fun _ => next

theorem rejectDeadTarget {α : Type} {f g : Unit → Op Hypervisor HvError α} (alike : Alike s t)
    (target : DomId) (next : Op.Agree Alike Alike (f () s) (g () t)) :
    Op.Agree Alike Alike ((rejectDeadTarget target >>= f) s) ((rejectDeadTarget target >>= g) t) :=
  Op.agree_ensure (by rw [alike.lifeOf]) alike fun _ => next

theorem selfOrControls {α : Type} {f g : Unit → Op Hypervisor HvError α} (alike : Alike s t)
    (caller target : DomId) (next : Op.Agree Alike Alike (f () s) (g () t)) :
    Op.Agree Alike Alike ((selfOrControls caller target >>= f) s)
      ((selfOrControls caller target >>= g) t) :=
  Op.agree_ensure (by rw [alike.holdsControl]) alike fun _ => next

theorem checkBindVcpu {α : Type} {f g : Unit → Op Hypervisor HvError α} (alike : Alike s t)
    (caller : DomId) (vcpu : Vcpu) (next : Op.Agree Alike Alike (f () s) (g () t)) :
    Op.Agree Alike Alike ((checkBindVcpu caller vcpu >>= f) s)
      ((checkBindVcpu caller vcpu >>= g) t) :=
  Op.agree_ensure (by rw [alike.sched.domainCount, alike.sched.vcpuCount]) alike fun _ => next

theorem acquirePage_agree (alike : Alike s t) (frame : Mfn) (writable : Bool) :
    Op.Agree Alike Alike (onP2m (acquirePage frame writable) s)
      (onP2m (acquirePage frame writable) t) := by
  rw [acquirePage_eq]
  exact alike.onP2m_agree (P2m.System.getChild_agree alike.p2m frame _)

theorem releasePage_agree (alike : Alike s t) (u : Unmapped) :
    Op.Agree Alike Alike (onP2m (releasePage u) s) (onP2m (releasePage u) t) := by
  rw [releasePage_eq]
  exact alike.onP2m_agree (P2m.System.putChild_agree alike.p2m u.frame u.ref)

theorem grantMap_agree (alike : Alike s t) (consistent : t.grant.Consistent)
    (caller grantor : DomId)
    (gref : GrantRef) (writable : Bool) :
    Op.Agree Alike Alike (grantMap caller grantor gref writable s)
      (grantMap caller grantor gref writable t) := by
  refine Op.agree_query (by rw [alike.grant.grantedFrame]) alike fun frame _ => ?_
  refine Op.agree_ensure (by rw [alike.p2m.ownerOf]) alike fun _ => ?_
  have mapped := alike.onGrant_agree
    (Grant.System.map_agree alike.grant caller grantor gref writable)
  -- The tables stay consistent, should the page reference fail and the mapping be undone.
  have undoable := mapped.and_right (P := fun t => t.grant.Consistent) fun handle ran => by
    rcases Grant.System.map_cases t.grant caller grantor gref writable with
      ⟨a, g', -, addressed, permitted, done, stored⟩ | ⟨e, failed⟩
    · unfold onGrant
      rw [Op.zoom_ok done]
      exact consistent.map addressed permitted stored
    · unfold onGrant at ran
      rw [Op.zoom_error failed] at ran
      cases ran
  refine Op.agree_bind undoable fun handle s' t' ⟨alike', consistent'⟩ => ?_
  have acquired := alike'.acquirePage_agree frame writable
  rw [Op.attempt_bind_apply, Op.attempt_bind_apply, acquired.outcome]
  cases (onP2m (acquirePage frame writable) t').1 with
  | ok _ => exact .ok acquired.state
  | error e =>
      have same : ∀ hv : Hypervisor,
          (onP2m (acquirePage frame writable) hv).2.grant = hv.grant :=
        fun _ => rfl
      have undone := acquired.state.onGrant_agree (Grant.System.unmap_agree (by rwa [same])
        acquired.state.grant caller handle)
      exact .error undone.state

theorem grantUnmap_agree (alike : Alike s t) (consistent : t.grant.Consistent) (caller : DomId)
    (handle : GrantHandle) :
    Op.Agree Alike Alike (grantUnmap caller handle s) (grantUnmap caller handle t) := by
  have unmapped := alike.onGrant_agree
    (Grant.System.unmap_agree consistent alike.grant caller handle)
  refine Op.agree_bind unmapped fun u _ _ alike' => ?_
  exact .ok (alike'.releasePage_agree u).state

theorem p2mLink_agree (alike : Alike s t) (caller : DomId) (parent : Mfn) (slot : UInt32)
    (child : Mfn)
    (writable leaf execute : Bool) :
    Op.Agree Alike Alike (p2mLink caller parent slot child writable leaf execute s)
      (p2mLink caller parent slot child writable leaf execute t) := by
  refine Op.agree_ensure ?_ alike fun _ => ?_
  · simp only [alike.p2m.ownerOf, alike.grant.authorizes]
  · exact agree_return (alike.onP2m_agree
      (P2m.System.link_agree alike.p2m caller parent slot child writable leaf execute))

theorem grantCopy_agree (alike : Alike s t) (caller grantor : DomId) (gref : GrantRef)
    (write : Bool) :
    Op.Agree Alike Alike (grantCopy caller grantor gref write s)
      (grantCopy caller grantor gref write t) := by
  refine Op.agree_ensure ?_ alike fun _ => ?_
  · simp only [alike.grant.grantedFrame, alike.p2m.ownerOf]
  · exact Op.agree_query (by rw [alike.grant.copy]) alike fun _ _ => .ok alike

theorem grantEndAccess_agree (alike : Alike s t) (caller : DomId) (gref : GrantRef) :
    Op.Agree Alike Alike (grantEndAccess caller gref s) (grantEndAccess caller gref t) := by
  refine Op.agree_ensure ?_ alike fun _ => ?_
  · simp only [alike.grant.grantEntry, alike.p2m.isForeignLinkedBy]
  · exact agree_return (alike.onGrant_agree (Grant.System.endAccess_agree alike.grant caller gref))

theorem wakeIfDeliverable (alike : Alike s t) (dom : DomId) (port : Port) :
    Alike (s.wakeIfDeliverable dom port) (t.wakeIfDeliverable dom port) := by
  have woken : ∀ vcpu, Alike { s with sched := (Sched.System.wake dom vcpu s.sched).2 }
      { t with sched := (Sched.System.wake dom vcpu t.sched).2 } :=
    fun vcpu => alike.setSched (Sched.System.wake_agree alike.sched dom vcpu).state
  unfold Hypervisor.wakeIfDeliverable
  rw [alike.evtchn]
  split_ifs
  · cases t.evtchn.notifyTarget dom port with
    | none => exact alike
    | some vcpu =>
        have same := alike.evtchn ▸ woken vcpu
        exact same
  · exact alike

theorem evtchnSend_agree (alike : Alike s t) (caller : DomId) (port : Port) :
    Op.Agree Alike Alike (evtchnSend caller port s) (evtchnSend caller port t) := by
  refine Op.agree_bind (alike.onEvtchn_agree _) fun _ s' t' alike' => .ok ?_
  dsimp only
  rw [alike'.evtchn]
  cases t'.evtchn.sendTarget caller port with
  | none => exact alike'
  | some target => exact alike'.wakeIfDeliverable target.1 target.2

theorem evtchnUnmask_agree (alike : Alike s t) (caller : DomId) (port : Port) :
    Op.Agree Alike Alike (evtchnUnmask caller port s) (evtchnUnmask caller port t) :=
  Op.agree_bind (alike.onEvtchn_agree _) fun _ _ _ alike' =>
    .ok (alike'.wakeIfDeliverable caller port)

theorem raiseVcpuVirq_agree (alike : Alike s t) (dom : DomId) (vcpu : Vcpu) (virq : Virq) :
    Op.Agree Alike Alike (raiseVcpuVirq dom vcpu virq s) (raiseVcpuVirq dom vcpu virq t) := by
  refine Op.agree_bind (alike.onEvtchn_agree _) fun port s' t' alike' => ?_
  have woken := alike'.wakeIfDeliverable dom port
  rw [Op.modify_bind_apply, Op.modify_bind_apply, Op.read_bind_apply, Op.read_bind_apply,
    woken.evtchn]
  exact .ok woken

theorem schedBlock_agree (alike : Alike s t) (caller : DomId) (vcpu : Vcpu) (now : Ticks) :
    Op.Agree Alike Alike (schedBlock caller vcpu now s) (schedBlock caller vcpu now t) := by
  unfold Hypervisor.schedBlock
  rw [Op.read_bind_apply, Op.read_bind_apply, alike.sched.stateOf, alike.evtchn]
  split_ifs
  · exact .ok alike
  · exact agree_return (alike.onSched_agree (Sched.System.block_agree alike.sched caller vcpu now))

theorem schedSetAffinity_agree (alike : Alike s t) (caller target : DomId) (vcpu : Vcpu)
    (affinity : Nat) : Op.Agree Alike Alike (schedSetAffinity caller target vcpu affinity s)
      (schedSetAffinity caller target vcpu affinity t) :=
  alike.inRange target <| alike.selfOrControls caller target <| agree_return <|
    alike.onSched_agree (Sched.System.setAffinity_agree alike.sched target vcpu affinity)

theorem controlGrant_agree (alike : Alike s t) (caller target recipient : DomId) :
    Op.Agree Alike Alike (controlGrant caller target recipient s)
      (controlGrant caller target recipient t) := by
  refine alike.inRange target (alike.inRange recipient ?_)
  refine Op.agree_ensure (alike.holdsControl caller target) alike fun _ => ?_
  refine Op.agree_ensure rfl alike fun _ => ?_
  refine Op.agree_ensure (alike.isLive recipient) alike fun _ => ?_
  rw [Op.read_bind_apply, Op.read_bind_apply, alike.holdsControl]
  split_ifs
  · exact .ok alike
  · exact .ok (alike.setControl recipient target (.via caller))

theorem controlRevoke_agree (alike : Alike s t) (caller target holder : DomId) :
    Op.Agree Alike Alike (controlRevoke caller target holder s)
      (controlRevoke caller target holder t) := by
  refine alike.inRange target (alike.inRange holder ?_)
  refine Op.agree_ensure (alike.holdsControl caller target) alike fun _ => ?_
  refine Op.agree_ensure (alike.controlSubtreeContains caller holder target) alike fun _ => ?_
  exact .ok (alike.setControl holder target .absent).sweepOrphanedControlEdges

theorem deviceAssign_agree (alike : Alike s t) (caller : DomId) (dev : DevId) (recipient : DomId) :
    Op.Agree Alike Alike (deviceAssign caller dev recipient s)
      (deviceAssign caller dev recipient t) := by
  refine alike.inRange recipient ?_
  refine Op.agree_ensure (alike.holdsControl caller recipient) alike fun _ => ?_
  refine alike.rejectDeadTarget recipient ?_
  exact agree_return (alike.onDevice_agree (Device.System.assign_agree alike.device dev recipient))

theorem deviceRelease_agree (alike : Alike s t) (caller : DomId) (dev : DevId) (holder : DomId) :
    Op.Agree Alike Alike (deviceRelease caller dev holder s)
      (deviceRelease caller dev holder t) :=
  alike.inRange holder <| alike.selfOrControls caller holder <| agree_return <|
    alike.onDevice_agree (Device.System.release_agree alike.device dev holder)

theorem domainCreate_agree (alike : Alike s t) (caller target : DomId) (mayCreate : Bool) :
    Op.Agree Alike Alike (domainCreate caller target mayCreate s)
      (domainCreate caller target mayCreate t) := by
  refine alike.inRange target ?_
  refine Op.agree_ensure (by unfold mayCreateOf; rw [alike.mayCreate]) alike fun _ => ?_
  refine Op.agree_ensure (by rw [alike.lifeOf]) alike fun _ => .ok ?_
  refine Alike.setControl ?_ caller target .root
  have life := congrArg (·.set target.toNat .live) alike.life
  have creators := congrArg (·.set target.toNat mayCreate) alike.mayCreate
  exact ⟨alike.domainCount, alike.evtchn, alike.grant, alike.sched, alike.p2m, alike.device,
    life, creators, alike.controls⟩

end Alike

/-- Every domain, entry and frame has a number. -/
structure Numbered (hv : Hypervisor) : Prop where
  domains : hv.grant.domainCount < 2 ^ 16
  entries : ∀ d, hv.grant.entryCount d < 2 ^ 32
  frames : hv.p2m.frameCount < 2 ^ 32

theorem Alike.teardown (alike : Alike s t) (regular : Regular s) (regular' : Regular t)
    (numbered : Numbered s) (target : DomId) (now : Ticks) :
    Alike (s.teardown target now).2 (t.teardown target now).2 := by
  obtain ⟨-, here⟩ := teardown_memory regular.memory target now
  obtain ⟨-, there⟩ := teardown_memory regular'.memory target now
  have grants := here.grants_alike there alike.grant numbered.domains numbered.entries
  have frames := here.p2m_alike there regular.memory grants alike.p2m numbered.frames
    (teardown_keepsLevels target now s) (teardown_keepsLevels target now t)
  constructor
  · rw [Hypervisor.domainCount, Hypervisor.domainCount, teardown_credit, teardown_credit]
    exact alike.domainCount
  · rw [teardown_evtchn, teardown_evtchn, alike.evtchn]
  · exact grants
  · rw [teardown_sched, teardown_sched]
    exact Sched.System.offlineAll_alike alike.sched target now
  · exact frames
  · rw [teardown_device, teardown_device]
    exact alike.device.releaseAllOf target
  · rw [teardown_life, teardown_life, alike.life]
  · rw [teardown_mayCreate, teardown_mayCreate, alike.mayCreate]
  · have count := alike.domainCount
    rw [teardown_controls, teardown_controls, Hypervisor.clearControls, Hypervisor.clearControls,
      count, alike.controls]

theorem Alike.domainDestroy_agree (alike : Alike s t) (regular : Regular s) (regular' : Regular t)
    (numbered : Numbered s) (caller target : DomId) (now : Ticks) :
    Op.Agree Alike Alike (domainDestroy caller target now s) (domainDestroy caller target now t) :=
  alike.inRange caller <| alike.inRange target <| alike.selfOrControls caller target <|
    .ok (alike.teardown regular regular' numbered target now)

end Hypervisor

/-- Whether a transition reads and writes a credit account. -/
def Transition.isCredit : Transition → Bool
  | .guest _ (.creditGrant _) => true
  | .guest _ (.creditSpend _) => true
  | _ => false

namespace Hypervisor

theorem Alike.route_agree (alike : Alike s t) (regular : Regular s) (regular' : Regular t)
    (numbered : Numbered s) {caller : DomId} {call : HvCall}
    (uncounted : (Transition.guest caller call).isCredit = false) :
    Op.Agree Alike Alike (route caller call s) (route caller call t) := by
  have grants := regular'.memory.grants
  have pages := regular.memory.pages
  have pages' := regular'.memory.pages
  refine alike.inRange caller (Op.agree_ensure (alike.isLive caller) alike fun _ => ?_)
  cases call with
  | creditGrant amount => cases uncounted
  | creditSpend amount => cases uncounted
  | evtchnAllocUnbound remote =>
      exact alike.rejectDeadTarget remote (agree_return (alike.onEvtchn_agree _))
  | evtchnBindInterdomain remote remotePort => exact agree_return (alike.onEvtchn_agree _)
  | evtchnBindVirq vcpu virq =>
      exact alike.checkBindVcpu caller vcpu (agree_return (alike.onEvtchn_agree _))
  | evtchnBindIpi vcpu =>
      exact alike.checkBindVcpu caller vcpu (agree_return (alike.onEvtchn_agree _))
  | evtchnClose port => exact agree_return (alike.onEvtchn_agree _)
  | evtchnSend port => exact alike.evtchnSend_agree caller port
  | evtchnMask port => exact agree_return (alike.onEvtchn_agree _)
  | evtchnUnmask port => exact alike.evtchnUnmask_agree caller port
  | evtchnConsume port => exact agree_return (alike.onEvtchn_agree _)
  | grantAccess gref grantee frame readonly =>
      refine alike.rejectDeadTarget grantee (agree_return (alike.onGrant_agree ?_))
      exact Grant.System.grantAccess_agree alike.grant caller gref grantee frame readonly
  | grantEndAccess gref => exact alike.grantEndAccess_agree caller gref
  | grantMap grantor gref writable => exact alike.grantMap_agree grants caller grantor gref writable
  | grantUnmap handle => exact alike.grantUnmap_agree grants caller handle
  | grantCopy grantor gref write => exact alike.grantCopy_agree caller grantor gref write
  | schedAdmit vcpu =>
      exact agree_return
        (alike.onSched_agree (Sched.System.admitVcpu_agree alike.sched caller vcpu))
  | schedRun vcpu pcpu now =>
      exact agree_return
        (alike.onSched_agree (Sched.System.run_agree alike.sched caller vcpu pcpu now))
  | schedPreempt vcpu now =>
      exact agree_return
        (alike.onSched_agree (Sched.System.preempt_agree alike.sched caller vcpu now))
  | schedBlock vcpu now => exact alike.schedBlock_agree caller vcpu now
  | schedWake vcpu =>
      exact agree_return (alike.onSched_agree (Sched.System.wake_agree alike.sched caller vcpu))
  | schedOffline vcpu now =>
      exact agree_return
        (alike.onSched_agree (Sched.System.offline_agree alike.sched caller vcpu now))
  | schedSetAffinity target vcpu affinity =>
      exact alike.schedSetAffinity_agree caller target vcpu affinity
  | p2mAllocate mfn =>
      exact agree_return (alike.onP2m_agree (P2m.System.allocate_agree alike.p2m caller mfn))
  | p2mFree mfn =>
      exact agree_return (alike.onP2m_agree (P2m.System.free_agree alike.p2m caller mfn))
  | p2mPin mfn level =>
      exact agree_return (alike.onP2m_agree (P2m.System.pin_agree alike.p2m caller mfn level))
  | p2mUnpin mfn =>
      exact agree_return (alike.onP2m_agree (P2m.System.unpin_agree pages alike.p2m caller mfn))
  | p2mLink parent slot child writable leaf execute =>
      exact alike.p2mLink_agree caller parent slot child writable leaf execute
  | p2mUnlink parent slot =>
      exact agree_return
        (alike.onP2m_agree (P2m.System.unlink_agree pages pages' alike.p2m caller parent slot))
  | domainCreate target mayCreate => exact alike.domainCreate_agree caller target mayCreate
  | domainDestroy target now =>
      exact alike.domainDestroy_agree regular regular' numbered caller target now
  | controlGrant target recipient => exact alike.controlGrant_agree caller target recipient
  | controlRevoke target holder => exact alike.controlRevoke_agree caller target holder
  | deviceAssign dev recipient => exact alike.deviceAssign_agree caller dev recipient
  | deviceRelease dev holder => exact alike.deviceRelease_agree caller dev holder

/-- A transition that leaves credit alone does the same on both states. -/
theorem Alike.apply_agree (alike : Alike s t) (regular : Regular s) (regular' : Regular t)
    (numbered : Numbered s) {tr : Transition} (uncounted : tr.isCredit = false) :
    Op.Agree Alike Alike (apply tr s) (apply tr t) := by
  cases tr with
  | guest caller call =>
      exact agree_return (alike.route_agree regular regular' numbered uncounted)
  | raiseVcpuVirq dom vcpu virq => exact agree_return (alike.raiseVcpuVirq_agree dom vcpu virq)

end Hypervisor

end Baleen
