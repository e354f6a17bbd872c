import Baleen.Hypervisor.AlikeMemory
import Baleen.Sched.Alike
import Baleen.Hypervisor.Tidy

/-!
# States that no transition tells apart

Two states are alike if they differ at most in credit, in accrued run time, in the stale
level of untyped frames, in devices that no device number names, and in the order in which
mappings and entries are stored.  Every transition returns the same on both and leaves
them alike; only calls that read credit are left out.
-/

namespace Baleen

open Evtchn (Port Virq EvtchnError)
open Sched (Pcpu SchedError)
open Grant (GrantRef GrantHandle GrantError Unmapped)
open P2m (Mfn PtLevel P2mError)
open Device (DevId DeviceError)

namespace Device.System

/-- The same holders, as far as a device number reaches. -/
structure Alike (s t : System) : Prop where
  numDomains : s.numDomains = t.numDomains
  deviceCount : s.deviceCount = t.deviceCount
  holders : ∀ dev : DevId, s.holders[dev.toNat]? = t.holders[dev.toNat]?

variable {s t : System}

theorem Alike.setHolder (alike : Alike s t) (dev : DevId) (holder : Option DomId) :
    Alike (s.setHolder dev holder) (t.setHolder dev holder) := by
  have lengths : s.holders.length = t.holders.length := alike.deviceCount
  refine ⟨alike.numDomains, ?_, fun dev' => ?_⟩
  · simpa [System.setHolder, System.deviceCount] using lengths
  · simp only [System.setHolder, List.getElem?_set, alike.holders, lengths]

theorem assign_agree (alike : Alike s t) (dev : DevId) (recipient : DomId) :
    Op.Agree Alike Alike (assign dev recipient s) (assign dev recipient t) := by
  refine Op.agree_ensure (by rw [alike.numDomains]) alike fun _ => ?_
  rw [Op.read_bind_apply, Op.read_bind_apply, alike.holders]
  match t.holders[dev.toNat]? with
  | none => exact .error alike
  | some none => exact .ok (alike.setHolder dev (some recipient))
  | some (some holder) =>
      dsimp only
      split_ifs
      · exact .ok alike
      · exact .error alike

theorem release_agree (alike : Alike s t) (dev : DevId) (holder : DomId) :
    Op.Agree Alike Alike (release dev holder s) (release dev holder t) := by
  refine Op.agree_ensure (by rw [alike.numDomains]) alike fun _ => ?_
  rw [Op.read_bind_apply, Op.read_bind_apply, alike.holders]
  match t.holders[dev.toNat]? with
  | none => exact .error alike
  | some slot => exact Op.agree_ensure rfl alike fun _ => .ok (alike.setHolder dev none)

theorem Alike.releaseAllOf (alike : Alike s t) (holder : DomId) :
    Alike (releaseAllOf holder s) (releaseAllOf holder t) := by
  refine ⟨alike.numDomains, ?_, fun dev => ?_⟩
  · simpa [System.releaseAllOf, System.deviceCount] using alike.deviceCount
  · simp only [System.releaseAllOf, List.getElem?_map, alike.holders]

end Device.System

namespace Hypervisor

structure Alike (s t : Hypervisor) : Prop where
  domainCount : s.domainCount = t.domainCount
  evtchn : s.evtchn = t.evtchn
  grant : s.grant.Alike t.grant
  sched : s.sched.Alike t.sched
  p2m : s.p2m.Alike t.p2m
  device : s.device.Alike t.device
  life : s.life = t.life
  mayCreate : s.mayCreate = t.mayCreate
  controls : s.controls = t.controls

variable {s t : Hypervisor} {α : Type}

namespace Alike

theorem lifeOf (alike : Alike s t) (dom : DomId) : s.lifeOf dom = t.lifeOf dom := by
  unfold Hypervisor.lifeOf
  rw [alike.life]

theorem isLive (alike : Alike s t) (dom : DomId) : s.isLive dom = t.isLive dom := by
  unfold Hypervisor.isLive
  rw [alike.lifeOf]

theorem controlEdge (alike : Alike s t) (holder target : DomId) :
    s.controlEdge holder target = t.controlEdge holder target := by
  unfold Hypervisor.controlEdge
  rw [alike.controls]

theorem holdsControl (alike : Alike s t) (holder target : DomId) :
    s.holdsControl holder target = t.holdsControl holder target := by
  unfold Hypervisor.holdsControl
  rw [alike.controlEdge]

theorem controlSubtreeContains (alike : Alike s t) (caller node target : DomId) :
    s.controlSubtreeContains caller node target = t.controlSubtreeContains caller node target := by
  have climbs : ∀ steps node, s.climbsTo caller target steps node =
      t.climbsTo caller target steps node := by
    intro steps
    induction steps with
    | zero => exact fun _ => rfl
    | succ steps ih =>
        intro node
        simp only [climbsTo, alike.controlEdge, ih]
  unfold Hypervisor.controlSubtreeContains
  rw [climbs, alike.domainCount]

theorem setControls (alike : Alike s t) {controls controls' : Grid Control}
    (same : controls = controls') :
    Alike { s with controls := controls } { t with controls := controls' } :=
  ⟨alike.domainCount, alike.evtchn, alike.grant, alike.sched, alike.p2m, alike.device, alike.life,
    alike.mayCreate, same⟩

theorem setControl (alike : Alike s t) (holder target : DomId) (c : Control) :
    Alike (s.setControl holder target c) (t.setControl holder target c) := by
  apply alike.setControls
  rw [alike.controls]

theorem sweepOrphanedControlEdges (alike : Alike s t) :
    Alike s.sweepOrphanedControlEdges t.sweepOrphanedControlEdges := by
  apply alike.setControls
  rw [alike.controls, alike.domainCount]

theorem setGrant (alike : Alike s t) {g g' : Grant.System} (same : g.Alike g') :
    Alike { s with grant := g } { t with grant := g' } :=
  ⟨alike.domainCount, alike.evtchn, same, alike.sched, alike.p2m, alike.device, alike.life,
    alike.mayCreate, alike.controls⟩

theorem setSched (alike : Alike s t) {k k' : Sched.System} (same : k.Alike k') :
    Alike { s with sched := k } { t with sched := k' } :=
  ⟨alike.domainCount, alike.evtchn, alike.grant, same, alike.p2m, alike.device, alike.life,
    alike.mayCreate, alike.controls⟩

theorem setP2m (alike : Alike s t) {p p' : P2m.System} (same : p.Alike p') :
    Alike { s with p2m := p } { t with p2m := p' } :=
  ⟨alike.domainCount, alike.evtchn, alike.grant, alike.sched, same, alike.device, alike.life,
    alike.mayCreate, alike.controls⟩

theorem setDevice (alike : Alike s t) {d d' : Device.System} (same : d.Alike d') :
    Alike { s with device := d } { t with device := d' } :=
  ⟨alike.domainCount, alike.evtchn, alike.grant, alike.sched, alike.p2m, same, alike.life,
    alike.mayCreate, alike.controls⟩

theorem setEvtchn (alike : Alike s t) (e : Evtchn.System) :
    Alike { s with evtchn := e } { t with evtchn := e } :=
  ⟨alike.domainCount, rfl, alike.grant, alike.sched, alike.p2m, alike.device, alike.life,
    alike.mayCreate, alike.controls⟩

theorem onEvtchn_agree (alike : Alike s t) (x : Op Evtchn.System EvtchnError α) :
    Op.Agree Alike Alike (onEvtchn x s) (onEvtchn x t) := by
  apply Op.agree_zoom
  rw [alike.evtchn]
  exact Op.agree_of_outcome rfl (fun _ _ _ => alike.setEvtchn _) fun _ _ _ => alike.setEvtchn _

theorem onGrant_agree (alike : Alike s t) {x y : Op Grant.System GrantError α}
    (ran : Op.Agree Grant.System.Alike Grant.System.Alike (x s.grant) (y t.grant)) :
    Op.Agree Alike Alike (onGrant x s) (onGrant y t) :=
  Op.agree_zoom (ran.mono (fun _ _ => alike.setGrant) fun _ _ => alike.setGrant)

theorem onSched_agree (alike : Alike s t) {x y : Op Sched.System SchedError α}
    (ran : Op.Agree Sched.System.Alike Sched.System.Alike (x s.sched) (y t.sched)) :
    Op.Agree Alike Alike (onSched x s) (onSched y t) :=
  Op.agree_zoom (ran.mono (fun _ _ => alike.setSched) fun _ _ => alike.setSched)

theorem onP2m_agree (alike : Alike s t) {x y : Op P2m.System P2mError α}
    (ran : Op.Agree P2m.System.Alike P2m.System.Alike (x s.p2m) (y t.p2m)) :
    Op.Agree Alike Alike (onP2m x s) (onP2m y t) :=
  Op.agree_zoom (ran.mono (fun _ _ => alike.setP2m) fun _ _ => alike.setP2m)

theorem onDevice_agree (alike : Alike s t) {x y : Op Device.System DeviceError α}
    (ran : Op.Agree Device.System.Alike Device.System.Alike (x s.device) (y t.device)) :
    Op.Agree Alike Alike (onDevice x s) (onDevice y t) :=
  Op.agree_zoom (ran.mono (fun _ _ => alike.setDevice) fun _ _ => alike.setDevice)

end Alike

end Hypervisor

end Baleen
