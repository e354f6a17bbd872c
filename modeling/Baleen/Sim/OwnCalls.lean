import Baleen.Sim.GrantProbes

/-!
# Calls that tell nothing new

Calls on what belongs to the caller, or to a domain it controls as far as it is shown: their
outcome is decided by the caller's view.
-/

namespace Baleen

/-- A row and a cell are missing alike in tables of one shape. -/
theorem Grid.missing_congr {α β : Type} {g : Grid α} {g' : Grid β} (rows : g.length = g'.length)
    {i : Nat} (width : g.width i = g'.width i) :
    (g[i]? = none ∧ g'[i]? = none) ∨ ∃ row row', g[i]? = some row ∧ g'[i]? = some row' ∧
      row.length = row'.length := by
  unfold Grid.width at width
  by_cases inside : i < g.length
  · refine .inr ⟨g[i], g'[i], List.getElem?_eq_getElem inside, List.getElem?_eq_getElem _, ?_⟩
    rw [List.getElem?_eq_getElem inside, List.getElem?_eq_getElem (rows ▸ inside)] at width
    exact width
  · exact .inl ⟨List.getElem?_eq_none (Nat.le_of_not_lt inside),
      List.getElem?_eq_none (rows ▸ Nat.le_of_not_lt inside)⟩

theorem Evtchn.System.chan_error_congr {e e' : Evtchn.System} {d : DomId} {p : Evtchn.Port}
    (rows : e.domainCount = e'.domainCount) (width : e.portCount d = e'.portCount d)
    (refusal : Evtchn.EvtchnError) :
    e.chan d p = .error refusal ↔ e'.chan d p = .error refusal := by
  unfold chan domain
  rcases Grid.missing_congr rows width with ⟨missing, missing'⟩ | ⟨row, row', found, found', same⟩
  · rw [missing, missing']
  · rw [found, found']
    dsimp only
    by_cases inside : p.toNat < row.length
    · rw [List.getElem?_eq_getElem inside, List.getElem?_eq_getElem (same ▸ inside)]
      simp
    · rw [List.getElem?_eq_none (Nat.le_of_not_lt inside),
        List.getElem?_eq_none (same ▸ Nat.le_of_not_lt inside)]

theorem Evtchn.System.chan?_of_chan {e : Evtchn.System} {d : DomId} {p : Evtchn.Port}
    {x : Evtchn.EventChannel} (found : e.chan d p = .ok x) : e.chan? d p = some x := by
  rcases chan_cases e d p with ⟨y, known, same⟩ | ⟨-, e', failed⟩
  · rw [same] at found
    rw [known, Except.ok.inj found]
  · rw [failed] at found
    cases found

theorem Sched.System.vcpu_error_congr {k k' : Sched.System} {d : DomId} {v : Vcpu}
    (rows : k.domainCount = k'.domainCount) (width : k.vcpuCount d = k'.vcpuCount d)
    (refusal : Sched.SchedError) : k.vcpu d v = .error refusal ↔ k'.vcpu d v = .error refusal := by
  unfold vcpu
  rcases Grid.missing_congr rows width with ⟨missing, missing'⟩ | ⟨row, row', found, found', same⟩
  · rw [missing, missing']
  · rw [found, found']
    dsimp only
    by_cases inside : v.toNat < row.length
    · rw [List.getElem?_eq_getElem inside, List.getElem?_eq_getElem (same ▸ inside)]
      simp
    · rw [List.getElem?_eq_none (Nat.le_of_not_lt inside),
        List.getElem?_eq_none (same ▸ Nat.le_of_not_lt inside)]

theorem Sched.System.stateOf_of_vcpu {k : Sched.System} {d : DomId} {v : Vcpu}
    {x : Sched.VirtualCpu} (found : k.vcpu d v = .ok x) : k.stateOf d v = some x.state := by
  rcases vcpu_cases k d v with ⟨y, known, same⟩ | ⟨-, e, failed⟩
  · rw [same] at found
    rw [stateOf, known, Except.ok.inj found, Option.map_some]
  · rw [failed] at found
    cases found

theorem Sched.System.stateOf_of_error {k : Sched.System} {d : DomId} {v : Vcpu}
    {e : Sched.SchedError} (failed : k.vcpu d v = .error e) : k.stateOf d v = none := by
  rcases vcpu_cases k d v with ⟨x, -, found⟩ | ⟨missing, -⟩
  · rw [found] at failed
    cases failed
  · rw [stateOf, missing, Option.map_none]

namespace Noninterference

open Evtchn (Port PortState Virq EvtchnError)
open Grant (GrantRef GrantHandle Access GrantError)
open Sched (SchedError VirtualCpu RunState)
open Device (DevId)
open Credit (HvCore HError)
open Hypervisor (Reachable Regular)

variable {c : Config} {hv s t : Hypervisor} {a : DomId}

/-- A handle is released if it names a live mapping, else refused. -/
theorem grantUnmap_of_held (regular : Regular hv) (handle : GrantHandle) :
    ((∃ m ∈ hv.grant.live, m.name = (a, handle)) →
      (Hypervisor.grantUnmap a handle hv).1 = .ok .done) ∧
    ((∀ m ∈ hv.grant.live, m.name ≠ (a, handle)) →
      (Hypervisor.grantUnmap a handle hv).1 = .error (.grant .badHandle)) := by
  unfold Hypervisor.grantUnmap
  rcases Grant.System.unmap_cases regular.memory.grants a handle with
    ⟨m, x, g', isLive, named, ran, -⟩ | ⟨absent, e, failed⟩
  · rw [Op.bind_of_ok (Hypervisor.onGrant_ok ran)]
    exact ⟨fun _ => rfl, fun absent => absurd named (absent m isLive)⟩
  · rw [Op.bind_of_error (Hypervisor.onGrant_error failed)]
    refine ⟨fun ⟨m, isLive, named⟩ => absurd named (absent m isLive), fun _ => ?_⟩
    have refusal : e = .badHandle := by
      rw [Grant.System.unmap, Op.read_bind_apply] at failed
      cases search : hv.grant.maps.findIdx? (Grant.System.named a handle) with
      | none =>
          rw [search] at failed
          cases failed
          rfl
      | some slot =>
          simp only [search] at failed
          cases stored : hv.grant.maps[slot]? with
          | none =>
              rw [stored] at failed
              cases failed
              rfl
          | some m =>
              rw [stored] at failed
              cases failed
    rw [refusal]

theorem onCredit_outcome (same : s.credit[a.toNat]? = t.credit[a.toNat]?)
    (x : Op HvCore HError Nat) :
    (Hypervisor.onCredit a x s).1 = (Hypervisor.onCredit a x t).1 := by
  unfold Hypervisor.onCredit
  rw [Op.read_bind_apply, Op.read_bind_apply, same]
  cases t.credit[a.toNat]? <;> rfl

theorem evtchn_rows (here : Reachable c s) (there : Reachable c t) :
    s.evtchn.domains.length = t.evtchn.domains.length :=
  (Hypervisor.rows_eq here).1.trans (Hypervisor.rows_eq there).1.symm

section View

variable (view : SameView a s t) (here : Reachable c s) (there : Reachable c t)

include view here there

theorem SameView.lifeOf (d : DomId) : s.lifeOf d = t.lifeOf d := by
  have count := Hypervisor.life_length here
  have count' := Hypervisor.life_length there
  have alive := view.lives d
  unfold Hypervisor.isLive Hypervisor.lifeOf at alive
  unfold Hypervisor.lifeOf
  by_cases inside : d.toNat < c.numDomains
  · rw [List.getElem?_eq_getElem (count.symm ▸ inside),
      List.getElem?_eq_getElem (count'.symm ▸ inside)] at alive ⊢
    revert alive
    cases s.life[d.toNat] <;> cases t.life[d.toNat] <;> simp
  · rw [List.getElem?_eq_none (count.trans_le (Nat.le_of_not_lt inside)),
      List.getElem?_eq_none (count'.trans_le (Nat.le_of_not_lt inside))]

omit view in
theorem domainCount_eq : s.domainCount = t.domainCount := by
  rw [here.domainCount, there.domainCount]

theorem SameView.grantAccess_outcome (gref : GrantRef) (grantee : DomId) (frame : Grant.Frame)
    (readonly : Bool) : (Grant.System.grantAccess a gref grantee frame readonly s.grant).1 =
      (Grant.System.grantAccess a gref grantee frame readonly t.grant).1 := by
  have rows : s.grant.domains.length = t.grant.domains.length :=
    (Hypervisor.rows_eq here).2.1.trans (Hypervisor.rows_eq there).2.1.symm
  have width := (Hypervisor.entryCount_eq here grantee).trans
    (Hypervisor.entryCount_eq there grantee).symm
  refine Op.outcome_query (fun e => ?_) fun _ _ _ _ => ?_
  · unfold Grant.System.domain
    rcases Grid.missing_congr rows width with ⟨missing, missing'⟩ | ⟨row, row', found, found', -⟩
    · rw [missing, missing']
    · simp [found, found']
  · refine Op.outcome_query_same (entry_eq here there (view.rows gref)) fun e _ => ?_
    exact Op.outcome_ensure rfl fun _ => rfl

theorem SameView.grantEndAccess_outcome (gref : GrantRef) :
    (Hypervisor.grantEndAccess a gref s).1 = (Hypervisor.grantEndAccess a gref t).1 := by
  unfold Hypervisor.grantEndAccess
  refine Op.outcome_ensure ?_ fun _ => ?_
  · rw [← view.rows gref]
    cases active : s.grant.grantEntry a gref with
    | none => rfl
    | some x => simp only [view.linked active]
  · refine Op.outcome_zoom_congr ?_
    refine Op.outcome_query_same (entry_eq here there (view.rows gref)) fun e _ => ?_
    cases e with
    | free => rfl
    | access x => exact Op.outcome_ensure rfl fun _ => rfl

theorem SameView.grantUnmap_outcome (handle : GrantHandle) :
    (Hypervisor.grantUnmap a handle s).1 = (Hypervisor.grantUnmap a handle t).1 := by
  obtain ⟨released, refused⟩ := @grantUnmap_of_held s a here.regular handle
  obtain ⟨released', refused'⟩ := @grantUnmap_of_held t a there.regular handle
  by_cases held : ∃ m ∈ s.grant.live, m.name = (a, handle)
  · obtain ⟨m, isLive, named⟩ := held
    have isLive' := (view.held m (congrArg Prod.fst named)).mp isLive
    rw [released ⟨m, isLive, named⟩, released' ⟨m, isLive', named⟩]
  · have absent : ∀ m ∈ s.grant.live, m.name ≠ (a, handle) :=
      fun m isLive named => held ⟨m, isLive, named⟩
    rw [refused absent, refused' fun m isLive named =>
      absent m ((view.held m (congrArg Prod.fst named)).mpr isLive) named]

omit view in
theorem bindable (vcpu : Vcpu) :
    (!(decide (a.toNat < s.sched.domainCount) &&
        decide (s.sched.vcpuCount a ≤ vcpu.toNat))) =
      !(decide (a.toNat < t.sched.domainCount) && decide (t.sched.vcpuCount a ≤ vcpu.toNat)) := by
  rw [(Hypervisor.rows_eq here).2.2, (Hypervisor.rows_eq there).2.2, Hypervisor.vcpuCount_eq here,
    Hypervisor.vcpuCount_eq there]

variable (addressable : Hypervisor.Addressable c)

include addressable

theorem SameView.ports_row : s.evtchn.domain a = t.evtchn.domain a := by
  have rows := evtchn_rows here there
  have width := Hypervisor.portCount_eq here a
  have width' := Hypervisor.portCount_eq there a
  unfold Evtchn.System.portCount Grid.width at width width'
  have cells := view.ports.chan
  unfold Evtchn.System.chan? Grid.get? at cells
  unfold Evtchn.System.domain
  match row : s.evtchn.domains[a.toNat]?, row' : t.evtchn.domains[a.toNat]? with
  | none, none => rfl
  | none, some _ =>
      have outside := List.getElem?_eq_none_iff.mp row
      have inside := (List.getElem?_eq_some_iff.mp row').1
      omega
  | some _, none =>
      have outside := List.getElem?_eq_none_iff.mp row'
      have inside := (List.getElem?_eq_some_iff.mp row).1
      omega
  | some xs, some ys =>
      simp only [row, row', Option.map_some, Option.getD_some, Option.bind_some]
        at width width' cells
      refine congrArg Except.ok (List.ext_getElem? fun i => ?_)
      by_cases inside : i < xs.length
      · have small : (UInt32.ofNat i).toNat = i := by
          refine Words.toNat_ofNat32 (Nat.lt_trans inside ?_)
          rw [width]
          split_ifs
          · exact addressable.ports
          · exact Nat.two_pow_pos 32
        have cell := cells (UInt32.ofNat i)
        rw [small] at cell
        exact cell.symm
      · rw [List.getElem?_eq_none (Nat.le_of_not_lt inside),
          List.getElem?_eq_none (by omega)]

theorem SameView.chan_eq (p : Port) : s.evtchn.chan a p = t.evtchn.chan a p := by
  unfold Evtchn.System.chan
  rw [view.ports_row here there addressable]

theorem SameView.findFree_eq : s.evtchn.findFree a = t.evtchn.findFree a := by
  unfold Evtchn.System.findFree
  rw [view.ports_row here there addressable]

theorem SameView.allocUnbound_outcome (remote : DomId) :
    (Evtchn.System.allocUnbound a remote s.evtchn).1 =
      (Evtchn.System.allocUnbound a remote t.evtchn).1 := by
  refine Op.outcome_query (fun e => ?_) fun _ _ _ _ => ?_
  · unfold Evtchn.System.domain
    rcases Grid.missing_congr (evtchn_rows here there)
      ((Hypervisor.portCount_eq here remote).trans (Hypervisor.portCount_eq there remote).symm) with
      ⟨missing, missing'⟩ | ⟨row, row', found, found', -⟩
    · rw [missing, missing']
    · simp [found, found']
  · refine Op.outcome_query_same (view.findFree_eq here there addressable) fun port _ => ?_
    exact Op.outcome_query_same (view.chan_eq here there addressable port) fun _ _ => rfl

theorem SameView.bindVirq_outcome (vcpu : Vcpu) (virq : Virq) :
    (Evtchn.System.bindVirq a vcpu virq s.evtchn).1 =
      (Evtchn.System.bindVirq a vcpu virq t.evtchn).1 := by
  refine Op.outcome_query_same (view.ports_row here there addressable) fun ports _ => ?_
  refine Op.outcome_ensure rfl fun _ => ?_
  refine Op.outcome_query_same (view.findFree_eq here there addressable) fun port _ => ?_
  exact Op.outcome_query_same (view.chan_eq here there addressable port) fun _ _ => rfl

theorem SameView.bindIpi_outcome (vcpu : Vcpu) :
    (Evtchn.System.bindIpi a vcpu s.evtchn).1 = (Evtchn.System.bindIpi a vcpu t.evtchn).1 := by
  refine Op.outcome_query_same (view.findFree_eq here there addressable) fun port _ => ?_
  exact Op.outcome_query_same (view.chan_eq here there addressable port) fun _ _ => rfl

theorem SameView.close_outcome (port : Port) :
    (Evtchn.System.close a port s.evtchn).1 = (Evtchn.System.close a port t.evtchn).1 := by
  refine Op.outcome_query_same (view.chan_eq here there addressable port) fun c _ => ?_
  exact Op.outcome_ensure rfl fun _ => rfl

theorem SameView.send_outcome (port : Port) :
    (Evtchn.System.send a port s.evtchn).1 = (Evtchn.System.send a port t.evtchn).1 := by
  refine Op.outcome_query_same (view.chan_eq here there addressable port) fun c _ => ?_
  refine Op.outcome_query_same ?_ fun _ _ => rfl
  unfold Evtchn.System.sendTarget
  rw [view.chan_eq here there addressable port]

theorem SameView.setMasked_outcome (port : Port) (value : Bool) :
    (Evtchn.System.setMasked a port value s.evtchn).1 =
      (Evtchn.System.setMasked a port value t.evtchn).1 := by
  refine Op.outcome_query_same (view.chan_eq here there addressable port) fun c _ => ?_
  exact Op.outcome_ensure rfl fun _ => rfl

theorem SameView.consume_outcome (port : Port) :
    (Evtchn.System.consume a port s.evtchn).1 = (Evtchn.System.consume a port t.evtchn).1 := by
  refine Op.outcome_query_same (view.chan_eq here there addressable port) fun c _ => ?_
  exact Op.outcome_ensure rfl fun _ => rfl

/-- Whether a port of another domain awaits `a` is shown. -/
theorem SameView.bindInterdomain_outcome (remote : DomId) (remotePort : Port) :
    (Evtchn.System.bindInterdomain a remote remotePort s.evtchn).1 =
      (Evtchn.System.bindInterdomain a remote remotePort t.evtchn).1 := by
  have missing := Evtchn.System.chan_error_congr (p := remotePort) (evtchn_rows here there)
    ((Hypervisor.portCount_eq here remote).trans (Hypervisor.portCount_eq there remote).symm)
  refine Op.outcome_query missing fun x y found found' => Op.outcome_ensure ?_ fun _ => ?_
  · have read : ∀ {e : Evtchn.System} {x}, e.chan? remote remotePort = some x →
        (Evtchn.System.awaits a x = true ↔ e.stateOf remote remotePort = some (.unbound a)) := by
      intro e x here
      simp [Evtchn.System.awaits, Evtchn.System.stateOf, here]
    rw [Bool.eq_iff_iff, read (Evtchn.System.chan?_of_chan found),
      read (Evtchn.System.chan?_of_chan found')]
    by_cases own : remote = a
    · subst own
      unfold Evtchn.System.stateOf
      rw [view.ports.chan]
    · exact view.invited own
  · exact Op.outcome_query_same (view.findFree_eq here there addressable) fun port _ => rfl

theorem SameView.evtchnSend_outcome (port : Port) :
    (Hypervisor.evtchnSend a port s).1 = (Hypervisor.evtchnSend a port t).1 :=
  Op.outcome_zoom_modify_congr (view.send_outcome here there addressable port)

theorem SameView.evtchnUnmask_outcome (port : Port) :
    (Hypervisor.evtchnUnmask a port s).1 = (Hypervisor.evtchnUnmask a port t).1 :=
  Op.outcome_zoom_modify_congr (view.setMasked_outcome here there addressable port false)

end View

theorem deviceTag_eq_zero {dev : DevId} :
    deviceTag hv a dev = 0 ↔ hv.device.holderOf dev = none := by
  unfold deviceTag
  cases hv.device.holderOf dev with
  | none => simp
  | some holder =>
      dsimp only
      split_ifs <;> simp

/-- The tag names a holder that `a` is or controls. -/
theorem deviceTag_eq_named {dev : DevId} {d : DomId} (own : d = a ∨ hv.holdsControl a d = true) :
    deviceTag hv a dev = 2 + d.toNat ↔ hv.device.holderOf dev = some d := by
  unfold deviceTag
  cases hv.device.holderOf dev with
  | none =>
      simp only [reduceCtorEq, iff_false]
      omega
  | some holder =>
      simp only [Option.some.injEq, Bool.or_eq_true, decide_eq_true_eq]
      by_cases same : holder = d
      · subst same
        simp [own]
      · have other : holder.toNat ≠ d.toNat := fun equal => same (UInt16.toNat_inj.mp equal)
        split_ifs <;> simp only [same, iff_false] <;> omega

section View

variable (view : SameView a s t) (here : Reachable c s) (there : Reachable c t)

include view

theorem SameView.selfOrControls (d : DomId) :
    (a = d || s.holdsControl a d) = (a = d || t.holdsControl a d) := by rw [view.controls]

theorem SameView.holderOf_iff {d : DomId} (own : d = a ∨ s.holdsControl a d = true) (dev : DevId) :
    s.device.holderOf dev = some d ↔ t.device.holderOf dev = some d := by
  have own' : d = a ∨ t.holdsControl a d = true := by rwa [← view.controls]
  rw [← deviceTag_eq_named own, ← deviceTag_eq_named own', view.devices]

theorem SameView.unassigned_iff (dev : DevId) :
    s.device.holderOf dev = none ↔ t.device.holderOf dev = none := by
  rw [← deviceTag_eq_zero (a := a), ← deviceTag_eq_zero (a := a), view.devices]

include here there

omit view in
/-- A device has a slot in both tables or in neither. -/
theorem slot_cases (dev : DevId) :
    (s.device.holders[dev.toNat]? = none ∧ t.device.holders[dev.toNat]? = none) ∨
      (s.device.holders[dev.toNat]? = some (s.device.holderOf dev) ∧
        t.device.holders[dev.toNat]? = some (t.device.holderOf dev)) := by
  have count : s.device.holders.length = t.device.holders.length :=
    (Hypervisor.deviceCount_eq here).trans (Hypervisor.deviceCount_eq there).symm
  unfold Device.System.holderOf
  by_cases inside : dev.toNat < s.device.holders.length
  · rw [List.getElem?_eq_getElem inside, List.getElem?_eq_getElem (count ▸ inside)]
    exact .inr ⟨rfl, rfl⟩
  · exact .inl ⟨List.getElem?_eq_none (Nat.le_of_not_lt inside),
      List.getElem?_eq_none (count ▸ Nat.le_of_not_lt inside)⟩

omit view in
theorem deviceDomains_eq : s.device.numDomains = t.device.numDomains := by
  rw [here.sameUniverse.deviceDomains, there.sameUniverse.deviceDomains]

theorem SameView.assign_outcome {d : DomId} (own : d = a ∨ s.holdsControl a d = true)
    (dev : DevId) : (Device.System.assign dev d s.device).1 =
      (Device.System.assign dev d t.device).1 := by
  refine Op.outcome_ensure (by rw [deviceDomains_eq here there]) fun _ => ?_
  rw [Op.read_bind_apply, Op.read_bind_apply]
  rcases slot_cases here there dev with ⟨missing, missing'⟩ | ⟨found, found'⟩
  · rw [missing, missing']
    rfl
  · have free := view.unassigned_iff dev
    have held := view.holderOf_iff own dev
    rw [found, found']
    match slot : s.device.holderOf dev, slot' : t.device.holderOf dev with
    | none, none => rfl
    | none, some _ => simp [slot, slot'] at free
    | some _, none => simp [slot, slot'] at free
    | some h, some h' =>
        simp only [slot, slot', Option.some.injEq] at held
        dsimp only
        by_cases same : h = d
        · rw [if_pos same, if_pos (held.mp same)]
          rfl
        · rw [if_neg same, if_neg fun same' => same (held.mpr same')]
          rfl

theorem SameView.release_outcome {d : DomId} (own : d = a ∨ s.holdsControl a d = true)
    (dev : DevId) : (Device.System.release dev d s.device).1 =
      (Device.System.release dev d t.device).1 := by
  refine Op.outcome_ensure (by rw [deviceDomains_eq here there]) fun _ => ?_
  rw [Op.read_bind_apply, Op.read_bind_apply]
  rcases slot_cases here there dev with ⟨missing, missing'⟩ | ⟨found, found'⟩
  · rw [missing, missing']
    rfl
  · rw [found, found']
    dsimp only
    refine Op.outcome_ensure ?_ fun _ => rfl
    rw [decide_eq_decide]
    exact view.holderOf_iff own dev

theorem SameView.deviceAssign_outcome (dev : DevId) (recipient : DomId) :
    (Hypervisor.deviceAssign a dev recipient s).1 =
      (Hypervisor.deviceAssign a dev recipient t).1 := by
  refine Op.outcome_ensure (by rw [domainCount_eq here there]) fun _ => ?_
  refine Op.outcome_ensure (view.controls recipient) fun own => ?_
  refine Op.outcome_ensure (by rw [view.lifeOf here there]) fun _ => ?_
  exact Op.outcome_zoom_congr (view.assign_outcome here there (.inr own) dev)

theorem SameView.deviceRelease_outcome (dev : DevId) (holder : DomId) :
    (Hypervisor.deviceRelease a dev holder s).1 =
      (Hypervisor.deviceRelease a dev holder t).1 := by
  refine Op.outcome_ensure (by rw [domainCount_eq here there]) fun _ => ?_
  refine Op.outcome_ensure (view.selfOrControls holder) fun own => ?_
  have own : holder = a ∨ s.holdsControl a holder = true := by
    simpa [eq_comm (a := a)] using own
  exact Op.outcome_zoom_congr (view.release_outcome here there own dev)

omit view in
theorem vcpu_missing (d : DomId) (v : Vcpu) (refusal : SchedError) :
    s.sched.vcpu d v = .error refusal ↔ t.sched.vcpu d v = .error refusal :=
  Sched.System.vcpu_error_congr
    ((Hypervisor.rows_eq here).2.2.trans (Hypervisor.rows_eq there).2.2.symm)
    ((Hypervisor.vcpuCount_eq here d).trans (Hypervisor.vcpuCount_eq there d).symm) refusal

/-- What the state of a vCPU of `a` decides, once the vCPU is found. -/
theorem SameView.vcpu_outcome (v : Vcpu) (test : RunState → Bool) {e : SchedError}
    {f g : VirtualCpu → Unit → Op Sched.System SchedError Unit}
    (next : ∀ x y, (f x () s.sched).1 = (g y () t.sched).1) :
    ((Op.query (·.vcpu a v) >>= fun c => Op.ensure (fun _ => test c.state) e >>= f c) s.sched).1 =
      ((Op.query (·.vcpu a v) >>= fun c => Op.ensure (fun _ => test c.state) e >>= g c)
        t.sched).1 := by
  refine Op.outcome_query (vcpu_missing here there a v) fun x y found found' => ?_
  refine Op.outcome_ensure ?_ fun _ => next x y
  have same := view.states v
  rw [Sched.System.stateOf_of_vcpu found, Sched.System.stateOf_of_vcpu found'] at same
  rw [Option.some.inj same]

theorem SameView.admitVcpu_outcome (v : Vcpu) : (Sched.System.admitVcpu a v s.sched).1 =
    (Sched.System.admitVcpu a v t.sched).1 :=
  view.vcpu_outcome here there v (fun st => st = .offline) fun _ _ => rfl

theorem SameView.preempt_outcome (v : Vcpu) (now : Ticks) :
    (Sched.System.preempt a v now s.sched).1 = (Sched.System.preempt a v now t.sched).1 :=
  view.vcpu_outcome here there v Sched.System.isRunning fun _ _ => rfl

theorem SameView.block_outcome (v : Vcpu) (now : Ticks) :
    (Sched.System.block a v now s.sched).1 = (Sched.System.block a v now t.sched).1 :=
  view.vcpu_outcome here there v (fun st => st ≠ .offline ∧ st ≠ .blocked) fun _ _ => rfl

theorem SameView.wake_outcome (v : Vcpu) :
    (Sched.System.wake a v s.sched).1 = (Sched.System.wake a v t.sched).1 :=
  view.vcpu_outcome here there v (fun st => st = .blocked) fun _ _ => rfl

theorem SameView.offline_outcome (v : Vcpu) (now : Ticks) :
    (Sched.System.offline a v now s.sched).1 = (Sched.System.offline a v now t.sched).1 :=
  view.vcpu_outcome here there v (fun st => st ≠ .offline) fun _ _ => rfl

theorem SameView.hasDeliverableFor (addressable : Hypervisor.Addressable c) (v : Vcpu) :
    s.evtchn.hasDeliverableFor a v = t.evtchn.hasDeliverableFor a v := by
  unfold Evtchn.System.hasDeliverableFor Evtchn.System.ports
  rw [view.ports.count]
  refine congrArg _ (funext fun port => ?_)
  unfold Evtchn.System.deliverable Evtchn.System.notifyTarget
  rw [view.chan_eq here there addressable]

theorem SameView.schedBlock_outcome (addressable : Hypervisor.Addressable c) (v : Vcpu)
    (now : Ticks) :
    (Hypervisor.schedBlock a v now s).1 = (Hypervisor.schedBlock a v now t).1 := by
  unfold Hypervisor.schedBlock
  rw [Op.read_bind_apply, Op.read_bind_apply, view.states,
    view.hasDeliverableFor here there addressable]
  split_ifs
  · rfl
  · exact Op.outcome_zoom_congr (view.block_outcome here there v now)

theorem SameView.domainCreate_outcome (target : DomId) (mayCreate : Bool) :
    (Hypervisor.domainCreate a target mayCreate s).1 =
      (Hypervisor.domainCreate a target mayCreate t).1 := by
  refine Op.outcome_ensure (by rw [domainCount_eq here there]) fun _ => ?_
  refine Op.outcome_ensure view.mayCreate fun _ => ?_
  exact Op.outcome_ensure (by rw [view.lifeOf here there]) fun _ => rfl

theorem SameView.domainDestroy_outcome (target : DomId) (now : Ticks) :
    (Hypervisor.domainDestroy a target now s).1 = (Hypervisor.domainDestroy a target now t).1 := by
  refine Op.outcome_ensure (by rw [domainCount_eq here there]) fun _ => ?_
  refine Op.outcome_ensure (by rw [domainCount_eq here there]) fun _ => ?_
  exact Op.outcome_ensure (view.selfOrControls target) fun _ => rfl

theorem SameView.controlGrant_outcome (target recipient : DomId) :
    (Hypervisor.controlGrant a target recipient s).1 =
      (Hypervisor.controlGrant a target recipient t).1 := by
  refine Op.outcome_ensure (by rw [domainCount_eq here there]) fun _ => ?_
  refine Op.outcome_ensure (by rw [domainCount_eq here there]) fun _ => ?_
  refine Op.outcome_ensure (view.controls target) fun _ => ?_
  refine Op.outcome_ensure rfl fun _ => ?_
  refine Op.outcome_ensure (view.lives recipient) fun _ => ?_
  -- A delegation that exists already and one that is made are both answered alike.
  have done : ∀ hv : Hypervisor, ((Op.read >>= fun hv : Hypervisor =>
      if hv.holdsControl recipient target then (pure .done : Op Hypervisor HvError HvOutcome)
      else Op.modify (·.setControl recipient target (.via a)) >>= fun _ => pure .done) hv).1 =
        .ok .done := by
    intro hv
    rw [Op.read_bind_apply]
    split_ifs <;> rfl
  exact (done s).trans (done t).symm

end View

end Noninterference

end Baleen
