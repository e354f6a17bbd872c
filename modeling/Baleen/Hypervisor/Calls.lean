import Baleen.Hypervisor.Step

/-!
# Every call is a step

Each call of the integrated core, against `Effect` and `Rejected`.  Most calls fail
without a trace; a mapping whose page reference is refused and a page-table entry whose
child is refused undo what they wrote.
-/

namespace Baleen.Hypervisor

open Evtchn (Port Virq EvtchnError)
open Sched (Pcpu SchedError)
open Grant (GrantRef GrantHandle GrantError Unmapped)
open P2m (Mfn PtLevel P2mError FrameInfo)
open Device (DevId)
open Credit (HvCore HError)

variable {hv : Hypervisor} {caller : DomId}

section Components

variable {α : Type} {a : α}

theorem onEvtchn_ok {x : Op Evtchn.System EvtchnError α} {s' : Evtchn.System}
    (ran : x hv.evtchn = (.ok a, s')) : onEvtchn x hv = (.ok a, { hv with evtchn := s' }) :=
  Op.zoom_ok ran

theorem onEvtchn_error {x : Op Evtchn.System EvtchnError α} {s' : Evtchn.System} {e : EvtchnError}
    (ran : x hv.evtchn = (.error e, s')) :
    onEvtchn x hv = (.error (.evtchn e), { hv with evtchn := s' }) :=
  Op.zoom_error ran

theorem onGrant_ok {x : Op Grant.System GrantError α} {s' : Grant.System}
    (ran : x hv.grant = (.ok a, s')) : onGrant x hv = (.ok a, { hv with grant := s' }) :=
  Op.zoom_ok ran

theorem onGrant_error {x : Op Grant.System GrantError α} {s' : Grant.System} {e : GrantError}
    (ran : x hv.grant = (.error e, s')) :
    onGrant x hv = (.error (.grant e), { hv with grant := s' }) :=
  Op.zoom_error ran

theorem onP2m_ok {x : Op P2m.System P2mError α} {s' : P2m.System}
    (ran : x hv.p2m = (.ok a, s')) : onP2m x hv = (.ok a, { hv with p2m := s' }) :=
  Op.zoom_ok ran

theorem onP2m_error {x : Op P2m.System P2mError α} {s' : P2m.System} {e : P2mError}
    (ran : x hv.p2m = (.error e, s')) : onP2m x hv = (.error (.p2m e), { hv with p2m := s' }) :=
  Op.zoom_error ran

end Components

theorem onCredit_spec {x : Op HvCore HError Nat} {k : Nat → HvOutcome}
    (ran : ∀ c, Op.Yields (fun _ c' => c.invariantsHold = true → c'.invariantsHold = true)
      (· = c) (x c)) :
    Op.Yields (fun _ => Effect caller hv) (· = hv)
      ((onCredit caller x >>= fun a => pure (k a)) hv) := by
  refine Op.yields_bind (fun _ => Effect caller hv) ?_ fun _ _ effect => effect
  unfold onCredit
  rw [Op.read_bind_apply]
  cases found : hv.credit[caller.toNat]? with
  | none => exact rfl
  | some c =>
      have conserved := ran c
      show Op.Yields _ _ ((x c).1.mapError HvError.credit,
        { hv with credit := hv.credit.set caller.toNat (x c).2 })
      match x c, conserved with
      | (.ok a, c'), conserved => exact Effect.credit found conserved
      | (.error e, c'), unchanged =>
          have unchanged : c' = c := unchanged
          subst unchanged
          have same : hv.credit.set caller.toNat c' = hv.credit := by
            obtain ⟨inside, value⟩ := List.getElem?_eq_some_iff.mp found
            rw [← value, List.set_getElem_self]
          exact congrArg (fun credit => { hv with credit := credit }) same

theorem evtchnAllocUnbound_spec (remote : DomId) (alive : hv.lifeOf remote ≠ some .dead) :
    Op.Yields (fun _ => Effect caller hv) (· = hv)
      ((onEvtchn (Evtchn.System.allocUnbound caller remote) >>= fun port =>
        pure (.port port) : Op Hypervisor HvError HvOutcome) hv) := by
  refine Op.yields_zoom_return rfl ?_
  rcases Evtchn.System.allocUnbound_cases hv.evtchn caller remote with
    ⟨port, c, known, free, found, ran⟩ | ⟨e, failed⟩
  · rw [ran]
    exact Effect.openPort free found (.unbound known alive)
  · rw [failed]
    rfl

theorem evtchnBindInterdomain_spec (remote : DomId) (remotePort : Port) :
    Op.Yields (fun _ => Effect caller hv) (· = hv)
      ((onEvtchn (Evtchn.System.bindInterdomain caller remote remotePort) >>= fun port =>
        pure (.port port) : Op Hypervisor HvError HvOutcome) hv) := by
  refine Op.yields_zoom_return rfl ?_
  rcases Evtchn.System.bindInterdomain_cases hv.evtchn caller remote remotePort with
    ⟨port, peer, found, awaits, free, ran⟩ | ⟨e, failed⟩
  · rw [ran]
    exact Effect.connect free found awaits
  · rw [failed]
    rfl

theorem bindable_of_check {vcpu : Vcpu}
    (passed : (!(decide (caller.toNat < hv.sched.domainCount) &&
      decide (hv.sched.vcpuCount caller ≤ vcpu.toNat))) = true) : hv.Bindable caller vcpu := by
  intro known
  simpa [known] using passed

theorem evtchnBindVirq_spec (vcpu : Vcpu) (virq : Virq) :
    Op.Yields (fun _ => Effect caller hv) (· = hv)
      ((checkBindVcpu caller vcpu >>= fun _ =>
        onEvtchn (Evtchn.System.bindVirq caller vcpu virq) >>= fun port =>
        pure (.port port) : Op Hypervisor HvError HvOutcome) hv) := by
  refine Op.yields_ensure rfl fun passed => Op.yields_zoom_return rfl ?_
  rcases Evtchn.System.bindVirq_cases hv.evtchn caller vcpu virq with
    ⟨port, c, unbound, free, found, ran⟩ | ⟨e, failed⟩
  · rw [ran]
    exact Effect.openPort free found (.virq (bindable_of_check passed) unbound)
  · rw [failed]
    rfl

theorem evtchnBindIpi_spec (vcpu : Vcpu) :
    Op.Yields (fun _ => Effect caller hv) (· = hv)
      ((checkBindVcpu caller vcpu >>= fun _ =>
        onEvtchn (Evtchn.System.bindIpi caller vcpu) >>= fun port =>
        pure (.port port) : Op Hypervisor HvError HvOutcome) hv) := by
  refine Op.yields_ensure rfl fun passed => Op.yields_zoom_return rfl ?_
  rcases Evtchn.System.bindIpi_cases hv.evtchn caller vcpu with
    ⟨port, c, free, found, ran⟩ | ⟨e, failed⟩
  · rw [ran]
    exact Effect.openPort free found (.ipi (bindable_of_check passed))
  · rw [failed]
    rfl

theorem evtchnClose_spec (port : Port) :
    Op.Yields (fun _ => Effect caller hv) (· = hv)
      ((onEvtchn (Evtchn.System.close caller port) >>= fun _ =>
        pure .done : Op Hypervisor HvError HvOutcome) hv) := by
  refine Op.yields_zoom_return rfl ?_
  rcases Evtchn.System.close_cases hv.evtchn caller port with
    ⟨c, found, busy, ran⟩ | ⟨-, e, failed⟩
  · rw [ran]
    exact Effect.closePort found busy
  · rw [failed]
    rfl

theorem evtchnMask_spec (port : Port) :
    Op.Yields (fun _ => Effect caller hv) (· = hv)
      ((onEvtchn (Evtchn.System.mask caller port) >>= fun _ =>
        pure .done : Op Hypervisor HvError HvOutcome) hv) := by
  refine Op.yields_zoom_return rfl ?_
  unfold Evtchn.System.mask
  rcases Evtchn.System.setMasked_cases hv.evtchn caller port true with
    ⟨c, found, busy, ran⟩ | ⟨e, failed⟩
  · rw [ran]
    exact Effect.mark found busy rfl (by simp)
  · rw [failed]
    rfl

theorem evtchnConsume_spec (port : Port) :
    Op.Yields (fun _ => Effect caller hv) (· = hv)
      ((onEvtchn (Evtchn.System.consume caller port) >>= fun was =>
        pure (.pending was) : Op Hypervisor HvError HvOutcome) hv) := by
  refine Op.yields_zoom_return rfl ?_
  rcases Evtchn.System.consume_cases hv.evtchn caller port with
    ⟨c, found, busy, ran⟩ | ⟨e, failed⟩
  · rw [ran]
    exact Effect.mark found busy rfl (by simp)
  · rw [failed]
    rfl

theorem marked_raise (s : Evtchn.System) (target : DomId × Port) :
    Marked target s (s.raise target.1 target.2) := by
  rcases Evtchn.System.chan_cases s target.1 target.2 with ⟨c, found, -⟩ | ⟨-, e, failed⟩
  · exact .inr ⟨c, { c with pending := true }, found, rfl, Evtchn.System.raise_eq found⟩
  · exact .inl (by rw [Evtchn.System.raise, failed])

theorem signals_of_sendTarget {s : Evtchn.System} {port : Port} {target : DomId × Port}
    (sent : s.sendTarget caller port = some target) : Signals s caller target := by
  rcases Evtchn.System.chan_cases s caller port with ⟨c, found, -⟩ | ⟨-, e, failed⟩
  · rw [Evtchn.System.sendTarget_eq found] at sent
    cases state : c.state with
    | interdomain remote remotePort =>
        simp only [state, Option.some.injEq] at sent
        exact sent ▸ .peer found state
    | ipi vcpu =>
        simp only [state, Option.some.injEq] at sent
        exact sent ▸ .own found (by simp [state])
    | _ => simp [state] at sent
  · simp [Evtchn.System.sendTarget, failed] at sent

/-- Raising a port changes no port's state, so no port's target. -/
theorem sendTarget_raise (s : Evtchn.System) (target : DomId × Port) (dom : DomId) (port : Port) :
    (s.raise target.1 target.2).sendTarget dom port = s.sendTarget dom port := by
  rcases marked_raise s target with same | ⟨c, c', found, state, written⟩
  · rw [same]
  rw [written]
  rcases Evtchn.System.chan_cases s dom port with ⟨x, present, -⟩ | ⟨missing, e, failed⟩
  · by_cases here : target.1 = dom ∧ target.2 = port
    · obtain ⟨rfl, rfl⟩ := here
      rw [found] at present
      cases present
      have after : (s.setChan target.1 target.2 c').chan? target.1 target.2 = some c' := by
        rw [Evtchn.System.chan?_setChan found, if_pos ⟨rfl, rfl⟩]
      rw [Evtchn.System.sendTarget_eq after, Evtchn.System.sendTarget_eq found, state]
    · have after : (s.setChan target.1 target.2 c').chan? dom port = some x := by
        rw [Evtchn.System.chan?_setChan found, if_neg here, present]
      rw [Evtchn.System.sendTarget_eq after, Evtchn.System.sendTarget_eq present]
  · have after : (s.setChan target.1 target.2 c').chan? dom port = none := by
      rw [Evtchn.System.chan?_setChan found, if_neg, missing]
      rintro ⟨rfl, rfl⟩
      rw [found] at missing
      cases missing
    rcases Evtchn.System.chan_cases (s.setChan target.1 target.2 c') dom port with
      ⟨x, present, -⟩ | ⟨-, e', failed'⟩
    · rw [after] at present
      cases present
    · simp [Evtchn.System.sendTarget, failed, failed']

theorem evtchnSend_spec (port : Port) :
    Op.Yields (fun _ => Effect caller hv) (· = hv) (evtchnSend caller port hv) := by
  unfold evtchnSend
  rcases Evtchn.System.send_cases hv.evtchn caller port with ⟨target, sent, ran⟩ | ⟨e, failed⟩
  · rw [Op.bind_of_ok (onEvtchn_ok ran), Op.modify_bind_apply]
    have wakes := sendTarget_raise hv.evtchn target caller port
    rw [sent] at wakes
    simp only [wakes]
    exact Effect.signal (.mk (signals_of_sendTarget sent) (marked_raise _ _))
  · rw [Op.bind_of_error (onEvtchn_error failed)]
    rfl

theorem evtchnUnmask_spec (port : Port) :
    Op.Yields (fun _ => Effect caller hv) (· = hv) (evtchnUnmask caller port hv) := by
  unfold evtchnUnmask Evtchn.System.unmask
  rcases Evtchn.System.setMasked_cases hv.evtchn caller port false with
    ⟨c, found, busy, ran⟩ | ⟨e, failed⟩
  · rw [Op.bind_of_ok (onEvtchn_ok ran)]
    exact Effect.signal (.mk (.own found busy)
      (.inr ⟨c, { c with masked := false }, found, rfl, rfl⟩))
  · rw [Op.bind_of_error (onEvtchn_error failed)]
    rfl

theorem raiseVcpuVirq_spec (dom : DomId) (vcpu : Vcpu) (virq : Virq) :
    Op.Yields (fun _ => Signalled dom hv) (· = hv) (raiseVcpuVirq dom vcpu virq hv) := by
  unfold raiseVcpuVirq
  rcases Evtchn.System.raiseVirq_cases hv.evtchn dom vcpu virq with ⟨port, found, ran⟩ | ⟨e, failed⟩
  · rw [Op.bind_of_ok (onEvtchn_ok ran)]
    exact Signalled.mk (.virq found) (marked_raise _ (dom, port))
  · rw [Op.bind_of_error (onEvtchn_error failed)]
    rfl

theorem onSched_spec {x : Op Sched.System SchedError Unit} (who : DomId) (vcpu : Vcpu)
    (ran : (∃ c c' s', x hv.sched = (.ok (), s') ∧ Sched.System.Moved who vcpu c c' hv.sched s' ∧
        (who = caller ∨ hv.holdsControl caller who = true ∧ c'.state = c.state) ∧
        (c'.state = .blocked →
          c.state = .blocked ∨ hv.evtchn.hasDeliverableFor who vcpu = false)) ∨
      ∃ e, x hv.sched = (.error e, hv.sched)) :
    Op.Yields (fun _ => Effect caller hv) (· = hv)
      ((onSched x >>= fun _ => pure .done : Op Hypervisor HvError HvOutcome) hv) := by
  refine Op.yields_zoom_return rfl ?_
  rcases ran with ⟨c, c', s', ran, moved, permitted, awake⟩ | ⟨e, failed⟩
  · rw [ran]
    exact Effect.sched moved permitted awake
  · rw [failed]
    rfl

theorem schedAdmit_spec (vcpu : Vcpu) :
    Op.Yields (fun _ => Effect caller hv) (· = hv)
      ((onSched (Sched.System.admitVcpu caller vcpu) >>= fun _ =>
        pure .done : Op Hypervisor HvError HvOutcome) hv) := by
  refine onSched_spec caller vcpu ?_
  rcases Sched.System.admitVcpu_cases hv.sched caller vcpu with ⟨c, s', -, ran, moved⟩ | failed
  · exact .inl ⟨c, _, s', ran, moved, .inl rfl, by simp⟩
  · exact .inr failed

theorem schedRun_spec (vcpu : Vcpu) (pcpu : Pcpu) (now : Ticks) :
    Op.Yields (fun _ => Effect caller hv) (· = hv)
      ((onSched (Sched.System.run caller vcpu pcpu now) >>= fun _ =>
        pure .done : Op Hypervisor HvError HvOutcome) hv) := by
  refine onSched_spec caller vcpu ?_
  rcases Sched.System.run_cases hv.sched caller vcpu pcpu now with ⟨c, s', -, ran, moved⟩ | failed
  · exact .inl ⟨c, _, s', ran, moved, .inl rfl, by simp⟩
  · exact .inr failed

theorem schedPreempt_spec (vcpu : Vcpu) (now : Ticks) :
    Op.Yields (fun _ => Effect caller hv) (· = hv)
      ((onSched (Sched.System.preempt caller vcpu now) >>= fun _ =>
        pure .done : Op Hypervisor HvError HvOutcome) hv) := by
  refine onSched_spec caller vcpu ?_
  rcases Sched.System.preempt_cases hv.sched caller vcpu now with
    ⟨c, c', s', -, state, -, ran, moved⟩ | failed
  · exact .inl ⟨c, c', s', ran, moved, .inl rfl, by simp [state]⟩
  · exact .inr failed

theorem schedWake_spec (vcpu : Vcpu) :
    Op.Yields (fun _ => Effect caller hv) (· = hv)
      ((onSched (Sched.System.wake caller vcpu) >>= fun _ =>
        pure .done : Op Hypervisor HvError HvOutcome) hv) := by
  refine onSched_spec caller vcpu ?_
  rcases Sched.System.wake_cases hv.sched caller vcpu with ⟨c, s', -, ran, moved⟩ | ⟨-, failed⟩
  · exact .inl ⟨c, _, s', ran, moved, .inl rfl, by simp⟩
  · exact .inr failed

theorem schedOffline_spec (vcpu : Vcpu) (now : Ticks) :
    Op.Yields (fun _ => Effect caller hv) (· = hv)
      ((onSched (Sched.System.offline caller vcpu now) >>= fun _ =>
        pure .done : Op Hypervisor HvError HvOutcome) hv) := by
  refine onSched_spec caller vcpu ?_
  rcases Sched.System.offline_cases hv.sched caller vcpu now with
    ⟨c, c', s', -, state, -, -, ran, moved⟩ | ⟨-, failed⟩
  · exact .inl ⟨c, c', s', ran, moved, .inl rfl, by simp [state]⟩
  · exact .inr failed

/-- A vCPU blocks only where no event waits for it. -/
theorem wouldBlock_some {r : Sched.RunState} (online : r ≠ .offline) (unblocked : r ≠ .blocked) :
    wouldBlock (some r) = true := by
  cases r with
  | offline => exact absurd rfl online
  | blocked => exact absurd rfl unblocked
  | runnable => rfl
  | running _ => rfl

theorem schedBlock_spec (vcpu : Vcpu) (now : Ticks) :
    Op.Yields (fun _ => Effect caller hv) (· = hv) (schedBlock caller vcpu now hv) := by
  unfold schedBlock
  rw [Op.read_bind_apply]
  by_cases waits : (wouldBlock (hv.sched.stateOf caller vcpu) &&
      hv.evtchn.hasDeliverableFor caller vcpu) = true
  · rw [if_pos waits]
    exact Effect.idle
  · rw [if_neg waits]
    refine onSched_spec caller vcpu ?_
    rcases Sched.System.block_cases hv.sched caller vcpu now with
      ⟨c, c', s', online, unblocked, -, -, ran, moved⟩ | failed
    · refine .inl ⟨c, c', s', ran, moved, .inl rfl, fun _ => .inr ?_⟩
      have accepted : wouldBlock (hv.sched.stateOf caller vcpu) = true := by
        rw [Sched.System.stateOf, moved.found]
        exact wouldBlock_some online unblocked
      simpa [accepted] using waits
    · exact .inr failed

theorem selfOrControls_iff {target : DomId} :
    (decide (caller = target) || hv.holdsControl caller target) = true ↔
      caller = target ∨ hv.holdsControl caller target = true := by
  simp

theorem schedSetAffinity_spec (consistent : hv.sched.Consistent) (target : DomId) (vcpu : Vcpu)
    (affinity : Nat) :
    Op.Yields (fun _ => Effect caller hv) (· = hv)
      (schedSetAffinity caller target vcpu affinity hv) := by
  refine Op.yields_ensure rfl fun _ => Op.yields_ensure rfl fun permitted => ?_
  refine onSched_spec target vcpu ?_
  rcases Sched.System.setAffinity_cases consistent target vcpu affinity with
    ⟨c, s', ran, moved⟩ | failed
  · refine .inl ⟨c, _, s', ran, moved, ?_, fun blocked => .inl blocked⟩
    rcases selfOrControls_iff.mp permitted with rfl | held
    · exact .inl rfl
    · exact .inr ⟨held, rfl⟩
  · exact .inr failed

theorem controlGrant_spec (target recipient : DomId) :
    Op.Yields (fun _ => Effect caller hv) (· = hv) (controlGrant caller target recipient hv) := by
  refine Op.yields_ensure rfl fun inside => Op.yields_ensure rfl fun inside' =>
    Op.yields_ensure rfl fun held => Op.yields_ensure rfl fun apart =>
    Op.yields_ensure rfl fun alive => ?_
  rw [Op.read_bind_apply]
  cases fresh : hv.holdsControl recipient target with
  | true =>
      rw [if_pos rfl]
      exact Effect.idle
  | false =>
      rw [if_neg (by simp)]
      exact Effect.delegate (of_decide_eq_true inside) (of_decide_eq_true inside') held
        (of_decide_eq_true apart) alive fresh

theorem controlRevoke_spec (target holder : DomId) :
    Op.Yields (fun _ => Effect caller hv) (· = hv) (controlRevoke caller target holder hv) := by
  refine Op.yields_ensure rfl fun inside => Op.yields_ensure rfl fun inside' =>
    Op.yields_ensure rfl fun held => Op.yields_ensure rfl fun below => ?_
  exact Effect.revoke (of_decide_eq_true inside) (of_decide_eq_true inside') held below

theorem deviceAssign_spec (dev : DevId) (recipient : DomId) :
    Op.Yields (fun _ => Effect caller hv) (· = hv) (deviceAssign caller dev recipient hv) := by
  refine Op.yields_ensure rfl fun inside => Op.yields_ensure rfl fun held =>
    Op.yields_ensure rfl fun alive => Op.yields_zoom_return rfl ?_
  refine (Device.System.assign_spec dev recipient hv.device).mono ?_ fun _ unchanged => unchanged
  rintro - s' (rfl | ⟨free, rfl⟩)
  · exact Effect.idle
  · exact Effect.assign (of_decide_eq_true inside) held (of_decide_eq_true alive) free

theorem deviceRelease_spec (dev : DevId) (holder : DomId) :
    Op.Yields (fun _ => Effect caller hv) (· = hv) (deviceRelease caller dev holder hv) := by
  refine Op.yields_ensure rfl fun inside => Op.yields_ensure rfl fun permitted =>
    Op.yields_zoom_return rfl ?_
  refine (Device.System.release_spec dev holder hv.device).mono ?_ fun _ unchanged => unchanged
  rintro - s' ⟨assigned, rfl⟩
  exact Effect.release (of_decide_eq_true inside) (selfOrControls_iff.mp permitted) assigned

theorem domainCreate_spec (target : DomId) (mayCreate : Bool) :
    Op.Yields (fun _ => Effect caller hv) (· = hv) (domainCreate caller target mayCreate hv) := by
  refine Op.yields_ensure rfl fun inside => Op.yields_ensure rfl fun creator =>
    Op.yields_ensure rfl fun dead => ?_
  exact Effect.create (of_decide_eq_true inside) creator (of_decide_eq_true dead)

theorem domainDestroy_spec (target : DomId) (now : Ticks) :
    Op.Yields (fun _ => Effect caller hv) (· = hv) (domainDestroy caller target now hv) := by
  refine Op.yields_ensure rfl fun _ => Op.yields_ensure rfl fun inside =>
    Op.yields_ensure rfl fun permitted => ?_
  exact Effect.destroy (of_decide_eq_true inside) (selfOrControls_iff.mp permitted)

theorem grantAccess_spec (gref : GrantRef) (grantee : DomId) (frame : Mfn) (readonly : Bool) :
    Op.Yields (fun _ => Effect caller hv) (· = hv)
      ((rejectDeadTarget grantee >>= fun _ =>
        onGrant (Grant.System.grantAccess caller gref grantee frame readonly) >>= fun _ =>
        pure .done : Op Hypervisor HvError HvOutcome) hv) := by
  refine Op.yields_ensure rfl fun alive => Op.yields_zoom_return rfl ?_
  rcases Grant.System.grantAccess_cases hv.grant caller gref grantee frame readonly with
    ⟨known, free, ran⟩ | ⟨e, failed⟩
  · rw [ran]
    exact Effect.grantAccess known (of_decide_eq_true alive) free
  · rw [failed]
    rfl

theorem grantEndAccess_spec (gref : GrantRef) :
    Op.Yields (fun _ => Effect caller hv) (· = hv) (grantEndAccess caller gref hv) := by
  refine Op.yields_ensure rfl fun unused => Op.yields_zoom_return rfl ?_
  rcases Grant.System.endAccess_cases hv.grant caller gref with
    ⟨a, active, unmapped, ran⟩ | ⟨-, e, failed⟩
  · rw [ran]
    rw [active] at unused
    exact Effect.endAccess active unmapped (by simpa using unused)
  · rw [failed]
    rfl

theorem grantCopy_spec (grantor : DomId) (gref : GrantRef) (write : Bool) :
    Op.Yields (fun _ => Effect caller hv) (· = hv) (grantCopy caller grantor gref write hv) := by
  refine Op.yields_ensure rfl fun _ => ?_
  rw [Op.query_bind_apply]
  cases (hv.grant.copy caller grantor gref write).mapError HvError.grant with
  | error e => exact rfl
  | ok _ => exact Effect.idle

theorem grantMap_spec (regular : Regular hv) (grantor : DomId) (gref : GrantRef)
    (writable : Bool) :
    Op.Yields (fun _ => Effect caller hv) (Rejected hv)
      (grantMap caller grantor gref writable hv) := by
  have refused := Rejected.refl regular
  unfold grantMap
  rw [Op.query_bind_apply]
  cases granted : hv.grant.grantedFrame grantor gref with
  | none => exact refused
  | some frame =>
      refine Op.yields_ensure refused fun owned => ?_
      rcases Grant.System.map_cases hv.grant caller grantor gref writable with
        ⟨a, g', active, addressed, permitted, ran, mapped⟩ | ⟨e, failed⟩
      case inr =>
        rw [Op.bind_of_error (onGrant_error failed)]
        exact refused
      obtain rfl : a.frame = frame := by
        simpa [Grant.System.grantedFrame, active] using granted
      have grants := regular.memory.grants.map addressed permitted mapped
      rw [Op.bind_of_ok (onGrant_ok ran), Op.attempt_bind_apply, acquirePage_eq]
      rcases P2m.System.getChild_cases hv.p2m a.frame (Unmapped.ref ⟨a.frame, writable⟩) with
        ⟨i, known, accepted, took⟩ | ⟨e, failed⟩
      · have took : onP2m (P2m.System.getChild a.frame (Unmapped.ref ⟨a.frame, writable⟩))
            { hv with grant := g' } = _ := onP2m_ok took
        rw [took]
        have owner : some i.owner = some grantor := by
          rw [← P2m.System.ownerOf_of_info known]
          exact of_decide_eq_true owned
        exact Effect.map mapped grants rfl addressed known (Option.some.inj owner) accepted
      · have failed : onP2m (P2m.System.getChild a.frame (Unmapped.ref ⟨a.frame, writable⟩))
            { hv with grant := g' } = _ := onP2m_error failed
        rw [failed]
        obtain ⟨u, g'', undone, entries, mappings⟩ := mapped.undo grants
        have undone : onGrant (Grant.System.unmap caller (hv.grant.freeHandle caller))
            { hv with grant := g' } = _ := onGrant_ok undone
        show Rejected hv (onGrant (Grant.System.unmap caller _) { hv with grant := g' }).2
        rw [undone]
        exact ⟨rfl, entries, mappings, .refl _, regular.memory.sameGrants entries mappings⟩

theorem grantUnmap_spec (regular : Regular hv) (handle : GrantHandle) :
    Op.Yields (fun _ => Effect caller hv) (· = hv) (grantUnmap caller handle hv) := by
  unfold grantUnmap
  rcases Grant.System.unmap_cases regular.memory.grants caller handle with
    ⟨m, a, g', isLive, named, ran, released⟩ | ⟨-, e, failed⟩
  · obtain ⟨p', returned, sound, kept, links⟩ := (regular.memory.unmap released).release
    have holder : m.grantee = caller := congrArg Prod.fst named
    have returned : onP2m (releasePage ⟨a.frame, m.writable⟩) { hv with grant := g' } = _ :=
      onP2m_ok returned
    rw [Op.bind_of_ok (onGrant_ok ran), Op.ignore_bind_apply, returned]
    exact Effect.unmap released holder kept links sound
  · rw [Op.bind_of_error (onGrant_error failed)]
    rfl

/-- A frame written outside every live reference. -/
theorem Sound.setFrame {g : Grant.System} {p : P2m.System} {m : Mfn} {f : P2m.Frame}
    (sound : Sound [] g p) (pages : (p.setFrame m f).Pages ((g.backing ++ []).map Unmapped.claim))
    (owners : ∀ c ∈ p.claims ((g.backing ++ []).map Unmapped.claim),
      (p.setFrame m f).ownerOf c.1 = p.ownerOf c.1) : Sound [] g (p.setFrame m f) :=
  sound.repage pages owners fun _ isLive => .inl isLive

theorem onP2m_frame_spec {x : Op P2m.System P2mError Unit} {m : Mfn}
    (ran : (∃ f, x hv.p2m = (.ok (), hv.p2m.setFrame m f) ∧
        (hv.p2m.ownerOf m = some caller ∨ hv.p2m.ownerOf m = none) ∧
        (∀ {i}, P2m.System.infoOf f = some i → i.owner = caller) ∧
        Sound [] hv.grant (hv.p2m.setFrame m f)) ∨
      ∃ e, x hv.p2m = (.error e, hv.p2m)) :
    Op.Yields (fun _ => Effect caller hv) (· = hv)
      ((onP2m x >>= fun _ => pure .done : Op Hypervisor HvError HvOutcome) hv) := by
  refine Op.yields_zoom_return rfl ?_
  rcases ran with ⟨f, ran, before, after, sound⟩ | ⟨e, failed⟩
  · rw [ran]
    exact Effect.frame before after sound
  · rw [failed]
    rfl

theorem ownerOf_setFrame_other {p : P2m.System} {m m' : Mfn} {f : P2m.Frame} (other : m ≠ m') :
    (p.setFrame m f).ownerOf m' = p.ownerOf m' := by
  unfold P2m.System.ownerOf
  rw [P2m.System.info_setFrame_other other]

theorem p2mAllocate_spec (regular : Regular hv) (m : Mfn) :
    Op.Yields (fun _ => Effect caller hv) (· = hv)
      ((onP2m (P2m.System.allocate caller m) >>= fun _ =>
        pure .done : Op Hypervisor HvError HvOutcome) hv) := by
  refine onP2m_frame_spec (m := m) ?_
  rcases P2m.System.allocate_cases hv.p2m caller m with ⟨known, free, ran⟩ | failed
  · have missing : hv.p2m.info m = none := by simp [P2m.System.info_eq, free, P2m.System.infoOf]
    refine .inl ⟨_, ran, .inr (by simp [P2m.System.ownerOf, missing]), by rintro i ⟨⟩; rfl, ?_⟩
    refine regular.memory.setFrame (regular.memory.pages.allocate known free) ?_
    intro c held
    exact ownerOf_setFrame_other (regular.memory.pages.unclaimed missing held).symm
  · exact .inr failed

theorem p2mFree_spec (regular : Regular hv) (m : Mfn) :
    Op.Yields (fun _ => Effect caller hv) (· = hv)
      ((onP2m (P2m.System.free caller m) >>= fun _ =>
        pure .done : Op Hypervisor HvError HvOutcome) hv) := by
  refine onP2m_frame_spec (m := m) ?_
  rcases P2m.System.free_cases hv.p2m caller m with ⟨i, known, mine, idle, ran⟩ | failed
  · have owner := P2m.System.ownerOf_of_info known
    refine .inl ⟨_, ran, .inl (by rw [owner, mine]), by rintro i ⟨⟩, ?_⟩
    refine regular.memory.setFrame (regular.memory.pages.free known idle) ?_
    intro c held
    exact ownerOf_setFrame_other (regular.memory.pages.unclaimed_of_refs known idle held).symm
  · exact .inr failed

theorem p2mPin_spec (regular : Regular hv) (m : Mfn) (level : PtLevel) :
    Op.Yields (fun _ => Effect caller hv) (· = hv)
      ((onP2m (P2m.System.pin caller m level) >>= fun _ =>
        pure .done : Op Hypervisor HvError HvOutcome) hv) := by
  refine onP2m_frame_spec (m := m) ?_
  rcases P2m.System.pin_cases regular.memory.pages caller m level with
    ⟨i, known, mine, -, -, ran, pages⟩ | failed
  · have owner := P2m.System.ownerOf_of_info known
    have same := FrameInfo.bump_owner i (.typed (.pageTable level))
    refine .inl ⟨_, ran, .inl (by rw [owner, mine]), by rintro _ ⟨⟩; exact same.trans mine, ?_⟩
    exact regular.memory.setFrame pages fun c _ => P2m.System.ownerOf_setFrame known same
  · exact .inr failed

theorem p2mUnpin_spec (regular : Regular hv) (m : Mfn) :
    Op.Yields (fun _ => Effect caller hv) (· = hv)
      ((onP2m (P2m.System.unpin caller m) >>= fun _ =>
        pure .done : Op Hypervisor HvError HvOutcome) hv) := by
  refine onP2m_frame_spec (m := m) ?_
  rcases P2m.System.unpin_cases regular.memory.pages caller m with
    ⟨i, known, mine, -, ran, pages⟩ | ⟨-, failed⟩
  · have owner := P2m.System.ownerOf_of_info known
    have same := FrameInfo.drop_owner { i with pinned := false } (.typed (.pageTable i.ptLevel))
    refine .inl ⟨_, ran, .inl (by rw [owner, mine]), by rintro _ ⟨⟩; exact same.trans mine, ?_⟩
    exact regular.memory.setFrame pages fun c _ => P2m.System.ownerOf_setFrame known same
  · exact .inr failed

theorem p2mLink_spec (regular : Regular hv) (parent : Mfn) (slot : UInt32) (child : Mfn)
    (writable leaf execute : Bool) :
    Op.Yields (fun _ => Effect caller hv) (Rejected hv)
      (p2mLink caller parent slot child writable leaf execute hv) := by
  refine Op.yields_ensure (Rejected.refl regular) fun consented => ?_
  have consent : ∀ {co}, hv.p2m.ownerOf child = some co →
      co = caller ∨ hv.grant.authorizes co caller child writable = true := by
    intro co owner
    rw [owner] at consented
    simpa using consented
  rcases P2m.System.link_cases regular.memory.pages caller parent slot child writable leaf execute
    with ⟨p', ran, mine, -, -, pages, linked⟩ | ⟨e, p', failed, pages, same⟩
  · rw [Op.bind_of_ok (onP2m_ok ran)]
    refine Effect.link linked mine consent (regular.memory.repage pages ?_ ?_)
    · exact fun c _ => linked.kept.owner c.1
    · intro l isLive
      rcases linked.mem_iff.mp isLive with rfl | old
      · refine .inr fun co po childOwner parentOwner foreign => ?_
        rw [linked.kept.owner] at childOwner parentOwner
        obtain rfl : caller = po := Option.some.inj (mine.symm.trans parentOwner)
        exact (consent childOwner).resolve_left foreign
      · exact .inl old
  · rw [Op.bind_of_error (onP2m_error failed)]
    refine ⟨rfl, rfl, rfl, same, regular.memory.repage pages (fun c _ => same.owner c.1) ?_⟩
    intro l isLive
    exact .inl (same.live ▸ isLive)

theorem p2mUnlink_spec (regular : Regular hv) (parent : Mfn) (slot : UInt32) :
    Op.Yields (fun _ => Effect caller hv) (· = hv)
      ((onP2m (P2m.System.unlink caller parent slot) >>= fun _ =>
        pure .done : Op Hypervisor HvError HvOutcome) hv) := by
  refine Op.yields_zoom_return rfl ?_
  rcases P2m.System.unlink_cases regular.memory.pages caller parent slot with
    ⟨l, p', isLive, place, mine, ran, pages, unlinked⟩ | ⟨-, e, failed⟩
  · rw [ran]
    have mine : hv.p2m.ownerOf l.parent = some caller := by
      rw [← mine]
      exact congrArg (fun q => hv.p2m.ownerOf q.1) place
    refine Effect.unlink isLive unlinked mine (regular.memory.repage pages ?_ ?_)
    · exact fun c _ => unlinked.kept.owner c.1
    · exact fun l' isLive' => .inl (unlinked.mem_iff.mpr (.inr isLive'))
  · rw [failed]
    rfl

theorem route_spec (regular : Regular hv) (caller : DomId) (call : HvCall) :
    Op.Yields (fun _ => Step hv (.guest caller call)) (Rejected hv) (route caller call hv) := by
  have refused := Rejected.refl regular
  refine Op.yields_ensure refused fun inside => Op.yields_ensure refused fun alive => ?_
  -- A call that fails without a trace is rejected.
  have clean : ∀ {r : Except HvError HvOutcome × Hypervisor},
      Op.Yields (fun _ => Effect caller hv) (· = hv) r →
      Op.Yields (fun _ => Step hv (.guest caller call)) (Rejected hv) r :=
    fun yields => yields.mono (fun _ _ => .call (of_decide_eq_true inside) alive)
      fun _ same => same ▸ refused
  have undone : ∀ {r : Except HvError HvOutcome × Hypervisor},
      Op.Yields (fun _ => Effect caller hv) (Rejected hv) r →
      Op.Yields (fun _ => Step hv (.guest caller call)) (Rejected hv) r :=
    fun yields => yields.mono (fun _ _ => .call (of_decide_eq_true inside) alive)
      fun _ rejected => rejected
  cases call with
  | creditGrant amount => exact clean (onCredit_spec (HvCore.grantCredit_spec amount))
  | creditSpend amount => exact clean (onCredit_spec (HvCore.spendCredit_spec amount))
  | evtchnAllocUnbound remote =>
      exact clean (Op.yields_ensure rfl fun present =>
        evtchnAllocUnbound_spec remote (of_decide_eq_true present))
  | evtchnBindInterdomain remote remotePort =>
      exact clean (evtchnBindInterdomain_spec remote remotePort)
  | evtchnBindVirq vcpu virq => exact clean (evtchnBindVirq_spec vcpu virq)
  | evtchnBindIpi vcpu => exact clean (evtchnBindIpi_spec vcpu)
  | evtchnClose port => exact clean (evtchnClose_spec port)
  | evtchnSend port => exact clean (evtchnSend_spec port)
  | evtchnMask port => exact clean (evtchnMask_spec port)
  | evtchnUnmask port => exact clean (evtchnUnmask_spec port)
  | evtchnConsume port => exact clean (evtchnConsume_spec port)
  | grantAccess gref grantee frame readonly =>
      exact clean (grantAccess_spec gref grantee frame readonly)
  | grantEndAccess gref => exact clean (grantEndAccess_spec gref)
  | grantMap grantor gref writable => exact undone (grantMap_spec regular grantor gref writable)
  | grantUnmap handle => exact clean (grantUnmap_spec regular handle)
  | grantCopy grantor gref write => exact clean (grantCopy_spec grantor gref write)
  | schedAdmit vcpu => exact clean (schedAdmit_spec vcpu)
  | schedRun vcpu pcpu now => exact clean (schedRun_spec vcpu pcpu now)
  | schedPreempt vcpu now => exact clean (schedPreempt_spec vcpu now)
  | schedBlock vcpu now => exact clean (schedBlock_spec vcpu now)
  | schedWake vcpu => exact clean (schedWake_spec vcpu)
  | schedOffline vcpu now => exact clean (schedOffline_spec vcpu now)
  | schedSetAffinity target vcpu affinity =>
      exact clean (schedSetAffinity_spec regular.sched target vcpu affinity)
  | p2mAllocate mfn => exact clean (p2mAllocate_spec regular mfn)
  | p2mFree mfn => exact clean (p2mFree_spec regular mfn)
  | p2mPin mfn level => exact clean (p2mPin_spec regular mfn level)
  | p2mUnpin mfn => exact clean (p2mUnpin_spec regular mfn)
  | p2mLink parent slot child writable leaf execute =>
      exact undone (p2mLink_spec regular parent slot child writable leaf execute)
  | p2mUnlink parent slot => exact clean (p2mUnlink_spec regular parent slot)
  | domainCreate target mayCreate => exact clean (domainCreate_spec target mayCreate)
  | domainDestroy target now => exact clean (domainDestroy_spec target now)
  | controlGrant target recipient => exact clean (controlGrant_spec target recipient)
  | controlRevoke target holder => exact clean (controlRevoke_spec target holder)
  | deviceAssign dev recipient => exact clean (deviceAssign_spec dev recipient)
  | deviceRelease dev holder => exact clean (deviceRelease_spec dev holder)

/-- Every transition is a step or a rejection. -/
theorem apply_spec (regular : Regular hv) (t : Transition) :
    Op.Yields (fun _ => Step hv t) (Rejected hv) (apply t hv) := by
  have refused := Rejected.refl regular
  cases t with
  | guest caller call =>
      exact Op.yields_bind _ (route_spec regular caller call) fun _ _ step => step
  | raiseVcpuVirq dom vcpu virq =>
      refine Op.yields_bind (fun _ => Signalled dom hv) ?_ fun _ _ signalled => .virq signalled
      exact (raiseVcpuVirq_spec dom vcpu virq).mono (fun _ _ signalled => signalled)
        fun _ same => same ▸ refused

end Baleen.Hypervisor
