import Baleen.Metal.Steps

/-!
# What a switch does

The outgoing vCPU leaves everything it had behind, with no physical interrupt in it, and the
incoming one finds everything it left, with its list registers refilled.  No other vCPU is touched.
-/

namespace Baleen.Metal.Machine

open Gic

variable {G V lrs aps : Nat} {m m' : Machine G V lrs aps} {r next : Role G V} {wants : Bool}

/-- What a vCPU has once it does not run: nothing that stands for a physical interrupt. -/
def kept (m : Machine G V lrs aps) (r : Role G V) : VcpuCtx lrs aps :=
  if r = m.current then m.live.withBank (m.live.bank.map demote) (List.length_map demote)
  else m.ctx r

/-- Two contexts differ in their list registers at most. -/
structure SameContext (c c' : VcpuCtx lrs aps) : Prop where
  x : c'.x = c.x
  regs : c'.regs = c.regs
  fp : c'.fp = c.fp
  vmcr : c'.vgic.vmcr = c.vgic.vmcr
  apr : c'.vgic.apr = c.vgic.apr

theorem SameContext.refl (c : VcpuCtx lrs aps) : SameContext c c := ⟨rfl, rfl, rfl, rfl, rfl⟩

theorem SameContext.trans {c₁ c₂ c₃ : VcpuCtx lrs aps} (first : SameContext c₁ c₂)
    (second : SameContext c₂ c₃) : SameContext c₁ c₃ where
  x := second.x.trans first.x
  regs := second.regs.trans first.regs
  fp := second.fp.trans first.fp
  vmcr := second.vmcr.trans first.vmcr
  apr := second.apr.trans first.apr

theorem sameContext_kept (m : Machine G V lrs aps) (r : Role G V) :
    SameContext (m.home r) (m.kept r) := by
  rw [home, kept]
  split_ifs
  · exact ⟨rfl, rfl, rfl, rfl, rfl⟩
  · exact .refl _

/-- What the guest of the outgoing vCPU is charged with. -/
def left (m : Machine G V lrs aps) (t : Tally) : Tally :=
  { t with
    handovers := t.handovers + 1
    hwReleased := t.hwReleased + (releaseHardwareMappings m.live.bank).1.toNat
    timerDeactivated := t.timerDeactivated + if m.timer.active then 1 else 0 }

/-- What the guest of the incoming vCPU is charged with. -/
def entered (m : Machine G V lrs aps) (next : Role G V) (t : Tally) : Tally :=
  { t with
    fpForeign := t.fpForeign + if m.live.fp ≠ (m.kept next).fp then 1 else 0
    apForeign := t.apForeign + if m.live.vgic.apr ≠ (m.kept next).vgic.apr then 1 else 0
    fpRestoreVerified := t.fpRestoreVerified + 1
    apRestoreVerified := t.apRestoreVerified + 1
    drained := t.drained + (flushPendingToLrs (m.kept next).bank (m.pending next)).2.2
    switches := t.switches + 1 }

structure Switched (next : Role G V) (wants : Bool) (m m' : Machine G V lrs aps) : Prop where
  current : m'.current = next
  same : SameContext (m.kept next) m'.live
  bank : m'.live.bank = (refill ((m.kept next).bank, m.pending next)).1
  ctx : m'.ctx = m.kept
  pending : ∀ r, m'.pending r =
    if r = next then (refill ((m.kept next).bank, m.pending next)).2 else m.pending r
  underflow : m'.underflow = !(m'.pending next).isEmpty
  timer : m'.timer = ⟨wants, false⟩
  vttbrEl2 : m'.vttbrEl2 = m.vttbr next.guest
  vmpidrEl2 : m'.vmpidrEl2 = guestMpidr next.vcpu
  vttbr : m'.vttbr = m.vttbr
  seeded : m'.seeded = m.seeded
  tally : ∀ g, m'.tally g =
    let t := if g = m.current.guest then m.left (m.tally g) else m.tally g
    if g = next.guest then m.entered next t else t
  dispatchedNonboot : m'.dispatchedNonboot = m.dispatchedNonboot + if next.isBoot then 0 else 1

theorem ctx_leave : m.leave.ctx = m.kept := by
  have released : ∀ c : VcpuCtx lrs aps, (releaseHardwareMappings c.bank).2 = c.bank.map demote :=
    fun c => by rw [releaseHardwareMappings_eq]
  have saved : m.saveOutgoing.ctx m.current = m.live := Function.update_self ..
  have stored : m.leave.ctx = Function.update m.saveOutgoing.ctx m.current
      ((m.saveOutgoing.ctx m.current).withBank _
        (length_release (m.saveOutgoing.ctx m.current))) := by
    unfold leave releaseForwardedTimer
    dsimp only
    split_ifs <;> rfl
  funext r
  rw [stored, kept]
  by_cases here : r = m.current
  · rw [if_pos here, here, Function.update_self]
    simp only [saved, released]
  · rw [if_neg here, Function.update_of_ne here]
    exact Function.update_of_ne here ..

theorem tally_leave (g : Fin G) :
    m.leave.tally g = if g = m.current.guest then m.left (m.tally g) else m.tally g := by
  have saved : m.saveOutgoing.ctx m.current = m.live := Function.update_self ..
  have released : m.saveOutgoing.releaseOutgoing.tally g = if g = m.current.guest then
      { m.tally g with
        handovers := (m.tally g).handovers + 1
        hwReleased := (m.tally g).hwReleased + (releaseHardwareMappings m.live.bank).1.toNat }
      else m.tally g := by
    rw [← saved]
    exact tally_of_update (m := m) (f := fun t => { t with
      handovers := t.handovers + 1
      hwReleased := t.hwReleased +
        (releaseHardwareMappings (m.saveOutgoing.ctx m.current).bank).1.toNat }) rfl g
  unfold leave releaseForwardedTimer
  dsimp only
  cases active : m.timer.active with
  | true =>
      have still : m.saveOutgoing.releaseOutgoing.timer.active = true := active
      rw [if_pos still]
      rw [left, active]
      refine (tally_of_update (m := m.saveOutgoing.releaseOutgoing)
        (f := fun t => { t with timerDeactivated := t.timerDeactivated + 1 }) rfl g).trans ?_
      change (if g = m.current.guest then _ else _) = _
      by_cases here : g = m.current.guest
      · rw [if_pos here, if_pos here, released, if_pos here]
        rfl
      · rw [if_neg here, if_neg here, released, if_neg here]
  | false =>
      have still : m.saveOutgoing.releaseOutgoing.timer.active = false := active
      rw [still, if_neg Bool.false_ne_true, left, active]
      exact released

/-- What leaving does not touch. -/
structure Left (m m' : Machine G V lrs aps) : Prop where
  current : m'.current = m.current
  live : m'.live = m.live
  pending : m'.pending = m.pending
  timer : m'.timer = ⟨false, false⟩
  vttbr : m'.vttbr = m.vttbr
  seeded : m'.seeded = m.seeded
  dispatchedNonboot : m'.dispatchedNonboot = m.dispatchedNonboot

theorem left_leave : Left m m.leave := by
  unfold leave releaseForwardedTimer
  dsimp only
  split_ifs <;> exact ⟨rfl, rfl, rfl, rfl, rfl, rfl, rfl⟩

theorem switchContext_eq : m.switchContext next wants = if m.seeded next then
    some ((m.leave.noteForeign next).poisonLive.enter next wants) else none := by
  have same : (m.leave.noteForeign next).poisonLive.seeded = m.seeded := left_leave.seeded
  rw [switchContext, same]

section Phases

variable (next : Role G V) (wants : Bool) (m : Machine G V lrs aps) (g : Fin G)

theorem tally_noteForeign : (m.noteForeign next).tally g = if g = next.guest then
    { m.tally g with
      fpForeign := (m.tally g).fpForeign + if (m.ctx m.current).fp ≠ (m.ctx next).fp then 1 else 0
      apForeign := (m.tally g).apForeign +
        if m.live.vgic.apr ≠ (m.ctx next).vgic.apr then 1 else 0 }
    else m.tally g := tally_count ..

theorem tally_verifyRestored (restored : m.live = m.ctx next) :
    (m.verifyRestored next).tally g = if g = next.guest then
      { m.tally g with
        fpRestoreVerified := (m.tally g).fpRestoreVerified + 1
        apRestoreVerified := (m.tally g).apRestoreVerified + 1 }
      else m.tally g := by
  refine (tally_count ..).trans ?_
  rw [restored, if_pos rfl, if_pos rfl]

theorem tally_flushPending : (m.flushPending next).tally g = if g = next.guest then
    { m.tally g with
      drained := (m.tally g).drained + (flushPendingToLrs m.live.bank (m.pending next)).2.2 }
    else m.tally g :=
  tally_of_update (m := m) (f := fun t => { t with
    drained := t.drained + (flushPendingToLrs m.live.bank (m.pending next)).2.2 }) rfl g

theorem tally_setCurrent : (m.setCurrent next wants).tally g = if g = next.guest then
    { m.tally g with switches := (m.tally g).switches + 1 } else m.tally g :=
  tally_of_update (m := m) (f := fun t => { t with switches := t.switches + 1 }) rfl g

theorem tally_enter : (m.enter next wants).tally g = if g = next.guest then
    { m.tally g with
      fpRestoreVerified := (m.tally g).fpRestoreVerified + 1
      apRestoreVerified := (m.tally g).apRestoreVerified + 1
      drained := (m.tally g).drained +
        (flushPendingToLrs (m.ctx next).bank (m.pending next)).2.2
      switches := (m.tally g).switches + 1 }
    else m.tally g := by
  have restored : (m.restoreIncoming next).live = (m.restoreIncoming next).ctx next := rfl
  have verified := tally_verifyRestored next (m.restoreIncoming next) g restored
  have refilled := tally_flushPending next ((m.restoreIncoming next).verifyRestored next) g
  rw [enter, tally_setCurrent]
  by_cases here : g = next.guest
  · rw [if_pos here] at verified refilled ⊢
    rw [refilled, verified, if_pos here]
    rfl
  · rw [if_neg here] at verified refilled ⊢
    rw [refilled, verified, if_neg here]
    rfl

end Phases

theorem pending_enter : (m.enter next wants).pending r = if r = next then
    (refill ((m.ctx next).bank, m.pending next)).2 else m.pending r :=
  pending_setPending ..

/-- The machine between the two halves of a switch. -/
structure Between (next : Role G V) (m m' : Machine G V lrs aps) : Prop where
  ctx : m'.ctx = m.kept
  pending : m'.pending = m.pending
  timer : m'.timer = ⟨false, false⟩
  vttbr : m'.vttbr = m.vttbr
  seeded : m'.seeded = m.seeded
  dispatchedNonboot : m'.dispatchedNonboot = m.dispatchedNonboot
  tally : ∀ g, m'.tally g =
    let t := if g = m.current.guest then m.left (m.tally g) else m.tally g
    if g = next.guest then { t with
      fpForeign := t.fpForeign + if m.live.fp ≠ (m.kept next).fp then 1 else 0
      apForeign := t.apForeign + if m.live.vgic.apr ≠ (m.kept next).vgic.apr then 1 else 0 } else t

theorem between : Between next m (m.leave.noteForeign next).poisonLive := by
  obtain ⟨current, live, pending, timer, vttbr, seeds, nonboot⟩ := left_leave (m := m)
  have ctx := ctx_leave (m := m)
  refine ⟨ctx, pending, timer, vttbr, seeds, nonboot, fun g => ?_⟩
  have saved : (m.leave.ctx m.leave.current).fp = m.live.fp := by
    rw [ctx, current, kept, if_pos rfl]
    rfl
  have foreign := tally_noteForeign next m.leave g
  rw [saved, live, ctx, tally_leave] at foreign
  exact foreign

theorem Between.switched (halfway : Between next m m') :
    Switched next wants m (m'.enter next wants) := by
  obtain ⟨ctx, pending, timer, vttbr, seeds, nonboot, tally⟩ := halfway
  have refilled : refill ((m'.ctx next).bank, m'.pending next) =
      refill ((m.kept next).bank, m.pending next) := by rw [ctx, pending]
  constructor
  case current => rfl
  case same =>
    rw [← ctx]
    exact ⟨rfl, rfl, rfl, rfl, rfl⟩
  case bank =>
    rw [← refilled]
    rfl
  case ctx => exact ctx
  case pending =>
    intro r
    rw [pending_enter, refilled, pending]
  case underflow =>
    rw [pending_enter, if_pos rfl]
    rfl
  case timer => exact congrArg (fun ppi : Ppi => { ppi with enabled := wants }) timer
  case vttbrEl2 => exact congrFun vttbr _
  case vmpidrEl2 => rfl
  case vttbr => exact vttbr
  case seeded => exact seeds
  case tally =>
    intro g
    rw [tally_enter, tally, ctx, pending]
    by_cases here : g = next.guest
    · simp only [if_pos here, entered]
    · simp only [if_neg here]
  case dispatchedNonboot => exact congrArg (fun n => n + if next.isBoot then 0 else 1) nonboot

theorem switched (wants : Bool) (seeded : m.seeded next = true) :
    ∃ m', m.switchContext next wants = some m' ∧ Switched next wants m m' := by
  refine ⟨_, ?_, between.switched⟩
  rw [switchContext_eq, if_pos seeded]

end Baleen.Metal.Machine
