import Baleen.Metal.Delivery

/-!
# What an event does to an inbox

One equation for each event: the inbox of every vCPU after it, from the inbox before.  An interrupt
that is sent reaches the vCPUs it names and no others, a refill is for the vCPU that runs, and a
switch demotes what the outgoing vCPU leaves in its registers.
-/

namespace Baleen.Metal.Machine

open Gic

variable {G V lrs aps : Nat} {m m' : Machine G V lrs aps} {r own next : Role G V} {kind : Kind}
  {intid i : UInt32} {value : UInt64} {route : Irouter.SpiRoute}

/-- The interrupt that an event sends to a vCPU. -/
def sent (m : Machine G V lrs aps) (r : Role G V) : Event G V aps → Option UInt32
  | .sgi value =>
      let decoded := Sgi.decode value (affinity m.current)
      if r.guest = m.current.guest ∧ decoded.targets (affinity r) then some decoded.intid else none
  | .spi route intid =>
      if (m.current.ownVcpus.find? fun own => route.targets (affinity own)) = some r then some intid
      else none
  | _ => none

theorem samePlace_note (names : UInt64 → Bool) : SamePlace m (m.noteAffinityCollisions names) := by
  unfold noteAffinityCollisions
  dsimp only
  split_ifs
  · exact ⟨rfl, rfl, rfl, rfl, rfl, rfl, rfl⟩
  · exact .refl m

theorem inbox_note (names : UInt64 → Bool) : (m.noteAffinityCollisions names).inbox = m.inbox := by
  unfold noteAffinityCollisions
  dsimp only
  split_ifs <;> rfl

theorem sgi_named : (Sgi.decode value (affinity m.current)).intid.toNat < NUM_INTIDS :=
  Nat.lt_trans Sgi.intid_lt (by decide)

/-- What counting collisions and every delivery keep is kept by an SGI. -/
theorem sendSgi_keeps {P : Machine G V lrs aps → Prop}
    (start : P (m.noteAffinityCollisions (Sgi.decode value (affinity m.current)).targets))
    (each : ∀ own s, own.guest = s.current.guest → SamePlace m s → P s →
      P (s.deliverTo .sgi (Sgi.decode value (affinity m.current)).intid own)) :
    SamePlace m (m.sendSgi value) ∧ P (m.sendSgi value) := by
  unfold sendSgi
  refine Visit.foldl_keeps (P := fun s => SamePlace m s ∧ P s) ?_ ⟨samePlace_note _, start⟩
  rintro own member s ⟨same, kept⟩
  have sameGuest : own.guest = s.current.guest := by
    rw [same.current]
    exact Role.mem_ownVcpus.mp member
  split_ifs
  · exact ⟨same.trans (deliverTo_cases _ sgi_named sameGuest).1, each own s sameGuest same kept⟩
  · exact ⟨same, kept⟩

theorem samePlace_sendSgi : SamePlace m (m.sendSgi value) :=
  (sendSgi_keeps (P := fun _ => True) trivial fun _ _ _ _ _ => trivial).1

theorem inbox_sendSgi : (m.sendSgi value).inbox r =
    match m.sent r (.sgi value : Event G V aps) with
    | some intid => receive (r = m.current) intid (m.inbox r)
    | none => m.inbox r := by
  let decoded := Sgi.decode value (affinity m.current)
  by_cases target : r.guest = m.current.guest ∧ decoded.targets (affinity r) = true
  · rw [sent, if_pos target]
    let arrived := receive (r = m.current) decoded.intid (m.inbox r)
    refine (Visit.foldl_once (r := r) (Q := fun s => SamePlace m s ∧ s.inbox r = arrived)
      (P := fun s => SamePlace m s ∧ s.inbox r = m.inbox r) (Role.ownVcpus_nodup _) ?_ ?_ ?_
      (Role.mem_ownVcpus.mpr target.1) ⟨samePlace_note _, by rw [inbox_note]⟩).2
    -- The visits to the others leave this inbox alone, before and after its own.
    case refine_1 | refine_3 =>
      rintro own member other s ⟨same, kept⟩
      have sameGuest : own.guest = s.current.guest := by
        rw [same.current]
        exact Role.mem_ownVcpus.mp member
      split_ifs
      · refine ⟨same.trans (deliverTo_cases _ sgi_named sameGuest).1, ?_⟩
        rw [inbox_deliverTo sgi_named sameGuest, if_neg other.symm, kept]
      · exact ⟨same, kept⟩
    case refine_2 =>
      rintro s ⟨same, kept⟩
      have sameGuest : r.guest = s.current.guest := by
        rw [same.current]
        exact target.1
      rw [if_pos target.2]
      refine ⟨same.trans (deliverTo_cases _ sgi_named sameGuest).1, ?_⟩
      rw [inbox_deliverTo sgi_named sameGuest, if_pos rfl, kept, same.current]
  · rw [sent, if_neg target]
    refine (Visit.foldl_keeps (P := fun s => SamePlace m s ∧ s.inbox r = m.inbox r) ?_
      ⟨samePlace_note _, by rw [inbox_note]⟩).2
    rintro own member s ⟨same, kept⟩
    have sameGuest : own.guest = s.current.guest := by
      rw [same.current]
      exact Role.mem_ownVcpus.mp member
    split_ifs with named
    · refine ⟨same.trans (deliverTo_cases _ sgi_named sameGuest).1, ?_⟩
      have other : r ≠ own := by
        rintro rfl
        exact target ⟨Role.mem_ownVcpus.mp member, named⟩
      rw [inbox_deliverTo sgi_named sameGuest, if_neg other, kept]
    · exact ⟨same, kept⟩

/-- An SPI is for one vCPU of the guest or for none of them. -/
inductive SpiCase (route : Irouter.SpiRoute) (intid : UInt32) (m : Machine G V lrs aps) :
    Machine G V lrs aps → Prop where
  | routed {own : Role G V} (own_guest : own.guest = m.current.guest)
      (found : (m.current.ownVcpus.find? fun own => route.targets (affinity own)) = some own) :
      SpiCase route intid m ((m.noteAffinityCollisions route.targets).deliverTo .spi intid own)
  | unroutable (absent : (m.current.ownVcpus.find? fun own =>
        route.targets (affinity own)) = none) :
      SpiCase route intid m ((m.noteAffinityCollisions route.targets).count m.current.guest fun t =>
        { t with unroutable := t.unroutable + 1 })

theorem deliverSpi_cases (route : Irouter.SpiRoute) (intid : UInt32) :
    SpiCase route intid m (m.deliverSpi route intid) := by
  unfold deliverSpi
  cases found : m.current.ownVcpus.find? fun own => route.targets (affinity own) with
  | some own => exact .routed (Role.mem_ownVcpus.mp (List.mem_of_find?_eq_some found)) found
  | none => exact .unroutable found

theorem samePlace_deliverSpi (named : intid.toNat < NUM_INTIDS) :
    SamePlace m (m.deliverSpi route intid) := by
  have noted := samePlace_note (m := m) route.targets
  have served := deliverSpi_cases (m := m) route intid
  generalize m.deliverSpi route intid = m' at served ⊢
  cases served with
  | routed own_guest found =>
      refine noted.trans (deliverTo_cases _ named ?_).1
      rw [noted.current, own_guest]
  | unroutable absent => exact noted.trans ⟨rfl, rfl, rfl, rfl, rfl, rfl, rfl⟩

theorem inbox_deliverSpi (named : intid.toNat < NUM_INTIDS) : (m.deliverSpi route intid).inbox r =
    match m.sent r (.spi route intid : Event G V aps) with
    | some intid => receive (r = m.current) intid (m.inbox r)
    | none => m.inbox r := by
  have noted := samePlace_note (m := m) route.targets
  have served := deliverSpi_cases (m := m) route intid
  generalize m.deliverSpi route intid = m' at served ⊢
  cases served with
  | @routed own own_guest found =>
      have sameGuest : own.guest = (m.noteAffinityCollisions route.targets).current.guest := by
        rw [noted.current, own_guest]
      rw [inbox_deliverTo named sameGuest, inbox_note, noted.current, sent, found]
      by_cases target : r = own
      · rw [if_pos target, if_pos (congrArg some target.symm), target]
      · rw [if_neg target, if_neg fun same => target (Option.some_inj.mp same).symm]
  | unroutable absent =>
      rw [sent, absent, if_neg nofun]
      exact congrFun (inbox_note route.targets) r

/-- The timer is masked for a vCPU that has not enabled it, forwarded if there is a register for it,
and otherwise left active. -/
inductive TimerCase (m : Machine G V lrs aps) : Bool → Machine G V lrs aps → Prop where
  | masked : TimerCase m false { m with timer := ⟨false, false⟩ }
  | forwarded {m' : Machine G V lrs aps} (room : hasFree m.live.bank = true) (same : SamePlace
        { m with timer := { m.timer with active := true } } m')
      (bank : m'.live.bank = (injectHw VTIMER_INTID VTIMER_INTID m.live.bank).2)
      (pending : m'.pending = m.pending) (underflow : m'.underflow = m.underflow)
      (tally : ∀ g, m'.tally g = if g = m.current.guest then
        { m.tally g with timerForwarded := (m.tally g).timerForwarded + 1 } else m.tally g) :
      TimerCase m true m'
  | deferred {m' : Machine G V lrs aps} (full : hasFree m.live.bank = false) (same : SamePlace
        { m with timer := { m.timer with active := true } } m')
      (live : m'.live = m.live) (pending : m'.pending = m.pending)
      (underflow : m'.underflow = m.underflow)
      (tally : ∀ g, m'.tally g = if g = m.current.guest then
        { m.tally g with timerDeferred := (m.tally g).timerDeferred + 1 } else m.tally g) :
      TimerCase m true m'

theorem injectHw_fst (bank : List UInt64) :
    (injectHw VTIMER_INTID VTIMER_INTID bank).1 = hasFree bank := by
  obtain ⟨lr, -, -, -, -, injected⟩ := injectHw_spec VTIMER_INTID (by decide)
  rw [injected]
  exact place_fst

theorem injectHw_full {bank : List UInt64} (full : hasFree bank = false) :
    (injectHw VTIMER_INTID VTIMER_INTID bank).2 = bank := by
  obtain ⟨lr, -, -, -, -, injected⟩ := injectHw_spec VTIMER_INTID (by decide)
  rw [injected]
  exact place_full full

theorem takeTimer_cases (wanted : Bool) : TimerCase m wanted (m.takeTimer wanted) := by
  cases wanted with
  | false => exact .masked
  | true =>
      unfold takeTimer
      simp only [Bool.not_true, Bool.false_eq_true, if_false, injectHw_fst]
      cases room : hasFree m.live.bank with
      | true =>
          rw [if_pos rfl]
          exact .forwarded room ⟨rfl, rfl, rfl, rfl, rfl, rfl, rfl⟩ rfl rfl rfl
            fun g => tally_count ..
      | false =>
          rw [if_neg Bool.false_ne_true]
          exact .deferred room ⟨rfl, rfl, rfl, rfl, rfl, rfl, rfl⟩ rfl rfl rfl fun g =>
            tally_count ..

theorem inbox_takeTimer (wanted : Bool) : (m.takeTimer wanted).inbox r =
    if wanted ∧ r = m.current then
      ((injectHw VTIMER_INTID VTIMER_INTID (m.inbox r).1).2, (m.inbox r).2)
    else m.inbox r := by
  have taken := takeTimer_cases (m := m) wanted
  generalize m.takeTimer wanted = m' at taken ⊢
  cases taken with
  | masked =>
      rw [if_neg nofun]
      rfl
  | forwarded room same bank pending _ _ =>
      by_cases here : r = m.current
      · rw [if_pos ⟨rfl, here⟩, inbox_here here, inbox_here (here.trans same.current.symm), bank,
          pending]
      · have away : r ≠ m'.current := same.current ▸ here
        rw [if_neg fun both => here both.2, inbox_away here, inbox_away away, same.ctx, pending]
  | deferred full same live pending _ _ =>
      by_cases here : r = m.current
      · rw [if_pos ⟨rfl, here⟩, inbox_here here, inbox_here (here.trans same.current.symm), live,
          pending, injectHw_full full]
      · have away : r ≠ m'.current := same.current ▸ here
        rw [if_neg fun both => here both.2, inbox_away here, inbox_away away, same.ctx, pending]

/-- What a refill makes of an inbox. -/
def refill (box : List UInt64 × PendingSet) : List UInt64 × PendingSet :=
  ((flushPendingToLrs box.1 box.2).1, (flushPendingToLrs box.1 box.2).2.1)

theorem load_refill (box : List UInt64 × PendingSet) : load i (refill box) = load i box :=
  (flush_spec box.1 box.2).moved i

theorem inbox_flushPending : (m.flushPending m.current).inbox r =
    if r = m.current then refill (m.inbox r) else m.inbox r := by
  have left : (m.flushPending m.current).pending r = if r = m.current then
      (flushPendingToLrs m.live.bank (m.pending m.current)).2.1 else m.pending r :=
    pending_setPending ..
  by_cases here : r = m.current
  · rw [inbox_here (m := m.flushPending m.current) here, left, if_pos here, if_pos here,
      inbox_here here, here]
    rfl
  · rw [inbox_away (m := m.flushPending m.current) here, left, if_neg here, if_neg here,
      inbox_away here]
    rfl

theorem inbox_takeMaintenance : m.takeMaintenance.inbox r =
    if r = m.current then refill (m.inbox r) else m.inbox r :=
  inbox_flushPending (m := m.count m.current.guest _)

theorem samePlace_takeMaintenance : SamePlace m m.takeMaintenance :=
  ⟨rfl, rfl, rfl, rfl, rfl, rfl, rfl⟩

/-- Ending an interrupt that stands for the physical timer ends that too. -/
inductive InterfaceCase (k : Nat) (state : LrState) (m : Machine G V lrs aps) :
    Machine G V lrs aps → Prop where
  | ended {m' : Machine G V lrs aps} (stands : mapped (m.register k) = true)
      (invalid : state = .invalid)
      (same : SamePlace { m with timer := { m.timer with active := false } } m')
      (bank : m'.live.bank = m.live.bank.set k (withState (m.register k) state))
      (pending : m'.pending = m.pending) (underflow : m'.underflow = m.underflow)
      (tally : m'.tally = m.tally) : InterfaceCase k state m m'
  | moved {m' : Machine G V lrs aps} (kept : mapped (m.register k) = true → state ≠ .invalid)
      (same : SamePlace m m')
      (bank : m'.live.bank = m.live.bank.set k (withState (m.register k) state))
      (pending : m'.pending = m.pending) (underflow : m'.underflow = m.underflow)
      (tally : m'.tally = m.tally) : InterfaceCase k state m m'

theorem useInterface_cases (k : Nat) (state : LrState) :
    InterfaceCase k state m (m.useInterface k state) := by
  unfold useInterface
  dsimp only
  split_ifs with ended
  · rw [Bool.and_eq_true, decide_eq_true_iff] at ended
    exact .ended ended.1 ended.2 ⟨rfl, rfl, rfl, rfl, rfl, rfl, rfl⟩ rfl rfl rfl rfl
  · refine .moved (fun stands invalid => ended ?_)
      ⟨rfl, rfl, rfl, rfl, rfl, rfl, rfl⟩ rfl rfl rfl rfl
    rw [stands, invalid]
    rfl

theorem inbox_useInterface (k : Nat) (state : LrState) : (m.useInterface k state).inbox r =
    if r = m.current then ((m.inbox r).1.set k (withState (m.register k) state), (m.inbox r).2)
    else m.inbox r := by
  have used := useInterface_cases (m := m) k state
  generalize m.useInterface k state = m' at used ⊢
  cases used with
  | ended _ _ same bank pending _ _ | moved _ same bank pending _ _ =>
      by_cases here : r = m.current
      · rw [if_pos here, inbox_here here, inbox_here (here.trans same.current.symm), bank, pending]
      · have away : r ≠ m'.current := same.current ▸ here
        rw [if_neg here, inbox_away here, inbox_away away, same.ctx, pending]

theorem inbox_compute (x : Vector UInt64 31) (regs : CtxReg → UInt64) (fp : FpCtx) (vmcr : UInt64)
    (apr : Vector (Vector UInt64 aps) 2) : (m.compute x regs fp vmcr apr).inbox r = m.inbox r := by
  by_cases here : r = m.current
  · rw [inbox_here here, inbox_here (m := m.compute x regs fp vmcr apr) here]
    rfl
  · rw [inbox_away here, inbox_away (m := m.compute x regs fp vmcr apr) here]
    rfl

theorem ctx_seed (entry contextId sctlr : UInt64) : (m.seed own entry contextId sctlr).ctx r =
    if r = own then .seedBoot entry contextId SPSR_EL2_LINUX sctlr else m.ctx r :=
  Function.update_apply ..

theorem seeded_seed (entry contextId sctlr : UInt64) : (m.seed own entry contextId sctlr).seeded r =
    if r = own then true else m.seeded r :=
  Function.update_apply ..

theorem inbox_seed (entry contextId sctlr : UInt64) (away : own ≠ m.current) :
    (m.seed own entry contextId sctlr).inbox r =
      if r = own then (List.replicate lrs 0, (m.inbox r).2) else m.inbox r := by
  by_cases here : r = m.current
  · have other : r ≠ own := fun same => away (same.symm.trans here)
    rw [if_neg other, inbox_here here,
      inbox_here (m := m.seed own entry contextId sctlr) here]
    rfl
  · rw [inbox_away here, inbox_away (m := m.seed own entry contextId sctlr) here, ctx_seed]
    split_ifs <;> rfl

end Baleen.Metal.Machine
