import Baleen.Metal.Switch

/-!
# No interrupt is lost and none goes astray

Over every run of the machine, what was named for a vCPU is on its way to it, was ended by it, or
was merged with the same interrupt that waited already, as the pending bit of a controller does.  A
timer interrupt that finds the bank full is put off: its level stays up, and it is signalled again.
Nothing else takes an interrupt away and nothing gives one to a vCPU that was not named.
-/

namespace Baleen.Metal.Machine

open Gic

variable {G V lrs aps : Nat} {m m' : Machine G V lrs aps} {r own next : Role G V} {i : UInt32}
  {wants : Bool}

/-- What a vCPU has waiting once it does not run. -/
def outbox (m : Machine G V lrs aps) (r : Role G V) : List UInt64 × PendingSet :=
  ((m.kept r).bank, m.pending r)

theorem inbox_switched (done : Switched next wants m m') :
    m'.inbox r = if r = next then refill (m.outbox r) else m.outbox r := by
  by_cases here : r = next
  · rw [if_pos here, inbox_here (here.trans done.current.symm), done.bank, done.pending,
      if_pos here, outbox, here]
  · rw [if_neg here, inbox_away (done.current ▸ here), done.ctx, done.pending, if_neg here, outbox]

theorem copies_demote (bank : List UInt64) : copies i (bank.map demote) = copies i bank := by
  rw [copies, copies, List.countP_map]
  congr 1
  funext lr
  obtain ⟨state, -, vintid, -⟩ := @demote_keeps lr
  rw [Function.comp_apply, lrIsFree, lrIsFree, state, vintid]

theorem load_outbox : load i (m.outbox r) = held r i m := by
  rw [held, inbox, outbox, load, load, home, kept]
  split_ifs
  · exact congrArg (· + _) (copies_demote _)
  · rfl

theorem step_switch (wants : Bool) (allowed : m.may (.switch next wants)) :
    Switched next wants m (step (.switch next wants) m) := by
  obtain ⟨m', found, done⟩ := switched wants allowed
  rw [step, found]
  exact done

theorem copies_injectHw (bank : List UInt64) :
    copies i (injectHw VTIMER_INTID VTIMER_INTID bank).2 =
      copies i bank + if hasFree bank ∧ VTIMER_INTID = i then 1 else 0 := by
  obtain ⟨lr, occupied, named, -, -, injected⟩ := injectHw_spec VTIMER_INTID (by decide)
  rw [injected]
  cases room : hasFree bank with
  | false =>
      rw [place_full room, if_neg fun both => Bool.false_ne_true both.1]
      rfl
  | true =>
      rw [copies, countP_place (quiet_copies i) room, ← copies, occupied, named]
      simp

/-- An interrupt that ends leaves the bank; in any other state it is still in it. -/
theorem copies_set {bank : List UInt64} {k : Nat} {lr : UInt64} (state : LrState)
    (here : bank[k]? = some lr) (occupied : lrIsFree lr = false) :
    copies i (bank.set k (withState lr state)) +
      (if state = .invalid ∧ lrVintid lr = i then 1 else 0) = copies i bank := by
  obtain ⟨inside, at_k⟩ := List.getElem?_eq_some_iff.mp here
  let holds := fun lr => !lrIsFree lr && lrVintid lr == i
  have moved : (if holds (withState lr state) = true then 1 else 0) +
      (if state = .invalid ∧ lrVintid lr = i then 1 else 0) = if holds lr = true then 1 else 0 := by
    have free : lrIsFree (withState lr state) = decide (state = .invalid) := by
      rw [lrIsFree, lrState_withState]
    simp only [holds, lrVintid_withState, occupied, free]
    by_cases invalid : state = .invalid <;> by_cases named : lrVintid lr = i <;>
      simp [invalid, named]
  have counted := List.countP_set (p := holds) (a := withState lr state) inside
  have one := List.boole_getElem_le_countP (p := holds) inside
  rw [at_k] at counted one
  change (bank.set k (withState lr state)).countP holds + _ = bank.countP holds
  omega

/-- A vCPU that was never started has the context that it was created with. -/
structure Idle (m : Machine G V lrs aps) : Prop where
  current : m.seeded m.current = true
  blank : ∀ r, m.seeded r = false → m.ctx r = .new

theorem Idle.bank (idle : Idle m) (unseeded : m.seeded r = false) :
    (m.ctx r).bank = List.replicate lrs 0 := by
  rw [idle.blank r unseeded]
  rfl

/-- An event names an interrupt for a vCPU. -/
def named (r : Role G V) (i : UInt32) (m : Machine G V lrs aps) : Event G V aps → Nat
  | .timer wanted => if wanted ∧ r = m.current ∧ VTIMER_INTID = i then 1 else 0
  | e => if m.sent r e = some i then 1 else 0

/-- It waits already. -/
def merged (r : Role G V) (i : UInt32) (m : Machine G V lrs aps) (e : Event G V aps) : Nat :=
  if m.sent r e = some i ∧ absorbs (r = m.current) i (m.inbox r) then 1 else 0

/-- The timer finds no free list register. -/
def putOff (r : Role G V) (i : UInt32) (m : Machine G V lrs aps) : Event G V aps → Nat
  | .timer wanted =>
      if wanted ∧ r = m.current ∧ hasFree m.live.bank = false ∧ VTIMER_INTID = i then 1 else 0
  | _ => 0

/-- The vCPU ends it. -/
def ended (r : Role G V) (i : UInt32) (m : Machine G V lrs aps) : Event G V aps → Nat
  | .interface k state =>
      if state = .invalid ∧ r = m.current ∧ lrVintid (m.register k) = i then 1 else 0
  | _ => 0

theorem copies_blank (n : Nat) : copies i (List.replicate n 0) = 0 := by
  have free : lrIsFree 0 = true := by decide
  rw [copies, List.countP_replicate, free]
  rfl

/-- What is sent arrives, unless it is merged. -/
theorem held_sent {e : Event G V aps} (arrives : m'.inbox r = match m.sent r e with
      | some intid => receive (r = m.current) intid (m.inbox r)
      | none => m.inbox r)
    (small : ∀ intid, m.sent r e = some intid → intid.toNat < NUM_INTIDS) :
    held r i m + (if m.sent r e = some i then 1 else 0) = held r i m' + merged r i m e := by
  rw [held, held, arrives, merged]
  cases sends : m.sent r e with
  | none => simp
  | some intid =>
      have received := load_receive (i := i) (decide (r = m.current)) (m.inbox r)
        (small intid sends)
      simp only [Option.some.injEq]
      by_cases same : intid = i
      · subst same
        simpa only [true_and] using received.symm
      · simp only [same, false_and, if_false] at received ⊢
        exact received.symm

theorem sent_small {e : Event G V aps} (allowed : m.may e) {intid : UInt32}
    (sends : m.sent r e = some intid) : intid.toNat < NUM_INTIDS := by
  cases e with
  | sgi value =>
      rw [sent] at sends
      split_ifs at sends
      cases sends
      exact sgi_named
  | spi route named =>
      rw [sent] at sends
      split_ifs at sends
      cases sends
      exact allowed
  | _ => cases sends

theorem unsent {e : Event G V aps} (none_sent : m.sent r e = none) : merged r i m e = 0 := by
  rw [merged, none_sent, if_neg nofun]

/-- A timer interrupt that the vCPU wants takes a free list register, or is put off. -/
theorem held_timer (wanted : Bool) :
    held r i m + named r i m (.timer wanted) =
      held r i (step (.timer wanted) m) + putOff r i m (.timer wanted) := by
  rw [held, held, step, inbox_takeTimer, named, putOff]
  by_cases taken : wanted ∧ r = m.current
  · have here : (m.inbox r).1 = m.live.bank := by rw [inbox_here taken.2]
    rw [if_pos taken, load, load, copies_injectHw, here]
    simp only [taken, true_and]
    cases hasFree m.live.bank with
    | false =>
        simp only [Bool.false_eq_true, false_and, true_and, if_false]
        omega
    | true =>
        simp only [Bool.true_eq_false, false_and, true_and, if_false]
        omega
  · rw [if_neg taken, if_neg fun all => taken ⟨all.1, all.2.1⟩,
      if_neg fun all => taken ⟨all.1, all.2.1⟩]

theorem held_interface {k : Nat} {state : LrState} (allowed : m.may (.interface k state)) :
    held r i m = held r i (step (.interface k state) m) + ended r i m (.interface k state) := by
  rw [held, held, step, inbox_useInterface, ended]
  by_cases here : r = m.current
  · have bank : (m.inbox r).1 = m.live.bank := by rw [inbox_here here]
    have inside : k < m.live.bank.length := by
      rw [VcpuCtx.bank, m.live.vgic.sized]
      exact allowed.1
    have read : (m.inbox r).1[k]? = some (m.register k) := by
      rw [bank, register, List.getElem?_eq_getElem inside, Option.getD_some]
    have moved := copies_set (i := i) state read allowed.2
    rw [if_pos here, load, load]
    simp only [here, true_and] at moved ⊢
    omega
  · rw [if_neg here, if_neg fun all => here all.2.1]
    rfl

theorem held_step (idle : Idle m) (e : Event G V aps) (allowed : m.may e) :
    held r i m + named r i m e =
      held r i (step e m) + (merged r i m e + putOff r i m e + ended r i m e) := by
  cases e with
  | sgi value =>
      apply held_sent inbox_sendSgi
      exact fun intid => sent_small (e := .sgi value) allowed
  | spi route intid =>
      apply held_sent (inbox_deliverSpi allowed)
      exact fun other => sent_small (e := .spi route intid) allowed
  | timer wanted =>
      rw [unsent rfl, Nat.zero_add]
      exact held_timer wanted
  | maintenance =>
      rw [unsent rfl, held, held, step, inbox_takeMaintenance]
      by_cases here : r = m.current
      · rw [if_pos here, load_refill]
        rfl
      · rw [if_neg here]
        rfl
  | mirror enabled => rfl
  | seed own entry contextId sctlr =>
      have away : own ≠ m.current := by
        rintro rfl
        exact Bool.false_ne_true (allowed.2.symm.trans idle.current)
      rw [unsent rfl, held, held, step, inbox_seed entry contextId sctlr away]
      by_cases here : r = own
      · subst here
        rw [if_pos rfl, inbox_away away, idle.bank allowed.2]
        rfl
      · rw [if_neg here]
        rfl
  | switch next wants =>
      have done := step_switch wants allowed
      have arrived := congrArg (load i) (inbox_switched (r := r) done)
      rw [unsent rfl]
      by_cases here : r = next
      · rw [if_pos here, load_refill, load_outbox] at arrived
        exact arrived.symm
      · rw [if_neg here, load_outbox] at arrived
        exact arrived.symm
  | interface k state =>
      change _ = _ + (merged r i m (.interface k state) + 0 + _)
      rw [unsent rfl, Nat.zero_add]
      exact held_interface allowed
  | compute x regs fp vmcr apr =>
      rw [unsent rfl, held, held, step, inbox_compute]
      rfl

theorem idle_step (idle : Idle m) (e : Event G V aps) (allowed : m.may e) : Idle (step e m) := by
  -- What keeps the place of every vCPU keeps this too.
  have still : ∀ {s s' : Machine G V lrs aps}, Idle s → SamePlace s s' → Idle s' := by
    intro s s' before same
    constructor
    · rw [same.seeded, same.current]
      exact before.current
    · rw [same.seeded, same.ctx]
      exact before.blank
  cases e with
  | sgi value => exact still idle samePlace_sendSgi
  | spi route intid => exact still idle (samePlace_deliverSpi allowed)
  | timer wanted =>
      have taken := takeTimer_cases (m := m) wanted
      rw [step]
      generalize m.takeTimer wanted = m' at taken ⊢
      have active : ∀ timer, Idle { m with timer := timer } := fun _ => ⟨idle.current, idle.blank⟩
      cases taken with
      | masked => exact active _
      | forwarded _ same _ _ _ _ | deferred _ same _ _ _ _ => exact still (active _) same
  | maintenance => exact still idle samePlace_takeMaintenance
  | mirror enabled => exact ⟨idle.current, idle.blank⟩
  | seed own entry contextId sctlr =>
      constructor
      · rw [step, seeded_seed]
        split_ifs
        · rfl
        · exact idle.current
      · intro r unseeded
        rw [step, seeded_seed] at unseeded
        rw [step, ctx_seed]
        split_ifs at unseeded ⊢
        exact idle.blank r unseeded
  | switch next wants =>
      have done := step_switch wants allowed
      constructor
      · rw [done.current, done.seeded]
        exact allowed
      · intro r unseeded
        rw [done.seeded] at unseeded
        have away : r ≠ m.current := by
          rintro rfl
          exact Bool.false_ne_true (unseeded.symm.trans idle.current)
        rw [done.ctx, kept, if_neg away]
        exact idle.blank r unseeded
  | interface k state =>
      have used := useInterface_cases (m := m) k state
      rw [step]
      generalize m.useInterface k state = m' at used ⊢
      cases used with
      | ended _ _ same _ _ _ _ =>
          refine still (s := { m with timer := { m.timer with active := false } }) ?_ same
          exact ⟨idle.current, idle.blank⟩
      | moved _ same _ _ _ _ => exact still idle same
  | compute x regs fp vmcr apr => exact ⟨idle.current, idle.blank⟩

section Boot

variable [NeZero V] (slot : Fin G) (live : VcpuCtx lrs aps) (vttbr : Fin G → UInt64)
  (images : Fin G → UInt64 × UInt64) (sctlr : UInt64)

theorem bank_boot :
    ((boot slot live vttbr images sctlr).ctx r).bank = List.replicate lrs 0 := by
  rw [boot]
  dsimp only
  split_ifs <;> rfl

theorem idle_boot : Idle (boot slot live vttbr images sctlr : Machine G V lrs aps) := by
  refine ⟨rfl, fun r unseeded => ?_⟩
  have secondary : r.isBoot = false := unseeded
  rw [boot]
  dsimp only
  rw [secondary, Bool.false_and, if_neg Bool.false_ne_true]

theorem held_boot : held r i (boot slot live vttbr images sctlr) = 0 := by
  have empty : (boot slot live vttbr images sctlr).inbox r = (List.replicate lrs 0, .new) := by
    rw [inbox, home]
    refine Prod.ext ?_ rfl
    split_ifs
    · rfl
    · exact bank_boot ..
  rw [held, empty, load, copies_blank, waiting, PendingSet.waits_new]
  rfl

/-- Every interrupt that was named for a vCPU is on its way to it, was ended by it, was merged with
the same one waiting, or was a tick put off, each exactly once. -/
theorem conservation (r : Role G V) (i : UInt32) {run : List (Event G V aps)}
    (legal : Guarded.Legal may step run (boot slot live vttbr images sctlr)) :
    Guarded.total step (named r i) run (boot slot live vttbr images sctlr) =
      held r i (Guarded.after step run (boot slot live vttbr images sctlr)) +
        Guarded.total step (fun m e => merged r i m e + putOff r i m e + ended r i m e) run
          (boot slot live vttbr images sctlr) := by
  have balance := legal.balance (P := Idle) (held r i) (named r i)
    (fun m e => merged r i m e + putOff r i m e + ended r i m e)
    (fun m e idle allowed => ⟨idle_step idle e allowed, held_step idle e allowed⟩)
    (idle_boot slot live vttbr images sctlr)
  rwa [held_boot, Nat.zero_add] at balance

end Boot

theorem conservation_ipi :
    let start : Machine 2 2 1 1 := boot 0 .new (fun _ => 0) (fun _ => (0, 0)) 0
    let run : List (Event 2 2 1) := [.sgi 3, .timer true, .switch ⟨1, 0⟩ true, .sgi 3,
      .switch ⟨0, 0⟩ false, .interface 0 .active, .maintenance, .interface 0 .invalid, .sgi 1]
    Guarded.total step (named ⟨0, 0⟩ 0) run start = 2 ∧
      Guarded.total step (putOff ⟨0, 0⟩ VTIMER_INTID) run start = 1 ∧
      Guarded.total step (named ⟨0, 0⟩ 0) run start =
        held ⟨0, 0⟩ 0 (Guarded.after step run start) +
          Guarded.total step (fun m e => merged ⟨0, 0⟩ 0 m e + putOff ⟨0, 0⟩ 0 m e +
            ended ⟨0, 0⟩ 0 m e) run start :=
  ⟨by decide, by decide, conservation 0 .new _ _ 0 ⟨0, 0⟩ 0 (by decide)⟩

end Baleen.Metal.Machine
