import Baleen.Metal.Conservation

/-!
# What every run keeps

The refill interrupt is armed exactly while something waits for the vCPU that runs.  A list register
that stands for a physical interrupt stands for the timer, there is at most one, only the vCPU that
runs has it, and the timer is active as long as it is there.  The physical CPU has the address space
and the identity of the vCPU that runs.
-/

namespace Baleen.Metal.Machine

open Gic

variable {G V lrs aps : Nat} {m m' : Machine G V lrs aps} {r own next : Role G V} {kind : Kind}
  {intid : UInt32} {wants : Bool}

structure Sound (m : Machine G V lrs aps) : Prop extends Idle m where
  armed : m.underflow = !(m.pending m.current).isEmpty
  saved : ∀ r, r ≠ m.current → (m.ctx r).bank.countP mapped = 0
  single : m.live.bank.countP mapped ≤ 1
  active : 0 < m.live.bank.countP mapped → m.timer.active = true
  stands : ∀ lr ∈ m.live.bank, mapped lr = true → lrPintid lr = some VTIMER_INTID
  address : m.vttbrEl2 = m.vttbr m.current.guest
  identity : m.vmpidrEl2 = guestMpidr m.current.vcpu

theorem idle_of_same (idle : Idle m) (same : SamePlace m m') : Idle m' := by
  constructor
  · rw [same.seeded, same.current]
    exact idle.current
  · rw [same.seeded, same.ctx]
    exact idle.blank

/-- What stays in place, but for the timer, stays sound if the refill interrupt is right and the
registers that stand for a physical interrupt are. -/
theorem Sound.rebuild (sound : Sound m) (timer : Ppi)
    (same : SamePlace { m with timer := timer } m')
    (armed : m'.underflow = !(m'.pending m'.current).isEmpty)
    (single : m'.live.bank.countP mapped ≤ 1)
    (active : 0 < m'.live.bank.countP mapped → timer.active = true)
    (stands : ∀ lr ∈ m'.live.bank, mapped lr = true → lrPintid lr = some VTIMER_INTID) :
    Sound m' where
  toIdle := idle_of_same (m := { m with timer := timer }) ⟨sound.toIdle.current, sound.blank⟩ same
  armed := armed
  saved r away := by
    rw [same.ctx]
    exact sound.saved r (same.current ▸ away)
  single := single
  active some_mapped := by
    rw [same.timer]
    exact active some_mapped
  stands := stands
  address := by
    rw [same.vttbrEl2, same.vttbr, same.current]
    exact sound.address
  identity := by
    rw [same.vmpidrEl2, same.current]
    exact sound.identity

theorem Sound.transfer (sound : Sound m) (same : SamePlace m m')
    (armed : m'.underflow = !(m'.pending m'.current).isEmpty)
    (count : m'.live.bank.countP mapped = m.live.bank.countP mapped)
    (stands : ∀ lr ∈ m'.live.bank, mapped lr = true → lr ∈ m.live.bank) : Sound m' := by
  apply sound.rebuild m.timer same armed
  · rw [count]
    exact sound.single
  · rw [count]
    exact sound.active
  · exact fun lr member maps => sound.stands lr (stands lr member maps) maps

theorem stands_inject {bank : List UInt64} {lr : UInt64} (member : lr ∈ (inject intid bank).2)
    (maps : mapped lr = true) : lr ∈ bank := by
  rw [inject_eq] at member
  cases mem_place member with
  | inl new =>
      rw [new, (virtual_spec intid).2.2] at maps
      cases maps
  | inr old => exact old

theorem isEmpty_mark (set : PendingSet) (named : intid.toNat < NUM_INTIDS) :
    (set.mark intid).2.isEmpty = false := by
  refine Bool.eq_false_iff.mpr fun empty => ?_
  have waits := PendingSet.isEmpty_iff_waits.mp empty intid
  rw [PendingSet.waits_mark set named, decide_eq_true rfl, Bool.or_true] at waits
  cases waits

theorem Sound.deliverTo (sound : Sound m) (named : intid.toNat < NUM_INTIDS)
    (sameGuest : own.guest = m.current.guest) : Sound (m.deliverTo kind intid own) := by
  obtain ⟨same, delivery⟩ := deliverTo_cases kind named sameGuest
  cases delivery with
  | injected running room bank pending underflow _ =>
      apply sound.transfer same
      · rw [underflow, pending, same.current]
        exact sound.armed
      · rw [bank]
        exact mapped_inject
      · rw [bank]
        exact fun lr => stands_inject
  | deferred running full live pending underflow _ =>
      apply sound.transfer same
      · rw [underflow, pending, same.current, if_pos running.symm, isEmpty_mark _ named]
        rfl
      · rw [live]
      · rw [live]
        exact fun _ member _ => member
  | routed sibling live pending underflow _ =>
      apply sound.transfer same
      · rw [underflow, pending, same.current, if_neg sibling.symm]
        exact sound.armed
      · rw [live]
      · rw [live]
        exact fun _ member _ => member

theorem Sound.note (sound : Sound m) (names : UInt64 → Bool) :
    Sound (m.noteAffinityCollisions names) := by
  unfold noteAffinityCollisions
  dsimp only
  split_ifs
  · exact sound.transfer ⟨rfl, rfl, rfl, rfl, rfl, rfl, rfl⟩ sound.armed rfl
      fun _ member _ => member
  · exact sound

theorem Sound.deliverSpi {route : Irouter.SpiRoute} (sound : Sound m)
    (named : intid.toNat < NUM_INTIDS) : Sound (m.deliverSpi route intid) := by
  have noted := samePlace_note (m := m) route.targets
  have served := deliverSpi_cases (m := m) route intid
  generalize m.deliverSpi route intid = m' at served ⊢
  cases served with
  | routed own_guest found =>
      apply (sound.note _).deliverTo named
      rw [noted.current, own_guest]
  | unroutable absent =>
      exact (sound.note route.targets).transfer ⟨rfl, rfl, rfl, rfl, rfl, rfl, rfl⟩
        (sound.note route.targets).armed rfl fun _ member _ => member

theorem Sound.unmapped (sound : Sound m) (inactive : m.timer.active = false) :
    m.live.bank.countP mapped = 0 := by
  refine Nat.eq_zero_of_not_pos fun some_mapped => ?_
  rw [sound.active some_mapped] at inactive
  cases inactive

theorem Sound.takeTimer (sound : Sound m) (inactive : m.timer.active = false) (wanted : Bool) :
    Sound (m.takeTimer wanted) := by
  have unmapped := sound.unmapped inactive
  have taken := takeTimer_cases (m := m) wanted
  generalize m.takeTimer wanted = m' at taken ⊢
  cases taken with
  | masked =>
      refine sound.rebuild ⟨false, false⟩ (.refl _) sound.armed sound.single ?_
        sound.stands
      exact fun some_mapped => absurd unmapped (Nat.ne_of_gt some_mapped)
  | deferred full same live pending underflow _ =>
      apply sound.rebuild _ same
      · rw [underflow, pending, same.current]
        exact sound.armed
      · exact live ▸ sound.single
      · exact fun _ => rfl
      · exact live ▸ sound.stands
  | forwarded room same bank pending underflow _ =>
      obtain ⟨lr, -, -, maps, pintid, injected⟩ :=
        injectHw_spec VTIMER_INTID (by decide)
      rw [injected] at bank
      apply sound.rebuild _ same
      · rw [underflow, pending, same.current]
        exact sound.armed
      · rw [bank, countP_place quiet_mapped room, unmapped, maps]
        exact le_refl 1
      · exact fun _ => rfl
      · intro lr' member maps'
        rw [bank] at member
        cases mem_place member with
        | inl new => rw [new, pintid]
        | inr old => exact sound.stands lr' old maps'

theorem Sound.takeMaintenance (sound : Sound m) : Sound m.takeMaintenance := by
  have flushed := flush_spec m.live.bank (m.pending m.current)
  apply sound.transfer samePlace_takeMaintenance _ flushed.mapped flushed.stands
  have left_over : m.takeMaintenance.pending m.current =
      (flushPendingToLrs m.live.bank (m.pending m.current)).2.1 :=
    (pending_setPending ..).trans (if_pos rfl)
  rw [samePlace_takeMaintenance.current, left_over]
  rfl

theorem unmapped_kept (sound : Sound m) (r : Role G V) : (m.kept r).bank.countP mapped = 0 := by
  rw [kept]
  split_ifs with here
  · exact countP_demote _
  · exact sound.saved r here

theorem Switched.sound (done : Switched next wants m m') (sound : Sound m)
    (seeded : m.seeded next = true) : Sound m' := by
  have flushed := flush_spec (m.kept next).bank (m.pending next)
  have unmapped : m'.live.bank.countP mapped = 0 := by
    rw [done.bank, refill, flushed.mapped, unmapped_kept sound]
  constructor
  case toIdle =>
    constructor
    · rw [done.current, done.seeded]
      exact seeded
    · intro r unseeded
      rw [done.seeded] at unseeded
      have away : r ≠ m.current := by
        rintro rfl
        exact Bool.false_ne_true (unseeded.symm.trans sound.toIdle.current)
      rw [done.ctx, kept, if_neg away]
      exact sound.blank r unseeded
  case armed =>
    rw [done.current]
    exact done.underflow
  case saved =>
    intro r _
    rw [done.ctx]
    exact unmapped_kept sound r
  case single => exact unmapped ▸ Nat.zero_le 1
  case active => exact fun some_mapped => absurd unmapped (Nat.ne_of_gt some_mapped)
  case stands =>
    intro lr member maps
    exact absurd maps (List.countP_eq_zero.mp unmapped lr member)
  case address => rw [done.vttbrEl2, done.vttbr, done.current]
  case identity => rw [done.vmpidrEl2, done.current]

theorem mapped_withState {lr : UInt64} {state : LrState} (occupied : lrIsFree lr = false) :
    mapped (withState lr state) = (mapped lr && state ≠ .invalid) := by
  rw [mapped, mapped, lrIsHw_withState, lrIsFree, lrState_withState, occupied]
  cases state <;> cases lrIsHw lr <;> rfl

theorem countP_set_state {bank : List UInt64} {k : Nat} {lr : UInt64} (state : LrState)
    (here : bank[k]? = some lr) (occupied : lrIsFree lr = false) :
    (bank.set k (withState lr state)).countP mapped +
      (if mapped lr ∧ state = .invalid then 1 else 0) = bank.countP mapped := by
  obtain ⟨inside, at_k⟩ := List.getElem?_eq_some_iff.mp here
  have moved : (if mapped (withState lr state) = true then 1 else 0) +
      (if mapped lr = true ∧ state = .invalid then 1 else 0) =
        if mapped lr = true then 1 else 0 := by
    rw [mapped_withState occupied]
    by_cases invalid : state = .invalid <;> cases mapped lr <;> simp [invalid]
  have counted := List.countP_set (p := mapped) (a := withState lr state) inside
  have one := List.boole_getElem_le_countP (p := mapped) inside
  rw [at_k] at counted one
  omega

theorem getElem?_register {k : Nat} (inside : k < lrs) : m.live.bank[k]? = some (m.register k) := by
  have bounded : k < m.live.bank.length := by
    rw [VcpuCtx.bank, m.live.vgic.sized]
    exact inside
  rw [register, List.getElem?_eq_getElem bounded, Option.getD_some]

theorem Sound.useInterface (sound : Sound m) {k : Nat} (state : LrState) (inside : k < lrs)
    (occupied : lrIsFree (m.register k) = false) : Sound (m.useInterface k state) := by
  have here := getElem?_register (m := m) inside
  have count := countP_set_state state here occupied
  have stands : ∀ lr ∈ m.live.bank.set k (withState (m.register k) state), mapped lr = true →
      lrPintid lr = some VTIMER_INTID := by
    intro lr member maps
    cases List.mem_or_eq_of_mem_set member with
    | inl old => exact sound.stands lr old maps
    | inr new =>
        rw [new, mapped_withState occupied, Bool.and_eq_true] at maps
        rw [new, lrPintid_withState]
        exact sound.stands _ (List.mem_of_getElem? here) maps.1
  have bound := sound.single
  have used := useInterface_cases (m := m) k state
  generalize m.useInterface k state = m' at used ⊢
  cases used with
  | ended maps invalid same bank pending underflow _ =>
      rw [if_pos ⟨maps, invalid⟩] at count
      apply sound.rebuild _ same
      · rw [underflow, pending, same.current]
        exact sound.armed
      · rw [bank]
        omega
      · rw [bank]
        omega
      · exact bank ▸ stands
  | moved kept same bank pending underflow _ =>
      apply sound.rebuild m.timer same
      · rw [underflow, pending, same.current]
        exact sound.armed
      · rw [bank]
        omega
      · intro some_mapped
        rw [bank] at some_mapped
        exact sound.active (by omega)
      · exact bank ▸ stands

theorem sound_step (sound : Sound m) (e : Event G V aps) (allowed : m.may e) :
    Sound (step e m) := by
  cases e with
  | sgi value =>
      refine (sendSgi_keeps (P := Sound) (sound.note _) fun own s sameGuest _ still => ?_).2
      exact still.deliverTo sgi_named sameGuest
  | spi route intid => exact sound.deliverSpi allowed
  | timer wanted => exact sound.takeTimer allowed.2 wanted
  | maintenance => exact sound.takeMaintenance
  | mirror enabled =>
      exact sound.rebuild _ (.refl _) sound.armed sound.single sound.active sound.stands
  | seed own entry contextId sctlr =>
      have blank : (VcpuCtx.seedBoot entry contextId SPSR_EL2_LINUX sctlr :
          VcpuCtx lrs aps).bank.countP mapped = 0 := by
        rw [List.countP_eq_zero]
        intro lr member
        rw [List.eq_of_mem_replicate member]
        decide
      refine { sound with toIdle := idle_step sound.toIdle _ allowed, saved := fun r away => ?_ }
      rw [step, ctx_seed]
      split_ifs
      · exact blank
      · exact sound.saved r away
  | switch next wants => exact (step_switch wants allowed).sound sound allowed
  | interface k state => exact sound.useInterface state allowed.1 allowed.2
  | compute x regs fp vmcr apr =>
      exact { sound with toIdle := ⟨sound.toIdle.current, sound.blank⟩ }

/-- A refill goes on until nothing waits for the vCPU that runs or its bank is full. -/
def Served (m : Machine G V lrs aps) : Prop :=
  (m.pending m.current).isEmpty = true ∨ hasFree m.live.bank = false

theorem served_takeMaintenance : Served m.takeMaintenance := by
  have left_over : m.takeMaintenance.pending m.current =
      (flushPendingToLrs m.live.bank (m.pending m.current)).2.1 :=
    (pending_setPending ..).trans (if_pos rfl)
  rw [Served, samePlace_takeMaintenance.current, left_over]
  exact (flush_spec m.live.bank (m.pending m.current)).exhausted

theorem Switched.served (done : Switched next wants m m') : Served m' := by
  rw [Served, done.current, done.pending, if_pos rfl, done.bank]
  exact (flush_spec (m.kept next).bank (m.pending next)).exhausted

theorem sound_boot [NeZero V] (slot : Fin G) (live : VcpuCtx lrs aps) (vttbr : Fin G → UInt64)
    (images : Fin G → UInt64 × UInt64) (sctlr : UInt64) :
    Sound (boot slot live vttbr images sctlr : Machine G V lrs aps) := by
  have zeros : ∀ lr ∈ List.replicate lrs (0 : UInt64), mapped lr = false := by
    intro lr member
    rw [List.eq_of_mem_replicate member]
    decide
  have unmapped : (List.replicate lrs (0 : UInt64)).countP mapped = 0 :=
    List.countP_eq_zero.mpr fun lr member => Bool.eq_false_iff.mp (zeros lr member)
  constructor
  case toIdle => exact idle_boot ..
  case armed =>
    have empty : PendingSet.new.isEmpty = true :=
      PendingSet.isEmpty_iff_waits.mpr fun _ => PendingSet.waits_new
    exact (congrArg not empty).symm
  case saved =>
    intro r _
    rw [bank_boot]
    exact unmapped
  case single => exact unmapped.le.trans (Nat.zero_le 1)
  case active => exact fun some_mapped => absurd unmapped (Nat.ne_of_gt some_mapped)
  case stands =>
    intro lr member maps
    rw [zeros lr member] at maps
    cases maps
  case address => rfl
  case identity => rfl

/-- Every state of every run is sound, and each refill of one serves the vCPU that runs. -/
theorem always_sound [NeZero V] (slot : Fin G) (live : VcpuCtx lrs aps) (vttbr : Fin G → UInt64)
    (images : Fin G → UInt64 × UInt64) (sctlr : UInt64) {run : List (Event G V aps)}
    (legal : Guarded.Legal may step run (boot slot live vttbr images sctlr)) :
    let m := Guarded.after step run (boot slot live vttbr images sctlr)
    Sound m ∧ Served (step .maintenance m) ∧
      ∀ next wants, m.may (.switch next wants) → Served (step (.switch next wants) m) := by
  have sound := legal.keeps (P := Sound) (fun m e sound allowed => sound_step sound e allowed)
    (sound_boot slot live vttbr images sctlr)
  exact ⟨sound, served_takeMaintenance, fun next wants allowed =>
    (step_switch wants allowed).served⟩

theorem always_sound_full :
    let start : Machine 2 2 1 1 := boot 0 .new (fun _ => 0) (fun _ => (0, 0)) 0
    let m := Guarded.after step [.sgi 1, .timer true, .sgi 0x1000001, .switch ⟨1, 0⟩ true] start
    Sound m ∧ Served (step .maintenance m) ∧
      ∀ next wants, m.may (.switch next wants) → Served (step (.switch next wants) m) :=
  always_sound 0 .new _ _ 0 (by decide)

end Baleen.Metal.Machine
