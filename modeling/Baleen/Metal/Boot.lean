import Baleen.Lib.Keeps
import Baleen.Metal.Handlers

/-!
# The boot

Building the domains changes neither the scheduler nor the event channels, and every domain that was
created stays alive.  So every vCPU is offline when the boot vCPUs are admitted, and the first guest
is entered in a coherent state, with nothing counted.
-/

namespace Baleen.Metal.Plan

open Sched RoundRobin Pl011 Hypervisor

variable {G V lrs aps : Nat} {plan : Plan G V} {h : Host G V lrs aps}
  {hv₀ hv hv' : Hypervisor} {call : HvCall} {caller target : DomId}

/-- The calls that build a domain. -/
def builds : HvCall → Bool
  | .domainCreate .. | .p2mAllocate .. | .p2mPin .. | .p2mLink .. => true
  | _ => false

structure Kept (hv₀ hv : Hypervisor) : Prop where
  sched : hv.sched = hv₀.sched
  evtchn : hv.evtchn = hv₀.evtchn
  count : hv.domainCount = hv₀.domainCount
  alive : ∀ dom, hv₀.isLive dom = true → hv.isLive dom = true

theorem Kept.refl (hv : Hypervisor) : Kept hv hv := ⟨rfl, rfl, rfl, fun _ => id⟩

theorem Kept.trans {hv₁ hv₂ hv₃ : Hypervisor} (first : Kept hv₁ hv₂) (second : Kept hv₂ hv₃) :
    Kept hv₁ hv₃ where
  sched := second.sched.trans first.sched
  evtchn := second.evtchn.trans first.evtchn
  count := second.count.trans first.count
  alive dom live := second.alive dom (first.alive dom live)

theorem Kept.onP2m {α : Type} (x : Op P2m.System P2m.P2mError α) :
    Op.Keeps (Kept hv₀) (Hypervisor.onP2m x) :=
  fun _ kept => ⟨kept.sched, kept.evtchn, kept.count, kept.alive⟩

theorem isLive_iff {dom : DomId} : hv.isLive dom = true ↔ hv.life[dom.toNat]? = some .live :=
  decide_eq_true_iff

theorem Kept.domainCreate (b : Bool) :
    Op.Keeps (Kept hv₀) (Hypervisor.domainCreate caller target b) := by
  refine (Op.Keeps.ensure _ _).bind fun _ => (Op.Keeps.ensure _ _).bind fun _ =>
    (Op.Keeps.ensure _ _).bind fun _ => ?_
  refine Op.Keeps.bind (Op.Keeps.modify fun hv kept => ?_) fun _ =>
    Op.Keeps.bind (Op.Keeps.modify fun hv kept => ?_) fun _ => Op.Keeps.pure _
  · refine ⟨kept.sched, kept.evtchn, kept.count, fun dom live => ?_⟩
    have before := isLive_iff.mp (kept.alive dom live)
    refine isLive_iff.mpr ?_
    dsimp only
    rw [List.getElem?_set]
    split_ifs with same inside
    · rfl
    · rw [← same, List.getElem?_eq_none (Nat.not_lt.mp inside)] at before
      cases before
    · exact before
  · exact ⟨kept.sched, kept.evtchn, kept.count, kept.alive⟩

theorem Kept.dispatch (building : builds call = true) :
    Op.Keeps (Kept hv₀) (Hypervisor.dispatch caller call) := by
  refine (Op.Keeps.ensure _ _).bind fun _ => (Op.Keeps.ensure _ _).bind fun _ => ?_
  cases call with
  | domainCreate target b => exact .domainCreate b
  | p2mAllocate mfn => exact (Kept.onP2m _).bind fun _ => Op.Keeps.pure _
  | p2mPin mfn level => exact (Kept.onP2m _).bind fun _ => Op.Keeps.pure _
  | p2mLink parent slot child writable leaf execute =>
      exact (Op.Keeps.ensure _ _).bind fun _ => (Kept.onP2m _).bind fun _ => Op.Keeps.pure _
  | _ => cases building

/-- A domain that was created is there, and lives. -/
theorem created {b : Bool} {o : HvOutcome}
    (ran : Hypervisor.dispatch caller (.domainCreate target b) hv = (.ok o, hv')) :
    target.toNat < hv.domainCount ∧ hv'.isLive target = true := by
  simp only [Hypervisor.dispatch, route, Hypervisor.domainCreate, inRange,
    Op.ensure_bind_eq_ok, Op.modify_bind_apply, decide_eq_true_iff] at ran
  obtain ⟨-, -, inside, -, dead, ran⟩ := ran
  refine ⟨inside, ?_⟩
  have there : target.toNat < hv.life.length := by
    refine Nat.not_le.mp fun outside => ?_
    rw [lifeOf, List.getElem?_eq_none outside] at dead
    cases dead
  cases ran
  refine isLive_iff.mpr ?_
  exact List.getElem?_set_self there

theorem dispatchAll_kept {calls : List (DomId × HvCall)}
    (building : ∀ c ∈ calls, builds c.2 = true) (ran : dispatchAll calls hv = .ok hv') :
    Kept hv hv' ∧ ∀ caller target b, (caller, HvCall.domainCreate target b) ∈ calls →
      target.toNat < hv.domainCount ∧ hv'.isLive target = true := by
  induction calls generalizing hv with
  | nil =>
      cases ran
      exact ⟨.refl _, fun _ _ _ member => absurd member List.not_mem_nil⟩
  | cons c rest ih =>
      obtain ⟨caller, call⟩ := c
      rw [dispatchAll] at ran
      cases dispatched : Hypervisor.dispatch caller call hv with
      | mk outcome hv₁ =>
          rw [dispatched] at ran
          have first : Kept hv hv₁ := (Kept.dispatch (building _ List.mem_cons_self)).ran
            (.refl hv) dispatched
          cases outcome with
          | error e => cases ran
          | ok o =>
              obtain ⟨later, live⟩ := ih
                (fun c member => building c (List.mem_cons_of_mem _ member)) ran
              refine ⟨first.trans later, fun caller' target b member => ?_⟩
              rcases List.mem_cons.mp member with here | there
              · cases here
                obtain ⟨inside, alive⟩ := created dispatched
                exact ⟨inside, later.alive _ alive⟩
              · obtain ⟨inside, alive⟩ := live caller' target b there
                exact ⟨first.count ▸ inside, alive⟩

theorem modelCalls_build (slot : Fin G) : ∀ c ∈ plan.modelCalls slot, builds c.2 = true := by
  intro c member
  simp only [modelCalls, List.mem_cons, List.mem_flatMap] at member
  rcases member with rfl | ⟨t, -, rfl | rfl | ⟨k, -, one⟩⟩
  · rfl
  · rfl
  · rfl
  · simp only [List.not_mem_nil, or_false] at one
    rcases one with rfl | rfl <;> rfl

theorem permits_fullMask {n : Nat} (carried : 0 < n) : maskPermits (fullMask n) PCPU0 = true := by
  have low : (fullMask n).testBit 0 = true := by
    unfold fullMask
    split_ifs
    · rw [Nat.testBit_two_pow_sub_one]
      rfl
    · rw [Nat.testBit_two_pow_sub_one]
      exact decide_eq_true carried
  rw [maskPermits, Bool.and_eq_true]
  exact ⟨rfl, low⟩

theorem quiet_new (doms ports : Nat) (dom : DomId) (port : Evtchn.Port) :
    (Evtchn.System.new doms ports).deliverable dom port = false := by
  have free : ∀ {c}, (Evtchn.System.new doms ports).chan dom port = .ok c → c = .FREE := by
    intro c found
    simp only [Evtchn.System.chan, Evtchn.System.domain, Evtchn.System.new, Grid.fill,
      List.getElem?_replicate] at found
    split_ifs at found with inside
    · simp only [List.getElem?_replicate] at found
      split_ifs at found
      exact (Except.ok.inj found).symm
  rw [Evtchn.System.deliverable]
  cases found : (Evtchn.System.new doms ports).chan dom port with
  | error e => rfl
  | ok c =>
      cases free found
      rfl

/-- Before anybody is admitted every vCPU is offline. -/
theorem placed_built (built : plan.buildModel = .ok hv) :
    plan.Placed hv ∧ ∀ r, plan.phases hv r = .offline := by
  obtain ⟨kept, live⟩ := dispatchAll_kept (fun c member => by
    obtain ⟨slot, -, own⟩ := List.mem_flatMap.mp member
    exact modelCalls_build slot c own) built
  have alive : ∀ slot, (plan.slotDom slot).toNat < plan.config.numDomains ∧
      hv.isLive (plan.slotDom slot) = true := by
    intro slot
    obtain ⟨inside, alive⟩ := live Part.DOM0 (plan.slotDom slot) false
      (List.mem_flatMap.mpr ⟨slot, List.mem_finRange slot, List.mem_cons_self⟩)
    refine ⟨?_, alive⟩
    rw [domainCount, Hypervisor.new, List.length_replicate] at inside
    exact inside
  have count : hv.domainCount = plan.config.numDomains := by
    rw [kept.count, domainCount, Hypervisor.new, List.length_replicate]
  have sched : hv.sched = System.new plan.config.numDomains plan.config.vcpusPerDomain
      plan.config.numPcpus := kept.sched
  have found : ∀ r : Role G V, hv.sched.vcpu? (plan.slotDom r.guest) r.model =
      some { VirtualCpu.OFFLINE with affinity := fullMask plan.config.numPcpus } := by
    intro r
    rw [sched, System.vcpu?, System.new, Grid.get?_fill, if_pos]
    refine ⟨(alive r.guest).1, ?_⟩
    rw [plan.toNat_model]
    exact Nat.lt_of_lt_of_le r.vcpu.isLt plan.room
  refine ⟨?_, fun r => ?_⟩
  · constructor
    case alive => exact fun slot => ⟨count ▸ (alive slot).1, (alive slot).2⟩
    case known =>
      refine fun r => ⟨_, found r, permits_fullMask plan.carried, fun p runs => ?_⟩
      cases runs
    case permitted =>
      rw [sched, System.fullAffinity, System.new, List.length_replicate]
      exact permits_fullMask plan.carried
    case present =>
      rw [sched, System.new, List.length_replicate]
      exact plan.carried
    case consistent =>
      rw [sched]
      exact System.Consistent.new ..
    case free =>
      intro _
      rw [sched, System.new, List.getElem?_replicate, if_pos plan.carried]
    case quiet =>
      intro dom port
      rw [kept.evtchn]
      exact quiet_new ..
  · rw [phases, System.stateOf, found]
    rfl

variable [NeZero V]

theorem isBoot_iff {r : Role G V} : r.isBoot = true ↔ r = ⟨r.guest, 0⟩ := by
  rw [Role.isBoot, decide_eq_true_iff]
  constructor
  · intro first
    obtain ⟨g, v⟩ := r
    exact congrArg (Role.mk g) (Fin.ext first)
  · intro same
    exact congrArg (fun s : Role G V => s.vcpu.val) same

theorem admitAll_ok {slots : List (Fin G)} (distinct : slots.Nodup) (placed : plan.Placed h.hv)
    (fresh : ∀ g ∈ slots, plan.phases h.hv ⟨g, 0⟩ = .offline) :
    ∃ hv', slots.foldlM plan.admitBoot h = .ok { h with hv := hv' } ∧ plan.Placed hv' ∧
      ∀ r, plan.phases hv' r =
        if r.isBoot = true ∧ r.guest ∈ slots then .runnable else plan.phases h.hv r := by
  induction slots generalizing h with
  | nil => exact ⟨h.hv, rfl, placed, fun r => (if_neg fun both => List.not_mem_nil both.2).symm⟩
  | cons slot rest ih =>
      obtain ⟨apart, distinct⟩ := List.nodup_cons.mp distinct
      obtain ⟨hv₁, ran, moves⟩ := schedAdmit_ok placed (fresh slot List.mem_cons_self)
      have others : ∀ g ∈ rest, plan.phases hv₁ ⟨g, 0⟩ = .offline := by
        intro g member
        rw [moves.phases, Function.update_of_ne]
        · exact fresh g (List.mem_cons_of_mem _ member)
        · rintro ⟨⟩
          exact apart member
      obtain ⟨hv', rans, placed', phases'⟩ :=
        ih (h := { h with hv := hv₁ }) distinct moves.placed others
      refine ⟨hv', ?_, placed', fun r => ?_⟩
      · rw [List.foldlM_cons, admitBoot, ran]
        exact rans
      · rw [phases']
        dsimp only
        rw [moves.phases, Function.update_apply]
        by_cases boot : r.isBoot = true
        · by_cases later : r.guest ∈ rest
          · rw [if_pos ⟨boot, later⟩, if_pos ⟨boot, List.mem_cons_of_mem _ later⟩]
          · rw [if_neg fun both => later both.2]
            by_cases here : r.guest = slot
            · subst here
              rw [if_pos (isBoot_iff.mp boot), if_pos ⟨boot, List.mem_cons_self⟩]
            · rw [if_neg fun same => here (congrArg Role.guest same), if_neg]
              rintro ⟨-, member⟩
              exact (List.mem_cons.mp member).elim here later
        · have other : r ≠ ⟨slot, 0⟩ := by
            rintro rfl
            exact boot (isBoot_iff.mpr rfl)
          rw [if_neg fun both => boot both.1, if_neg other, if_neg fun both => boot both.1]

variable {now : Ticks} {slot : Fin G} {live : VcpuCtx lrs aps} {vttbr : Fin G → UInt64}
  {images : Fin G → UInt64 × UInt64} {sctlr : UInt64}

/-- A boot admits the boot vCPU of every guest and runs the one of the first guest. -/
theorem boot_settled (booted : plan.boot now slot live vttbr images sctlr = .ok h) :
    ∃ hv, h = plan.start hv (.boot slot live vttbr images sctlr) sctlr ∧ plan.Placed hv ∧
      ∀ r, plan.phases hv r =
        if r = ⟨slot, 0⟩ then .running else if r.isBoot = true then .runnable else .offline := by
  rw [boot] at booted
  cases built : plan.buildModel with
  | error e =>
      rw [built] at booted
      cases booted
  | ok hv =>
      rw [built] at booted
      obtain ⟨placed, offline⟩ := placed_built built
      let first := plan.start hv (.boot slot live vttbr images sctlr) sctlr
      obtain ⟨hv₁, ran₁, placed₁, phases₁⟩ :=
        admitAll_ok (h := first) (List.nodup_finRange G) placed
        fun g _ => offline ⟨g, 0⟩
      have admitted : ∀ r, plan.phases hv₁ r = if r.isBoot = true then .runnable else .offline := by
        intro r
        rw [phases₁]
        simp only [List.mem_finRange, and_true]
        congr 1
        exact offline r
      obtain ⟨hv₂, ran₂, moves⟩ := schedRun_ok (h := { first with hv := hv₁ }) (r := ⟨slot, 0⟩)
        placed₁ now ((admitted _).trans (if_pos (isBoot_iff.mpr rfl))) fun r => by
          dsimp only
          rw [admitted]
          split_ifs <;> exact nofun
      dsimp only [Except.mapError, bind, Except.bind] at booted
      rw [ran₁] at booted
      dsimp only at booted
      rw [ran₂] at booted
      cases booted
      refine ⟨hv₂, rfl, moves.placed, fun r => ?_⟩
      rw [moves.phases, Function.update_apply]
      split_ifs with here boot
      · rfl
      · exact (admitted r).trans (if_pos boot)
      · exact (admitted r).trans (if_neg boot)

section Settled

variable {hv : Hypervisor} (settled : ∀ r, plan.phases hv r =
  if r = ⟨slot, 0⟩ then .running else if r.isBoot = true then .runnable else .offline)

include settled

theorem coherent_start (placed : plan.Placed hv) :
    plan.Coherent (plan.start hv (.boot slot live vttbr images sctlr) sctlr) := by
  have off : ∀ r, plan.phases hv r = .offline ↔ r.isBoot = false := by
    intro r
    rw [settled]
    split_ifs with here boot
    · rw [here, isBoot_iff.mpr rfl]
      decide
    · rw [boot]
      decide
    · exact iff_of_true rfl (Bool.eq_false_iff.mpr boot)
  constructor
  case placed => exact placed
  case alone =>
    intro r
    change plan.phases hv r = .running ↔ r = ⟨slot, 0⟩
    rw [settled]
    split_ifs with here
    · exact iff_of_true rfl here
    · exact iff_of_false nofun here
    · exact iff_of_false nofun here
  case seeded =>
    intro r online
    exact Bool.eq_true_of_not_eq_false fun secondary => online ((off r).mpr secondary)
  case fresh => exact fun r _ offline => (off r).mp offline
  case retired => exact fun _ retired => absurd rfl retired
  case present =>
    intro r boot _ offline
    rw [(off r).mp offline] at boot
    cases boot
  case mirrored => exact fun _ => rfl
  case uarts => exact fun _ => DeployedPl011.recorded_new.tracks.within

theorem booked_start : plan.Booked (plan.start hv (.boot slot live vttbr images sctlr) sctlr) := by
  refine ⟨fun r => ⟨rfl, ?_⟩, Nat.le_refl 0, fun _ => rfl, fun g => ?_⟩
  · have awake : plan.phases hv r ≠ .blocked := by
      rw [settled]
      split_ifs <;> exact nofun
    change 0 = 0 + 0 + if plan.phases hv r = .blocked then 1 else 0
    rw [if_neg awake]
  · refine (Finset.card_eq_zero.mpr (Finset.filter_eq_empty_iff.mpr ?_)).symm
    rintro v - ⟨secondary, seeded⟩
    exact Bool.false_ne_true (secondary.symm.trans seeded)

end Settled

/-- The first guest is entered in a coherent state. -/
theorem boot_coherent (booted : plan.boot now slot live vttbr images sctlr = .ok h) :
    plan.Coherent h ∧ plan.Booked h ∧ h.machine = .boot slot live vttbr images sctlr ∧
      ∀ g, h.retirement g = .live := by
  obtain ⟨hv, rfl, placed, settled⟩ := boot_settled booted
  exact ⟨coherent_start settled placed, booked_start settled, rfl, fun _ => rfl⟩

end Baleen.Metal.Plan
