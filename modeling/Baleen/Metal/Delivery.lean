import Baleen.Lib.Visit
import Baleen.Metal.Events

/-!
# Where interrupts are

An interrupt that is on its way to a vCPU is in one of its list registers, on the physical CPU or
in its saved context, or it waits in its pending set.  A delivery adds to one vCPU of the guest that
runs and touches no other.
-/

namespace Baleen.Metal.Machine

open Gic

variable {G V lrs aps : Nat} {m m' : Machine G V lrs aps} {r own : Role G V} {kind : Kind}
  {intid i : UInt32}

@[simp] theorem bank_withBank (c : VcpuCtx lrs aps) (bank : List UInt64)
    (same : bank.length = c.vgic.lr.length) : (c.withBank bank same).bank = bank := rfl

theorem tally_of_update {slot : Fin G} {f : Tally → Tally}
    (counted : m'.tally = Function.update m.tally slot (f (m.tally slot))) (g : Fin G) :
    m'.tally g = if g = slot then f (m.tally g) else m.tally g := by
  rw [counted, Function.update_apply]
  split_ifs with here
  · rw [here]
  · rfl

@[simp] theorem tally_count (slot g : Fin G) (f : Tally → Tally) (m : Machine G V lrs aps) :
    (m.count slot f).tally g = if g = slot then f (m.tally g) else m.tally g :=
  tally_of_update rfl g

@[simp] theorem pending_setPending (who r : Role G V) (set : PendingSet)
    (m : Machine G V lrs aps) :
    (m.setPending who set).pending r = if r = who then set else m.pending r :=
  Function.update_apply ..

section Writes

variable (slot : Fin G) (f : Tally → Tally) (c : VcpuCtx lrs aps) (who : Role G V)
    (set : PendingSet)
  (m : Machine G V lrs aps)

@[simp] theorem current_count : (m.count slot f).current = m.current := rfl

@[simp] theorem live_count : (m.count slot f).live = m.live := rfl

@[simp] theorem ctx_count : (m.count slot f).ctx = m.ctx := rfl

@[simp] theorem pending_count : (m.count slot f).pending = m.pending := rfl

@[simp] theorem timer_count : (m.count slot f).timer = m.timer := rfl

@[simp] theorem current_setLive : (m.setLive c).current = m.current := rfl

@[simp] theorem live_setLive : (m.setLive c).live = c := rfl

@[simp] theorem ctx_setLive : (m.setLive c).ctx = m.ctx := rfl

@[simp] theorem pending_setLive : (m.setLive c).pending = m.pending := rfl

@[simp] theorem tally_setLive : (m.setLive c).tally = m.tally := rfl

@[simp] theorem current_setPending : (m.setPending who set).current = m.current := rfl

@[simp] theorem live_setPending : (m.setPending who set).live = m.live := rfl

@[simp] theorem tally_setPending : (m.setPending who set).tally = m.tally := rfl

end Writes

/-- What belongs to a vCPU, on the physical CPU or in its saved context. -/
def home (m : Machine G V lrs aps) (r : Role G V) : VcpuCtx lrs aps :=
  if r = m.current then m.live else m.ctx r

/-- The list registers of a vCPU and its pending set. -/
def inbox (m : Machine G V lrs aps) (r : Role G V) : List UInt64 × PendingSet :=
  ((m.home r).bank, m.pending r)

/-- How often an interrupt is in an inbox. -/
def load (i : UInt32) (box : List UInt64 × PendingSet) : Nat := copies i box.1 + waiting box.2 i

/-- How often an interrupt is on its way to a vCPU. -/
def held (r : Role G V) (i : UInt32) (m : Machine G V lrs aps) : Nat := load i (m.inbox r)

theorem home_current (here : r = m.current) : m.home r = m.live := if_pos here

theorem home_other (away : r ≠ m.current) : m.home r = m.ctx r := if_neg away

theorem inbox_here (here : r = m.current) : m.inbox r = (m.live.bank, m.pending r) := by
  rw [inbox, home_current here]

theorem inbox_away (away : r ≠ m.current) : m.inbox r = ((m.ctx r).bank, m.pending r) := by
  rw [inbox, home_other away]

/-- What a delivery leaves alone. -/
structure SamePlace (m m' : Machine G V lrs aps) : Prop where
  current : m'.current = m.current
  timer : m'.timer = m.timer
  vttbrEl2 : m'.vttbrEl2 = m.vttbrEl2
  vmpidrEl2 : m'.vmpidrEl2 = m.vmpidrEl2
  vttbr : m'.vttbr = m.vttbr
  ctx : m'.ctx = m.ctx
  seeded : m'.seeded = m.seeded

theorem SamePlace.refl (m : Machine G V lrs aps) : SamePlace m m :=
  ⟨rfl, rfl, rfl, rfl, rfl, rfl, rfl⟩

theorem SamePlace.trans {m₁ m₂ m₃ : Machine G V lrs aps} (first : SamePlace m₁ m₂)
    (second : SamePlace m₂ m₃) : SamePlace m₁ m₃ where
  current := second.current.trans first.current
  timer := second.timer.trans first.timer
  vttbrEl2 := second.vttbrEl2.trans first.vttbrEl2
  vmpidrEl2 := second.vmpidrEl2.trans first.vmpidrEl2
  vttbr := second.vttbr.trans first.vttbr
  ctx := second.ctx.trans first.ctx
  seeded := second.seeded.trans first.seeded

/-- One target is served in one of three ways. -/
inductive Delivery (kind : Kind) (intid : UInt32) (own : Role G V) (m m' : Machine G V lrs aps) :
    Prop where
  | injected (running : own = m.current) (room : hasFree m.live.bank = true)
      (bank : m'.live.bank = (inject intid m.live.bank).2) (pending : m'.pending = m.pending)
      (underflow : m'.underflow = m.underflow)
      (tally : ∀ g, m'.tally g = if g = m.current.guest then (m.tally g).dispose kind fun d =>
        { d with named := d.named + 1, delivered := d.delivered + 1 } else m.tally g)
  | deferred (running : own = m.current) (full : hasFree m.live.bank = false)
      (bank : m'.live = m.live)
      (pending : ∀ r, m'.pending r =
        if r = own then ((m.pending own).mark intid).2 else m.pending r)
      (underflow : m'.underflow = true)
      (tally : ∀ g, m'.tally g = if g = m.current.guest then (m.tally g).dispose kind fun d =>
        { d with named := d.named + 1, deferred := d.deferred + 1 } else m.tally g)
  | routed (sibling : own ≠ m.current) (bank : m'.live = m.live)
      (pending : ∀ r, m'.pending r =
        if r = own then ((m.pending own).mark intid).2 else m.pending r)
      (underflow : m'.underflow = m.underflow)
      (tally : ∀ g, m'.tally g = if g = m.current.guest then (m.tally g).dispose kind fun d =>
        { d with named := d.named + 1, routed := d.routed + 1 } else m.tally g)

theorem dispose_dispose (t : Tally) (kind : Kind) (f g : Dispositions → Dispositions) :
    (t.dispose kind f).dispose kind g = t.dispose kind (g ∘ f) := by
  cases kind <;> rfl

theorem deliverTo_cases (kind : Kind) (named : intid.toNat < NUM_INTIDS)
    (sameGuest : own.guest = m.current.guest) :
    SamePlace m (m.deliverTo kind intid own) ∧
      Delivery kind intid own m (m.deliverTo kind intid own) := by
  have accepted := fun set => (PendingSet.mark_named set named).1
  unfold deliverTo
  by_cases running : own = m.current
  · have same : own.vcpu = m.current.vcpu := congrArg _ running
    rw [if_pos same, deliverOrDeferVint]
    cases room : hasFree m.live.bank with
    | true =>
        simp only [live_count, pending_count, current_count, inject_fst, room, if_true]
        refine ⟨⟨rfl, rfl, rfl, rfl, rfl, rfl, rfl⟩, .injected running room rfl rfl rfl fun g => ?_⟩
        simp only [tally_count, tally_setLive]
        split_ifs
        · exact dispose_dispose ..
        · rfl
    | false =>
        simp only [live_count, pending_count, current_count, inject_fst, room, Bool.false_eq_true,
          if_false, accepted, if_true]
        refine ⟨⟨rfl, rfl, rfl, rfl, rfl, rfl, rfl⟩, .deferred running room rfl (fun r => ?_) rfl
          fun g => ?_⟩
        · subst running
          exact pending_setPending ..
        · simp only [tally_count, tally_setPending]
          split_ifs
          · exact dispose_dispose ..
          · rfl
  · have other : ¬own.vcpu = m.current.vcpu := by
      intro same
      apply running
      obtain ⟨g, v⟩ := own
      cases sameGuest
      cases same
      rfl
    rw [if_neg other, markSibling, if_pos (accepted _)]
    refine ⟨⟨rfl, rfl, rfl, rfl, rfl, rfl, rfl⟩, .routed running rfl (fun r => ?_) rfl fun g => ?_⟩
    · exact pending_setPending ..
    · exact tally_count ..

/-- What a delivery makes of the inbox of its target. -/
def receive (running : Bool) (intid : UInt32) (box : List UInt64 × PendingSet) :
    List UInt64 × PendingSet :=
  if running && hasFree box.1 then ((inject intid box.1).2, box.2)
  else (box.1, (box.2.mark intid).2)

/-- It waits already and there is no register to put it into. -/
def absorbs (running : Bool) (intid : UInt32) (box : List UInt64 × PendingSet) : Bool :=
  box.2.waits intid && !(running && hasFree box.1)

theorem waiting_mark (set : PendingSet) (named : intid.toNat < NUM_INTIDS) :
    waiting (set.mark intid).2 i + (if intid = i ∧ set.waits intid then 1 else 0) =
      waiting set i + if intid = i then 1 else 0 := by
  rw [waiting, waiting, PendingSet.waits_mark set named]
  by_cases same : intid = i
  · subst same
    cases set.waits intid <;> simp
  · simp [same]

theorem load_receive (running : Bool) (box : List UInt64 × PendingSet)
    (named : intid.toNat < NUM_INTIDS) :
    load i (receive running intid box) + (if intid = i ∧ absorbs running intid box then 1 else 0) =
      load i box + if intid = i then 1 else 0 := by
  rw [receive, absorbs, load, load]
  cases room : running && hasFree box.1 with
  | true =>
      rw [Bool.and_eq_true] at room
      rw [if_pos rfl, copies_inject room.2]
      simp
      omega
  | false =>
      have marked := waiting_mark (i := i) box.2 named
      simp only [Bool.false_eq_true, if_false, Bool.not_false, Bool.and_true]
      omega

theorem inbox_deliverTo (named : intid.toNat < NUM_INTIDS)
    (sameGuest : own.guest = m.current.guest) :
    (m.deliverTo kind intid own).inbox r =
      if r = own then receive (own = m.current) intid (m.inbox r) else m.inbox r := by
  obtain ⟨same, delivery⟩ := deliverTo_cases kind named sameGuest
  have away : r ≠ m.current → (m.deliverTo kind intid own).home r = m.home r := by
    intro elsewhere
    rw [home_other elsewhere, home_other (same.current ▸ elsewhere), same.ctx]
  have here : r = m.current →
    (m.deliverTo kind intid own).home r = (m.deliverTo kind intid own).live :=
    fun running => home_current (running.trans same.current.symm)
  cases delivery with
  | injected running room bank pending _ _ =>
      by_cases target : r = own
      · have current := target.trans running
        rw [if_pos target, inbox, inbox, here current, home_current current, receive, bank, pending,
          room]
        simp [running]
      · rw [if_neg target, inbox, inbox, away (running ▸ target), pending]
  | deferred running full bank pending _ _ =>
      by_cases target : r = own
      · have current := target.trans running
        rw [if_pos target, inbox, inbox, here current, home_current current, receive, bank, pending,
          full, if_pos target]
        simp [target]
      · rw [if_neg target, inbox, inbox, away (running ▸ target), pending, if_neg target]
  | routed sibling bank pending _ _ =>
      have unmoved : (m.deliverTo kind intid own).home r = m.home r := by
        by_cases current : r = m.current
        · rw [here current, home_current current, bank]
        · exact away current
      by_cases target : r = own
      · rw [if_pos target, inbox, inbox, unmoved, receive, pending, if_pos target]
        simp [sibling, target]
      · rw [if_neg target, inbox, inbox, unmoved, pending, if_neg target]

end Baleen.Metal.Machine
