import Mathlib.Algebra.BigOperators.Fin
import Baleen.Metal.Invariant

/-!
# The counters of a run

What the counters of every guest say at any moment of any run.  Each interrupt that was named had
one disposition.  The physical timer was taken back exactly as often as it was deactivated, but for
the one interrupt that a full bank may have put off since the last switch, and every vCPU that came
in found its own floating-point state and active priorities.  The words that hold the counters wrap
around: their sums balance all the same, and they compare as the counters while these fit.
-/

namespace Baleen.Metal.Machine

open Gic Counter

variable {G V lrs aps : Nat} {m m' : Machine G V lrs aps} {r own next : Role G V} {kind : Kind}
  {intid : UInt32} {wants : Bool} {slot g : Fin G}

/-- The running guest's timer is active and no list register stands for it. -/
def outstanding (g : Fin G) (m : Machine G V lrs aps) : Nat :=
  if g = m.current.guest ∧ m.timer.active ∧ m.live.bank.countP mapped = 0 then 1 else 0

/-- Ways in and out. -/
structure Crossed (slot g : Fin G) (m : Machine G V lrs aps) : Prop where
  fpVerified : (m.tally g).fpRestoreVerified = (m.tally g).switches
  apVerified : (m.tally g).apRestoreVerified = (m.tally g).switches
  fpForeign : (m.tally g).fpForeign ≤ (m.tally g).switches
  apForeign : (m.tally g).apForeign ≤ (m.tally g).switches
  /-- A guest leaves as often as it came in, but for the one that runs. -/
  crossings : (m.tally g).switches + (if g = slot then 1 else 0) =
    (m.tally g).handovers + if g = m.current.guest then 1 else 0

structure Handed (slot g : Fin G) (m : Machine G V lrs aps) : Prop extends Crossed slot g m where
  released : (m.tally g).hwReleased ≤ (m.tally g).handovers
  timer : (m.tally g).hwReleased + (m.tally g).timerDeferred =
    (m.tally g).timerDeactivated + outstanding g m
  forwarded : (m.tally g).hwReleased +
    (if g = m.current.guest then m.live.bank.countP mapped else 0) ≤ (m.tally g).timerForwarded

/-- Two states of a guest's counters agree on its ways in and out. -/
structure SameCrossings (t t' : Tally) : Prop where
  switches : t'.switches = t.switches
  handovers : t'.handovers = t.handovers
  hwReleased : t'.hwReleased = t.hwReleased
  fpForeign : t'.fpForeign = t.fpForeign
  apForeign : t'.apForeign = t.apForeign
  fpRestoreVerified : t'.fpRestoreVerified = t.fpRestoreVerified
  apRestoreVerified : t'.apRestoreVerified = t.apRestoreVerified

/-- They agree on the timer as well. -/
structure SameBooks (t t' : Tally) : Prop extends SameCrossings t t' where
  timerForwarded : t'.timerForwarded = t.timerForwarded
  timerDeferred : t'.timerDeferred = t.timerDeferred
  timerDeactivated : t'.timerDeactivated = t.timerDeactivated

theorem SameCrossings.refl (t : Tally) : SameCrossings t t := ⟨rfl, rfl, rfl, rfl, rfl, rfl, rfl⟩

theorem SameBooks.refl (t : Tally) : SameBooks t t := ⟨.refl t, rfl, rfl, rfl⟩

theorem sameBooks_dispose (t : Tally) (f : Dispositions → Dispositions) :
    SameBooks t (t.dispose kind f) := by
  cases kind <;> exact ⟨⟨rfl, rfl, rfl, rfl, rfl, rfl, rfl⟩, rfl, rfl, rfl⟩

theorem Crossed.keep (crossed : Crossed slot g m) (same : SameCrossings (m.tally g) (m'.tally g))
    (current : m'.current = m.current) : Crossed slot g m' := by
  constructor
  case fpVerified =>
    rw [same.fpRestoreVerified, same.switches]
    exact crossed.fpVerified
  case apVerified =>
    rw [same.apRestoreVerified, same.switches]
    exact crossed.apVerified
  case fpForeign =>
    rw [same.fpForeign, same.switches]
    exact crossed.fpForeign
  case apForeign =>
    rw [same.apForeign, same.switches]
    exact crossed.apForeign
  case crossings =>
    rw [same.switches, same.handovers, current]
    exact crossed.crossings

theorem Handed.keep (handed : Handed slot g m) (books : SameBooks (m.tally g) (m'.tally g))
    (current : m'.current = m.current) (still : outstanding g m' = outstanding g m)
    (fewer : m'.live.bank.countP mapped ≤ m.live.bank.countP mapped) : Handed slot g m' := by
  refine ⟨handed.toCrossed.keep books.toSameCrossings current, ?_, ?_, ?_⟩
  · rw [books.hwReleased, books.handovers]
    exact handed.released
  · rw [books.hwReleased, books.timerDeferred, books.timerDeactivated, still]
    exact handed.timer
  · have before := handed.forwarded
    rw [books.hwReleased, books.timerForwarded, current]
    split_ifs at before ⊢ <;> omega

/-- The same, when nothing moves but what is delivered. -/
theorem Handed.transfer (handed : Handed slot g m) (books : SameBooks (m.tally g) (m'.tally g))
    (same : SamePlace m m') (count : m'.live.bank.countP mapped = m.live.bank.countP mapped) :
    Handed slot g m' := by
  apply handed.keep books same.current _ count.le
  rw [outstanding, outstanding, same.current, same.timer, count]

theorem Handed.deliverTo (handed : Handed slot g m) (named : intid.toNat < NUM_INTIDS)
    (sameGuest : own.guest = m.current.guest) : Handed slot g (m.deliverTo kind intid own) := by
  obtain ⟨same, delivery⟩ := deliverTo_cases kind named sameGuest
  cases delivery with
  | injected _ _ bank _ _ tally =>
      refine handed.transfer ?_ same (by rw [bank, mapped_inject])
      rw [tally]
      split_ifs
      · exact sameBooks_dispose ..
      · exact .refl _
  | deferred _ _ live _ _ tally | routed _ live _ _ tally =>
      refine handed.transfer ?_ same (by rw [live])
      rw [tally]
      split_ifs
      · exact sameBooks_dispose ..
      · exact .refl _

/-- What is only counted for the guest of a slot, and where it is not a handover. -/
theorem sameBooks_count {f : Tally → Tally} (slot : Fin G) (books : ∀ t, SameBooks t (f t)) :
    SameBooks (m.tally g) ((m.count slot f).tally g) := by
  rw [tally_count]
  split_ifs
  · exact books _
  · exact .refl _

theorem sameBooks_note (names : UInt64 → Bool) :
    SameBooks (m.tally g) ((m.noteAffinityCollisions names).tally g) := by
  unfold noteAffinityCollisions
  dsimp only
  split_ifs
  · exact sameBooks_count _ fun t => ⟨⟨rfl, rfl, rfl, rfl, rfl, rfl, rfl⟩, rfl, rfl, rfl⟩
  · exact .refl _

theorem live_note (names : UInt64 → Bool) : (m.noteAffinityCollisions names).live = m.live := by
  unfold noteAffinityCollisions
  dsimp only
  split_ifs <;> rfl

theorem Handed.note (handed : Handed slot g m) (names : UInt64 → Bool) :
    Handed slot g (m.noteAffinityCollisions names) :=
  handed.transfer (sameBooks_note names) (samePlace_note names) (by rw [live_note])

theorem Handed.deliverSpi {route : Irouter.SpiRoute} (handed : Handed slot g m)
    (named : intid.toNat < NUM_INTIDS) : Handed slot g (m.deliverSpi route intid) := by
  have noted := samePlace_note (m := m) route.targets
  have served := deliverSpi_cases (m := m) route intid
  generalize m.deliverSpi route intid = m' at served ⊢
  cases served with
  | routed own_guest found =>
      apply (handed.note _).deliverTo named
      rw [noted.current, own_guest]
  | unroutable absent =>
      have counted := sameBooks_count (m := m.noteAffinityCollisions route.targets) (g := g)
        (f := fun t => { t with unroutable := t.unroutable + 1 }) m.current.guest
        fun t => ⟨⟨rfl, rfl, rfl, rfl, rfl, rfl, rfl⟩, rfl, rfl, rfl⟩
      exact (handed.note route.targets).transfer counted ⟨rfl, rfl, rfl, rfl, rfl, rfl, rfl⟩ rfl

theorem Handed.takeTimer (handed : Handed slot g m) (sound : Sound m)
    (inactive : m.timer.active = false) (wanted : Bool) : Handed slot g (m.takeTimer wanted) := by
  have unmapped := sound.unmapped inactive
  have quiet : outstanding g m = 0 := by
    rw [outstanding, inactive, if_neg fun all => Bool.false_ne_true all.2.1]
  have taken := takeTimer_cases (m := m) wanted
  have timer := handed.timer
  have forwarded := handed.forwarded
  rw [quiet] at timer
  rw [unmapped, ite_self, Nat.add_zero] at forwarded
  generalize m.takeTimer wanted = m' at taken ⊢
  cases taken with
  | masked =>
      refine handed.keep (.refl _) rfl ?_ le_rfl
      rw [quiet, outstanding, if_neg fun all => Bool.false_ne_true all.2.1]
  | forwarded room same bank _ _ tally =>
      obtain ⟨lr, -, -, maps, -, injected⟩ := injectHw_spec VTIMER_INTID (by decide)
      have one : m'.live.bank.countP mapped = 1 := by
        rw [bank, injected, countP_place quiet_mapped room, unmapped, maps, if_pos rfl]
      have served : outstanding g m' = 0 := by
        rw [outstanding, one, if_neg fun all => Nat.one_ne_zero all.2.2]
      have current : m'.current = m.current := same.current
      have charged := tally g
      refine ⟨handed.toCrossed.keep ?_ current, ?_, ?_, ?_⟩
      · rw [charged]
        split_ifs
        · exact ⟨rfl, rfl, rfl, rfl, rfl, rfl, rfl⟩
        · exact .refl _
      · rw [charged]
        split_ifs
        · exact handed.released
        · exact handed.released
      · rw [charged, served]
        split_ifs
        · exact timer
        · exact timer
      · rw [charged, current, one]
        split_ifs
        · exact Nat.succ_le_succ forwarded
        · exact forwarded
  | deferred full same live _ _ tally =>
      have current : m'.current = m.current := same.current
      have charged := tally g
      have late : outstanding g m' = if g = m.current.guest then 1 else 0 := by
        rw [outstanding, same.timer, live, unmapped, current]
        simp
      refine ⟨handed.toCrossed.keep ?_ current, ?_, ?_, ?_⟩
      · rw [charged]
        split_ifs
        · exact ⟨rfl, rfl, rfl, rfl, rfl, rfl, rfl⟩
        · exact .refl _
      · rw [charged]
        split_ifs
        · exact handed.released
        · exact handed.released
      · rw [charged, late]
        split_ifs
        · exact congrArg (· + 1) timer
        · exact timer
      · rw [charged, live, unmapped, ite_self]
        split_ifs
        · exact forwarded
        · exact forwarded

theorem Handed.useInterface (handed : Handed slot g m) {k : Nat}
    (state : LrState) (inside : k < lrs) (occupied : lrIsFree (m.register k) = false) :
    Handed slot g (m.useInterface k state) := by
  have count := countP_set_state state (getElem?_register (m := m) inside) occupied
  have used := useInterface_cases (m := m) k state
  generalize m.useInterface k state = m' at used ⊢
  cases used with
  | ended maps invalid same bank _ _ tally =>
      rw [if_pos ⟨maps, invalid⟩] at count
      have some_mapped : 0 < m.live.bank.countP mapped := by omega
      apply handed.keep
      · rw [tally]
        exact .refl _
      · exact same.current
      · rw [outstanding, outstanding, same.timer, if_neg fun all => Bool.false_ne_true all.2.1,
          if_neg fun all => Nat.ne_of_gt some_mapped all.2.2]
      · rw [bank]
        omega
  | moved kept same bank _ _ tally =>
      rw [if_neg fun both => kept both.1 both.2] at count
      apply handed.transfer _ same
      · rw [bank]
        exact count
      · rw [tally]
        exact .refl _

theorem Handed.takeMaintenance (handed : Handed slot g m) : Handed slot g m.takeMaintenance := by
  have flushed := flush_spec m.live.bank (m.pending m.current)
  apply handed.transfer _ samePlace_takeMaintenance flushed.mapped
  have refilled := tally_flushPending m.current
    (m.count m.current.guest fun t => { t with maintTaken := t.maintTaken + 1 }) g
  have taken := tally_count m.current.guest g (fun t => { t with maintTaken := t.maintTaken + 1 }) m
  rw [Machine.takeMaintenance, refilled, taken]
  split_ifs
  · exact ⟨⟨rfl, rfl, rfl, rfl, rfl, rfl, rfl⟩, rfl, rfl, rfl⟩
  · exact .refl _

theorem handovers_switched (done : Switched next wants m m') : (m'.tally g).handovers =
    (m.tally g).handovers + if g = m.current.guest then 1 else 0 := by
  rw [done.tally]
  split_ifs <;> rfl

theorem Switched.crossed (done : Switched next wants m m') (crossed : Crossed slot g m) :
    Crossed slot g m' := by
  have charged := done.tally g
  have switches : (m'.tally g).switches =
      (m.tally g).switches + if g = next.guest then 1 else 0 := by
    rw [charged]
    split_ifs <;> rfl
  constructor
  case fpVerified =>
    have verified : (m'.tally g).fpRestoreVerified =
        (m.tally g).fpRestoreVerified + if g = next.guest then 1 else 0 := by
      rw [charged]
      split_ifs <;> rfl
    rw [verified, switches, crossed.fpVerified]
  case apVerified =>
    have verified : (m'.tally g).apRestoreVerified =
        (m.tally g).apRestoreVerified + if g = next.guest then 1 else 0 := by
      rw [charged]
      split_ifs <;> rfl
    rw [verified, switches, crossed.apVerified]
  case fpForeign =>
    have foreign : (m'.tally g).fpForeign ≤
        (m.tally g).fpForeign + if g = next.guest then 1 else 0 := by
      rw [charged]
      dsimp only [entered, left]
      split_ifs <;> simp
    rw [switches]
    exact foreign.trans (Nat.add_le_add_right crossed.fpForeign _)
  case apForeign =>
    have foreign : (m'.tally g).apForeign ≤
        (m.tally g).apForeign + if g = next.guest then 1 else 0 := by
      rw [charged]
      dsimp only [entered, left]
      split_ifs <;> simp
    rw [switches]
    exact foreign.trans (Nat.add_le_add_right crossed.apForeign _)
  case crossings =>
    have crossings := crossed.crossings
    rw [switches, handovers_switched done, done.current]
    omega

/-- What a switch takes back: a register that stands for the timer, or a timer that none stands
for. -/
theorem released_or_outstanding (sound : Sound m) (here : g = m.current.guest) :
    m.live.bank.countP mapped + outstanding g m = if m.timer.active then 1 else 0 := by
  have single := sound.single
  have active := sound.active
  rw [outstanding]
  cases count : m.live.bank.countP mapped with
  | zero => simp [here]
  | succ n =>
      have holds := active (by omega)
      rw [holds, if_neg (by simp)]
      simp only [if_true]
      omega

theorem Switched.handed (done : Switched next wants m m') (sound : Sound m)
    (handed : Handed slot g m) : Handed slot g m' := by
  have flushed := flush_spec (m.kept next).bank (m.pending next)
  have single := sound.single
  have unmapped : m'.live.bank.countP mapped = 0 := by
    rw [done.bank, refill, flushed.mapped, unmapped_kept sound]
  have quiet : outstanding g m' = 0 := by
    rw [outstanding, done.timer, if_neg fun all => Bool.false_ne_true all.2.1]
  have released : (releaseHardwareMappings m.live.bank).1.toNat = m.live.bank.countP mapped := by
    rw [releaseHardwareMappings_eq]
    exact UInt64.toNat_ofNat_of_lt' (Nat.lt_of_le_of_lt single (by decide))
  have charged := done.tally g
  have hwReleased : (m'.tally g).hwReleased = (m.tally g).hwReleased +
      if g = m.current.guest then m.live.bank.countP mapped else 0 := by
    rw [charged, ← released]
    split_ifs <;> rfl
  refine ⟨done.crossed handed.toCrossed, ?_, ?_, ?_⟩
  · have before := handed.released
    rw [hwReleased, handovers_switched done]
    split_ifs <;> omega
  · have deactivated : (m'.tally g).timerDeactivated = (m.tally g).timerDeactivated +
        if g = m.current.guest then (if m.timer.active then 1 else 0) else 0 := by
      rw [charged]
      dsimp only [left]
      split_ifs <;> rfl
    have deferred : (m'.tally g).timerDeferred = (m.tally g).timerDeferred := by
      rw [charged]
      split_ifs <;> rfl
    have before := handed.timer
    rw [hwReleased, deferred, deactivated, quiet]
    by_cases here : g = m.current.guest
    · have both := released_or_outstanding sound here
      rw [if_pos here, if_pos here]
      omega
    · have away : outstanding g m = 0 := if_neg fun all => here all.1
      rw [if_neg here, if_neg here]
      rw [away] at before
      exact before
  · have forwarded : (m'.tally g).timerForwarded = (m.tally g).timerForwarded := by
      rw [charged]
      split_ifs <;> rfl
    rw [hwReleased, forwarded, unmapped, ite_self]
    exact handed.forwarded

theorem handed_step (sound : Sound m) (handed : Handed slot g m) (e : Event G V aps)
    (allowed : m.may e) : Handed slot g (step e m) := by
  cases e with
  | sgi value =>
      refine (sendSgi_keeps (P := Handed slot g) (handed.note _)
        fun own s sameGuest _ still => ?_).2
      exact still.deliverTo sgi_named sameGuest
  | spi route intid => exact handed.deliverSpi allowed
  | timer wanted => exact handed.takeTimer sound allowed.2 wanted
  | maintenance => exact handed.takeMaintenance
  | mirror enabled => exact handed.keep (.refl _) rfl rfl le_rfl
  | seed own entry contextId sctlr => exact handed.keep (.refl _) rfl rfl le_rfl
  | switch next wants => exact (step_switch wants allowed).handed sound handed
  | interface k state => exact handed.useInterface state allowed.1 allowed.2
  | compute x regs fp vmcr apr => exact handed.keep (.refl _) rfl rfl le_rfl

theorem handed_boot [NeZero V] (live : VcpuCtx lrs aps) (vttbr : Fin G → UInt64)
    (images : Fin G → UInt64 × UInt64) (sctlr : UInt64) :
    Handed slot g (boot slot live vttbr images sctlr : Machine G V lrs aps) := by
  have unmapped : (boot slot live vttbr images sctlr : Machine G V lrs aps).live.bank.countP
      mapped = 0 := (sound_boot slot live vttbr images sctlr).unmapped rfl
  refine ⟨⟨rfl, rfl, le_rfl, le_rfl, rfl⟩, le_rfl, ?_, ?_⟩
  · rw [outstanding, if_neg fun all => Bool.false_ne_true all.2.1]
    rfl
  · rw [unmapped, ite_self]
    exact le_rfl

/-- What was put into a pending set. -/
def marked (t : Tally) : Nat :=
  (t.disposed .sgi).deferred + (t.disposed .sgi).routed +
    ((t.disposed .spi).deferred + (t.disposed .spi).routed)

theorem marked_congr {t t' : Tally} (kinds : ∀ k, t'.disposed k = t.disposed k) :
    marked t' = marked t := by
  rw [marked, marked, kinds, kinds]

/-- The interrupts that wait for the vCPUs of a guest. -/
def backlog (g : Fin G) (m : Machine G V lrs aps) : Nat := ∑ v, (m.pending ⟨g, v⟩).intids.card

/-- Every interrupt that was named has one disposition, and no more was drained than was marked. -/
structure Disposed (g : Fin G) (m : Machine G V lrs aps) : Prop where
  exact : ∀ kind, ((m.tally g).disposed kind).named = ((m.tally g).disposed kind).delivered +
    ((m.tally g).disposed kind).deferred + ((m.tally g).disposed kind).routed
  drained : (m.tally g).drained + backlog g m ≤ marked (m.tally g)

theorem sum_change {f f' : Fin V → Nat} (a : Fin V) (others : ∀ v, v ≠ a → f' v = f v) :
    ∑ v, f' v + f a = ∑ v, f v + f' a := by
  have rest : ∑ v ∈ Finset.univ.erase a, f' v = ∑ v ∈ Finset.univ.erase a, f v :=
    Finset.sum_congr rfl fun v other => others v (Finset.ne_of_mem_erase other)
  have before := Finset.add_sum_erase Finset.univ f (Finset.mem_univ a)
  have after := Finset.add_sum_erase Finset.univ f' (Finset.mem_univ a)
  omega

theorem backlog_change (who : Role G V) (others : ∀ r, r ≠ who → m'.pending r = m.pending r) :
    backlog who.guest m' + (m.pending who).intids.card =
      backlog who.guest m + (m'.pending who).intids.card := by
  apply sum_change (f := fun v => (m.pending ⟨who.guest, v⟩).intids.card) who.vcpu
  intro v other
  rw [others ⟨who.guest, v⟩ fun same => other (congrArg Role.vcpu same)]

theorem backlog_other (who : Role G V) (others : ∀ r, r ≠ who → m'.pending r = m.pending r)
    (elsewhere : g ≠ who.guest) : backlog g m' = backlog g m := by
  refine Finset.sum_congr rfl fun v _ => ?_
  rw [others ⟨g, v⟩ fun same => elsewhere (congrArg Role.guest same)]

theorem disposed_dispose (t : Tally) (k : Kind) (f : Dispositions → Dispositions) :
    (t.dispose kind f).disposed k = if k = kind then f (t.disposed k) else t.disposed k := by
  cases kind <;> cases k <;> rfl

theorem drained_dispose (t : Tally) (f : Dispositions → Dispositions) :
    (t.dispose kind f).drained = t.drained := by
  cases kind <;> rfl

theorem marked_eq (t : Tally) (kind : Kind) : ∃ others, ∀ f, marked (t.dispose kind f) =
    (f (t.disposed kind)).deferred + (f (t.disposed kind)).routed + others := by
  cases kind with
  | sgi => exact ⟨t.spi.deferred + t.spi.routed, fun f => rfl⟩
  | spi => exact ⟨t.sgi.deferred + t.sgi.routed, fun f => Nat.add_comm ..⟩

/-- One more disposition of a kind. -/
theorem Disposed.dispose (disposed : Disposed g m) {f : Dispositions → Dispositions}
    (charged : m'.tally g = (m.tally g).dispose kind f)
    (once : ∀ d, d.named = d.delivered + d.deferred + d.routed →
      (f d).named = (f d).delivered + (f d).deferred + (f d).routed)
    (room : ∀ d, backlog g m' + d.deferred + d.routed ≤
      backlog g m + (f d).deferred + (f d).routed) : Disposed g m' := by
  constructor
  · intro k
    rw [charged, disposed_dispose]
    split_ifs
    · exact once _ (disposed.exact k)
    · exact disposed.exact k
  · obtain ⟨others, all⟩ := marked_eq (m.tally g) kind
    have unchanged : (m.tally g).dispose kind id = m.tally g := by cases kind <;> rfl
    have before := disposed.drained
    have after := room ((m.tally g).disposed kind)
    rw [← unchanged, all, id, drained_dispose] at before
    rw [charged, drained_dispose, all]
    omega

theorem Disposed.deliverTo (disposed : Disposed g m) (named : intid.toNat < NUM_INTIDS)
    (sameGuest : own.guest = m.current.guest) : Disposed g (m.deliverTo kind intid own) := by
  obtain ⟨same, delivery⟩ := deliverTo_cases kind named sameGuest
  generalize m.deliverTo kind intid own = m' at delivery ⊢
  -- Marking adds one interrupt to the set of the target at most.
  have added : (∀ r, m'.pending r =
      if r = own then ((m.pending own).mark intid).2 else m.pending r) →
      backlog m.current.guest m' ≤ backlog m.current.guest m + 1 := by
    intro pending
    have change := backlog_change own fun r other => (pending r).trans (if_neg other)
    have card := PendingSet.card_mark (m.pending own) named
    rw [pending, if_pos rfl, card, sameGuest] at change
    split_ifs at change <;> omega
  have away : g ≠ m.current.guest → (∀ r, m'.pending r =
      if r = own then ((m.pending own).mark intid).2 else m.pending r) →
      backlog g m' = backlog g m := by
    intro other pending
    apply backlog_other own
    · intro r different
      rw [pending, if_neg different]
    · rw [sameGuest]
      exact other
  by_cases here : g = m.current.guest
  · subst here
    cases delivery with
    | injected _ _ _ pending _ tally =>
        have still : backlog m.current.guest m' = backlog m.current.guest m := by
          rw [backlog, backlog, pending]
        apply disposed.dispose ((tally _).trans (if_pos rfl))
        · intro d once
          dsimp only
          omega
        · intro d
          dsimp only
          omega
    | deferred _ _ _ pending _ tally =>
        have more := added pending
        apply disposed.dispose ((tally _).trans (if_pos rfl))
        · intro d once
          dsimp only
          omega
        · intro d
          dsimp only
          omega
    | routed _ _ pending _ tally =>
        have more := added pending
        apply disposed.dispose ((tally _).trans (if_pos rfl))
        · intro d once
          dsimp only
          omega
        · intro d
          dsimp only
          omega
  · have still : backlog g m' = backlog g m := by
      cases delivery with
      | injected _ _ _ pending _ _ => rw [backlog, backlog, pending]
      | deferred _ _ _ pending _ _ => exact away here pending
      | routed _ _ pending _ _ => exact away here pending
    have books : m'.tally g = m.tally g := by
      cases delivery with
      | injected _ _ _ _ _ tally => exact (tally g).trans (if_neg here)
      | deferred _ _ _ _ _ tally => exact (tally g).trans (if_neg here)
      | routed _ _ _ _ tally => exact (tally g).trans (if_neg here)
    constructor
    · rw [books]
      exact disposed.exact
    · rw [books, still]
      exact disposed.drained

/-- What is counted elsewhere. -/
theorem Disposed.count (disposed : Disposed g m) {f : Tally → Tally} (who : Fin G)
    (kinds : ∀ t k, (f t).disposed k = t.disposed k) (drained : ∀ t, (f t).drained = t.drained) :
    Disposed g (m.count who f) := by
  have charged := tally_count who g f m
  have still : backlog g (m.count who f) = backlog g m := rfl
  constructor
  · intro k
    rw [charged]
    split_ifs
    · rw [kinds]
      exact disposed.exact k
    · exact disposed.exact k
  · rw [charged, still]
    split_ifs
    · rw [drained, marked_congr (kinds (m.tally g))]
      exact disposed.drained
    · exact disposed.drained

theorem Disposed.note (disposed : Disposed g m) (names : UInt64 → Bool) :
    Disposed g (m.noteAffinityCollisions names) := by
  unfold noteAffinityCollisions
  dsimp only
  split_ifs
  · exact disposed.count _ (fun t k => by cases k <;> rfl) fun t => rfl
  · exact disposed

theorem Disposed.deliverSpi {route : Irouter.SpiRoute} (disposed : Disposed g m)
    (named : intid.toNat < NUM_INTIDS) : Disposed g (m.deliverSpi route intid) := by
  have noted := samePlace_note (m := m) route.targets
  have served := deliverSpi_cases (m := m) route intid
  generalize m.deliverSpi route intid = m' at served ⊢
  cases served with
  | routed own_guest found =>
      apply (disposed.note _).deliverTo named
      rw [noted.current, own_guest]
  | unroutable absent =>
      exact (disposed.note _).count _ (fun t k => by cases k <;> rfl) fun t => rfl

/-- What is drained has waited. -/
theorem Disposed.refill (disposed : Disposed g m) (who : Role G V) (bank : List UInt64)
    (others : ∀ r, r ≠ who → m'.pending r = m.pending r)
    (left : m'.pending who = (flushPendingToLrs bank (m.pending who)).2.1)
    (kinds : ∀ k, (m'.tally g).disposed k = (m.tally g).disposed k)
    (drained : (m'.tally g).drained = (m.tally g).drained +
      if g = who.guest then (flushPendingToLrs bank (m.pending who)).2.2 else 0) :
    Disposed g m' := by
  have before := disposed.drained
  constructor
  · intro k
    rw [kinds]
    exact disposed.exact k
  · rw [marked_congr kinds, drained]
    by_cases here : g = who.guest
    · subst here
      have change := backlog_change who others
      have counted := (flush_spec bank (m.pending who)).counted
      rw [left] at change
      rw [if_pos rfl]
      omega
    · rw [if_neg here, backlog_other who others here]
      exact before

theorem Disposed.takeTimer (disposed : Disposed g m) (wanted : Bool) :
    Disposed g (m.takeTimer wanted) := by
  have taken := takeTimer_cases (m := m) wanted
  generalize m.takeTimer wanted = m' at taken ⊢
  -- The timer has counters of its own.
  have apart : m'.pending = m.pending → (∀ k, (m'.tally g).disposed k = (m.tally g).disposed k) →
      (m'.tally g).drained = (m.tally g).drained → Disposed g m' := by
    intro pending kinds drained
    constructor
    · intro k
      rw [kinds]
      exact disposed.exact k
    · rw [drained, backlog, pending, marked_congr kinds]
      exact disposed.drained
  cases taken with
  | masked => exact apart rfl (fun _ => rfl) rfl
  | forwarded _ _ _ pending _ tally =>
      apply apart pending
      · intro k
        rw [tally]
        split_ifs
        · cases k <;> rfl
        · rfl
      · rw [tally]
        split_ifs <;> rfl
  | deferred _ _ _ pending _ tally =>
      apply apart pending
      · intro k
        rw [tally]
        split_ifs
        · cases k <;> rfl
        · rfl
      · rw [tally]
        split_ifs <;> rfl

theorem disposed_step (disposed : Disposed g m) (e : Event G V aps) (allowed : m.may e) :
    Disposed g (step e m) := by
  cases e with
  | sgi value =>
      refine (sendSgi_keeps (P := Disposed g) (disposed.note _) fun own s sameGuest _ still => ?_).2
      exact still.deliverTo sgi_named sameGuest
  | spi route intid => exact disposed.deliverSpi allowed
  | timer wanted => exact disposed.takeTimer wanted
  | maintenance =>
      have taken := disposed.count (f := fun t => { t with maintTaken := t.maintTaken + 1 })
        m.current.guest (fun t k => by cases k <;> rfl) fun t => rfl
      have refilled := tally_flushPending m.current
        (m.count m.current.guest fun t => { t with maintTaken := t.maintTaken + 1 }) g
      apply taken.refill m.current m.live.bank
      · exact fun r other => (pending_setPending ..).trans (if_neg other)
      · exact (pending_setPending ..).trans (if_pos rfl)
      · intro k
        refine (congrArg (Tally.disposed · k) refilled).trans ?_
        split_ifs
        · cases k <;> rfl
        · rfl
      · refine (congrArg Tally.drained refilled).trans ?_
        split_ifs <;> rfl
  | switch next wants =>
      have done := step_switch wants allowed
      have charged := done.tally g
      apply disposed.refill next (m.kept next).bank
      · exact fun r other => (done.pending r).trans (if_neg other)
      · exact (done.pending next).trans (if_pos rfl)
      · intro k
        rw [charged]
        split_ifs <;> cases k <;> rfl
      · rw [charged]
        split_ifs <;> rfl
  | interface k state =>
      have used := useInterface_cases (m := m) k state
      rw [step]
      generalize m.useInterface k state = m' at used ⊢
      cases used with
      | ended _ _ _ _ pending _ tally | moved _ _ _ pending _ tally =>
          constructor
          · rw [tally]
            exact disposed.exact
          · rw [backlog, pending, tally]
            exact disposed.drained
  | mirror _ | seed _ _ _ _ | compute _ _ _ _ _ => exact ⟨disposed.exact, disposed.drained⟩

theorem disposed_boot [NeZero V] (live : VcpuCtx lrs aps) (vttbr : Fin G → UInt64)
    (images : Fin G → UInt64 × UInt64) (sctlr : UInt64) :
    Disposed g (boot slot live vttbr images sctlr : Machine G V lrs aps) := by
  have empty : backlog g (boot slot live vttbr images sctlr : Machine G V lrs aps) = 0 := by
    refine Finset.sum_eq_zero fun v _ => ?_
    exact (congrArg Finset.card PendingSet.intids_new).trans Finset.card_empty
  constructor
  · intro k
    cases k <;> rfl
  · rw [empty]
    exact le_rfl

/-- What the words of a guest's counters show. -/
structure Shown (slot g : Fin G) (m : Machine G V lrs aps) : Prop where
  fpVerified : word (m.tally g).fpRestoreVerified = word (m.tally g).switches
  apVerified : word (m.tally g).apRestoreVerified = word (m.tally g).switches
  crossings : word (m.tally g).switches + (if g = slot then 1 else 0) =
    word (m.tally g).handovers + if g = m.current.guest then 1 else 0
  timer : word (m.tally g).hwReleased + word (m.tally g).timerDeferred =
    word (m.tally g).timerDeactivated + word (outstanding g m)
  named : ∀ kind, word ((m.tally g).disposed kind).named =
    word ((m.tally g).disposed kind).delivered + word ((m.tally g).disposed kind).deferred +
      word ((m.tally g).disposed kind).routed
  released : (m.tally g).handovers < 2 ^ 64 →
    word (m.tally g).hwReleased ≤ word (m.tally g).handovers
  drained : marked (m.tally g) < 2 ^ 64 → word (m.tally g).drained ≤
    word ((m.tally g).disposed .sgi).deferred + word ((m.tally g).disposed .sgi).routed +
      (word ((m.tally g).disposed .spi).deferred + word ((m.tally g).disposed .spi).routed)

theorem Handed.shown (handed : Handed slot g m) (disposed : Disposed g m) : Shown slot g m where
  fpVerified := congrArg word handed.fpVerified
  apVerified := congrArg word handed.apVerified
  crossings := by
    have crossings := congrArg word handed.crossings
    rwa [word_add, word_add, word_ite, word_ite] at crossings
  timer := by
    have timer := congrArg word handed.timer
    rwa [word_add, word_add] at timer
  named kind := by
    have exact := congrArg word (disposed.exact kind)
    rwa [word_add, word_add] at exact
  released := word_le handed.released
  drained few := by
    have waited := (Nat.le_add_right ..).trans disposed.drained
    have shown := word_le waited few
    rwa [marked, word_add, word_add, word_add] at shown

/-- In every state of every run the counters of every guest balance, and so do the words that show
them. -/
theorem accounts [NeZero V] (slot : Fin G) (live : VcpuCtx lrs aps) (vttbr : Fin G → UInt64)
    (images : Fin G → UInt64 × UInt64) (sctlr : UInt64) {run : List (Event G V aps)}
    (legal : Guarded.Legal may step run (boot slot live vttbr images sctlr)) (g : Fin G) :
    let m := Guarded.after step run (boot slot live vttbr images sctlr)
    Handed slot g m ∧ Disposed g m ∧ Shown slot g m := by
  have kept := legal.keeps (P := fun m => Sound m ∧ Handed slot g m ∧ Disposed g m)
    (fun m e before allowed => ⟨sound_step before.1 e allowed,
      handed_step before.1 before.2.1 e allowed, disposed_step before.2.2 e allowed⟩)
    ⟨sound_boot slot live vttbr images sctlr, handed_boot live vttbr images sctlr,
      disposed_boot live vttbr images sctlr⟩
  exact ⟨kept.2.1, kept.2.2, kept.2.1.shown kept.2.2⟩

theorem accounts_deferred :
    let start : Machine 2 2 1 1 := boot 0 .new (fun _ => 0) (fun _ => (0, 0)) 0
    let m := Guarded.after step [.sgi 1, .timer true, .switch ⟨1, 0⟩ true, .timer true] start
    (m.tally 0).timerDeferred = 1 ∧ Handed 0 0 m ∧ Disposed 0 m ∧ Shown 0 0 m :=
  ⟨by decide, accounts 0 .new _ _ 0 (by decide) 0⟩

end Baleen.Metal.Machine
