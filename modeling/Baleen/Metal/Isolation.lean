import Baleen.Metal.Accounts

/-!
# Guests that do not run

While other guests run, nothing that belongs to a guest changes: its contexts, its pending sets and
its counters.  A vCPU that was taken off the physical CPU finds, when it comes back, everything as
it left it, whatever ran in between.
-/

namespace Baleen.Metal.Machine

open Gic

variable {G V lrs aps : Nat} {m m' : Machine G V lrs aps} {r own next : Role G V} {kind : Kind}
  {intid : UInt32} {g : Fin G} {e : Event G V aps}

/-- What belongs to a guest that does not run is as before. -/
structure Untouched (g : Fin G) (m m' : Machine G V lrs aps) : Prop where
  ctx : ∀ r, r.guest = g → m'.ctx r = m.ctx r
  pending : ∀ r, r.guest = g → m'.pending r = m.pending r
  seeded : ∀ r, r.guest = g → m'.seeded r = m.seeded r
  tally : m'.tally g = m.tally g
  vttbr : m'.vttbr = m.vttbr

theorem Untouched.refl (m : Machine G V lrs aps) : Untouched g m m :=
  ⟨fun _ _ => rfl, fun _ _ => rfl, fun _ _ => rfl, rfl, rfl⟩

theorem Untouched.trans {m₁ m₂ m₃ : Machine G V lrs aps} (first : Untouched g m₁ m₂)
    (second : Untouched g m₂ m₃) : Untouched g m₁ m₃ where
  ctx r own := (second.ctx r own).trans (first.ctx r own)
  pending r own := (second.pending r own).trans (first.pending r own)
  seeded r own := (second.seeded r own).trans (first.seeded r own)
  tally := second.tally.trans first.tally
  vttbr := second.vttbr.trans first.vttbr

theorem SamePlace.untouched (same : SamePlace m m')
    (pending : ∀ r, r.guest = g → m'.pending r = m.pending r) (tally : m'.tally g = m.tally g) :
    Untouched g m m' where
  ctx r _ := congrFun same.ctx r
  pending := pending
  seeded r _ := congrFun same.seeded r
  tally := tally
  vttbr := same.vttbr

theorem untouched_count (f : Tally → Tally) (other : g ≠ m.current.guest) :
    Untouched g m (m.count m.current.guest f) :=
  ⟨fun _ _ => rfl, fun _ _ => rfl, fun _ _ => rfl, (tally_count ..).trans (if_neg other), rfl⟩

theorem untouched_note (names : UInt64 → Bool) (other : g ≠ m.current.guest) :
    Untouched g m (m.noteAffinityCollisions names) := by
  unfold noteAffinityCollisions
  dsimp only
  split_ifs
  · exact untouched_count _ other
  · exact .refl m

theorem untouched_deliverTo (named : intid.toNat < NUM_INTIDS)
    (sameGuest : own.guest = m.current.guest) (other : g ≠ m.current.guest) :
    Untouched g m (m.deliverTo kind intid own) := by
  obtain ⟨same, delivery⟩ := deliverTo_cases kind named sameGuest
  have elsewhere : ∀ r : Role G V, r.guest = g → r ≠ own := by
    rintro r ofGuest rfl
    exact other (ofGuest.symm.trans sameGuest)
  cases delivery with
  | injected _ _ _ pending _ tally =>
      exact same.untouched (fun r _ => by rw [pending]) ((tally g).trans (if_neg other))
  | deferred _ _ _ pending _ tally =>
      apply same.untouched _ ((tally g).trans (if_neg other))
      exact fun r ofGuest => (pending r).trans (if_neg (elsewhere r ofGuest))
  | routed _ _ pending _ tally =>
      apply same.untouched _ ((tally g).trans (if_neg other))
      exact fun r ofGuest => (pending r).trans (if_neg (elsewhere r ofGuest))

/-- No event of another guest touches it, a switch into it aside. -/
theorem untouched_step (allowed : m.may e) (other : g ≠ m.current.guest)
    (outside : ∀ next wants, e = .switch next wants → next.guest ≠ g) :
    Untouched g m (step e m) := by
  cases e with
  | sgi value =>
      refine (sendSgi_keeps (P := Untouched g m) (untouched_note _ other)
        fun own s sameGuest same before => before.trans ?_).2
      exact untouched_deliverTo sgi_named sameGuest (same.current ▸ other)
  | spi route intid =>
      have noted := samePlace_note (m := m) route.targets
      have first := untouched_note route.targets other
      have served := deliverSpi_cases (m := m) route intid
      rw [step]
      generalize m.deliverSpi route intid = m' at served ⊢
      cases served with
      | routed own_guest found =>
          refine first.trans (untouched_deliverTo allowed ?_ (noted.current ▸ other))
          rw [noted.current, own_guest]
      | unroutable absent =>
          rw [← noted.current] at other ⊢
          exact first.trans (untouched_count _ other)
  | timer wanted =>
      have taken := takeTimer_cases (m := m) wanted
      rw [step]
      generalize m.takeTimer wanted = m' at taken ⊢
      have active : ∀ timer, Untouched g m { m with timer := timer } := fun _ =>
        ⟨fun _ _ => rfl, fun _ _ => rfl, fun _ _ => rfl, rfl, rfl⟩
      cases taken with
      | masked => exact active _
      | forwarded _ same _ pending _ tally | deferred _ same _ pending _ tally =>
          refine (active _).trans (same.untouched (fun r _ => by rw [pending]) ?_)
          exact (tally g).trans (if_neg other)
  | maintenance =>
      refine (untouched_count _ other).trans ⟨fun _ _ => rfl, fun r ofGuest => ?_, fun _ _ => rfl,
        (tally_flushPending ..).trans (if_neg other), rfl⟩
      refine (pending_setPending ..).trans (if_neg ?_)
      rintro rfl
      exact other ofGuest.symm
  | mirror _ | compute _ _ _ _ _ => exact ⟨fun _ _ => rfl, fun _ _ => rfl, fun _ _ => rfl, rfl, rfl⟩
  | interface k state =>
      have used := useInterface_cases (m := m) k state
      rw [step]
      generalize m.useInterface k state = m' at used ⊢
      cases used with
      | ended _ _ same _ pending _ tally | moved _ same _ pending _ tally =>
          refine ⟨fun r _ => ?_, fun r _ => ?_, fun r _ => ?_, ?_, same.vttbr⟩
          · rw [same.ctx]
          · rw [pending]
          · rw [same.seeded]
          · rw [tally]
  | seed own entry contextId sctlr =>
      have elsewhere : ∀ r : Role G V, r.guest = g → r ≠ own := by
        rintro r ofGuest rfl
        exact other (ofGuest.symm.trans allowed.1)
      refine ⟨fun r ofGuest => ?_, fun _ _ => rfl, fun r ofGuest => ?_, rfl, rfl⟩
      · rw [step, ctx_seed, if_neg (elsewhere r ofGuest)]
      · rw [step, seeded_seed, if_neg (elsewhere r ofGuest)]
  | switch next wants =>
      have done := step_switch wants allowed
      have apart := outside next wants rfl
      refine ⟨fun r ofGuest => ?_, fun r ofGuest => ?_, fun r _ => by rw [done.seeded], ?_,
        done.vttbr⟩
      · have away : r ≠ m.current := by
          rintro rfl
          exact other ofGuest.symm
        rw [done.ctx, kept, if_neg away]
      · rw [done.pending, if_neg]
        rintro rfl
        exact apart ofGuest
      · rw [done.tally, if_neg other, if_neg apart.symm]

/-- Other guests run: none of the events is the guest's and none lets it in. -/
def excludes (g : Fin G) (m : Machine G V lrs aps) (e : Event G V aps) : Prop :=
  m.may e ∧ g ≠ m.current.guest ∧ ∀ next wants, e = .switch next wants → next.guest ≠ g

/-- A vCPU that does not run keeps its context, unless it is let in or started anew. -/
theorem ctx_step (allowed : m.may e) (away : r ≠ m.current) (seeded : m.seeded r = true)
    (outside : ∀ wants, e ≠ .switch r wants) :
    (step e m).ctx r = m.ctx r ∧ r ≠ (step e m).current ∧ (step e m).seeded r = true ∧
      (step e m).vttbr = m.vttbr := by
  have still : ∀ (timer : Ppi) {s : Machine G V lrs aps}, SamePlace { m with timer := timer } s →
      s.ctx r = m.ctx r ∧ r ≠ s.current ∧ s.seeded r = true ∧ s.vttbr = m.vttbr := by
    intro timer s same
    rw [same.ctx, same.current, same.seeded, same.vttbr]
    exact ⟨rfl, away, seeded, rfl⟩
  cases e with
  | sgi value => exact still m.timer samePlace_sendSgi
  | spi route intid => exact still m.timer (samePlace_deliverSpi allowed)
  | timer wanted =>
      have taken := takeTimer_cases (m := m) wanted
      rw [step]
      generalize m.takeTimer wanted = m' at taken ⊢
      cases taken with
      | masked => exact ⟨rfl, away, seeded, rfl⟩
      | forwarded _ same _ _ _ _ | deferred _ same _ _ _ _ => exact still _ same
  | maintenance => exact still m.timer samePlace_takeMaintenance
  | mirror _ | compute _ _ _ _ _ => exact ⟨rfl, away, seeded, rfl⟩
  | seed own entry contextId sctlr =>
      have other : r ≠ own := by
        rintro rfl
        exact Bool.false_ne_true (allowed.2.symm.trans seeded)
      refine ⟨?_, away, ?_, rfl⟩
      · rw [step, ctx_seed, if_neg other]
      · rw [step, seeded_seed, if_neg other, seeded]
  | switch next wants =>
      have done := step_switch wants allowed
      rw [done.ctx, done.current, done.seeded, kept, if_neg away]
      refine ⟨rfl, ?_, seeded, done.vttbr⟩
      rintro rfl
      exact outside wants rfl
  | interface k state =>
      have used := useInterface_cases (m := m) k state
      rw [step]
      generalize m.useInterface k state = m' at used ⊢
      cases used with
      | ended _ _ same _ _ _ _ => exact still _ same
      | moved _ same _ _ _ _ => exact still m.timer same

theorem ctx_run {run : List (Event G V aps)} (legal : Guarded.Legal may step run m)
    (away : r ≠ m.current) (seeded : m.seeded r = true)
    (outside : ∀ e ∈ run, ∀ wants, e ≠ .switch r wants) :
    (Guarded.after step run m).ctx r = m.ctx r ∧ r ≠ (Guarded.after step run m).current ∧
      (Guarded.after step run m).vttbr = m.vttbr := by
  induction run generalizing m with
  | nil => exact ⟨rfl, away, rfl⟩
  | cons e rest ih =>
      obtain ⟨ctx, still, seeded', vttbr⟩ :=
        ctx_step legal.1 away seeded (outside e (List.mem_cons_self ..))
      obtain ⟨later, last, space⟩ := ih legal.2 still seeded'
        fun e' member => outside e' (List.mem_cons_of_mem _ member)
      exact ⟨later.trans ctx, last, space.trans vttbr⟩

/-- A vCPU is taken off, anything happens that does not let it in, and it comes back with all that
its context holds. -/
theorem survival (run : List (Event G V aps)) {wants wants' : Bool}
    (legal : Guarded.Legal may step (.switch next wants :: (run ++ [.switch r wants'])) m)
    (running : r = m.current) (seeded : m.seeded r = true) (other : next ≠ r)
    (outside : ∀ e ∈ run, ∀ wants, e ≠ .switch r wants) :
    let m' := Guarded.after step (.switch next wants :: (run ++ [.switch r wants'])) m
    m'.current = r ∧ SameContext m.live m'.live ∧
      (∀ (k : Nat) lr, m.live.bank[k]? = some lr → lrIsFree lr = false →
        m'.live.bank[k]? = some (demote lr)) ∧
      m'.vttbrEl2 = m.vttbr r.guest ∧ m'.vmpidrEl2 = guestMpidr r.vcpu := by
  intro m'
  obtain ⟨first, later⟩ := legal
  obtain ⟨middle, last⟩ := Guarded.Legal.append later
  have gone := step_switch wants first
  have away : r ≠ (step (.switch next wants) m).current := by
    rw [gone.current]
    exact other.symm
  obtain ⟨ctx, absent, vttbr⟩ := ctx_run middle away (by rw [gone.seeded, seeded]) outside
  have back := step_switch wants' last.1
  have ended : m' = step (.switch r wants')
      (Guarded.after step run (step (.switch next wants) m)) := Guarded.after_append ..
  -- What it comes back to is what it had, with no physical interrupt in it.
  have restored : (Guarded.after step run (step (.switch next wants) m)).kept r = m.kept r := by
    rw [kept, if_neg absent, ctx, gone.ctx]
  have had := sameContext_kept m r
  have flushed := flush_spec (m.kept r).bank
    ((Guarded.after step run (step (.switch next wants) m)).pending r)
  rw [home_current running] at had
  rw [ended]
  refine ⟨back.current, had.trans (restored ▸ back.same), fun k lr here occupied => ?_, ?_, ?_⟩
  · rw [back.bank, restored]
    apply flushed.occupied
    · rw [kept, if_pos running]
      exact (List.getElem?_map ..).trans (congrArg _ here)
    · rw [lrIsFree, demote_keeps.1]
      exact occupied
  · rw [back.vttbrEl2, vttbr, gone.vttbr]
  · exact back.vmpidrEl2

/-- Up to where the first vCPU of the first guest holds an interrupt that it sent to itself and one
of the timer. -/
def laden : List (Event 2 2 1) :=
  [.compute (.ofFn fun i => UInt64.ofNat i.val + 1) (fun _ => 3) ⟨.ofFn fun _ => 5, 1, 2⟩ 0xff
      (.ofFn fun _ => .ofFn fun _ => 4),
    .sgi 0x1000001, .timer true]

theorem survival_laden :
    let start : Machine 2 2 2 1 := boot 0 .new (fun _ => 0) (fun _ => (0, 0)) 0
    let m := Guarded.after step laden start
    let m' := Guarded.after step [.switch ⟨1, 0⟩ true, .sgi 3, .timer true, .switch ⟨0, 0⟩ true] m
    (m.live.x = (.ofFn fun i => UInt64.ofNat i.val + 1) ∧ lrIsFree (m.register 0) = false ∧
      mapped (m.register 1) = true) ∧
      m'.current = ⟨0, 0⟩ ∧ SameContext m.live m'.live ∧
      (∀ (k : Nat) lr, m.live.bank[k]? = some lr → lrIsFree lr = false →
        m'.live.bank[k]? = some (demote lr)) ∧
      m'.vttbrEl2 = m.vttbr 0 ∧ m'.vmpidrEl2 = guestMpidr 0 :=
  ⟨by decide, survival [.sgi 3, .timer true] (by decide) rfl rfl (by decide) (by simp)⟩

end Baleen.Metal.Machine
