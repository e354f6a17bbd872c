import Baleen.Sched.Model

/-!
# Consistency of the scheduler

Every transition moves one vCPU from one record to another and updates the occupancy
of the physical CPUs to match.  The invariant is that running vCPUs and occupied
physical CPUs are the two sides of one matching, inside every affinity mask.
-/

namespace Baleen.Sched.System

variable {s s' : System} {dom : DomId} {v : Vcpu} {c c' : VirtualCpu}

theorem vcpu_cases (s : System) (dom : DomId) (v : Vcpu) :
    (∃ c, s.vcpu? dom v = some c ∧ s.vcpu dom v = .ok c) ∨
      (s.vcpu? dom v = none ∧ ∃ e, s.vcpu dom v = .error e) := by
  unfold vcpu vcpu? Grid.get?
  cases s.domains[dom.toNat]? with
  | none => exact .inr ⟨rfl, _, rfl⟩
  | some row =>
      simp only [Option.bind_some]
      cases row[v.toNat]? with
      | none => exact .inr ⟨rfl, _, rfl⟩
      | some c => exact .inl ⟨c, rfl, rfl⟩

theorem vcpu_of_vcpu? (found : s.vcpu? dom v = some c) : s.vcpu dom v = .ok c := by
  rcases vcpu_cases s dom v with ⟨c', found', same⟩ | ⟨missing, -⟩
  · rw [same]
    simpa [found] using found'.symm
  · simp [found] at missing

theorem stateOf_eq_some {st : RunState} :
    s.stateOf dom v = some st ↔ ∃ c, s.vcpu? dom v = some c ∧ c.state = st := by
  simp [stateOf]

/-- Equality of the table sizes. -/
structure SameSizes (s s' : System) : Prop where
  domainCount : s'.domainCount = s.domainCount
  vcpuCount : ∀ d, s'.vcpuCount d = s.vcpuCount d
  pcpus : s'.pcpus.length = s.pcpus.length

theorem SameSizes.refl (s : System) : SameSizes s s := ⟨rfl, fun _ => rfl, rfl⟩

theorem SameSizes.trans {s'' : System} (first : SameSizes s s') (second : SameSizes s' s'') :
    SameSizes s s'' where
  domainCount := second.domainCount.trans first.domainCount
  vcpuCount d := (second.vcpuCount d).trans (first.vcpuCount d)
  pcpus := second.pcpus.trans first.pcpus

theorem SameSizes.vcpus (same : SameSizes s s') (d : DomId) : s'.vcpus d = s.vcpus d := by
  unfold System.vcpus
  rw [same.vcpuCount]

/-- The occupancy after a vCPU in this state has left its physical CPU. -/
def vacate (state : RunState) (pcpus : List (Option (DomId × Vcpu))) :
    List (Option (DomId × Vcpu)) :=
  match state with
  | .running pcpu => pcpus.set pcpu.toNat none
  | _ => pcpus

/-- The occupancy after a vCPU has entered this state. -/
def occupy (who : DomId × Vcpu) (state : RunState) (pcpus : List (Option (DomId × Vcpu))) :
    List (Option (DomId × Vcpu)) :=
  match state with
  | .running pcpu => pcpus.set pcpu.toNat (some who)
  | _ => pcpus

/-- One vCPU went from the record `c` to the record `c'`. -/
structure Moved (dom : DomId) (v : Vcpu) (c c' : VirtualCpu) (s s' : System) : Prop where
  found : s.vcpu? dom v = some c
  domains : s'.domains = s.domains.set dom.toNat v.toNat c'
  pcpus : s'.pcpus = occupy (dom, v) c'.state (vacate c.state s.pcpus)
  fits : ∀ p, c'.state = .running p →
    (vacate c.state s.pcpus)[p.toNat]? = some none ∧ maskPermits c'.affinity p = true

namespace Moved

theorem vcpu? (moved : Moved dom v c c' s s') (d : DomId) (w : Vcpu) :
    s'.vcpu? d w = if dom = d ∧ v = w then some c' else s.vcpu? d w := by
  have found : s.domains.get? dom.toNat v.toNat = some c := moved.found
  unfold System.vcpu?
  rw [moved.domains, Grid.get?_set, found]
  simp only [UInt16.toNat_inj, UInt32.toNat_inj]
  rfl

theorem sizes (moved : Moved dom v c c' s s') : SameSizes s s' where
  domainCount := by simp [domainCount, moved.domains]
  vcpuCount d := by simp [vcpuCount, moved.domains]
  pcpus := by
    rw [moved.pcpus]
    unfold occupy vacate
    split <;> split <;> simp

theorem stateOf (moved : Moved dom v c c' s s') (d : DomId) (w : Vcpu) :
    s'.stateOf d w = if dom = d ∧ v = w then some c'.state else s.stateOf d w := by
  unfold System.stateOf
  rw [moved.vcpu?]
  split_ifs <;> rfl

end Moved

structure Consistent (s : System) : Prop where
  running : ∀ {d w c p}, s.vcpu? d w = some c → c.state = .running p →
    s.pcpus[p.toNat]? = some (some (d, w)) ∧ maskPermits c.affinity p = true
  occupied : ∀ {i d w}, s.pcpus[i]? = some (some (d, w)) →
    ∃ c p, s.vcpu? d w = some c ∧ c.state = .running p ∧ p.toNat = i
  /-- Only vCPUs that an identifier can name ever run. -/
  placed : ∀ {d w : Nat} {c p}, s.domains.get? d w = some c → c.state = .running p →
    ∃ (dom : DomId) (v : Vcpu), dom.toNat = d ∧ v.toNat = w

theorem Consistent.new (numDomains vcpusPerDomain numPcpus : Nat) :
    (System.new numDomains vcpusPerDomain numPcpus).Consistent := by
  have offline : ∀ {d w c}, (System.new numDomains vcpusPerDomain numPcpus).domains.get? d w =
      some c → c.state = .offline := by
    intro d w c present
    simp only [System.new, Grid.get?_fill] at present
    split_ifs at present
    cases present
    rfl
  exact {
    running := by
      intro d w c p present state
      rw [offline present] at state
      cases state
    occupied := by
      intro i d w present
      simp [System.new, List.getElem?_replicate] at present
    placed := by
      intro d w c p present state
      rw [offline present] at state
      cases state }

theorem getElem?_vacate_other {state : RunState} {pcpus : List (Option (DomId × Vcpu))} {i : Nat}
    (other : ∀ p, state = .running p → p.toNat ≠ i) : (vacate state pcpus)[i]? = pcpus[i]? := by
  cases state with
  | running p => exact List.getElem?_set_ne (other p rfl)
  | _ => rfl

theorem getElem?_occupy_other {who : DomId × Vcpu} {state : RunState}
    {pcpus : List (Option (DomId × Vcpu))} {i : Nat}
    (other : ∀ p, state = .running p → p.toNat ≠ i) :
    (occupy who state pcpus)[i]? = pcpus[i]? := by
  cases state with
  | running p => exact List.getElem?_set_ne (other p rfl)
  | _ => rfl

theorem Moved.consistent (moved : Moved dom v c c' s s') (consistent : s.Consistent) :
    s'.Consistent where
  running := by
    intro d w x p present state
    rw [moved.pcpus]
    rw [moved.vcpu?] at present
    split_ifs at present with here
    · obtain ⟨rfl, rfl⟩ := here
      cases present
      obtain ⟨vacant, permitted⟩ := moved.fits p state
      obtain ⟨inside, -⟩ := List.getElem?_eq_some_iff.mp vacant
      refine ⟨?_, permitted⟩
      rw [state]
      exact List.getElem?_set_self inside
    · -- Another vCPU runs elsewhere than here, before and after the move.
      obtain ⟨occupant, permitted⟩ := consistent.running present state
      have before : (vacate c.state s.pcpus)[p.toNat]? = some (some (d, w)) := by
        rw [getElem?_vacate_other, occupant]
        intro q was same
        obtain ⟨mine, -⟩ := consistent.running moved.found was
        rw [same, occupant] at mine
        simp only [Option.some.injEq, Prod.mk.injEq] at mine
        exact here ⟨mine.1.symm, mine.2.symm⟩
      refine ⟨?_, permitted⟩
      rw [getElem?_occupy_other, before]
      intro q now same
      obtain ⟨vacant, -⟩ := moved.fits q now
      rw [same, before] at vacant
      cases vacant
  occupied := by
    intro i d w present
    rw [moved.pcpus] at present
    by_cases entered : ∃ p, c'.state = .running p ∧ p.toNat = i
    · obtain ⟨p, state, rfl⟩ := entered
      obtain ⟨vacant, -⟩ := moved.fits p state
      obtain ⟨inside, -⟩ := List.getElem?_eq_some_iff.mp vacant
      simp only [state, occupy, List.getElem?_set_self inside] at present
      cases present
      exact ⟨c', p, by rw [moved.vcpu?, if_pos ⟨rfl, rfl⟩], state, rfl⟩
    · rw [getElem?_occupy_other fun p state same => entered ⟨p, state, same⟩] at present
      by_cases left : ∃ p, c.state = .running p ∧ p.toNat = i
      · obtain ⟨p, state, rfl⟩ := left
        simp only [state, vacate, List.getElem?_set, if_true] at present
        split_ifs at present
        cases present
      · rw [getElem?_vacate_other fun p state same => left ⟨p, state, same⟩] at present
        obtain ⟨x, p, found, state, same⟩ := consistent.occupied present
        refine ⟨x, p, ?_, state, same⟩
        rw [moved.vcpu?, if_neg, found]
        rintro ⟨rfl, rfl⟩
        rw [moved.found] at found
        cases found
        exact left ⟨p, state, same⟩
  placed := by
    intro d w x p present state
    rw [moved.domains, Grid.get?_set] at present
    split_ifs at present with here
    · exact ⟨dom, v, here.1, here.2⟩
    · exact consistent.placed present state

theorem setVcpu_setVcpu (s : System) (dom : DomId) (v : Vcpu) (c c' : VirtualCpu) :
    (s.setVcpu dom v c).setVcpu dom v c' = s.setVcpu dom v c' := by
  simp only [setVcpu, Grid.set_set]

/-- A rewrite of a vCPU that neither runs before nor after. -/
theorem moved_setVcpu (found : s.vcpu? dom v = some c) (idle : ∀ p, c.state ≠ .running p)
    (idle' : ∀ p, c'.state ≠ .running p) : Moved dom v c c' s (s.setVcpu dom v c') where
  found := found
  domains := rfl
  pcpus := by
    have left : vacate c.state s.pcpus = s.pcpus := by
      cases h : c.state with
      | running p => exact absurd h (idle p)
      | _ => rfl
    rw [left]
    cases h : c'.state with
    | running p => exact absurd h (idle' p)
    | _ => rfl
  fits p now := absurd now (idle' p)

/-- Taking a vCPU off whatever it runs on. -/
theorem moved_offCpu (found : s.vcpu? dom v = some c) (now : Ticks)
    (idle : ∀ p, c'.state ≠ .running p) :
    Moved dom v c c' s ((offCpu dom v now c s).setVcpu dom v c') where
  found := found
  domains := by
    unfold offCpu
    cases c.state with
    | running p =>
        have twice := congrArg domains (setVcpu_setVcpu s dom v (account c now) c')
        exact twice
    | _ => rfl
  pcpus := by
    have entered : occupy (dom, v) c'.state (vacate c.state s.pcpus) = vacate c.state s.pcpus := by
      cases h : c'.state with
      | running p => exact absurd h (idle p)
      | _ => rfl
    rw [entered]
    unfold offCpu
    cases c.state <;> rfl
  fits p now := absurd now (idle p)

theorem admitVcpu_cases (s : System) (dom : DomId) (v : Vcpu) :
    (∃ c s', c.state = .offline ∧ admitVcpu dom v s = (.ok (), s') ∧
        Moved dom v c { c with state := .runnable } s s') ∨
      ∃ e, admitVcpu dom v s = (.error e, s) := by
  rcases vcpu_cases s dom v with ⟨c, found, ok⟩ | ⟨-, e, failed⟩
  case inr => exact .inr ⟨e, by simp [admitVcpu, failed]⟩
  by_cases offline : c.state = .offline
  · refine .inl ⟨c, _, offline, by simp [admitVcpu, ok, offline], moved_setVcpu found ?_ ?_⟩
    · simp [offline]
    · simp
  · exact .inr ⟨.wrongState, by simp [admitVcpu, ok, offline]⟩

theorem wake_cases (s : System) (dom : DomId) (v : Vcpu) :
    (∃ c s', c.state = .blocked ∧ wake dom v s = (.ok (), s') ∧
        Moved dom v c { c with state := .runnable } s s') ∨
      (s.stateOf dom v ≠ some .blocked ∧ ∃ e, wake dom v s = (.error e, s)) := by
  rcases vcpu_cases s dom v with ⟨c, found, ok⟩ | ⟨missing, e, failed⟩
  case inr => exact .inr ⟨by simp [stateOf, missing], e, by simp [wake, failed]⟩
  by_cases blocked : c.state = .blocked
  · refine .inl ⟨c, _, blocked, by simp [wake, ok, blocked], moved_setVcpu found ?_ ?_⟩
    · simp [blocked]
    · simp
  · exact .inr ⟨by simp [stateOf, found, blocked], .wrongState, by simp [wake, ok, blocked]⟩

theorem run_of_ready {pcpu : Pcpu} (found : s.vcpu? dom v = some c) (ready : c.state = .runnable)
    (permitted : maskPermits c.affinity pcpu = true) (vacant : s.pcpus[pcpu.toNat]? = some none)
    (now : Ticks) : ∃ s', run dom v pcpu now s = (.ok (), s') ∧
      Moved dom v c { c with state := .running pcpu, dispatchedAt := now } s s' := by
  have inside : pcpu.toNat < s.pcpus.length := (List.getElem?_eq_some_iff.mp vacant).1
  have ok := vcpu_of_vcpu? found
  have left : vacate c.state s.pcpus = s.pcpus := by rw [ready]; rfl
  refine ⟨_, by
    simp only [run, Op.ensure_bind_apply, inside, decide_true, if_true, Op.query_bind_apply, ok,
      ready, affinityPermits, permitted, vacant, Op.modify_bind_apply, Op.modify_apply]; rfl,
    found, rfl, ?_, ?_⟩
  · rw [left]
    rfl
  · rintro p ⟨⟩
    rw [left]
    exact ⟨vacant, permitted⟩

theorem run_cases (s : System) (dom : DomId) (v : Vcpu) (pcpu : Pcpu) (now : Ticks) :
    (∃ c s', c.state = .runnable ∧ run dom v pcpu now s = (.ok (), s') ∧
        Moved dom v c { c with state := .running pcpu, dispatchedAt := now } s s') ∨
      ∃ e, run dom v pcpu now s = (.error e, s) := by
  by_cases inside : pcpu.toNat < s.pcpus.length
  case neg => exact .inr ⟨.badPcpu, by simp [run, inside]⟩
  rcases vcpu_cases s dom v with ⟨c, found, ok⟩ | ⟨-, e, failed⟩
  case inr => exact .inr ⟨e, by simp [run, inside, failed]⟩
  by_cases ready : c.state = .runnable
  case neg => exact .inr ⟨.wrongState, by simp [run, inside, ok, ready]⟩
  cases permitted : maskPermits c.affinity pcpu with
  | false => exact .inr ⟨.notAffine, by simp [run, inside, ok, ready, affinityPermits, permitted]⟩
  | true =>
      by_cases vacant : s.pcpus[pcpu.toNat]? = some none
      case neg => exact .inr ⟨.pcpuBusy, by
        simp only [run, Op.ensure_bind_apply, inside, decide_true, if_true, Op.query_bind_apply, ok,
          ready, affinityPermits, permitted, vacant, decide_false, Bool.false_eq_true, if_false]⟩
      obtain ⟨s', ran, moved⟩ := run_of_ready found ready permitted vacant now
      exact .inl ⟨c, s', ready, ran, moved⟩

theorem preempt_of_running {pcpu : Pcpu} (found : s.vcpu? dom v = some c)
    (running : c.state = .running pcpu) (now : Ticks) :
    ∃ s', preempt dom v now s = (.ok (), s') ∧
      Moved dom v c { account c now with state := .runnable } s s' := by
  have runs : isRunning c.state = true := by
    rw [running]
    rfl
  have same : closed now c = account c now := by rw [closed, running]
  have moved : Moved dom v c { account c now with state := .runnable } s
      ((offCpu dom v now c s).setVcpu dom v { account c now with state := .runnable }) :=
    moved_offCpu found now (by simp)
  exact ⟨_, by simp [preempt, vcpu_of_vcpu? found, runs, same], moved⟩

theorem preempt_cases (s : System) (dom : DomId) (v : Vcpu) (now : Ticks) :
    (∃ c c' s', c.state ≠ .offline ∧ c'.state = .runnable ∧ c'.affinity = c.affinity ∧
        preempt dom v now s = (.ok (), s') ∧ Moved dom v c c' s s') ∨
      ∃ e, preempt dom v now s = (.error e, s) := by
  rcases vcpu_cases s dom v with ⟨c, found, ok⟩ | ⟨-, e, failed⟩
  case inr => exact .inr ⟨e, by simp [preempt, failed]⟩
  cases running : isRunning c.state with
  | false => exact .inr ⟨.wrongState, by simp [preempt, ok, running]⟩
  | true =>
      refine .inl ⟨c, { closed now c with state := .runnable }, _, ?_, rfl, ?_, by
        simp [preempt, ok, running], moved_offCpu found now (by simp)⟩
      · rintro offline
        rw [offline] at running
        cases running
      · unfold closed
        split <;> rfl

theorem block_cases (s : System) (dom : DomId) (v : Vcpu) (now : Ticks) :
    (∃ c c' s', c.state ≠ .offline ∧ c.state ≠ .blocked ∧ c'.state = .blocked ∧
        c'.affinity = c.affinity ∧ block dom v now s = (.ok (), s') ∧ Moved dom v c c' s s') ∨
      ∃ e, block dom v now s = (.error e, s) := by
  rcases vcpu_cases s dom v with ⟨c, found, ok⟩ | ⟨-, e, failed⟩
  case inr => exact .inr ⟨e, by simp [block, failed]⟩
  by_cases eligible : c.state ≠ .offline ∧ c.state ≠ .blocked
  · refine .inl ⟨c, { closed now c with state := .blocked }, _, eligible.1, eligible.2, rfl, ?_, by
      simp only [block, Op.query_bind_apply, ok, Op.ensure_bind_apply, decide_eq_true eligible,
        if_true, Op.modify_bind_apply, Op.modify_apply], moved_offCpu found now (by simp)⟩
    unfold closed
    split <;> rfl
  · exact .inr ⟨.wrongState, by
      simp only [block, Op.query_bind_apply, ok, Op.ensure_bind_apply, decide_eq_false eligible,
        Bool.false_eq_true, if_false]⟩

theorem offline_cases (s : System) (dom : DomId) (v : Vcpu) (now : Ticks) :
    (∃ c c' s', c.state ≠ .offline ∧ c'.state = .offline ∧ c'.affinity = s.fullAffinity ∧
        c'.runtime = (closed now c).runtime ∧
        offline dom v now s = (.ok (), s') ∧ Moved dom v c c' s s') ∨
      ((∀ c, s.vcpu? dom v = some c → c.state = .offline) ∧
        ∃ e, offline dom v now s = (.error e, s)) := by
  rcases vcpu_cases s dom v with ⟨c, found, ok⟩ | ⟨missing, e, failed⟩
  case inr => exact .inr ⟨by simp [missing], e, by simp [offline, failed]⟩
  by_cases off : c.state = .offline
  · exact .inr ⟨by simp [found, off], .wrongState, by simp [offline, ok, off]⟩
  · exact .inl ⟨c, { closed now c with state := .offline, affinity := s.fullAffinity }, _, off, rfl,
      rfl, rfl, by simp [offline, ok, off], moved_offCpu found now (by simp)⟩

theorem setAffinity_cases (consistent : s.Consistent) (dom : DomId) (v : Vcpu) (affinity : Nat) :
    (∃ c s', setAffinity dom v affinity s = (.ok (), s') ∧
        Moved dom v c { c with affinity := affinity &&& s.fullAffinity } s s') ∨
      ∃ e, setAffinity dom v affinity s = (.error e, s) := by
  rcases vcpu_cases s dom v with ⟨c, found, ok⟩ | ⟨-, e, failed⟩
  case inr => exact .inr ⟨e, by simp [setAffinity, failed]⟩
  cases stays : staysAffine (affinity &&& s.fullAffinity) c.state with
  | false => exact .inr ⟨.notAffine, by simp [setAffinity, ok, stays]⟩
  | true =>
      refine .inl ⟨c, s.setVcpu dom v { c with affinity := affinity &&& s.fullAffinity }, by
        simp [setAffinity, ok, stays], ?_⟩
      cases state : c.state with
      | running p =>
          -- The vCPU keeps the physical CPU it is on.
          obtain ⟨occupant, -⟩ := consistent.running found state
          obtain ⟨inside, value⟩ := List.getElem?_eq_some_iff.mp occupant
          refine ⟨found, rfl, ?_, ?_⟩
          · simp only [state, vacate, occupy, List.set_set]
            rw [← value, List.set_getElem_self]
            rfl
          · rintro q ⟨⟩
            rw [state] at stays ⊢
            exact ⟨List.getElem?_set_self inside, stays⟩
      | _ =>
          rw [← state]
          exact moved_setVcpu found (by simp [state]) (by simp [state])

/-- vCPUs of `target` may have gone offline, no other was touched. -/
structure Offlined (target : DomId) (s s' : System) : Prop where
  consistent : s'.Consistent
  sizes : SameSizes s s'
  others : ∀ d w, d ≠ target → s'.vcpu? d w = s.vcpu? d w
  states : ∀ w, s'.stateOf target w = s.stateOf target w ∨ s'.stateOf target w = some .offline

theorem offlineAll_spec (consistent : s.Consistent) (target : DomId) (now : Ticks) :
    (∀ r ∈ (offlineAll target now s).1, r = .ok ()) ∧
      Offlined target s (offlineAll target now s).2 ∧
      ∀ v ∈ s.vcpus target, (offlineAll target now s).2.stateOf target v = some .offline := by
  let step (v : Vcpu) (s : System) : Option (Except SchedError Unit × System) :=
    if s.stateOf target v ≠ some .offline then some (offline target v now s) else none
  have start : Offlined target s s :=
    ⟨consistent, SameSizes.refl s, fun _ _ _ => rfl, fun _ => .inl rfl⟩
  have advance : ∀ v ∈ s.vcpus target, ∀ s₁ r s₂, Offlined target s s₁ →
      step v s₁ = some (r, s₂) → r = .ok () ∧ ∃ c c', c'.state = .offline ∧
        Moved target v c c' s₁ s₂ := by
    intro v member s₁ r s₂ offlined ran
    simp only [step] at ran
    split_ifs at ran with online
    rcases offline_cases s₁ target v now with ⟨c, c', s₃, -, off, -, -, done, moved⟩ | ⟨off, -⟩
    · rw [done] at ran
      cases ran
      exact ⟨rfl, c, c', off, moved⟩
    · have inside : v.toNat < s₁.domains.width target.toNat := by
        have visited := Words.mem_range32.mp member
        have width := offlined.sizes.vcpuCount target
        unfold vcpuCount at width visited
        omega
      obtain ⟨c, present⟩ := Grid.exists_get? inside
      exact absurd (stateOf_eq_some.mpr ⟨c, present, off c present⟩) online
  have swept := Op.sweep_rule step (s.vcpus target) (Offlined target s) (· = .ok ())
    (fun v s₁ => s₁.stateOf target v = some .offline) ?ran ?skipped ?stable start
  case ran =>
    intro v member s₁ r s₂ offlined ran
    obtain ⟨fine, c, c', off, moved⟩ := advance v member s₁ r s₂ offlined ran
    refine ⟨⟨moved.consistent offlined.consistent, offlined.sizes.trans moved.sizes, ?_, ?_⟩,
      fine, ?_⟩
    · intro d w foreign
      rw [moved.vcpu?, if_neg fun here => foreign here.1.symm]
      exact offlined.others d w foreign
    · intro w
      rw [moved.stateOf]
      split_ifs
      · exact .inr (by rw [off])
      · exact offlined.states w
    · rw [moved.stateOf, if_pos ⟨rfl, rfl⟩, off]
  case skipped =>
    intro v _ s₁ _ skipped
    simpa [step] using skipped
  case stable =>
    intro v member w _ s₁ r s₂ offlined done ran
    obtain ⟨-, c, c', off, moved⟩ := advance v member s₁ r s₂ offlined ran
    rw [moved.stateOf]
    split_ifs
    · rw [off]
    · exact done
  obtain ⟨offlined, fine, settled⟩ := swept
  exact ⟨fine, offlined, settled⟩

/-- What a vCPU has run is not forgotten when it goes offline. -/
theorem offlineAll_runtime (consistent : s.Consistent) {target : DomId} (now : Ticks)
    (found : s.vcpu? target v = some c) (member : v ∈ s.vcpus target) :
    ∃ c', (offlineAll target now s).2.vcpu? target v = some c' ∧
      c'.runtime = (closed now c).runtime := by
  let Kept (s₁ : System) : Prop := ∃ c₁, s₁.vcpu? target v = some c₁ ∧
    (c₁ = c ∨ c₁.state = .offline ∧ c₁.runtime = (closed now c).runtime)
  have kept : Kept (offlineAll target now s).2 := by
    refine (@Op.sweep_keeps _ _ _ _ _ Kept (fun _ => True) _ s ?_ ⟨c, found, .inl rfl⟩).1
    intro w _ s₁ r s₂ ⟨c₁, found₁, before⟩ ran
    refine ⟨?_, trivial⟩
    split_ifs at ran with online
    rcases offline_cases s₁ target w now with
      ⟨c₂, c₃, s₃, online, off, -, runtime, done, moved⟩ | ⟨-, e, failed⟩
    · rw [done] at ran
      cases ran
      by_cases here : w = v
      · subst here
        refine ⟨c₃, (moved.vcpu? target w).trans (if_pos ⟨rfl, rfl⟩), .inr ⟨off, ?_⟩⟩
        obtain rfl : c₁ = c₂ := Option.some.inj (found₁.symm.trans moved.found)
        rcases before with rfl | ⟨already, -⟩
        · exact runtime
        · exact absurd already online
      · exact ⟨c₁, (moved.vcpu? target v).trans ((if_neg fun both => here both.2).trans found₁),
          before⟩
    · rw [failed] at ran
      cases ran
      exact ⟨c₁, found₁, before⟩
  obtain ⟨c', found', same | ⟨-, runtime⟩⟩ := kept
  · -- It was offline before, and nothing was running.
    obtain ⟨c'', found'', off⟩ := stateOf_eq_some.mp
      ((offlineAll_spec consistent target now).2.2 v member)
    obtain rfl : c' = c'' := Option.some.inj (found'.symm.trans found'')
    refine ⟨c', found', ?_⟩
    rw [← same, closed, off]
  · exact ⟨c', found', runtime⟩

end Baleen.Sched.System
