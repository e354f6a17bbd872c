import Baleen.Sim.LocalRespect

/-!
# Withdrawing a grant

A grant without mappings is withdrawn unless its grantee has linked the named frame.  The
refusal does not ask who owns the frame: a domain that granted a frame of another can be
refused over a link that rests on the owner's grant.
-/

namespace Baleen.Noninterference

open Evtchn (Port EventChannel)
open Grant (GrantRef Mapping Access)
open P2m (Mfn FrameInfo Link)
open Hypervisor (Regular Tidy Effect Step Reachable Rejected)

variable {hv hv' : Hypervisor} {a b : DomId}

/-- What the caller of a withdrawal is told. -/
def withdrawal (hv : Hypervisor) (a : DomId) (gref : GrantRef) : Except HvError TransitionOutcome :=
  (Hypervisor.apply (.guest a (.grantEndAccess gref)) hv).1

/-- `linker` has a live entry into a frame that is not its own. -/
def LinkedBy (p : P2m.System) (frame : Mfn) (linker : DomId) : Prop :=
  ∃ l ∈ p.live, l.child = frame ∧ p.ownerOf l.parent = some linker ∧ p.ownerOf frame ≠ some linker

theorem isForeignLinkedBy_iff {p : P2m.System} {frame : Mfn} {linker : DomId} :
    p.isForeignLinkedBy frame linker = true ↔ LinkedBy p frame linker := by
  unfold P2m.System.isForeignLinkedBy LinkedBy
  simp only [List.any_eq_true, Bool.and_eq_true, decide_eq_true_eq, P2m.System.live,
    Slab.mem_live, and_assoc, ne_comm]

theorem withdrawal_eq {gref : GrantRef} {x : Access}
    (active : hv.grant.grantEntry a gref = some x) (unmapped : x.maps = 0)
    (inside : a.toNat < hv.domainCount) (alive : hv.isLive a = true) :
    withdrawal hv a gref =
      if hv.p2m.isForeignLinkedBy x.frame x.grantee then .error (.grant .inUse)
      else .ok (.guest .done) := by
  have ended : Grant.System.endAccess a gref hv.grant =
      (.ok (), hv.grant.setEntry a gref .free) := by
    rcases Grant.System.endAccess_cases hv.grant a gref with ⟨-, -, -, ran⟩ | ⟨mapped, -⟩
    · exact ran
    · exact absurd unmapped (mapped x active)
  have routed : Hypervisor.route a (.grantEndAccess gref) hv =
      Hypervisor.grantEndAccess a gref hv := by
    simp only [Hypervisor.route, Hypervisor.inRange, Op.ensure_bind_apply, decide_eq_true inside,
      alive, if_true]
  have refused : Hypervisor.grantEndAccess a gref hv =
      if !hv.p2m.isForeignLinkedBy x.frame x.grantee then
        (.ok .done, { hv with grant := hv.grant.setEntry a gref .free })
      else (.error (.grant .inUse), hv) := by
    unfold Hypervisor.grantEndAccess
    rw [Op.ensure_bind_apply, Op.bind_of_ok (Hypervisor.onGrant_ok ended), active]
    rfl
  show ((Hypervisor.route a (.grantEndAccess gref) >>= fun outcome =>
    pure (.guest outcome) : Op Hypervisor HvError TransitionOutcome) hv).1 = _
  rw [Op.bind_apply, routed, refused]
  cases hv.p2m.isForeignLinkedBy x.frame x.grantee <;> rfl

theorem linkedBy_congr {p p' : P2m.System} {frame : Mfn} {linker : DomId}
    (entries : ∀ l : Link, frame = l.child → p.ownerOf l.parent = some linker →
      p.ownerOf frame ≠ some linker → (l ∈ p'.live ↔ l ∈ p.live))
    (owners : ∀ l ∈ p'.live, p'.ownerOf l.parent = p.ownerOf l.parent ∧
      p'.ownerOf l.child = p.ownerOf l.child) :
    LinkedBy p' frame linker ↔ LinkedBy p frame linker := by
  constructor
  · rintro ⟨l, isLive, rfl, parent, foreign⟩
    obtain ⟨sameParent, sameChild⟩ := owners l isLive
    rw [sameParent] at parent
    rw [sameChild] at foreign
    exact ⟨l, (entries l rfl parent foreign).mp isLive, rfl, parent, foreign⟩
  · rintro ⟨l, isLive, rfl, parent, foreign⟩
    have isLive' := (entries l rfl parent foreign).mpr isLive
    obtain ⟨sameParent, sameChild⟩ := owners l isLive'
    exact ⟨l, isLive', rfl, sameParent.trans parent, sameChild ▸ foreign⟩

theorem linkedBy_kept {touched : Mfn → Prop} {p p' : P2m.System} {frame : Mfn} {linker : DomId}
    (kept : P2m.System.Kept touched p p')
    (entries : ∀ l : Link, p.ownerOf l.parent = some linker → (l ∈ p'.live ↔ l ∈ p.live)) :
    LinkedBy p' frame linker ↔ LinkedBy p frame linker :=
  linkedBy_congr (fun l _ parent _ => entries l parent) fun _ _ => ⟨kept.owner _, kept.owner _⟩

theorem signalled_p2m (signalled : Hypervisor.Signalled b hv hv') : hv'.p2m = hv.p2m := by
  obtain @⟨target, s', -, -⟩ := signalled
  rcases Hypervisor.wakeIfDeliverable_cases { hv with evtchn := s' } target.1 target.2 with
    ⟨same, -⟩ | ⟨vcpu, c, k', -, -, -, -, woken⟩
  · rw [same]
  · rw [woken]

section Steps

variable (apart : Apart hv b a) {gref : GrantRef} {x : Access}
  (active : hv.grant.grantEntry a gref = some x)

include apart active

/-- The grantee of `a` is out of reach of `b`. -/
theorem Apart.grantee {d : DomId} (acts : Acts hv b d) : d ≠ x.grantee := by
  intro same
  exact apart.names acts (.grant active same.symm)

theorem Apart.linkedBy_destroy (regular : Regular hv) (tidy : Tidy hv) (delegated : hv.Delegated)
    (mine : hv.p2m.ownerOf x.frame = some a ∨ ¬LinkedBy hv.p2m x.frame x.grantee) {target : DomId}
    (acts : Acts hv b target) (inside : target.toNat < hv.domainCount) (now : Ticks) :
    LinkedBy (hv.teardown target now).2.p2m x.frame x.grantee ↔
      LinkedBy hv.p2m x.frame x.grantee := by
  have spared := Hypervisor.teardown_spared regular tidy delegated inside now
  obtain ⟨-, reclaimed⟩ := Hypervisor.teardown_memory regular.memory target now
  have survives : ∀ {l}, l ∈ (hv.teardown target now).2.p2m.live ↔
      l ∈ hv.p2m.live ∧ ¬Hypervisor.LinkOf target hv l := by
    intro l
    rw [reclaimed.links, List.mem_filter, Bool.not_eq_true', Bool.eq_false_iff, ne_eq,
      Hypervisor.straddles_iff]
  refine linkedBy_congr ?_ ?_
  · intro l frame parent foreign
    rw [survives]
    refine and_iff_left_of_imp fun isLive => ?_
    rintro (fromTarget | intoTarget)
    · exact apart.grantee active acts (Option.some.inj (fromTarget.symm.trans parent))
    · rcases mine with owned | unlinked
      · rw [frame, intoTarget] at owned
        exact apart.other acts (Option.some.inj owned)
      · exact unlinked ⟨l, isLive, frame.symm, parent, foreign⟩
  · intro l isLive
    obtain ⟨fromOther, intoOther⟩ := not_or.mp (survives.mp isLive).2
    exact ⟨(spared.owners fromOther).1, (spared.owners intoOther).1⟩

/-- No step of a stranger moves what a withdrawal depends on. -/
theorem Apart.linkedBy (regular : Regular hv) (tidy : Tidy hv) (delegated : hv.Delegated)
    (mine : hv.p2m.ownerOf x.frame = some a ∨ ¬LinkedBy hv.p2m x.frame x.grantee)
    (effect : Effect b hv hv') :
    LinkedBy hv'.p2m x.frame x.grantee ↔ LinkedBy hv.p2m x.frame x.grantee := by
  have stranger : b ≠ x.grantee := apart.grantee active (.self hv b)
  cases effect with
  | signal signalled => rw [signalled_p2m signalled]
  | @map m y i g' _ _ _ _ known _ _ =>
      refine linkedBy_congr (fun l _ _ _ => .rfl) fun l _ => ?_
      have same := FrameInfo.bump_owner i (Grant.Unmapped.ref ⟨y.frame, m.writable⟩)
      exact ⟨P2m.System.ownerOf_setFrame known same, P2m.System.ownerOf_setFrame known same⟩
  | @unmap m y g' p' _ _ kept links _ =>
      refine linkedBy_kept kept fun l _ => ?_
      unfold P2m.System.live
      rw [links]
  | @frame m f before after sound =>
      have kept : ∀ {k}, (∃ i, hv.p2m.info k = some i) →
        (∃ i, (hv.p2m.setFrame m f).info k = some i) →
          (hv.p2m.setFrame m f).ownerOf k = hv.p2m.ownerOf k := by
        rintro k ⟨i, known⟩ ⟨j, known'⟩
        by_cases here : m = k
        · subst here
          rw [P2m.System.ownerOf_of_info known'] 
          rw [P2m.System.info_setFrame, if_pos rfl] at known'
          obtain ⟨_, -, fresh⟩ := Option.bind_eq_some_iff.mp known'
          rw [after fresh]
          rcases before with owned | free
          · exact owned.symm
          · rw [P2m.System.ownerOf_of_info known] at free
            cases free
        · exact Hypervisor.ownerOf_setFrame_other here
      refine linkedBy_congr (fun l _ _ _ => .rfl) fun l isLive => ⟨kept ?_ ?_, kept ?_ ?_⟩
      · exact (regular.memory.pages.parent_table isLive).imp fun _ => And.left
      · exact (sound.pages.parent_table isLive).imp fun _ => And.left
      · exact regular.memory.pages.child_allocated isLive
      · exact sound.pages.child_allocated isLive
  | @link l p' linked parent _ _ =>
      refine linkedBy_kept linked.kept fun l' parent' => ?_
      rw [linked.mem_iff, or_iff_right]
      rintro rfl
      exact stranger (Option.some.inj (parent.symm.trans parent'))
  | @unlink l p' isLive unlinked parent _ =>
      refine linkedBy_kept unlinked.kept fun l' parent' => ?_
      rw [unlinked.mem_iff, or_iff_right]
      rintro rfl
      exact stranger (Option.some.inj (parent.symm.trans parent'))
  | @destroy target now inside permitted =>
      exact apart.linkedBy_destroy active regular tidy delegated mine permitted inside now
  | _ => exact .rfl

end Steps

/-- A withdrawal is refused only over a link into a frame of the caller, and strangers do
not decide it. -/
structure Precise (hv : Hypervisor) (a : DomId) (gref : GrantRef) (x : Access) : Prop where
  refusal : withdrawal hv a gref = .error (.grant .inUse) →
    hv.p2m.ownerOf x.frame = some a ∧ ∃ l ∈ hv.p2m.live, l.child = x.frame ∧
      hv.p2m.ownerOf l.parent = some x.grantee
  unowned : hv.p2m.ownerOf x.frame ≠ some a → withdrawal hv a gref = .ok (.guest .done)
  undisturbed : ∀ t : Transition, Channels.full.authorized hv t.actor a = false →
    (withdrawal (Hypervisor.apply t hv).2 a gref = .ok (.guest .done) ↔
      withdrawal hv a gref = .ok (.guest .done))

/-- A domain with an active grant is live. -/
theorem alive_of_active {c : Config} (reachable : Reachable c hv)
    (ports : c.portsPerDomain ≤ 2 ^ 32)
    (grants : c.grantsPerDomain < 2 ^ 32) {gref : GrantRef} {x : Access}
    (active : hv.grant.grantEntry a gref = some x) :
    a.toNat < hv.domainCount ∧ hv.isLive a = true := by
  have shape := reachable.sameShape
  have entry := Grant.System.grantEntry_eq_some.mp active
  have row : a.toNat < hv.grant.domainCount := Grid.lt_length_of_get? entry
  have cell : gref.toNat < hv.grant.entryCount a := Grid.lt_width_of_get? entry
  have rows : hv.grant.domainCount = c.numDomains := by
    rw [shape.grants.domainCount]
    exact Grid.length_fill ..
  have inside : a.toNat < hv.domainCount := by
    rw [reachable.domainCount]
    exact rows ▸ row
  refine ⟨inside, reachable.alive_of_not_dead inside fun dead => ?_⟩
  have visited : gref ∈ hv.grant.grefs a := by
    have few : hv.grant.entryCount a ≤ c.grantsPerDomain := by
      rw [shape.grants.entryCount, Hypervisor.new, Grant.System.entryCount, Grant.System.new,
        Grid.width_fill]
      split_ifs
      · exact le_rfl
      · exact Nat.zero_le _
    rw [Grant.System.grefs, Words.mem_range32, Nat.mod_eq_of_lt (lt_of_le_of_lt few grants)]
    exact cell
  rw [((reachable.tidy ports).shells dead).memory.grants gref visited] at active
  cases active

/-- What a stranger leaves of a withdrawable grant. -/
theorem spared_of_unauthorized {c : Config} (reachable : Reachable c hv)
    (domains : c.numDomains < 2 ^ 16) (ports : c.portsPerDomain < 2 ^ 32)
    (grants : c.grantsPerDomain < 2 ^ 32) (handles : hv.grant.handleSlots a < 2 ^ 32)
    {t : Transition} (unauthorized : Channels.full.authorized hv t.actor a = false)
    {gref : GrantRef} {x : Access} (active : hv.grant.grantEntry a gref = some x)
    (mine : hv.p2m.ownerOf x.frame = some a ∨ ¬LinkedBy hv.p2m x.frame x.grantee) :
    (LinkedBy (Hypervisor.apply t hv).2.p2m x.frame x.grantee ↔
        LinkedBy hv.p2m x.frame x.grantee) ∧
      (Hypervisor.apply t hv).2.grant.grantEntry a gref = some x := by
  have regular := reachable.regular
  have tidy := reachable.tidy (Nat.le_of_lt ports)
  refine Op.Yields.state (P := fun hv' => (LinkedBy hv'.p2m x.frame x.grantee ↔
    LinkedBy hv.p2m x.frame x.grantee) ∧ hv'.grant.grantEntry a gref = some x)
    ((Hypervisor.apply_spec regular t).mono ?_ ?_)
  · intro _ hv' step
    cases step with
    | call inside _ effect =>
        have apart :=
          apart_of_reachable reachable domains ports grants handles unauthorized inside
        have untouched := apart.effect regular tidy reachable.delegated effect
        exact ⟨apart.linkedBy active regular tidy reachable.delegated mine effect,
          (untouched.grants.rows gref).trans active⟩
    | virq signalled =>
        have apart :=
          apart_of_signalled reachable domains ports grants handles unauthorized signalled
        have untouched := apart.signalled tidy.ports signalled
        exact ⟨by rw [signalled_p2m signalled], (untouched.grants.rows gref).trans active⟩
  · intro hv' rejected
    have untouched : Untouched a hv hv' := .rejected rejected
    refine ⟨linkedBy_congr (fun _ _ _ _ => by rw [rejected.frames.live]) fun l _ => ?_,
      (untouched.grants.rows gref).trans active⟩
    exact ⟨rejected.frames.owner _, rejected.frames.owner _⟩

/-- A withdrawal is precise if the caller owns the frame that its grant names, or the
grantee has no entry into it; and only then. -/
theorem endAccess_precise (c : Config) (hv : Hypervisor) (reachable : Reachable c hv)
    (domains : c.numDomains < 2 ^ 16) (ports : c.portsPerDomain < 2 ^ 32)
    (grants : c.grantsPerDomain < 2 ^ 32) (a : DomId)
    (handles : hv.grant.handleSlots a < 2 ^ 32) (gref : GrantRef) (x : Access)
    (active : hv.grant.grantEntry a gref = some x) (unmapped : x.maps = 0) :
    Precise hv a gref x ↔ hv.p2m.ownerOf x.frame = some a ∨
      hv.p2m.isForeignLinkedBy x.frame x.grantee = false := by
  have regular := reachable.regular
  have tidy := reachable.tidy (Nat.le_of_lt ports)
  obtain ⟨inside, alive⟩ := alive_of_active reachable (Nat.le_of_lt ports) grants active
  have told := withdrawal_eq active unmapped inside alive
  constructor
  · intro precise
    by_contra imprecise
    obtain ⟨unowned, linked⟩ := not_or.mp imprecise
    rw [precise.unowned unowned, if_pos (by simpa using linked)] at told
    cases told
  · intro mine
    have mine' : hv.p2m.ownerOf x.frame = some a ∨ ¬LinkedBy hv.p2m x.frame x.grantee := by
      rwa [← isForeignLinkedBy_iff, Bool.not_eq_true]
    exact {
      refusal := by
        intro refused
        rw [told] at refused
        split_ifs at refused with linked
        obtain ⟨l, isLive, child, parent, -⟩ := isForeignLinkedBy_iff.mp linked
        refine ⟨mine'.resolve_right fun unlinked => ?_, l, isLive, child, parent⟩
        exact unlinked (isForeignLinkedBy_iff.mp linked)
      unowned := by
        intro unowned
        rw [told, mine.resolve_left unowned]
        rfl
      undisturbed := by
        intro t unauthorized
        obtain ⟨same, active'⟩ := spared_of_unauthorized reachable domains ports grants handles
          unauthorized active mine'
        obtain ⟨inside', alive'⟩ :=
          alive_of_active (reachable.apply t) (Nat.le_of_lt ports) grants active'
        have linked : (Hypervisor.apply t hv).2.p2m.isForeignLinkedBy x.frame x.grantee =
            hv.p2m.isForeignLinkedBy x.frame x.grantee := by
          rw [Bool.eq_iff_iff, isForeignLinkedBy_iff, isForeignLinkedBy_iff, same]
        rw [withdrawal_eq active' unmapped inside' alive', told, linked] }

/-- The owner of a frame withdraws the grant of it. -/
theorem endAccess_precise_owner :
    let hv := Op.run Hypervisor.apply [.guest 0 (.domainCreate 1 false), .guest 0 (.p2mAllocate 0),
      .guest 0 (.grantAccess 0 1 0 false)] (Hypervisor.new ⟨2, 1, 1, 1, 1, 1, 0⟩)
    hv.p2m.ownerOf 0 = some 0 ∧ Precise hv 0 0 ⟨1, 0, false, 0, 0⟩ :=
  ⟨by decide +kernel, (endAccess_precise ⟨2, 1, 1, 1, 1, 1, 0⟩ _ ⟨_, rfl⟩ (by decide) (by decide)
    (by decide) 0 (by decide +kernel) 0 ⟨1, 0, false, 0, 0⟩ (by decide +kernel) rfl).mpr
      (.inl (by decide +kernel))⟩

/-- Domain `1` grants a frame of domain `0`; domain `2` links it with the consent of
domain `0`, and domain `1` is refused. -/
theorem endAccess_refused_unowned :
    let hv := Op.run Hypervisor.apply [.guest 0 (.domainCreate 1 false),
      .guest 0 (.domainCreate 2 false), .guest 0 (.p2mAllocate 0), .guest 2 (.p2mAllocate 1),
      .guest 2 (.p2mPin 1 .l1), .guest 0 (.grantAccess 0 2 0 false),
      .guest 1 (.grantAccess 0 2 0 false), .guest 2 (.p2mLink 1 0 0 true true false)]
      (Hypervisor.new ⟨3, 1, 1, 1, 1, 2, 0⟩)
    hv.grant.grantEntry 1 0 = some ⟨2, 0, false, 0, 0⟩ ∧ hv.p2m.ownerOf 0 = some 0 ∧
      withdrawal hv 1 0 = .error (.grant .inUse) ∧ ¬Precise hv 1 0 ⟨2, 0, false, 0, 0⟩ := by
  intro hv
  have refused : withdrawal hv 1 0 = .error (.grant .inUse) := by decide +kernel
  have owner : hv.p2m.ownerOf 0 = some 0 := by decide +kernel
  refine ⟨by decide +kernel, owner, refused, fun precise => ?_⟩
  obtain ⟨mine, -⟩ := precise.refusal refused
  rw [owner] at mine
  cases mine

end Baleen.Noninterference
