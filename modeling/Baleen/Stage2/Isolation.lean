import Baleen.Hypervisor.Delegation
import Baleen.Stage2.Leaves

/-!
# Isolation of the emitted maps

In every reachable state the leaf maps map what the domain owns or was granted, at a
permission the page types allow, and a dead domain maps nothing.
-/

namespace Baleen

open Grant (Mapping)
open P2m (Mfn FrameInfo Link Kind)

namespace Hypervisor

variable {hv hv' : Hypervisor} {actor : DomId} {c : Config}

/-- No frame that the loops visit belongs to a dead domain. -/
def Unowned (hv : Hypervisor) : Prop :=
  ∀ d, hv.lifeOf d = some .dead → ∀ m ∈ hv.p2m.mfns, hv.p2m.ownerOf m ≠ some d

/-- Frames stay where they are, or go to domains that are not dead. -/
theorem Unowned.moved (unowned : Unowned hv) (frameCount : hv'.p2m.frameCount = hv.p2m.frameCount)
    (life : ∀ d, hv'.lifeOf d = some .dead → hv.lifeOf d = some .dead)
    (owners : ∀ {m d}, hv'.p2m.ownerOf m = some d →
      hv.p2m.ownerOf m = some d ∨ hv.lifeOf d = some .live) : Unowned hv' := by
  intro d dead m member owned
  have before := life d dead
  rw [P2m.System.mfns_of_frameCount frameCount] at member
  cases owners owned with
  | inl same => exact unowned d before m member same
  | inr alive =>
      rw [before] at alive
      cases alive

theorem Signalled.p2m (signalled : Signalled actor hv hv') : hv'.p2m = hv.p2m := by
  obtain @⟨target, s', -, -⟩ := signalled
  rcases wakeIfDeliverable_cases { hv with evtchn := s' } target.1 target.2 with
    ⟨same, -⟩ | ⟨_, _, _, -, -, -, -, woken⟩
  · rw [same]
  · rw [woken]

theorem Signalled.unowned (signalled : Signalled actor hv hv') (unowned : Unowned hv) :
    Unowned hv' := by
  unfold Unowned lifeOf
  rw [signalled.p2m, signalled.sameAuthority.life]
  exact unowned

theorem teardown_unowned (regular : Regular hv) (unowned : Unowned hv) (target : DomId)
    (now : Ticks) : Unowned (hv.teardown target now).2 := by
  obtain ⟨-, reclaimed⟩ := teardown_memory regular.memory target now
  intro d dead m member
  rw [P2m.System.mfns_of_frameCount reclaimed.frameCount] at member
  unfold lifeOf at dead
  rw [teardown_life, List.getElem?_set] at dead
  by_cases here : target = d
  · subst here
    exact reclaimed.freed m member
  · rw [if_neg fun same => here (UInt16.toNat_inj.mp same)] at dead
    exact fun owned => unowned d dead m member (reclaimed.lost m d owned)

theorem Effect.unowned (regular : Regular hv) (unowned : Unowned hv)
    (alive : hv.isLive actor = true) (effect : Effect actor hv hv') : Unowned hv' := by
  cases effect with
  | signal signalled => exact signalled.unowned unowned
  | map _ _ _ _ known _ _ =>
      refine unowned.moved (P2m.System.frameCount_setFrame ..) (fun _ => id) fun owned => .inl ?_
      rw [← P2m.System.ownerOf_setFrame known (P2m.FrameInfo.bump_owner _ _)]
      exact owned
  | unmap _ _ kept _ _ =>
      exact unowned.moved kept.frameCount (fun _ => id) fun owned => .inl (kept.owner _ ▸ owned)
  | @frame m f before after _ =>
      refine unowned.moved (P2m.System.frameCount_setFrame ..) (fun _ => id) ?_
      intro m' d owned
      obtain ⟨i, known, rfl⟩ := P2m.System.ownerOf_eq_some.mp owned
      rw [P2m.System.info_setFrame] at known
      split_ifs at known with here
      · right
        obtain ⟨_, -, info⟩ := Option.bind_eq_some_iff.mp known
        rw [after info]
        exact isLive_iff.mp alive
      · exact .inl (P2m.System.ownerOf_of_info known)
  | link linked _ _ _ =>
      exact unowned.moved linked.kept.frameCount (fun _ => id) fun owned =>
        .inl (linked.kept.owner _ ▸ owned)
  | unlink _ unlinked _ _ =>
      exact unowned.moved unlinked.kept.frameCount (fun _ => id) fun owned =>
        .inl (unlinked.kept.owner _ ▸ owned)
  | @create target _ _ _ _ =>
      refine unowned.moved rfl ?_ fun owned => .inl owned
      intro d dead
      have dead : (hv.life.set target.toNat .live)[d.toNat]? = some .dead := dead
      rw [List.getElem?_set] at dead
      split_ifs at dead
      · cases dead
      · exact dead
  | @destroy target now _ _ => exact teardown_unowned regular unowned target now
  | _ => exact unowned

theorem Reachable.unowned (reachable : Reachable c hv) : Unowned hv := by
  refine reachable.preserved ?_ ?_ ?_
  · intro d _ m _ owned
    have free : (Hypervisor.new c).p2m.info m = none := by
      unfold P2m.System.info
      simp only [Hypervisor.new, P2m.System.new, List.getElem?_replicate]
      split_ifs <;> rfl
    rw [P2m.System.ownerOf, free] at owned
    cases owned
  · rintro t hv hv' regular unowned (⟨-, alive, effect⟩ | signalled)
    · exact effect.unowned regular unowned alive
    · exact signalled.unowned unowned
  · intro hv hv' unowned rejected
    rw [rejected.others]
    refine unowned.moved rejected.frames.frameCount (fun _ => id) fun owned => .inl ?_
    exact rejected.frames.owner _ ▸ owned

end Hypervisor

namespace Stage2

open Hypervisor (Reachable Regular Unowned)

variable {hv : Hypervisor} {c : Config} {dom : DomId} {m m' : Maps} {span : Span}

def edgeOf (l : Link) : Edge := (l.parent, l.slot, l.child, l.writable, l.leaf, l.execute)

theorem mem_linkEdges {p : P2m.System} {e : Edge} :
    e ∈ p.linkEdges ↔ ∃ l ∈ p.live, edgeOf l = e := List.mem_map

theorem reaches_edgeOf {p : P2m.System} {l : Link} :
    reaches p.ownerOf dom (edgeOf l) = true ↔ l.leaf = true ∧ p.ownerOf l.parent = some dom := by
  unfold reaches
  rw [Bool.and_eq_true, decide_eq_true_eq]
  rfl

/-- The last of the live entries behind a mapped cell. -/
theorem mapped_entry (emitted : leafMap hv.p2m dom m = (.ok (), m')) {i : Nat} {perm : Perm}
    (mapped : (m'.leavesOf span)[i]? = some (some perm)) :
    ∃ l ∈ hv.p2m.live, l.leaf = true ∧ hv.p2m.ownerOf l.parent = some dom ∧ l.child.toNat = i ∧
      spanOfTable hv.p2m l.parent = some span ∧ (edgeOf l).perm = perm := by
  have cells := (emitted_of_ok emitted).cells
  obtain ⟨-, last⟩ := (mapped_iff cells).mp mapped
  obtain ⟨e, member, ⟨reached, index, spanned⟩, same⟩ := lastLeaf_eq_some last
  obtain ⟨l, isLive, rfl⟩ := mem_linkEdges.mp member
  obtain ⟨leaf, owner⟩ := reaches_edgeOf.mp reached
  exact ⟨l, isLive, leaf, owner, index, spanned, same⟩

theorem writable_of_perm {l : Link} (perm : (edgeOf l).perm = .rw) : l.writable = true := by
  unfold Edge.perm at perm
  split_ifs at perm with writable
  exact writable

theorem execute_of_perm {l : Link} (perm : (edgeOf l).perm = .rx) : l.execute = true := by
  unfold Edge.perm at perm
  split_ifs at perm with _ execute
  exact execute

theorem writable_perm (l : Link) : (edgeOf l).perm.writable = l.writable := by
  unfold Edge.perm
  split_ifs with writable execute
  · exact writable.symm
  · exact (Bool.eq_false_iff.mpr writable).symm
  · exact (Bool.eq_false_iff.mpr writable).symm

/-- The child of an entry belongs to the table's owner or was granted to it. -/
theorem child_authorized (regular : Regular hv) {l : Link} (isLive : l ∈ hv.p2m.live)
    (owner : hv.p2m.ownerOf l.parent = some dom) :
    ∃ d, hv.p2m.ownerOf l.child = some d ∧
      (d = dom ∨ hv.grant.authorizes d dom l.child l.writable = true) := by
  obtain ⟨i, known⟩ := regular.memory.pages.child_allocated isLive
  have childOwner := P2m.System.ownerOf_of_info known
  refine ⟨i.owner, childOwner, ?_⟩
  by_cases own : i.owner = dom
  · exact .inl own
  · exact .inr (regular.memory.consent isLive childOwner owner own)

/-- The maps of a domain agree with the model. -/
structure Refined (hv : Hypervisor) (dom : DomId) (maps : Maps) : Prop where
  authorized : ∀ {span} {mfn : Mfn} {perm}, (maps.leavesOf span)[mfn.toNat]? = some (some perm) →
    ∃ owner, hv.p2m.ownerOf mfn = some owner ∧
      (owner = dom ∨ hv.grant.authorizes owner dom mfn perm.writable = true)
  witnessed : ∀ {span} {i : Nat} {perm}, (maps.leavesOf span)[i]? = some (some perm) →
    ∃ l ∈ hv.p2m.live, l.leaf = true ∧ hv.p2m.ownerOf l.parent = some dom ∧ l.child.toNat = i ∧
      spanOfTable hv.p2m l.parent = some span ∧ (edgeOf l).perm = perm
  mapped : ∀ {l}, l ∈ hv.p2m.live → l.leaf = true → hv.p2m.ownerOf l.parent = some dom →
    ∃ span perm, spanOfTable hv.p2m l.parent = some span ∧
      (maps.leavesOf span)[l.child.toNat]? = some (some perm)
  dead : hv.lifeOf dom = some .dead → ∀ {span} {i : Nat} {perm},
    (maps.leavesOf span)[i]? ≠ some (some perm)

theorem leafMap_refined (regular : Regular hv) (unowned : Unowned hv)
    (frames : hv.p2m.frameCount ≤ TABLE_ENTRIES) (emitted : leafMap hv.p2m dom m = (.ok (), m')) :
    Refined hv dom m' where
  authorized := by
    intro span mfn perm mapped
    obtain ⟨l, isLive, -, owner, index, -, rfl⟩ := mapped_entry emitted mapped
    obtain rfl : l.child = mfn := UInt32.toNat_inj.mp index
    rw [writable_perm]
    exact child_authorized regular isLive owner
  witnessed := mapped_entry emitted
  mapped := by
    intro l isLive leaf owner
    have emitted := emitted_of_ok emitted
    exact mapped_of_edge emitted.cells emitted.fit (mem_linkEdges.mpr ⟨l, isLive, rfl⟩)
      (reaches_edgeOf.mpr ⟨leaf, owner⟩)
  dead := by
    intro dead span i perm mapped
    obtain ⟨l, -, -, owner, -⟩ := mapped_entry emitted mapped
    refine unowned dom dead l.parent ?_ owner
    obtain ⟨info, known, -⟩ := P2m.System.ownerOf_eq_some.mp owner
    obtain ⟨inside, -⟩ := List.getElem?_eq_some_iff.mp (P2m.System.getElem?_of_info known)
    have inside : l.parent.toNat < hv.p2m.frameCount := inside
    have small : hv.p2m.frameCount < 2 ^ 32 := lt_of_le_of_lt frames (by decide)
    rw [P2m.System.mfns, Words.mem_range32, Nat.mod_eq_of_lt small]
    exact inside

theorem checkAuthorized_ok {leaves : List (Option Perm)} (small : leaves.length ≤ TABLE_ENTRIES)
    (fine : ∀ {mfn : Mfn} {perm}, leaves[mfn.toNat]? = some (some perm) →
      ∃ owner, hv.p2m.ownerOf mfn = some owner ∧
        (owner = dom ∨ hv.grant.authorizes owner dom mfn perm.writable = true)) :
    checkAuthorized hv dom leaves = .ok () := by
  have clean : ((List.range leaves.length).findSome? fun i => ((leaves[i]?).getD none).bind
      (unauthorized dom hv.p2m.ownerOf hv.grant.authorizes (UInt32.ofNat i))) = none := by
    refine List.findSome?_eq_none_iff.mpr fun i member => ?_
    have inside := List.mem_range.mp member
    have index : (UInt32.ofNat i).toNat = i :=
      Words.toNat_ofNat32 (lt_of_lt_of_le inside (small.trans (by decide)))
    rw [List.getElem?_eq_getElem inside, Option.getD_some]
    cases mapped : leaves[i] with
    | none => rfl
    | some perm =>
        have here : leaves[(UInt32.ofNat i).toNat]? = some (some perm) := by
          rw [index, List.getElem?_eq_getElem inside, mapped]
        obtain ⟨owner, known, allowed⟩ := fine here
        have write : decide (perm = .rw) = perm.writable := by cases perm <;> rfl
        simp only [Option.bind_some, unauthorized, known, write]
        cases allowed with
        | inl own => rw [if_pos own]
        | inr granted =>
            split_ifs
            · rfl
            · rfl
  unfold checkAuthorized checkAuthorizedWith
  rw [clean]

theorem checkExact_ok (emitted : leafMap hv.p2m dom m = (.ok (), m'))
    (small : (m'.leavesOf span).length ≤ TABLE_ENTRIES) :
    checkExact hv dom (m'.leavesOf span) span = .ok () := by
  have emitted := emitted_of_ok emitted
  have clean : ((List.range (m'.leavesOf span).length).findSome? fun i =>
      let mapped := ((m'.leavesOf span)[i]?).getD none
      let expected := expectedAt hv.p2m.ownerOf (spanOfTable hv.p2m) dom span (UInt32.ofNat i)
        hv.p2m.linkEdges
      if mapped ≠ expected then some (Violation.inexact dom (UInt32.ofNat i) mapped expected)
      else none) = none := by
    refine List.findSome?_eq_none_iff.mpr fun i member => if_neg ?_
    have inside := List.mem_range.mp member
    have index : (UInt32.ofNat i).toNat = i :=
      Words.toNat_ofNat32 (lt_of_lt_of_le inside (small.trans (by decide)))
    have inside' : i < (m.leavesOf span).length := by
      rw [← emitted.capacity span]
      exact inside
    rw [not_not, expectedAt_eq, index, emitted.cells, List.getElem?_eq_getElem inside']
    rfl
  unfold checkExact
  rw [clean]

/-- The buffers hold as many cells as there are frames. -/
def Sized (hv : Hypervisor) (m : Maps) : Prop :=
  ∀ span, (m.leavesOf span).length = hv.p2m.frameCount

theorem checkDomain_spec (regular : Regular hv) (unowned : Unowned hv)
    (frames : hv.p2m.frameCount ≤ TABLE_ENTRIES) (sized : Sized hv m) (dom : DomId) :
    (∃ m', checkDomain hv dom m = (.ok (), m') ∧ Sized hv m') ∨
      ∃ o m', checkDomain hv dom m = (.error (.outOfDomain o), m') := by
  rcases @leafMapFromEdges_spec hv.p2m.ownerOf (spanOfTable hv.p2m) dom hv.p2m.linkEdges m with
    ⟨m', ran, emitted⟩ | ⟨error, m', ran, why⟩
  · left
    have done : leafMap hv.p2m dom m = (.ok (), m') := ran
    have sized' : Sized hv m' := fun span => (emitted.capacity span).trans (sized span)
    have small : ∀ span, (m'.leavesOf span).length ≤ TABLE_ENTRIES := by
      intro span
      rw [sized' span]
      exact frames
    have refined := leafMap_refined regular unowned frames done
    have authorized : ∀ span, checkAuthorized hv dom (m'.leavesOf span) = .ok () :=
      fun span => checkAuthorized_ok (small span) refined.authorized
    have exact' : ∀ span, checkExact hv dom (m'.leavesOf span) span = .ok () :=
      fun span => checkExact_ok done (small span)
    refine ⟨m', ?_, sized'⟩
    have authorizedBase : checkAuthorized hv dom m'.base = .ok () := authorized .base
    have authorizedSup : checkAuthorized hv dom m'.sup = .ok () := authorized .super
    have exactBase : checkExact hv dom m'.base .base = .ok () := exact' .base
    have exactSup : checkExact hv dom m'.sup .super = .ok () := exact' .super
    simp only [checkDomain, Op.attempt_bind_apply, done, Op.read_bind_apply, Op.query_bind_apply,
      authorizedBase, exactBase, authorizedSup, exactSup, Op.query_apply, Except.mapError]
  · right
    have failed : leafMap hv.p2m dom m = (.error error, m') := ran
    have verdict : ∃ o, error.verdict dom = .outOfDomain o := by
      rcases why with ⟨mfn, rfl, -⟩ |
        ⟨e, member, reached, unfit, ⟨-, rfl⟩ | ⟨frame, span, rfl, -, spanned⟩⟩
      · exact ⟨_, rfl⟩
      · exact ⟨_, rfl⟩
      · refine absurd ⟨span, spanned, ?_⟩ unfit
        obtain ⟨l, isLive, rfl⟩ := mem_linkEdges.mp member
        obtain ⟨i, known⟩ := regular.memory.pages.child_allocated isLive
        obtain ⟨inside, -⟩ := List.getElem?_eq_some_iff.mp (P2m.System.getElem?_of_info known)
        rw [sized span]
        exact inside
    obtain ⟨o, verdict⟩ := verdict
    refine ⟨o, m', ?_⟩
    simp only [checkDomain, Op.attempt_bind_apply, failed, verdict, Op.fail_apply]

theorem checkDomains_spec (regular : Regular hv) (unowned : Unowned hv)
    (frames : hv.p2m.frameCount ≤ TABLE_ENTRIES) (doms : List Nat) (sized : Sized hv m)
    (v : Violation) : (checkDomains hv doms m).1 ≠ .error (.violated v) := by
  induction doms generalizing m with
  | nil =>
      intro failed
      cases failed
  | cons d rest ih =>
      unfold checkDomains
      rcases checkDomain_spec regular unowned frames sized (UInt16.ofNat d) with
        ⟨m', ran, sized'⟩ | ⟨o, m', ran⟩
      · rw [Op.bind_of_ok ran]
        exact ih sized'
      · rw [Op.bind_of_error ran]
        intro failed
        cases failed

/-- The checker reports no breach in any reachable state, and every emitted pair of maps
agrees with ownership, grants and live entries. -/
theorem stage2_isolation (c : Config) (hv : Hypervisor) (reachable : Reachable c hv)
    (frames : hv.p2m.frameCount ≤ 512) :
    (∀ v, checkAll hv ≠ .error (.violated v)) ∧
      ∀ (dom : DomId) (m m' : Maps), leafMap hv.p2m dom m = (.ok (), m') → Refined hv dom m' := by
  have regular := reachable.regular
  have unowned := reachable.unowned
  refine ⟨?_, fun dom m m' emitted => leafMap_refined regular unowned frames emitted⟩
  refine checkDomains_spec regular unowned frames (List.range hv.domainCount) ?_
  intro span
  have all : min hv.p2m.frameCount TABLE_ENTRIES = hv.p2m.frameCount := min_eq_left frames
  cases span with
  | base => exact List.length_replicate.trans all
  | super => exact List.length_replicate.trans all

/-- A granted frame, linked by its grantee. -/
theorem stage2_isolation_granted :
    let hv := Op.run Hypervisor.apply [.guest 0 (.domainCreate 1 false), .guest 0 (.p2mAllocate 0),
      .guest 0 (.grantAccess 0 1 0 false), .guest 1 (.p2mAllocate 1), .guest 1 (.p2mPin 1 .l1),
      .guest 1 (.p2mLink 1 0 0 true true false)] (Hypervisor.new ⟨2, 1, 1, 1, 1, 2, 0⟩)
    let out : Maps := ⟨[none, none], [none, none]⟩
    leafMap hv.p2m 1 out = (.ok (), ⟨[some .rw, none], [none, none]⟩) ∧
      Refined hv 1 ⟨[some .rw, none], [none, none]⟩ := by
  intro hv out
  have emitted : leafMap hv.p2m 1 out = (.ok (), ⟨[some .rw, none], [none, none]⟩) := by
    decide +kernel
  exact ⟨emitted, (stage2_isolation ⟨2, 1, 1, 1, 1, 2, 0⟩ hv ⟨_, rfl⟩ (by decide +kernel)).2 1 out _
    emitted⟩

/-- What the mapped permission of a frame says about its counters. -/
theorem mapped_counters (regular : Regular hv) (emitted : leafMap hv.p2m dom m = (.ok (), m'))
    {mfn : Mfn} {perm : Perm} (mapped : (m'.leavesOf span)[mfn.toNat]? = some (some perm)) :
    ∃ i, hv.p2m.info mfn = some i ∧ (perm = .rw → 0 < i.writableRefs) ∧
      (perm = .rx → 0 < i.executableRefs) := by
  obtain ⟨l, isLive, leaf, -, index, -, rfl⟩ := mapped_entry emitted mapped
  obtain rfl : l.child = mfn := UInt32.toNat_inj.mp index
  obtain ⟨i, known⟩ := regular.memory.pages.child_allocated isLive
  have balanced := regular.memory.pages.balanced known
  have claimed := Hypervisor.Sound.child_claimed isLive
    ((hv.grant.backing ++ []).map Grant.Unmapped.claim)
  refine ⟨i, known, fun write => ?_, fun execute => ?_⟩
  · have kind : l.kind = .write := by
      simp [Link.kind, leaf, writable_of_perm write]
    rw [kind] at claimed
    rw [balanced.writable]
    exact List.count_pos_iff.mpr claimed
  · have shaped := P2m.kind_shaped (regular.memory.pages.shaped isLive)
    have kind : l.kind = .exec := by
      have exec := shaped.2.1
      rw [leaf, execute_of_perm execute] at exec
      exact of_decide_eq_true exec
    rw [kind] at claimed
    rw [balanced.executable]
    exact List.count_pos_iff.mpr claimed

/-- No frame is emitted writable for one domain and executable for another, no page table is
emitted writable, and no frame under a writable grant mapping is emitted executable. -/
theorem emitted_write_xor_execute (c : Config) (hv : Hypervisor) (reachable : Reachable c hv)
    (dom dom' : DomId) (m m' out out' : Maps) (emitted : leafMap hv.p2m dom out = (.ok (), m))
    (emitted' : leafMap hv.p2m dom' out' = (.ok (), m')) (span span' : Span) (mfn : Mfn) :
    ((m.leavesOf span)[mfn.toNat]? = some (some .rw) →
        (m.leavesOf span')[mfn.toNat]? ≠ some (some .rx) ∧
          (m'.leavesOf span')[mfn.toNat]? ≠ some (some .rx)) ∧
      (∀ level, hv.p2m.currentType mfn = some (.pageTable level) →
        (m.leavesOf span)[mfn.toNat]? ≠ some (some .rw)) ∧
      ∀ mp ∈ hv.grant.live, mp.writable = true →
        hv.grant.grantedFrame mp.grantor mp.gref = some mfn →
        (m.leavesOf span)[mfn.toNat]? ≠ some (some .rx) := by
  have regular := reachable.regular
  have exclusive : ∀ {d : DomId} {b b' : Maps} {s : Span} {i : FrameInfo},
      leafMap hv.p2m d b = (.ok (), b') → hv.p2m.info mfn = some i → 0 < i.writableRefs →
      (b'.leavesOf s)[mfn.toNat]? ≠ some (some .rx) := by
    intro d b b' s i emitted known written executed
    obtain ⟨j, known', -, execute⟩ := mapped_counters regular emitted executed
    rw [known] at known'
    cases known'
    have none := (regular.memory.pages.exclusive known written).1
    rw [none] at execute
    exact Nat.lt_irrefl 0 (execute rfl)
  refine ⟨?_, ?_, ?_⟩
  · intro written
    obtain ⟨i, known, write, -⟩ := mapped_counters regular emitted written
    exact ⟨exclusive emitted known (write rfl), exclusive emitted' known (write rfl)⟩
  · intro level typed written
    obtain ⟨i, known, write, -⟩ := mapped_counters regular emitted written
    rw [P2m.System.currentType, known, Option.bind_some, P2m.System.FrameInfo.currentType,
      if_pos (write rfl)] at typed
    cases typed
  · intro mp isLive writable granted
    obtain ⟨a, active, -⟩ := regular.memory.grants.backed isLive
    obtain rfl : a.frame = mfn := by
      rw [Grant.System.grantedFrame, active, Option.map_some] at granted
      exact Option.some.inj granted
    obtain ⟨i, known, -⟩ := P2m.System.ownerOf_eq_some.mp (regular.memory.owned isLive active)
    refine exclusive emitted known ?_
    have claimed := Hypervisor.Sound.backing_claimed isLive active [] hv.p2m
    rw [(regular.memory.pages.balanced known).writable, List.count_pos_iff]
    rw [Grant.Unmapped.claim, writable, if_pos rfl] at claimed
    exact claimed

/-- The owner of a frame that its grantee maps writable cannot map it executable. -/
theorem emitted_write_xor_execute_granted :
    let hv := Op.run Hypervisor.apply [.guest 0 (.domainCreate 1 false), .guest 0 (.p2mAllocate 0),
      .guest 0 (.grantAccess 0 1 0 false), .guest 1 (.p2mAllocate 1), .guest 1 (.p2mPin 1 .l1),
      .guest 1 (.p2mLink 1 0 0 true true false), .guest 0 (.p2mAllocate 2),
      .guest 0 (.p2mPin 2 .l1), .guest 0 (.p2mLink 2 0 0 false true true),
      .guest 0 (.p2mLink 2 1 0 false true false)] (Hypervisor.new ⟨2, 1, 1, 1, 1, 3, 0⟩)
    let out : Maps := ⟨[none, none, none], []⟩
    let m : Maps := ⟨[some .rw, none, none], []⟩
    let m' : Maps := ⟨[some .ro, none, none], []⟩
    leafMap hv.p2m 1 out = (.ok (), m) ∧ leafMap hv.p2m 0 out = (.ok (), m') ∧
      (m'.leavesOf .base)[(0 : Mfn).toNat]? ≠ some (some .rx) := by
  intro hv out m m'
  have emitted : leafMap hv.p2m 1 out = (.ok (), m) := by decide +kernel
  have emitted' : leafMap hv.p2m 0 out = (.ok (), m') := by decide +kernel
  exact ⟨emitted, emitted',
    ((emitted_write_xor_execute ⟨2, 1, 1, 1, 1, 3, 0⟩ hv ⟨_, rfl⟩ 1 0 m m' out
    out emitted emitted' .base .base 0).1 rfl).2⟩

end Stage2

end Baleen
