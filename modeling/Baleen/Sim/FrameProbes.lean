import Baleen.P2m.Refusals
import Baleen.Sim.SameView

/-!
# What a call on frames tells its caller

Between states that show the caller the same of its own frames, the outcomes of a call on
frames differ only in what the call reads of others.
-/

namespace Baleen

namespace Noninterference

open P2m (Mfn PageType P2mError FrameInfo)

variable {α : Type} {a : DomId} {s t : P2m.System} {m : Mfn}

theorem SamePages.visible {i j : FrameInfo} (same : SamePages a s t) (known : s.info m = some i)
    (known' : t.info m = some j) (mine : i.owner = a) : i.visible = j.visible := by
  have shown := same.frames m (P2m.System.ownerOf_eq_some.mpr ⟨i, known, mine⟩)
  simpa [known, known'] using shown.symm

/-- A call for a frame of its caller tells whether the frame is allocated at all; only on a
frame of the caller does it go on. -/
theorem SamePages.onOwned_outcome_iff (same : SamePages a s t)
    {x y : FrameInfo → Op P2m.System P2mError α} (further : Prop)
    (own : ∀ i j, s.info m = some i → t.info m = some j → i.owner = a → j.owner = a →
      i.visible = j.visible →
        ((P2m.System.onOwned a m x s).1 = (P2m.System.onOwned a m y t).1 ↔ further)) :
    (P2m.System.onOwned a m x s).1 = (P2m.System.onOwned a m y t).1 ↔
      s.isAllocated m = t.isAllocated m ∧ (s.ownerOf m = some a → further) := by
  have owner := same.owner m
  unfold P2m.System.ownerOf at owner ⊢
  unfold P2m.System.isAllocated
  match here : s.info m, there : t.info m with
  | none, none =>
      rw [P2m.System.onOwned_none here, P2m.System.onOwned_none there, same.frameCount]
      simp
  | none, some j =>
      have other : j.owner ≠ a := by simpa [here, there] using owner
      rw [P2m.System.onOwned_none here, P2m.System.onOwned_other there other]
      split_ifs <;> simp
  | some i, none =>
      have other : i.owner ≠ a := by simpa [here, there] using owner
      rw [P2m.System.onOwned_other here other, P2m.System.onOwned_none there]
      split_ifs <;> simp
  | some i, some j =>
      have owner : j.owner = a ↔ i.owner = a := by simpa [here, there] using owner
      by_cases mine : i.owner = a
      · rw [own i j here there mine (owner.mpr mine) (same.visible here there mine)]
        simp [mine]
      · have other : j.owner ≠ a := fun now => mine (owner.mp now)
        rw [P2m.System.onOwned_other here mine, P2m.System.onOwned_other there other]
        simp [mine]

theorem SamePages.onOwned_outcome (same : SamePages a s t)
    {x y : FrameInfo → Op P2m.System P2mError α}
    (own : ∀ i j, s.info m = some i → t.info m = some j → i.owner = a → j.owner = a →
      i.visible = j.visible →
        (P2m.System.onOwned a m x s).1 = (P2m.System.onOwned a m y t).1) :
    (P2m.System.onOwned a m x s).1 = (P2m.System.onOwned a m y t).1 ↔
      s.isAllocated m = t.isAllocated m :=
  (same.onOwned_outcome_iff True fun i j known known' mine mine' visible =>
    iff_of_true (own i j known known' mine mine' visible) trivial).trans
      (and_iff_left fun _ => trivial)

theorem SamePages.free_outcome_iff (same : SamePages a s t) (m : Mfn) :
    (P2m.System.free a m s).1 = (P2m.System.free a m t).1 ↔
      s.isAllocated m = t.isAllocated m := by
  refine same.onOwned_outcome fun i j known known' mine mine' visible => ?_
  obtain ⟨-, refs, -⟩ := FrameInfo.visible_iff.mp visible
  rw [P2m.System.onOwned_own known mine, P2m.System.onOwned_own known' mine']
  exact Op.outcome_ensure (by rw [refs]) fun _ => rfl

theorem SamePages.pin_outcome_iff (same : SamePages a s t) (m : Mfn) (level : P2m.PtLevel) :
    (P2m.System.pin a m level s).1 = (P2m.System.pin a m level t).1 ↔
      s.isAllocated m = t.isAllocated m := by
  refine same.onOwned_outcome fun i j known known' mine mine' visible => ?_
  obtain ⟨-, -, -, -, -, pinned, -⟩ := FrameInfo.visible_iff.mp visible
  rw [P2m.System.onOwned_own known mine, P2m.System.onOwned_own known' mine']
  refine Op.outcome_ensure (by rw [pinned]) fun _ => ?_
  rw [Op.outcome_then_modify, Op.outcome_then_modify, P2m.System.getType_eq,
    P2m.System.getChild_outcome known, P2m.System.getChild_outcome known',
    P2m.System.acquireResult_visible visible]

theorem SamePages.unpin_outcome_iff {outside outside' : List P2m.Claim} (same : SamePages a s t)
    (pages : s.Pages outside) (pages' : t.Pages outside') (m : Mfn) :
    (P2m.System.unpin a m s).1 = (P2m.System.unpin a m t).1 ↔
      s.isAllocated m = t.isAllocated m := by
  have settled : ∀ {p : P2m.System} {outside i}, p.Pages outside → p.info m = some i → i.owner = a →
      (P2m.System.unpin a m p).1 = if i.pinned then .ok () else .error .wrongState := by
    intro p outside i pages known mine
    rcases P2m.System.unpin_cases pages a m with ⟨j, known', -, pinned, ran, -⟩ | ⟨unpinned, -⟩
    · obtain rfl : i = j := by simpa [known] using known'
      rw [ran, if_pos pinned]
    · have unpinned := unpinned i known mine
      simp [P2m.System.unpin, P2m.System.allocated_of_info known, mine, unpinned]
  refine same.onOwned_outcome fun i j known known' mine mine' visible => ?_
  obtain ⟨-, -, -, -, -, pinned, -⟩ := FrameInfo.visible_iff.mp visible
  exact (settled pages known mine).trans (pinned ▸ (settled pages' known' mine').symm)

/-- The entries of a table of `a` are the same. -/
theorem SamePages.linkIndex_isNone (same : SamePages a s t) (mine : s.ownerOf m = some a)
    (slot : UInt32) : (s.linkIndex m slot).isNone = (t.linkIndex m slot).isNone := by
  have entries : ∀ l : P2m.Link, l.place = (m, slot) → (l ∈ t.live ↔ l ∈ s.live) := by
    rintro l place
    obtain ⟨rfl, -⟩ : l.parent = m ∧ l.slot = slot := by simpa [P2m.Link.place] using place
    exact same.entries l mine
  rw [Bool.eq_iff_iff, P2m.System.linkIndex_isNone_iff, P2m.System.linkIndex_isNone_iff]
  constructor
  · exact fun absent l isLive place => absent l ((entries l place).mp isLive) place
  · exact fun absent l isLive place => absent l ((entries l place).mpr isLive) place

theorem SamePages.unlink_outcome_iff {outside outside' : List P2m.Claim} (same : SamePages a s t)
    (pages : s.Pages outside) (pages' : t.Pages outside') (m : Mfn) (slot : UInt32) :
    (P2m.System.unlink a m slot s).1 = (P2m.System.unlink a m slot t).1 ↔
      s.isAllocated m = t.isAllocated m := by
  have settled : ∀ {p : P2m.System} {outside i}, p.Pages outside → p.info m = some i → i.owner = a →
      (P2m.System.unlink a m slot p).1 =
        if (p.linkIndex m slot).isNone then .error .wrongState else .ok () := by
    intro p outside i pages known mine
    have owned : p.ownerOf m = some a := P2m.System.ownerOf_eq_some.mpr ⟨i, known, mine⟩
    rcases P2m.System.unlink_cases pages a m slot with
      ⟨l, s', isLive, place, -, ran, -⟩ | ⟨vacant, -⟩
    · have present : (p.linkIndex m slot).isNone = false := by
        rw [Bool.eq_false_iff, ne_eq, P2m.System.linkIndex_isNone_iff]
        exact fun absent => absent l isLive place
      rw [ran, present]
      rfl
    · have missing : (p.linkIndex m slot).isNone = true := by
        rw [P2m.System.linkIndex_isNone_iff]
        exact fun l isLive place => vacant l isLive place owned
      rw [if_pos missing]
      rw [Option.isNone_iff_eq_none] at missing
      simp [P2m.System.unlink, P2m.System.allocated_of_info known, mine, missing]
  refine same.onOwned_outcome fun i j known known' mine mine' visible => ?_
  have owned : s.ownerOf m = some a := P2m.System.ownerOf_eq_some.mpr ⟨i, known, mine⟩
  exact (settled pages known mine).trans
    (same.linkIndex_isNone owned slot ▸ (settled pages' known' mine').symm)

/-- A table of `a` is one on both sides, of the same level. -/
theorem currentType_visible {i j : FrameInfo} (known : s.info m = some i)
    (known' : t.info m = some j) (visible : i.visible = j.visible) :
    (s.currentType m = some (.pageTable i.ptLevel) ↔
        t.currentType m = some (.pageTable j.ptLevel)) ∧
      (s.currentType m = some (.pageTable i.ptLevel) → i.ptLevel = j.ptLevel) := by
  obtain ⟨-, -, writable, -, pagetable, -, level⟩ := FrameInfo.visible_iff.mp visible
  rw [P2m.System.currentType_table_iff known, P2m.System.currentType_table_iff known', writable,
    pagetable]
  exact ⟨.rfl, fun table => level (pagetable ▸ table.2)⟩

/-- What a new entry of `a` takes on its child is the same on both sides. -/
theorem SamePages.entryRef_eq (same : SamePages a s t) (parent : Mfn) (slot : UInt32) {child : Mfn}
    (writable leaf execute : Bool) (present : s.isAllocated child = t.isAllocated child) :
    s.entryRef a parent slot child writable leaf execute =
      t.entryRef a parent slot child writable leaf execute := by
  have owner := same.owner parent
  unfold P2m.System.ownerOf at owner
  unfold P2m.System.entryRef
  match known : s.info parent, known' : t.info parent with
  | none, none => rfl
  | none, some j =>
      have other : j.owner ≠ a := by simpa [known, known'] using owner
      simp [other]
  | some i, none =>
      have other : i.owner ≠ a := by simpa [known, known'] using owner
      simp [other]
  | some i, some j =>
      simp only [known, known', Option.map_some, Option.some.injEq] at owner
      by_cases mine : i.owner = a
      case neg => simp [mine, owner]
      have owned : s.ownerOf parent = some a := P2m.System.ownerOf_eq_some.mpr ⟨i, known, mine⟩
      obtain ⟨table, level⟩ := currentType_visible known known' (same.visible known known' mine)
      simp only [Option.bind_some, mine, owner.mpr mine, true_and, ← table, ← present,
        ← same.linkIndex_isNone owned slot]
      split_ifs with free
      · rw [level free.1]
      · rfl

theorem SamePages.link_outcome_iff {outside outside' : List P2m.Claim} (same : SamePages a s t)
    (pages : s.Pages outside) (pages' : t.Pages outside') (parent : Mfn) (slot : UInt32)
    {child : Mfn} {writable : Bool} (leaf execute : Bool)
    (present : s.isAllocated child = t.isAllocated child)
    (readable : ∀ i j, s.info child = some i → t.info child = some j →
      P2m.System.AcquireAlike writable i j) :
    (P2m.System.link a parent slot child writable leaf execute s).1 =
        (P2m.System.link a parent slot child writable leaf execute t).1 ↔
      (slot.toNat < P2m.TABLE_SLOTS → (writable && (execute && leaf)) = false →
        s.isAllocated parent = t.isAllocated parent ∧
          ∀ ref, s.entryRef a parent slot child writable leaf execute = some ref →
            s.childRefuses child ref = t.childRefuses child ref) := by
  by_cases inTable : slot.toNat < P2m.TABLE_SLOTS
  case neg => simp [P2m.System.link, inTable]
  cases exclusive : writable && (execute && leaf) with
  | true => simp [P2m.System.link, inTable, exclusive]
  | false =>
  rw [P2m.System.link_eq]
  simp only [Op.ensure_bind_apply, inTable, exclusive, decide_true, Bool.not_false, if_true,
    forall_const]
  have refs := same.entryRef_eq parent slot writable leaf execute present
  refine (same.onOwned_outcome_iff (∀ ref,
    s.entryRef a parent slot child writable leaf execute = some ref →
      s.childRefuses child ref = t.childRefuses child ref) ?_).trans (and_congr_right fun _ => ?_)
  · intro i j known known' mine mine' visible
    rw [P2m.System.onOwned_own known mine, P2m.System.onOwned_own known' mine']
    cases asked : s.entryRef a parent slot child writable leaf execute with
    | none =>
        rw [P2m.System.enter_of_none known mine asked,
          P2m.System.enter_of_none known' mine' (refs.symm.trans asked)]
        simp
    | some ref =>
        have asked' := refs.symm.trans asked
        obtain ⟨⟨-, table, here, -⟩, shape⟩ := (P2m.System.entryRef_eq_some known).mp asked
        obtain ⟨k, childKnown⟩ := Option.isSome_iff_exists.mp here
        obtain ⟨k', childKnown'⟩ := Option.isSome_iff_exists.mp (present ▸ here)
        have level := (currentType_visible known known' visible).2 table
        rw [P2m.System.enter_of_some known childKnown asked,
          P2m.System.enter_of_some known' childKnown' asked', ← level]
        simp only [Option.some.injEq, forall_eq', P2m.System.childRefuses, childKnown,
          childKnown', Option.any_some]
        refine P2m.System.installResult_eq_iff (pages.counted known) (pages.counted childKnown)
          (pages'.counted childKnown') visible
          ((P2m.System.currentType_table_iff known).mp table).1 ?_
          (readable k k' childKnown childKnown') (P2m.writable_of_entryChildRef shape)
        intro self
        obtain rfl : child = parent := of_decide_eq_true self
        obtain rfl : i = k := by simpa [known] using childKnown
        obtain rfl : j = k' := by simpa [known'] using childKnown'
        exact visible
  · constructor
    · intro further ref asked
      refine further ?_ ref asked
      obtain ⟨i, known, -⟩ := Option.bind_eq_some_iff.mp asked
      obtain ⟨⟨mine, -⟩, -⟩ := (P2m.System.entryRef_eq_some known).mp asked
      exact P2m.System.ownerOf_eq_some.mpr ⟨i, known, mine⟩
    · exact fun further _ => further

end Noninterference

end Baleen
