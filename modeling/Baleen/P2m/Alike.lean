import Baleen.P2m.Entries
import Baleen.Lib.Agree

/-!
# Page tables up to storage

Two systems are alike if they show the same of every frame and have the same live
entries, in whatever order these are stored.  Calls on such systems return the same and
leave them alike.
-/

namespace Baleen.P2m

def Frame.visible : Frame → Frame
  | .free => .free
  | .allocated i => .allocated i.visible

/-- Two accountings show the same. -/
theorem FrameInfo.visible_iff {i j : FrameInfo} : i.visible = j.visible ↔
    i.owner = j.owner ∧ i.refs = j.refs ∧ i.writableRefs = j.writableRefs ∧
      i.executableRefs = j.executableRefs ∧ i.pagetableRefs = j.pagetableRefs ∧
      i.pinned = j.pinned ∧ (0 < i.pagetableRefs → i.ptLevel = j.ptLevel) := by
  simp only [visible, FrameInfo.mk.injEq, Nat.pos_iff_ne_zero]
  constructor
  · rintro ⟨owner, refs, writable, executable, pagetable, level, pinned⟩
    refine ⟨owner, refs, writable, executable, pagetable, pinned, fun typed => ?_⟩
    simpa [typed, ← pagetable] using level
  · rintro ⟨owner, refs, writable, executable, pagetable, pinned, level⟩
    refine ⟨owner, refs, writable, executable, pagetable, ?_, pinned⟩
    rw [← pagetable]
    split_ifs with untyped
    · rfl
    · exact level untyped

namespace System

structure Alike (s t : System) : Prop where
  numDomains : s.numDomains = t.numDomains
  frames : s.frames.map Frame.visible = t.frames.map Frame.visible
  links : s.live.Perm t.live

variable {s t : System} {α : Type} {mfn : Mfn}

section Visible

variable {i j : FrameInfo}

theorem typeConflict_visible (same : i.visible = j.visible) (ty : PageType) :
    typeConflict i ty = typeConflict j ty := by
  obtain ⟨-, -, writable, executable, pagetable, -, level⟩ := FrameInfo.visible_iff.mp same
  cases ty with
  | writable => simp only [typeConflict, executable, pagetable]
  | pageTable level' =>
      simp only [typeConflict, writable, ← pagetable]
      by_cases typed : 0 < i.pagetableRefs
      · rw [level typed]
      · simp only [typed, false_and]

theorem acquireAllocated_visible (same : i.visible = j.visible) (ty : Option PageType) :
    acquireAllocated i ty = acquireAllocated j ty := by
  obtain ⟨-, refs, writable, -, pagetable, -⟩ := FrameInfo.visible_iff.mp same
  have counts : ∀ ty, typedCount i ty = typedCount j ty := by
    rintro (_ | level')
    · exact writable
    · exact pagetable
  have bound : ty.bind (typeConflict i) = ty.bind (typeConflict j) := by
    cases ty with
    | none => rfl
    | some ty => exact typeConflict_visible same ty
  simp only [acquireAllocated, bound, refs, counts]

end Visible

namespace Alike

theorem refl (s : System) : Alike s s := ⟨rfl, rfl, .refl _⟩

theorem symm (alike : Alike s t) : Alike t s :=
  ⟨alike.numDomains.symm, alike.frames.symm, alike.links.symm⟩

theorem trans {u : System} (first : Alike s t) (second : Alike t u) : Alike s u :=
  ⟨first.numDomains.trans second.numDomains, first.frames.trans second.frames,
    first.links.trans second.links⟩

theorem frameCount (alike : Alike s t) : s.frameCount = t.frameCount := by
  have lengths := congrArg List.length alike.frames
  simpa [System.frameCount] using lengths

theorem frame (alike : Alike s t) (mfn : Mfn) :
    (∃ f f', s.frame mfn = .ok f ∧ t.frame mfn = .ok f' ∧ f.visible = f'.visible) ∨
      (s.frame mfn = .error .badFrame ∧ t.frame mfn = .error .badFrame) := by
  have cells := congrArg (fun fs => fs[mfn.toNat]?) alike.frames
  simp only [List.getElem?_map] at cells
  unfold System.frame
  match here : s.frames[mfn.toNat]?, there : t.frames[mfn.toNat]? with
  | none, none => exact .inr ⟨rfl, rfl⟩
  | none, some f' => simp [here, there] at cells
  | some f, none => simp [here, there] at cells
  | some f, some f' =>
      simp only [here, there, Option.map_some, Option.some.injEq] at cells
      exact .inl ⟨f, f', rfl, rfl, cells⟩

theorem allocated (alike : Alike s t) (mfn : Mfn) :
    (∃ i j, s.allocated mfn = .ok i ∧ t.allocated mfn = .ok j ∧ i.visible = j.visible) ∨
      ∃ e, s.allocated mfn = .error e ∧ t.allocated mfn = .error e := by
  unfold System.allocated
  rcases alike.frame mfn with ⟨f, f', here, there, same⟩ | ⟨here, there⟩
  · rw [here, there]
    match f, f', same with
    | .free, .free, _ => exact .inr ⟨.wrongState, rfl, rfl⟩
    | .allocated i, .allocated j, same =>
        exact .inl ⟨i, j, rfl, rfl, by simpa [Frame.visible] using same⟩
  · rw [here, there]
    exact .inr ⟨.badFrame, rfl, rfl⟩

theorem info (alike : Alike s t) (mfn : Mfn) :
    (s.info mfn).map FrameInfo.visible = (t.info mfn).map FrameInfo.visible := by
  have cells := congrArg (fun fs => fs[mfn.toNat]?) alike.frames
  simp only [List.getElem?_map] at cells
  unfold System.info
  match here : s.frames[mfn.toNat]?, there : t.frames[mfn.toNat]? with
  | none, none => rfl
  | none, some f' => simp [here, there] at cells
  | some f, none => simp [here, there] at cells
  | some f, some f' =>
      simp only [here, there, Option.map_some, Option.some.injEq] at cells
      match f, f', cells with
      | .free, .free, _ => rfl
      | .allocated i, .allocated j, same => simpa [Frame.visible] using same

theorem ownerOf (alike : Alike s t) (mfn : Mfn) : s.ownerOf mfn = t.ownerOf mfn := by
  have owners := congrArg (Option.map FrameInfo.owner) (alike.info mfn)
  simpa [System.ownerOf, Function.comp_def, FrameInfo.visible] using owners

theorem isAllocated (alike : Alike s t) (mfn : Mfn) : s.isAllocated mfn = t.isAllocated mfn := by
  have present := congrArg Option.isSome (alike.info mfn)
  simpa [System.isAllocated] using present

theorem isPinned (alike : Alike s t) (mfn : Mfn) : s.isPinned mfn = t.isPinned mfn := by
  have pins := congrArg (Option.map FrameInfo.pinned) (alike.info mfn)
  simp only [Option.map_map, Function.comp_def, FrameInfo.visible] at pins
  unfold System.isPinned
  rw [pins]

theorem currentType (alike : Alike s t) (mfn : Mfn) : s.currentType mfn = t.currentType mfn := by
  have same := alike.info mfn
  unfold System.currentType
  match here : s.info mfn, there : t.info mfn with
  | none, none => rfl
  | none, some j => simp [here, there] at same
  | some i, none => simp [here, there] at same
  | some i, some j =>
      simp only [here, there, Option.map_some, Option.some.injEq, FrameInfo.visible_iff] at same
      obtain ⟨-, -, writable, -, pagetable, -, level⟩ := same
      simp only [Option.bind_some, FrameInfo.currentType, writable, ← pagetable]
      by_cases typed : 0 < i.pagetableRefs
      · rw [level typed]
      · simp only [typed, if_false]

theorem canAcquire (alike : Alike s t) (mfn : Mfn) (ty : Option PageType) :
    s.canAcquire mfn ty = t.canAcquire mfn ty := by
  unfold System.canAcquire
  rcases alike.frame mfn with ⟨f, f', here, there, same⟩ | ⟨here, there⟩
  · simp only [here, there]
    match f, f', same with
    | .free, .free, _ => rfl
    | .allocated i, .allocated j, same =>
        simp only [Frame.visible, Frame.allocated.injEq] at same
        exact acquireAllocated_visible same ty
  · simp only [here, there]

theorem setFrame (alike : Alike s t) {f f' : Frame} (same : f.visible = f'.visible) (mfn : Mfn) :
    Alike (s.setFrame mfn f) (t.setFrame mfn f') := by
  refine ⟨alike.numDomains, ?_, alike.links⟩
  unfold System.setFrame
  rw [List.map_set, List.map_set, alike.frames, same]

end Alike

variable {good bad : System → System → Prop}

theorem agree_allocated {f g : FrameInfo → Op System P2mError α} (alike : Alike s t)
    (refused : bad s t) (next : ∀ i j, s.info mfn = some i → t.info mfn = some j →
      i.visible = j.visible → Op.Agree good bad (f i s) (g j t)) :
    Op.Agree good bad ((Op.query (·.allocated mfn) >>= f) s)
      ((Op.query (·.allocated mfn) >>= g) t) := by
  rw [Op.query_bind_apply, Op.query_bind_apply]
  rcases alike.allocated mfn with ⟨i, j, here, there, same⟩ | ⟨e, here, there⟩
  · rw [here, there]
    exact next i j (info_of_allocated here) (info_of_allocated there) same
  · rw [here, there]
    exact .error refused

theorem get_agree (alike : Alike s t) (mfn : Mfn) :
    Op.Agree Alike Alike (get mfn s) (get mfn t) := by
  refine Op.agree_query (alike.canAcquire mfn none) alike fun _ _ => ?_
  refine agree_allocated alike alike fun i j _ _ same => .ok (alike.setFrame ?_ mfn)
  simp only [Frame.visible, Frame.allocated.injEq, FrameInfo.visible_iff] at same ⊢
  simpa using same

theorem put_agree (alike : Alike s t) (mfn : Mfn) :
    Op.Agree Alike Alike (put mfn s) (put mfn t) := by
  refine agree_allocated alike alike fun i j _ _ same => ?_
  have fields := FrameInfo.visible_iff.mp same
  obtain ⟨-, refs, writable, executable, pagetable, -, -⟩ := fields
  refine Op.agree_ensure (by rw [refs]) alike fun _ => ?_
  refine Op.agree_ensure (by rw [refs, writable, executable, pagetable]) alike fun _ => ?_
  refine .ok (alike.setFrame ?_ mfn)
  simp only [Frame.visible, Frame.allocated.injEq, FrameInfo.visible_iff] at same ⊢
  simpa [refs] using same

theorem addTyped_visible {i j : FrameInfo} (same : i.visible = j.visible) (ty : PageType) :
    (addTyped i ty).visible = (addTyped j ty).visible := by
  rw [FrameInfo.visible_iff] at same ⊢
  obtain ⟨owner, refs, writable, executable, pagetable, pinned, level⟩ := same
  cases ty with
  | writable => exact ⟨owner, by simp [addTyped, refs], by simp [addTyped, writable], executable,
      pagetable, pinned, level⟩
  | pageTable l =>
      refine ⟨owner, by simp [addTyped, refs], writable, executable, by simp [addTyped, pagetable],
        pinned, fun _ => ?_⟩
      simp only [addTyped, ← pagetable]
      split_ifs with untyped
      · rfl
      · exact level (Nat.pos_of_ne_zero untyped)

theorem dropTyped_visible {i j : FrameInfo} (same : i.visible = j.visible) (ty : PageType) :
    (dropTyped i ty).visible = (dropTyped j ty).visible := by
  rw [FrameInfo.visible_iff] at same ⊢
  obtain ⟨owner, refs, writable, executable, pagetable, pinned, level⟩ := same
  cases ty with
  | writable => exact ⟨owner, by simp [dropTyped, refs], by simp [dropTyped, writable], executable,
      pagetable, pinned, level⟩
  | pageTable l =>
      refine ⟨owner, by simp [dropTyped, refs], writable, executable,
        by simp [dropTyped, pagetable], pinned, fun typed => level ?_⟩
      exact Nat.lt_of_lt_of_le typed (Nat.sub_le _ _)

theorem holdsTyped_visible {i j : FrameInfo} (same : i.visible = j.visible) (ty : PageType) :
    holdsTyped i ty = holdsTyped j ty := by
  obtain ⟨-, -, writable, -, pagetable, -, level⟩ := FrameInfo.visible_iff.mp same
  cases ty with
  | writable => simp only [holdsTyped, writable]
  | pageTable l =>
      simp only [holdsTyped, ← pagetable]
      by_cases typed : 0 < i.pagetableRefs
      · rw [level typed]
      · simp [Nat.eq_zero_of_not_pos typed]

theorem getType_agree (alike : Alike s t) (mfn : Mfn) (ty : PageType) :
    Op.Agree Alike Alike (getType mfn ty s) (getType mfn ty t) := by
  refine Op.agree_query (alike.canAcquire mfn (some ty)) alike fun _ _ => ?_
  refine agree_allocated alike alike fun i j _ _ same => .ok (alike.setFrame ?_ mfn)
  exact congrArg Frame.allocated (addTyped_visible same ty)

theorem putType_agree (alike : Alike s t) (mfn : Mfn) (ty : PageType) :
    Op.Agree Alike Alike (putType mfn ty s) (putType mfn ty t) := by
  refine agree_allocated alike alike fun i j _ _ same => ?_
  refine Op.agree_ensure (holdsTyped_visible same ty) alike fun _ => .ok (alike.setFrame ?_ mfn)
  exact congrArg Frame.allocated (dropTyped_visible same ty)

theorem getExec_agree (alike : Alike s t) (mfn : Mfn) :
    Op.Agree Alike Alike (getExec mfn s) (getExec mfn t) := by
  refine agree_allocated alike alike fun i j _ _ same => ?_
  obtain ⟨owner, refs, writable, executable, rest⟩ := FrameInfo.visible_iff.mp same
  refine Op.agree_ensure (by rw [writable]) alike fun _ => ?_
  refine Op.agree_ensure (by rw [refs]) alike fun _ => ?_
  refine Op.agree_ensure (by rw [executable]) alike fun _ => .ok (alike.setFrame ?_ mfn)
  refine congrArg Frame.allocated (FrameInfo.visible_iff.mpr ⟨owner, ?_, writable, ?_, rest⟩)
  · simp only [refs]
  · simp only [executable]

theorem putExec_agree (alike : Alike s t) (mfn : Mfn) :
    Op.Agree Alike Alike (putExec mfn s) (putExec mfn t) := by
  refine agree_allocated alike alike fun i j _ _ same => ?_
  obtain ⟨owner, refs, writable, executable, rest⟩ := FrameInfo.visible_iff.mp same
  refine Op.agree_ensure (by rw [executable]) alike fun _ => .ok (alike.setFrame ?_ mfn)
  refine congrArg Frame.allocated (FrameInfo.visible_iff.mpr ⟨owner, ?_, writable, ?_, rest⟩)
  · simp only [refs]
  · simp only [executable]

theorem getChild_agree (alike : Alike s t) (child : Mfn) (ref : ChildRef) :
    Op.Agree Alike Alike (getChild child ref s) (getChild child ref t) := by
  cases ref with
  | bare => exact get_agree alike child
  | exec => exact getExec_agree alike child
  | typed ty => exact getType_agree alike child ty

theorem putChild_agree (alike : Alike s t) (child : Mfn) (ref : ChildRef) :
    Op.Agree Alike Alike (putChild child ref s) (putChild child ref t) := by
  cases ref with
  | bare => exact put_agree alike child
  | exec => exact putExec_agree alike child
  | typed ty => exact putType_agree alike child ty

theorem allocate_agree (alike : Alike s t) (owner : DomId) (mfn : Mfn) :
    Op.Agree Alike Alike (allocate owner mfn s) (allocate owner mfn t) := by
  refine Op.agree_ensure (by rw [alike.numDomains]) alike fun _ => ?_
  rw [Op.query_bind_apply, Op.query_bind_apply]
  rcases alike.frame mfn with ⟨f, f', here, there, same⟩ | ⟨here, there⟩
  · rw [here, there]
    have free : decide (f = .free) = decide (f' = .free) := by
      match f, f', same with
      | .free, .free, _ => rfl
      | .allocated i, .allocated j, _ => rfl
    exact Op.agree_ensure free alike fun _ => .ok (alike.setFrame rfl mfn)
  · rw [here, there]
    exact .error alike

theorem setPinned_alike (alike : Alike s t) (mfn : Mfn) (pinned : Bool) :
    Alike (s.setPinned mfn pinned) (t.setPinned mfn pinned) := by
  have same := alike.info mfn
  unfold setPinned
  match here : s.info mfn, there : t.info mfn with
  | none, none => exact alike
  | none, some j => simp [here, there] at same
  | some i, none => simp [here, there] at same
  | some i, some j =>
      simp only [here, there, Option.map_some, Option.some.injEq] at same
      obtain ⟨owner, refs, writable, executable, pagetable, -, level⟩ :=
        FrameInfo.visible_iff.mp same
      refine alike.setFrame ?_ mfn
      apply congrArg Frame.allocated
      exact FrameInfo.visible_iff.mpr
        ⟨owner, refs, writable, executable, pagetable, rfl, level⟩

theorem pin_agree (alike : Alike s t) (caller : DomId) (mfn : Mfn) (level : PtLevel) :
    Op.Agree Alike Alike (pin caller mfn level s) (pin caller mfn level t) := by
  refine agree_allocated alike alike fun i j _ _ same => ?_
  obtain ⟨owner, -, -, -, -, pinned, -⟩ := FrameInfo.visible_iff.mp same
  refine Op.agree_ensure (by rw [owner]) alike fun _ => ?_
  refine Op.agree_ensure (by rw [pinned]) alike fun _ => ?_
  refine Op.agree_bind (getType_agree alike mfn (.pageTable level)) fun _ s' t' alike' => ?_
  exact .ok (setPinned_alike alike' mfn true)

/-- A pinned frame is typed as a table, so the level it is released at shows. -/
theorem unpin_agree {outside : List Claim} (pages : Pages outside s) (alike : Alike s t)
    (caller : DomId) (mfn : Mfn) :
    Op.Agree Alike Alike (unpin caller mfn s) (unpin caller mfn t) := by
  refine agree_allocated alike alike fun i j known _ same => ?_
  obtain ⟨owner, -, -, -, -, pinned, level⟩ := FrameInfo.visible_iff.mp same
  refine Op.agree_ensure (by rw [owner]) alike fun _ => ?_
  refine Op.agree_ensure (by rw [pinned]) alike fun isPinned => ?_
  have typed : 0 < i.pagetableRefs := by
    have held := (pages.balanced known).pagetable
    have one : i.pins = 1 := by simp [FrameInfo.pins, isPinned]
    omega
  rw [Op.modify_bind_apply, Op.modify_bind_apply, level typed]
  exact putType_agree (setPinned_alike alike mfn false) mfn _

theorem free_agree (alike : Alike s t) (caller : DomId) (mfn : Mfn) :
    Op.Agree Alike Alike (free caller mfn s) (free caller mfn t) := by
  refine agree_allocated alike alike fun i j _ _ same => ?_
  obtain ⟨owner, refs, -⟩ := FrameInfo.visible_iff.mp same
  refine Op.agree_ensure (by rw [owner]) alike fun _ => ?_
  exact Op.agree_ensure (by rw [refs]) alike fun _ => .ok (alike.setFrame rfl mfn)

/-- No entry is found where none is live. -/
theorem linkIndex_isNone_iff {parent : Mfn} {slot : UInt32} :
    (s.linkIndex parent slot).isNone = true ↔ ∀ l ∈ s.live, l.place ≠ (parent, slot) := by
  rw [Option.isNone_iff_eq_none]
  refine ⟨fun missing l isLive => linkIndex_none missing isLive, fun absent => ?_⟩
  cases lookup : s.linkIndex parent slot with
  | none => rfl
  | some idx =>
      obtain ⟨l, stored, active, place⟩ := linkIndex_some lookup
      have isLive : l ∈ s.live := Slab.mem_live.mpr ⟨List.mem_of_getElem? stored, active⟩
      exact absurd place (absent l isLive)

theorem Alike.linkIndex_isNone (alike : Alike s t) (parent : Mfn) (slot : UInt32) :
    (s.linkIndex parent slot).isNone = (t.linkIndex parent slot).isNone := by
  rw [Bool.eq_iff_iff, linkIndex_isNone_iff, linkIndex_isNone_iff]
  simp only [alike.links.mem_iff]

theorem takeParent_agree (alike : Alike s t) (parent : Mfn) (level : PtLevel) (child : Mfn)
    (ref : ChildRef) : Op.Agree Alike Alike (takeParent parent level child ref s)
      (takeParent parent level child ref t) := by
  have took := getType_agree alike parent (.pageTable level)
  unfold takeParent
  rw [Op.attempt_bind_apply, Op.attempt_bind_apply, took.outcome]
  cases (getType parent (.pageTable level) t).1 with
  | ok _ => exact .ok took.state
  | error e => exact .error (putChild_agree took.state child ref).state

theorem Alike.allocLink (alike : Alike s t) {l : Link} (active : l.active = true) :
    Alike (s.allocLink l) (t.allocLink l) := by
  refine ⟨alike.numDomains, alike.frames, ?_⟩
  have joined : ∀ s : System, (s.allocLink l).live.Perm (l :: s.live) :=
    fun s => Slab.live_insert_perm active
  exact (joined s).trans ((alike.links.cons l).trans (joined t).symm)

/-- The guard of an entry's table: it is typed as one. -/
theorem currentType_table_iff {i : FrameInfo} (known : s.info mfn = some i) :
    s.currentType mfn = some (.pageTable i.ptLevel) ↔
      i.writableRefs = 0 ∧ 0 < i.pagetableRefs := by
  simp only [currentType, known, Option.bind_some, FrameInfo.currentType]
  split_ifs with written typed
  · simp; omega
  · simp only [typed, and_true, true_iff]; omega
  · simp only [typed, and_false]

theorem link_agree (alike : Alike s t) (caller : DomId) (parent : Mfn) (slot : UInt32)
    (child : Mfn) (writable leaf execute : Bool) :
    Op.Agree Alike Alike (link caller parent slot child writable leaf execute s)
      (link caller parent slot child writable leaf execute t) := by
  refine Op.agree_ensure rfl alike fun _ => Op.agree_ensure rfl alike fun _ => ?_
  refine agree_allocated alike alike fun i j known known' same => ?_
  obtain ⟨owner, -, writable, -, pagetable, -, level⟩ := FrameInfo.visible_iff.mp same
  refine Op.agree_ensure (by rw [owner]) alike fun _ => ?_
  refine Op.agree_ensure ?_ alike fun isTable => ?_
  · simp only [currentType_table_iff known, currentType_table_iff known', writable, pagetable]
  rw [level ((currentType_table_iff known).mp (of_decide_eq_true isTable)).2]
  refine Op.agree_ensure (alike.isAllocated child) alike fun _ => ?_
  refine Op.agree_ensure (alike.linkIndex_isNone parent slot) alike fun _ => ?_
  refine Op.agree_query rfl alike fun ref _ => ?_
  refine Op.agree_bind (getChild_agree alike child ref) fun _ s' t' alike' => ?_
  refine Op.agree_bind (takeParent_agree alike' parent j.ptLevel child ref) fun _ _ _ linked => ?_
  exact .ok (linked.allocLink rfl)

theorem releaseEntry_agree (alike : Alike s t) (level : PtLevel) (l : Link) :
    Op.Agree Alike Alike (releaseEntry level l s) (releaseEntry level l t) := by
  unfold releaseEntry
  rw [Op.ignore_bind_apply, Op.ignore_bind_apply]
  have parent := (putType_agree alike l.parent (.pageTable level)).state
  cases entryChildRef level l.leaf l.writable l.execute with
  | none => exact .ok parent
  | some ref => exact .ok (putChild_agree parent l.child ref).state

theorem Alike.clearLink (alike : Alike s t) {l : Link} {idx idx' : Nat}
    (stored : s.links[idx]? = some l) (stored' : t.links[idx']? = some l)
    (active : l.active = true) :
    Alike { s with links := s.links.set idx { l with active := false } }
      { t with links := t.links.set idx' { l with active := false } } := by
  refine ⟨alike.numDomains, alike.frames, ?_⟩
  have dead : Link.active { l with active := false } = false := rfl
  have removed := Slab.live_set_dead_perm stored active dead
  have removed' := Slab.live_set_dead_perm stored' active dead
  exact ((removed.symm.trans alike.links).trans removed').cons_inv

theorem unlink_agree {outside outside' : List Claim} (pages : Pages outside s)
    (pages' : Pages outside' t) (alike : Alike s t) (caller : DomId) (parent : Mfn)
    (slot : UInt32) :
    Op.Agree Alike Alike (unlink caller parent slot s) (unlink caller parent slot t) := by
  refine agree_allocated alike alike fun i j known _ same => ?_
  obtain ⟨owner, -, -, -, -, -, level⟩ := FrameInfo.visible_iff.mp same
  refine Op.agree_ensure (by rw [owner]) alike fun _ => ?_
  rw [Op.read_bind_apply, Op.read_bind_apply]
  have absent := alike.linkIndex_isNone parent slot
  cases here : s.linkIndex parent slot with
  | none =>
      rw [here] at absent
      rw [Option.isNone_iff_eq_none.mp absent.symm]
      exact .error alike
  | some idx =>
      cases there : t.linkIndex parent slot with
      | none => rw [here, there] at absent; cases absent
      | some idx' =>
          obtain ⟨l, stored, active, place⟩ := linkIndex_some here
          obtain ⟨l', stored', active', place'⟩ := linkIndex_some there
          have isLive : l ∈ s.live := Slab.mem_live.mpr ⟨List.mem_of_getElem? stored, active⟩
          have isLive' : l' ∈ t.live := Slab.mem_live.mpr ⟨List.mem_of_getElem? stored', active'⟩
          obtain rfl : l = l' := by
            refine List.inj_on_of_nodup_map pages'.places (alike.links.mem_iff.mp isLive) isLive' ?_
            rw [place, place']
          obtain ⟨rfl, rfl⟩ : l.parent = parent ∧ l.slot = slot := by simpa [Link.place] using place
          obtain ⟨i', known', typed⟩ := pages.parent_table isLive
          obtain rfl : i = i' := by simpa [known] using known'
          simp only [stored, stored', Op.modify_bind_apply, level typed]
          exact releaseEntry_agree (alike.clearLink stored stored' active) _ l

end System

end Baleen.P2m
