import Baleen.P2m.SideBySide

/-!
# Undoing an entry or a pin

An entry that was installed and is then removed, or a pin that was set and is then
cleared, leaves no trace: whatever calls succeeded in between, the state shows what the
same calls show without it.
-/

namespace Baleen.P2m

namespace Excess.Over

variable {x : Excess} {s t : System} {m : Mfn}

/-- Systems with no difference left show the same of every frame. -/
theorem frames {owner : Mfn → DomId} {level : Mfn → PtLevel}
    (ahead : Over ⟨[], [], owner, level⟩ s t) (m : Mfn) :
    (s.info m).map FrameInfo.visible = (t.info m).map FrameInfo.visible := by
  rcases ahead.info m with ⟨missing, missing', -⟩ | ⟨i, j, known, known', between⟩
  · rw [missing, missing']
  · rw [known, known', Option.map_some, Option.map_some, Option.some.injEq,
      FrameInfo.visible_iff]
    have typed := between.pagetable
    simp only [List.count_nil, Nat.add_zero] at typed
    refine ⟨between.owner, by simpa using between.total, by simpa using between.writable,
      by simpa using between.executable, typed, ?_, fun table => between.level (by omega)⟩
    rw [Bool.eq_iff_iff]
    simpa using between.pinned

/-- The pin bit set on the first side, for a reference that is held there. -/
theorem setPinned_left (ahead : x.Over s t) (claimed : (m, .table) ∈ x.claims)
    (unpinned : t.isPinned m = false) :
    Over { x with pins := m :: x.pins } (s.setPinned m true) t := by
  obtain ⟨i, j, known, known', between⟩ := ahead.claimed claimed
  have fresh : j.pinned = false := by simpa [System.isPinned, known'] using unpinned
  refine ahead.rewrite m ?_
    (.inr ⟨_, j, by rw [System.info_setPinned known, if_pos rfl], known', ?_⟩)
    (fun m' other => by rw [System.info_setPinned known, if_neg other]) (fun _ _ => rfl) ?_
    (fun c claimed => .inr claimed) ?_
  · rw [System.setPinned_of_info known]
    simpa using ahead.frameCount
  · exact { between with
      pinned := by simp
      fresh := fun _ => fresh }
  · intro m' i' j' other _ between'
    exact { between' with
      pinned := by simpa [Ne.symm other] using between'.pinned
      fresh := by simpa [Ne.symm other] using between'.fresh }
  · intro m' mem
    rcases List.mem_cons.mp mem with rfl | old
    · exact claimed
    · exact ahead.pins m' old

/-- The pin bit cleared again. -/
theorem clearPinned_left {pins : List Mfn} (ahead : Over { x with pins := m :: pins } s t)
    (once : m ∉ pins) : Over { x with pins } (s.setPinned m false) t := by
  obtain ⟨i, j, known, known', between⟩ := ahead.claimed (ahead.pins m (List.mem_cons_self ..))
  have fresh : j.pinned = false := between.fresh (List.mem_cons_self ..)
  refine ahead.rewrite m ?_
    (.inr ⟨_, j, by rw [System.info_setPinned known, if_pos rfl], known', ?_⟩)
    (fun m' other => by rw [System.info_setPinned known, if_neg other]) (fun _ _ => rfl) ?_
    (fun c claimed => .inr claimed) fun m' mem => ahead.pins m' (List.mem_cons_of_mem _ mem)
  · rw [System.setPinned_of_info known]
    simpa using ahead.frameCount
  · exact { between with
      pinned := by simp [fresh, once]
      fresh := fun mem => absurd mem once }
  · intro m' i' j' other _ between'
    exact { between' with
      pinned := by simpa [Ne.symm other] using between'.pinned
      fresh := by simpa [Ne.symm other] using between'.fresh }

end Excess.Over

namespace System

variable {x : Excess} {s s' t : System} {caller : DomId} {m : Mfn}

/-- The systems show the same: the accounting of every frame, with the level of those that
are tables, and the live entries. -/
structure ShowsSame (s t : System) : Prop where
  frames : ∀ m, (s.info m).map FrameInfo.visible = (t.info m).map FrameInfo.visible
  live : s.live.Perm t.live

theorem getChild_after {ref : ChildRef} (ran : getChild m ref s = (.ok (), s')) :
    ∃ i, s.info m = some i ∧ i.Accepts ref ∧ s'.info m = some (i.bump ref) ∧
      ∀ m', m ≠ m' → s'.info m' = s.info m' := by
  obtain ⟨i, known, accepted, rfl⟩ := getChild_of_ok ran
  refine ⟨i, known, accepted, ?_, fun m' other => info_setFrame_other other⟩
  rw [info_setFrame_of_info known, if_pos rfl]

/-- What a new entry adds, and how its references will be given back. -/
theorem link_parallel (sound : s.Sound) {parent child : Mfn} {slot : UInt32}
    {writable leaf execute : Bool} {l : Link}
    (asked : l = requested parent slot child writable leaf execute)
    (ran : link caller parent slot child writable leaf execute s = (.ok (), s')) :
    Parallel (Excess.entries [l] s') [l] s' s ∧ (Excess.entries [l] s').owner l.parent = caller ∧
      ∃ ref, entryChildRef ((Excess.entries [l] s').level l.parent) l.leaf l.writable l.execute =
          some ref ∧
        ∀ below, ref = .typed (.pageTable below) →
        (Excess.entries [l] s').level l.child = below := by
  subst asked
  have sound' := (link_sound _ _ _ _ _ _ _).ran sound ran
  have live := link_live ran
  obtain ⟨i, ref, s₁, s₂, known, mine, -, -, shape, took, taken, rfl⟩ := link_ok ran
  have first := (Excess.Over.refl s (fun _ => 0) fun _ => .l1).getChild_left took
  have second := first.getChild_left taken
  obtain ⟨c, -, accepted, atChild, -⟩ := getChild_after took
  obtain ⟨p, knownParent, accepted', atParent, others⟩ := getChild_after taken
  have ended : (s₂.allocLink (requested parent slot child writable leaf execute)).info parent =
      some (p.bump (.typed (.pageTable i.ptLevel))) := atParent
  have level := Excess.record_level
    ⟨[requested parent slot child writable leaf execute].flatMap Link.claims, [], fun _ => 0,
      fun _ => .l1⟩ ended
  rw [FrameInfo.bump_table_ptLevel accepted'] at level
  refine ⟨⟨?_, live, sound', sound⟩, ?_, ref, ?_, ?_⟩
  · rw [kind_of_entryChildRef (l := requested parent slot child writable leaf execute)
      i.ptLevel shape] at second
    exact second.relink _ _
  · have owners := second.ownerOf parent
    rw [ownerOf_of_info known, mine] at owners
    exact congrArg (Option.getD · 0) owners
  · exact (congrArg (fun level => entryChildRef level leaf writable (execute && leaf)) level).trans
      shape
  · rintro below rfl
    -- Taking the table's reference leaves the level the child was taken at.
    have atEnd : ∃ a, s₂.info child = some a ∧ a.ptLevel = below := by
      have here := FrameInfo.bump_table_ptLevel accepted
      by_cases same : parent = child
      · subst same
        obtain rfl : c.bump (.typed (.pageTable below)) = p := by simpa [atChild] using knownParent
        refine ⟨_, atParent, ?_⟩
        rw [FrameInfo.bump_ptLevel (by simp [FrameInfo.bump, addTyped]), here]
      · exact ⟨_, (others child same).trans atChild, here⟩
    obtain ⟨a, known, rfl⟩ := atEnd
    exact Excess.record_level _ known

/-- The entry that one run has beyond the other can be removed, and the difference is gone. -/
theorem Parallel.unlink {l : Link} (parallel : Parallel x [l] s t)
    (claims : x.claims = l.claims) (pins : x.pins = []) (owner : x.owner l.parent = caller)
    {ref : ChildRef}
    (shape : entryChildRef (x.level l.parent) l.leaf l.writable l.execute = some ref)
    (levelled : ∀ below, ref = .typed (.pageTable below) → x.level l.child = below) :
    ∃ s', System.unlink caller l.parent l.slot s = (.ok (), s') ∧ ShowsSame s' t := by
  obtain ⟨held, pins', owners, levels⟩ := x
  subst claims pins
  have member : l ∈ s.live := parallel.live.mem_iff.mpr (List.mem_cons_self ..)
  -- The entry is found, and its table is still the caller's.
  obtain ⟨idx, stored⟩ := List.getElem?_of_mem (Slab.mem_live.mp member).1
  have isLive := (Slab.mem_live.mp member).2
  have lookup : s.linkIndex l.parent l.slot = some idx := by
    cases found : s.linkIndex l.parent l.slot with
    | none => exact absurd rfl (linkIndex_none found member)
    | some idx' =>
        obtain ⟨l', stored', isLive', place⟩ := linkIndex_some found
        rw [Slab.index_unique parallel.sound.places stored' stored isLive' isLive place]
  have claimed : (l.parent, Kind.table) ∈ l.claims := List.mem_cons_self ..
  obtain ⟨i, j, known, -, between⟩ := parallel.ahead.claimed claimed
  have mine : i.owner = caller := (between.held claimed).trans owner
  have level : i.ptLevel = levels l.parent := between.stamped claimed
  -- Both of its references can be given back.
  have cleared := parallel.ahead.relink (s.links.set idx { l with active := false }) t.links
  have kind := kind_of_entryChildRef _ shape
  obtain ⟨s₁, released, ahead⟩ := Excess.Over.putChild_left
    ⟨[(l.child, l.kind)], [], owners, levels⟩ l.parent (.typed (.pageTable i.ptLevel)) cleared
    parallel.sound' (by simp) (by rintro _ ⟨⟩; exact level.symm)
  rw [← kind] at ahead
  obtain ⟨s₂, gave, ahead'⟩ := Excess.Over.putChild_left ⟨[], [], owners, levels⟩ l.child ref ahead
    parallel.sound' (by simp) levelled
  refine ⟨s₂, unlink_eq known mine lookup stored (by rw [level]; exact shape) released gave,
    ahead'.frames, ?_⟩
  have links : s₂.links = s.links.set idx { l with active := false } :=
    (putChild_links _ _ _).ran ((putChild_links _ _ _).ran rfl released) gave
  have parted : s.live.Perm (l :: s₂.live) := by
    unfold System.live
    rw [links]
    exact Slab.live_set_dead_perm stored isLive rfl
  exact (parted.symm.trans parallel.live).cons_inv

theorem pin_parallel (sound : s.Sound) {level : PtLevel}
    (ran : pin caller m level s = (.ok (), s')) :
    ∃ owner levels, Parallel ⟨[(m, .table)], [m], owner, levels⟩ [] s' s ∧ owner m = caller := by
  have sound' := (pin_sound _ _ _).ran sound ran
  have links : s'.links = s.links := (pin_links _ _ _ _).ran rfl ran
  obtain ⟨i, s₁, known, mine, unpinned, took, rfl⟩ := pin_ok ran
  have first := (Excess.Over.refl s (fun _ => 0) fun _ => .l1).getChild_left took
  have second := first.setPinned_left (m := m) (List.mem_cons_self ..)
    (by simpa [isPinned, known] using unpinned)
  refine ⟨_, _, ⟨second, ?_, sound', sound⟩, ?_⟩
  · unfold System.live
    rw [links]
    exact .refl _
  · have owners := first.ownerOf m
    rw [ownerOf_of_info known, mine] at owners
    exact congrArg (Option.getD · 0) owners

/-- The pin that one run has beyond the other can be cleared, and the difference is gone. -/
theorem Parallel.undoPin {owner : Mfn → DomId} {levels : Mfn → PtLevel}
    (parallel : Parallel ⟨[(m, .table)], [m], owner, levels⟩ [] s t) (mine : owner m = caller) :
    ∃ s', System.unpin caller m s = (.ok (), s') ∧ ShowsSame s' t := by
  obtain ⟨i, j, known, -, between⟩ := parallel.ahead.claimed (k := .table) (List.mem_cons_self ..)
  have owned : i.owner = caller := (between.held (List.mem_cons_self ..)).trans mine
  have pinned : i.pinned = true := between.pinned.mpr (.inr (List.mem_cons_self ..))
  have level : i.ptLevel = levels m := between.stamped (List.mem_cons_self ..)
  have cleared := Excess.Over.clearPinned_left (x := ⟨[(m, .table)], [], owner, levels⟩)
    parallel.ahead (by simp)
  obtain ⟨s₁, gave, ahead⟩ := Excess.Over.putChild_left ⟨[], [], owner, levels⟩ m
    (.typed (.pageTable i.ptLevel)) cleared parallel.sound' (by simp)
    (by rintro _ ⟨⟩; exact level.symm)
  have ran : System.unpin caller m s = (.ok (), s₁) := by
    simp only [System.unpin, Op.query_bind_apply, allocated_of_info known, Op.ensure_bind_apply,
      owned, pinned, decide_true, if_true, Op.modify_bind_apply]
    exact gave
  refine ⟨s₁, ran, ahead.frames, ?_⟩
  have links : s₁.links = s.links := (unpin_links _ _ _).ran rfl ran
  have live : s₁.live = s.live := by
    unfold System.live
    rw [links]
  rw [live]
  exact parallel.live

/-- An entry or a pin that is set and later undone leaves no trace of itself, whatever
calls succeed in between, and would have succeeded without it. -/
theorem undo_restores (reached : Reachable s) {calls : List Call}
    (without : Runs (fun _ => True) calls s t) :
    (∀ {caller parent slot child writable leaf execute s₁ s₂},
      link caller parent slot child writable leaf execute s = (.ok (), s₁) →
      Runs (fun s => requested parent slot child writable leaf execute ∈ s.live) calls s₁ s₂ →
      ∃ s₃, unlink caller parent slot s₂ = (.ok (), s₃) ∧ ShowsSame s₃ t) ∧
    ∀ {caller m level s₁ s₂}, pin caller m level s = (.ok (), s₁) →
      Runs (fun s => s.isPinned m = true) calls s₁ s₂ →
      ∃ s₃, unpin caller m s₂ = (.ok (), s₃) ∧ ShowsSame s₃ t := by
  constructor
  · intro caller parent slot child writable leaf execute s₁ s₂ linked runs
    obtain ⟨parallel, owner, ref, shape, levelled⟩ := link_parallel reached.sound rfl linked
    have after := Runs.parallel (runs.mono fun s isLive => ⟨by simpa using isLive, by simp
      [Excess.entries]⟩) without parallel
    exact after.unlink rfl rfl owner shape levelled
  · intro caller m level s₁ s₂ pinned runs
    obtain ⟨owner, levels, parallel, mine⟩ := pin_parallel reached.sound pinned
    have after := Runs.parallel (runs.mono fun s stays => ⟨by simp, by simpa using stays⟩) without
      parallel
    exact after.undoPin mine

/-- An untyped frame made a table by the entry, or by the pin, and used as one since. -/
theorem undo_restores_interior :
    let s := [Call.allocate 0 0, .allocate 0 1, .pin 0 0 .l2].foldl Call.apply (System.new 1 2)
    let calls : List Call := [.getType 1 (.pageTable .l1), .link 0 0 1 1 false false false]
    (∃ s₃, unlink 0 0 0 (calls.foldl Call.apply (link 0 0 0 1 false false false s).2) =
        (.ok (), s₃) ∧ ShowsSame s₃ (calls.foldl Call.apply s)) ∧
      ∃ s₃, unpin 0 1 (calls.foldl Call.apply (pin 0 1 .l1 s).2) = (.ok (), s₃) ∧
        ShowsSame s₃ (calls.foldl Call.apply s) := by
  intro s calls
  have reached : Reachable s :=
    (((Reachable.new 1 2).call (.allocate 0 0)).call (.allocate 0 1)).call (.pin 0 0 .l2)
  have without : Runs (fun _ => True) calls s (calls.foldl Call.apply s) :=
    .cons rfl trivial (.cons rfl trivial .nil)
  have linked : link 0 0 0 1 false false false s =
      (.ok (), (link 0 0 0 1 false false false s).2) := rfl
  have pinned : pin 0 1 .l1 s = (.ok (), (pin 0 1 .l1 s).2) := rfl
  constructor
  · exact (undo_restores reached without).1 linked
      (.cons rfl (by decide +kernel) (.cons rfl (by decide +kernel) .nil))
  · exact (undo_restores reached without).2 pinned (.cons rfl rfl (.cons rfl rfl .nil))

end System

end Baleen.P2m
