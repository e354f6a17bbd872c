import Baleen.P2m.Pages

/-!
# Specifications of the page operations

Under exact accounting every operation either succeeds, keeps the accounting exact
and touches only the frames it names, or is rejected and leaves at most a stale level
on a frame that is no page table.
-/

namespace Baleen.P2m

/-- What can be observed of a frame: the level only while it is a page table. -/
def FrameInfo.visible (i : FrameInfo) : FrameInfo :=
  { i with ptLevel := if i.pagetableRefs = 0 then .l1 else i.ptLevel }

theorem FrameInfo.visible_drop_bump {i : FrameInfo} {ref : ChildRef} :
    ((i.bump ref).drop ref).visible = i.visible := by
  rcases ref with _ | _ | (_ | _)
  · rfl
  · rfl
  · rfl
  · by_cases typed : i.pagetableRefs = 0 <;>
      simp [bump, drop, System.addTyped, System.dropTyped, visible, typed]

namespace System

/-- The states differ at most in the level of frames that are not page tables. -/
structure SameButStale (s s' : System) : Prop where
  links : s'.links = s.links
  numDomains : s'.numDomains = s.numDomains
  frameCount : s'.frameCount = s.frameCount
  info : ∀ m, (s'.info m).map FrameInfo.visible = (s.info m).map FrameInfo.visible

theorem SameButStale.refl (s : System) : SameButStale s s := ⟨rfl, rfl, rfl, fun _ => rfl⟩

theorem SameButStale.owner {s s' : System} (same : SameButStale s s') (m : Mfn) :
    s'.ownerOf m = s.ownerOf m := by
  have frames := congrArg (Option.map FrameInfo.owner) (same.info m)
  simpa [ownerOf, Function.comp_def, FrameInfo.visible] using frames

theorem SameButStale.live {s s' : System} (same : SameButStale s s') : s'.live = s.live := by
  unfold System.live
  rw [same.links]

/-- The states agree on sizes, owners and pins, and on every frame not touched. -/
structure Kept (touched : Mfn → Prop) (s s' : System) : Prop where
  numDomains : s'.numDomains = s.numDomains
  frameCount : s'.frameCount = s.frameCount
  owner : ∀ m, s'.ownerOf m = s.ownerOf m
  pinned : ∀ m, s'.isPinned m = s.isPinned m
  other : ∀ m, ¬touched m → s'.info m = s.info m

namespace Kept

variable {touched touched' : Mfn → Prop} {s s' s'' : System}

theorem refl (touched : Mfn → Prop) (s : System) : Kept touched s s :=
  ⟨rfl, rfl, fun _ => rfl, fun _ => rfl, fun _ _ => rfl⟩

theorem trans (first : Kept touched s s') (second : Kept touched s' s'') : Kept touched s s'' where
  numDomains := second.numDomains.trans first.numDomains
  frameCount := second.frameCount.trans first.frameCount
  owner m := (second.owner m).trans (first.owner m)
  pinned m := (second.pinned m).trans (first.pinned m)
  other m untouched := (second.other m untouched).trans (first.other m untouched)

theorem mono (kept : Kept touched s s') (wider : ∀ m, touched m → touched' m) :
    Kept touched' s s' :=
  { kept with other := fun m untouched => kept.other m fun yes => untouched (wider m yes) }

theorem setFrame {m : Mfn} {i i' : FrameInfo} (known : s.info m = some i)
    (owner : i'.owner = i.owner) (pinned : i'.pinned = i.pinned) (here : touched m) :
    Kept touched s (s.setFrame m (.allocated i')) where
  numDomains := rfl
  frameCount := by simp
  owner m' := ownerOf_setFrame known owner
  pinned m' := by
    unfold isPinned
    rw [info_setFrame_of_info known]
    split_ifs with eq
    · subst eq
      simp [known, pinned]
    · rfl
  other m' untouched := by
    rw [info_setFrame_other]
    rintro rfl
    exact untouched here

/-- Storage of entries says nothing about frames. -/
theorem relink (s : System) (links : List Link) : Kept touched s { s with links } :=
  ⟨rfl, rfl, fun _ => rfl, fun _ => rfl, fun _ _ => rfl⟩

end Kept

variable {outside : List Claim} {s : System}

theorem allocate_cases (s : System) (owner : DomId) (m : Mfn) :
    (owner.toNat < s.numDomains ∧ s.frames[m.toNat]? = some .free ∧
      allocate owner m s =
        (.ok (), s.setFrame m (.allocated ⟨owner, 0, 0, 0, 0, .l1, false⟩))) ∨
      ∃ e, allocate owner m s = (.error e, s) := by
  by_cases known : owner.toNat < s.numDomains
  · rcases lookup : s.frames[m.toNat]? with _ | (_ | i)
    · exact .inr ⟨.badFrame, by simp [allocate, known, frame, lookup]⟩
    · exact .inl ⟨known, rfl, by simp [allocate, known, frame, lookup]⟩
    · exact .inr ⟨.wrongState, by simp [allocate, known, frame, lookup]⟩
  · exact .inr ⟨.badDomain, by simp [allocate, known]⟩

theorem Pages.allocate (pages : Pages outside s) {owner : DomId} {m : Mfn}
    (known : owner.toNat < s.numDomains) (free : s.frames[m.toNat]? = some .free) :
    Pages outside (s.setFrame m (.allocated ⟨owner, 0, 0, 0, 0, .l1, false⟩)) := by
  have missing : s.info m = none := by simp [info, free]
  refine pages.setFrame_unclaimed (pages.unclaimed missing) ?_
  rintro i ⟨⟩
  exact ⟨known, rfl, rfl, rfl, rfl, rfl⟩

theorem free_cases (s : System) (caller : DomId) (m : Mfn) :
    (∃ i, s.info m = some i ∧ i.owner = caller ∧ i.refs = 0 ∧
        free caller m s = (.ok (), s.setFrame m .free)) ∨
      ∃ e, free caller m s = (.error e, s) := by
  rcases allocated_cases s m with ⟨i, known, found⟩ | ⟨-, e, failed⟩
  · by_cases mine : i.owner = caller
    · by_cases idle : i.refs = 0
      · exact .inl ⟨i, known, mine, idle, by simp [free, found, mine, idle]⟩
      · exact .inr ⟨.inUse, by simp [free, found, mine, idle]⟩
    · exact .inr ⟨.notYours, by simp [free, found, mine]⟩
  · exact .inr ⟨e, by simp [free, failed]⟩

theorem free_ok {caller : DomId} {m : Mfn} {i : FrameInfo} (known : s.info m = some i)
    (mine : i.owner = caller) (idle : i.refs = 0) :
    free caller m s = (.ok (), s.setFrame m .free) := by
  simp [free, allocated_of_info known, mine, idle]

theorem Pages.free (pages : Pages outside s) {m : Mfn} {i : FrameInfo} (known : s.info m = some i)
    (idle : i.refs = 0) : Pages outside (s.setFrame m .free) := by
  refine pages.setFrame_unclaimed (pages.unclaimed_of_refs known idle) ?_
  rintro i ⟨⟩

theorem info_free {m m' : Mfn} :
    (s.setFrame m .free).info m' = if m = m' then none else s.info m' := by
  rw [info_setFrame]
  split_ifs
  · cases s.frames[m.toNat]? <;> rfl
  · rfl

theorem setFrame_setFrame (s : System) (m : Mfn) (f f' : Frame) :
    (s.setFrame m f).setFrame m f' = s.setFrame m f' := by
  simp [setFrame]

theorem setPinned_of_info {m : Mfn} {i : FrameInfo} {pinned : Bool} (known : s.info m = some i) :
    s.setPinned m pinned = s.setFrame m (.allocated { i with pinned }) := by
  simp [setPinned, known]

theorem getType_eq (m : Mfn) (ty : PageType) : getType m ty = getChild m (.typed ty) := rfl

theorem putType_eq (m : Mfn) (ty : PageType) : putType m ty = putChild m (.typed ty) := rfl

theorem pin_cases (pages : Pages outside s) (caller : DomId) (m : Mfn) (level : PtLevel) :
    (∃ i, s.info m = some i ∧ i.owner = caller ∧ i.pinned = false ∧
        i.Accepts (.typed (.pageTable level)) ∧
        pin caller m level s = (.ok (), s.setFrame m
          (.allocated { i.bump (.typed (.pageTable level)) with pinned := true })) ∧
        Pages outside (s.setFrame m
          (.allocated { i.bump (.typed (.pageTable level)) with pinned := true }))) ∨
      ∃ e, pin caller m level s = (.error e, s) := by
  rcases allocated_cases s m with ⟨i, known, found⟩ | ⟨-, e, failed⟩
  · by_cases mine : i.owner = caller
    · cases pinned : i.pinned with
      | true => exact .inr ⟨.wrongState, by simp [pin, found, mine, pinned]⟩
      | false =>
          have start : pin caller m level s =
              (getType m (.pageTable level) >>= fun _ => Op.modify (·.setPinned m true)) s := by
            simp [pin, found, mine, pinned]
          rw [start, getType_eq]
          rcases getChild_cases s m (.typed (.pageTable level)) with
            ⟨j, known', accepted, took⟩ | ⟨e, failed⟩
          · obtain rfl : i = j := by simpa [known] using known'
            have after : (s.setFrame m (.allocated (i.bump (.typed (.pageTable level))))).info m =
                some (i.bump (.typed (.pageTable level))) := by
              rw [info_setFrame_of_info known, if_pos rfl]
            refine .inl ⟨i, known, mine, pinned, accepted, ?_, ?_⟩
            · rw [Op.bind_of_ok took, Op.modify_apply, setPinned_of_info after, setFrame_setFrame]
            · have pinnedPages := Pages.pin (pages.bump known accepted) after
                (by simpa using pinned)
              rwa [setFrame_setFrame] at pinnedPages
          · exact .inr ⟨e, Op.bind_of_error failed⟩
    · exact .inr ⟨.notYours, by simp [pin, found, mine]⟩
  · exact .inr ⟨e, by simp [pin, failed]⟩

theorem unpin_cases (pages : Pages outside s) (caller : DomId) (m : Mfn) :
    (∃ i, s.info m = some i ∧ i.owner = caller ∧ i.pinned = true ∧
        unpin caller m s = (.ok (), s.setFrame m (.allocated
          ({ i with pinned := false }.drop (.typed (.pageTable i.ptLevel))))) ∧
        Pages outside (s.setFrame m (.allocated
          ({ i with pinned := false }.drop (.typed (.pageTable i.ptLevel)))))) ∨
      ((∀ i, s.info m = some i → i.owner = caller → i.pinned = false) ∧
        ∃ e, unpin caller m s = (.error e, s)) := by
  rcases allocated_cases s m with ⟨i, known, found⟩ | ⟨missing, e, failed⟩
  · by_cases mine : i.owner = caller
    · cases pinned : i.pinned with
      | false =>
          refine .inr ⟨?_, .wrongState, by simp [unpin, found, mine, pinned]⟩
          intro j known' _
          obtain rfl : i = j := by simpa [known] using known'
          exact pinned
      | true =>
          have cleared := pages.unpin known pinned
          have after : (s.setFrame m (.allocated { i with pinned := false })).info m =
              some { i with pinned := false } := by
            rw [info_setFrame_of_info known, if_pos rfl]
          have levelled : ∀ level, ChildRef.typed (.pageTable i.ptLevel) =
            .typed (.pageTable level) →
              ∀ j, (s.setFrame m (.allocated { i with pinned := false })).info m = some j →
              j.ptLevel = level := by
            rintro level ⟨⟩ j known'
            rw [after] at known'
            cases known'
            rfl
          obtain ⟨j, known', dropped, done⟩ := Pages.putChild cleared levelled
          rw [after] at known'
          cases known'
          rw [setFrame_setFrame] at dropped done
          refine .inl ⟨i, known, mine, pinned, ?_, done⟩
          have start : unpin caller m s = putType m (.pageTable i.ptLevel)
              (s.setFrame m (.allocated { i with pinned := false })) := by
            simp [unpin, found, mine, pinned, setPinned_of_info known]
          rw [start, putType_eq, dropped]
    · refine .inr ⟨?_, .notYours, by simp [unpin, found, mine]⟩
      intro j known' mine'
      obtain rfl : i = j := by simpa [known] using known'
      exact absurd mine' mine
  · exact .inr ⟨by simp [missing], e, by simp [unpin, failed]⟩

end System

end Baleen.P2m
