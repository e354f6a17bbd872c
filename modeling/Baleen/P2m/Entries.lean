import Baleen.P2m.Spec

/-!
# Specifications of the page-table operations

Installing and removing an entry, in the same terms: the entry joins or leaves the
live entries, the accounting stays exact, and no frame but its two ends is touched.
-/

namespace Baleen.P2m

theorem FrameInfo.bump_table_ptLevel {i : FrameInfo} {level : PtLevel}
    (accepted : i.Accepts (.typed (.pageTable level))) :
    (i.bump (.typed (.pageTable level))).ptLevel = level := by
  by_cases typed : i.pagetableRefs = 0
  · simp [bump, System.addTyped, typed]
  · rw [bump_ptLevel typed]
    exact accepted.2.1 (by omega)

namespace System

variable {outside : List Claim} {s s' : System}

theorem occupies_iff {parent : Mfn} {slot : UInt32} {l : Link} :
    occupies parent slot l = true ↔ l.active = true ∧ l.place = (parent, slot) := by
  simp [occupies, Link.place, and_assoc]

theorem linkIndex_some {parent : Mfn} {slot : UInt32} {idx : Nat}
    (found : s.linkIndex parent slot = some idx) :
    ∃ l, s.links[idx]? = some l ∧ l.active = true ∧ l.place = (parent, slot) := by
  obtain ⟨inside, holds, -⟩ := List.findIdx?_eq_some_iff_getElem.mp found
  exact ⟨s.links[idx], List.getElem?_eq_getElem inside, occupies_iff.mp holds⟩

theorem linkIndex_none {parent : Mfn} {slot : UInt32} (missing : s.linkIndex parent slot = none)
    {l : Link} (isLive : l ∈ s.live) : l.place ≠ (parent, slot) := by
  intro here
  have absent := List.findIdx?_eq_none_iff.mp missing l (Slab.mem_live.mp isLive).1
  rw [occupies_iff.mpr ⟨(Slab.mem_live.mp isLive).2, here⟩] at absent
  cases absent

/-- The entry `l` was removed. -/
structure Unlinked (l : Link) (s s' : System) : Prop where
  stored : ∃ idx : Nat, s.links[idx]? = some l ∧
    s'.links = s.links.set idx { l with active := false }
  active : l.active = true
  kept : Kept (fun m => m = l.parent ∨ m = l.child) s s'

theorem Unlinked.live {l : Link} (unlinked : Unlinked l s s') :
    ∃ before after, s.live = before ++ l :: after ∧ s'.live = before ++ after := by
  obtain ⟨idx, stored, links⟩ := unlinked.stored
  unfold System.live
  rw [links]
  exact Slab.live_set_dead stored unlinked.active rfl

theorem Unlinked.mem_iff {l : Link} (unlinked : Unlinked l s s') {l' : Link} :
    l' ∈ s.live ↔ l' = l ∨ l' ∈ s'.live := by
  obtain ⟨before, after, whole, rest⟩ := unlinked.live
  rw [whole, rest]
  simp only [List.mem_append, List.mem_cons]
  tauto

/-- The reference an entry of a well-typed table holds on its child. -/
theorem Pages.childRef (pages : Pages outside s) {l : Link} (isLive : l ∈ s.live) {i : FrameInfo}
    (known : s.info l.parent = some i) :
    ∃ ref, entryChildRef i.ptLevel l.leaf l.writable l.execute = some ref ∧ ref.kind = l.kind ∧
      ∀ level, ref = .typed (.pageTable level) → ∀ j, s.info l.child = some j →
        j.ptLevel = level := by
  cases shape : l.leaf with
  | true =>
      refine ⟨_, rfl, kind_of_entryChildRef i.ptLevel (by rw [shape]; rfl), ?_⟩
      intro level same
      split_ifs at same
      cases same
  | false =>
      obtain ⟨j, knownChild, -⟩ := pages.child_table isLive shape
      have levels := pages.levelled isLive shape known knownChild
      refine ⟨.typed (.pageTable j.ptLevel), by simp [entryChildRef, levels], ?_, ?_⟩
      · simp [ChildRef.kind, Link.kind, shape]
      · rintro level ⟨⟩ j' knownChild'
        obtain rfl : j = j' := by simpa [knownChild] using knownChild'
        rfl

/-- Both references of a cleared entry can be given back. -/
theorem Pages.releases (pages : Pages outside s) {l : Link} {idx : Nat}
    (stored : s.links[idx]? = some l) (isLive : l.active = true) {i : FrameInfo}
    (known : s.info l.parent = some i) :
    ∃ ref s₁ s', entryChildRef i.ptLevel l.leaf l.writable l.execute = some ref ∧
      System.putChild l.parent (.typed (.pageTable i.ptLevel))
        { s with links := s.links.set idx { l with active := false } } = (.ok (), s₁) ∧
      System.putChild l.child ref s₁ = (.ok (), s') ∧ Pages outside s' ∧ Unlinked l s s' := by
  have mem : l ∈ s.live := Slab.mem_live.mpr ⟨List.mem_of_getElem? stored, isLive⟩
  obtain ⟨ref, shape, kind, levelled⟩ := pages.childRef mem known
  have cleared := pages.clearLink stored isLive
  -- First the table's own reference.
  have parentLevel : ∀ level, ChildRef.typed (.pageTable i.ptLevel) = .typed (.pageTable level) →
      ∀ j, System.info { s with links := s.links.set idx { l with active := false } } l.parent =
        some j → j.ptLevel = level := by
    rintro level ⟨⟩ j known'
    obtain rfl : i = j := by simpa using known.symm.trans known'
    rfl
  obtain ⟨j, known', dropped, pages'⟩ := Pages.putChild cleared parentLevel
  obtain rfl : i = j := by simpa using known.symm.trans known'
  -- Then the child's.
  rw [← kind] at pages'
  have childLevel : ∀ level, ref = .typed (.pageTable level) → ∀ j,
      (System.setFrame { s with links := s.links.set idx { l with active := false } } l.parent
        (.allocated (i.drop (.typed (.pageTable i.ptLevel))))).info l.child = some j →
      j.ptLevel = level := by
    intro level same j after
    rw [info_setFrame_of_info known'] at after
    split_ifs at after with eq
    · cases after
      rw [FrameInfo.drop_ptLevel]
      exact levelled level same i (eq ▸ known)
    · exact levelled level same j after
  obtain ⟨c, knownChild, released, pages''⟩ := Pages.putChild pages' childLevel
  refine ⟨ref, _, _, shape, dropped, released, pages'', ⟨idx, stored, rfl⟩, isLive, ?_⟩
  have first : Kept (fun m => m = l.parent ∨ m = l.child) s
      { s with links := s.links.set idx { l with active := false } } := Kept.relink s _
  exact (first.trans (Kept.setFrame known' (by simp) (by simp) (.inl rfl))).trans
    (Kept.setFrame knownChild (by simp) (by simp) (.inr rfl))

theorem Pages.releaseEntry (pages : Pages outside s) {l : Link} {idx : Nat}
    (stored : s.links[idx]? = some l) (isLive : l.active = true) {i : FrameInfo}
    (known : s.info l.parent = some i) :
    ∃ s', System.releaseEntry i.ptLevel l
        { s with links := s.links.set idx { l with active := false } } = (.ok (), s') ∧
      Pages outside s' ∧ Unlinked l s s' := by
  obtain ⟨ref, s₁, s', shape, released, gave, done⟩ := pages.releases stored isLive known
  refine ⟨s', ?_, done⟩
  rw [System.releaseEntry, Op.ignore_bind_apply, putType_eq, released, shape]
  simp only [Op.ignore_apply, gave]

theorem unlink_cases (pages : Pages outside s) (caller : DomId) (parent : Mfn) (slot : UInt32) :
    (∃ l s', l ∈ s.live ∧ l.place = (parent, slot) ∧ s.ownerOf parent = some caller ∧
        unlink caller parent slot s = (.ok (), s') ∧ Pages outside s' ∧ Unlinked l s s') ∨
      ((∀ l ∈ s.live, l.place = (parent, slot) → s.ownerOf parent ≠ some caller) ∧
        ∃ e, unlink caller parent slot s = (.error e, s)) := by
  rcases allocated_cases s parent with ⟨i, known, found⟩ | ⟨missing, e, failed⟩
  · by_cases mine : i.owner = caller
    · cases lookup : s.linkIndex parent slot with
      | none =>
          refine .inr
            ⟨fun l isLive here => absurd here (linkIndex_none lookup isLive), .wrongState, ?_⟩
          simp [unlink, found, mine, lookup]
      | some idx =>
          obtain ⟨l, stored, isLive, place⟩ := linkIndex_some lookup
          obtain ⟨rfl, rfl⟩ : l.parent = parent ∧ l.slot = slot := by simpa [Link.place] using place
          obtain ⟨s', ran, pages', unlinked⟩ := pages.releaseEntry stored isLive known
          refine .inl ⟨l, s', Slab.mem_live.mpr ⟨List.mem_of_getElem? stored, isLive⟩, rfl, ?_, ?_,
            pages', unlinked⟩
          · rw [ownerOf_of_info known, mine]
          · simp only [unlink, Op.query_bind_apply, found, Op.ensure_bind_apply, mine, decide_true,
              if_true, Op.read_bind_apply, lookup, stored, Op.modify_bind_apply]
            exact ran
    · refine .inr ⟨?_, .notYours, by simp [unlink, found, mine]⟩
      intro l _ _ owned
      rw [ownerOf_of_info known] at owned
      exact mine (by simpa using owned)
  · refine .inr ⟨?_, e, by simp [unlink, failed]⟩
    intro l _ _ owned
    simp [ownerOf, missing] at owned

/-- The owner of a table can remove each of its live entries. -/
theorem unlink_ok (pages : Pages outside s) {caller : DomId} {l : Link} {idx : Nat}
    (stored : s.links[idx]? = some l) (isLive : l.active = true)
    (mine : s.ownerOf l.parent = some caller) :
    ∃ s', unlink caller l.parent l.slot s = (.ok (), s') ∧ Pages outside s' ∧ Unlinked l s s' ∧
      s'.links = s.links.set idx { l with active := false } := by
  have mem : l ∈ s.live := Slab.mem_live.mpr ⟨List.mem_of_getElem? stored, isLive⟩
  rcases unlink_cases pages caller l.parent l.slot with
    ⟨l', s', isLive', place, -, ran, pages', unlinked⟩ | ⟨refused, -⟩
  · obtain ⟨idx', stored', links⟩ := unlinked.stored
    have same := Slab.index_unique pages.places stored' stored unlinked.active isLive place
    subst same
    obtain rfl : l' = l := by simpa [stored] using stored'.symm
    exact ⟨s', ran, pages', unlinked, links⟩
  · exact absurd mine (refused l mem rfl)

/-- The entry `l` was installed. -/
structure Linked (l : Link) (s s' : System) : Prop where
  stored : s'.links = Slab.insert (·.active) s.links l
  active : l.active = true
  kept : Kept (fun m => m = l.parent ∨ m = l.child) s s'

theorem Linked.live {l : Link} (linked : Linked l s s') :
    ∃ before after, s.live = before ++ after ∧ s'.live = before ++ l :: after := by
  unfold System.live
  rw [linked.stored]
  exact Slab.live_insert s.links linked.active

theorem Linked.mem_iff {l : Link} (linked : Linked l s s') {l' : Link} :
    l' ∈ s'.live ↔ l' = l ∨ l' ∈ s.live := by
  obtain ⟨before, after, whole, joined⟩ := linked.live
  rw [whole, joined]
  simp only [List.mem_append, List.mem_cons]
  tauto

/-- The child's reference has been taken: the table's follows and the entry is stored, or
the child's is given back. -/
theorem takeParent_cases (pages : Pages outside s) {l : Link} {ref : ChildRef} {i j : FrameInfo}
    (isLive : l.active = true) (shaped : l.Shaped)
    (vacant : ∀ l' ∈ s.live, l'.place ≠ l.place)
    (shape : entryChildRef i.ptLevel l.leaf l.writable l.execute = some ref)
    (known : s.info l.child = some j) (accepted : j.Accepts ref) :
    (∃ s', (takeParent l.parent i.ptLevel l.child ref >>= fun _ => Op.modify (·.allocLink l))
        (s.setFrame l.child (.allocated (j.bump ref))) = (.ok (), s') ∧
        Pages outside s' ∧ Linked l s s') ∨
      ∃ e s', (takeParent l.parent i.ptLevel l.child ref >>= fun _ => Op.modify (·.allocLink l))
        (s.setFrame l.child (.allocated (j.bump ref))) = (.error e, s') ∧
        Pages outside s' ∧ SameButStale s s' := by
  have kind : ref.kind = l.kind := kind_of_entryChildRef i.ptLevel shape
  have taken := pages.bump known accepted
  have childAfter : (s.setFrame l.child (.allocated (j.bump ref))).info l.child =
      some (j.bump ref) := by
    rw [info_setFrame_of_info known, if_pos rfl]
  have childLevel : ∀ level, ref = .typed (.pageTable level) → (j.bump ref).ptLevel = level := by
    rintro level rfl
    exact FrameInfo.bump_table_ptLevel accepted
  rcases getChild_cases (s.setFrame l.child (.allocated (j.bump ref))) l.parent
      (.typed (.pageTable i.ptLevel)) with ⟨p, parentKnown, parentAccepted, took⟩ | ⟨e, failed⟩
  · left
    have both := taken.bump parentKnown parentAccepted
    rw [kind] at both
    refine ⟨_, ?_, both.allocLink isLive shaped vacant ?_, rfl, isLive, ?_⟩
    · rw [Op.bind_apply, takeParent, Op.attempt_bind_apply, getType_eq, took]
      rfl
    · intro interior a b parentAfter childAfter'
      rw [info_setFrame_of_info parentKnown] at parentAfter childAfter'
      rw [if_pos rfl] at parentAfter
      cases parentAfter
      rw [FrameInfo.bump_table_ptLevel parentAccepted]
      -- An interior entry types its child as the level below.
      simp only [interior, entryChildRef, Bool.false_eq_true, if_false, Option.map_eq_some_iff]
        at shape
      obtain ⟨ty, below, rfl⟩ := shape
      obtain ⟨level, rfl⟩ : ∃ level, ty = .pageTable level := by
        cases h : i.ptLevel <;> simp [h, PtLevel.interiorChildType] at below <;>
          exact ⟨_, below.symm⟩
      rw [below]
      have here := childLevel level rfl
      split_ifs at childAfter' with eq
      · cases childAfter'
        obtain rfl : j.bump (.typed (.pageTable level)) = p := by
          rw [eq, childAfter] at parentKnown
          simpa using parentKnown
        rw [FrameInfo.bump_ptLevel, here]
        simp [FrameInfo.bump, addTyped]
      · rw [childAfter] at childAfter'
        cases childAfter'
        rw [here]
    · exact ((Kept.setFrame known (by simp) (by simp) (.inr rfl)).trans
        (Kept.setFrame parentKnown (by simp) (by simp) (.inl rfl))).trans (Kept.relink _ _)
  · right
    have levelled : ∀ level, ref = .typed (.pageTable level) → ∀ c,
        (s.setFrame l.child (.allocated (j.bump ref))).info l.child = some c →
        c.ptLevel = level := by
      intro level same c after
      rw [childAfter] at after
      cases after
      exact childLevel level same
    obtain ⟨c, after, dropped, pages'⟩ := Pages.putChild taken levelled
    rw [childAfter] at after
    cases after
    rw [setFrame_setFrame] at dropped pages'
    refine ⟨e, _, ?_, pages', rfl, rfl, by simp, ?_⟩
    · rw [Op.bind_apply, takeParent, Op.attempt_bind_apply, getType_eq, failed]
      simp only [Op.ignore_bind_apply, Op.fail_apply, dropped]
    · intro m
      rw [info_setFrame_of_info known]
      split_ifs with eq
      · subst eq
        simp [known, FrameInfo.visible_drop_bump]
      · rfl

/-- The entry a call asks for; only a leaf is executable. -/
def requested (parent : Mfn) (slot : UInt32) (child : Mfn) (writable leaf execute : Bool) : Link :=
  ⟨true, parent, slot, child, writable, leaf, execute && leaf⟩

theorem link_cases (pages : Pages outside s) (caller : DomId) (parent : Mfn) (slot : UInt32)
    (child : Mfn) (writable leaf execute : Bool) :
    (∃ s', link caller parent slot child writable leaf execute s = (.ok (), s') ∧
        s.ownerOf parent = some caller ∧ (∃ j, s.info child = some j) ∧
        slot.toNat < TABLE_SLOTS ∧ Pages outside s' ∧
        Linked (requested parent slot child writable leaf execute) s s') ∨
      ∃ e s', link caller parent slot child writable leaf execute s = (.error e, s') ∧
        Pages outside s' ∧ SameButStale s s' := by
  have rejected : ∀ {e}, link caller parent slot child writable leaf execute s = (.error e, s) →
      ∃ e s', link caller parent slot child writable leaf execute s = (.error e, s') ∧
        Pages outside s' ∧ SameButStale s s' :=
    fun failed => ⟨_, s, failed, pages, SameButStale.refl s⟩
  by_cases inTable : slot.toNat < TABLE_SLOTS
  case neg => exact .inr (rejected (e := .badSlot) (by simp [link, inTable]))
  by_cases exclusive : (writable && (execute && leaf)) = true
  case pos => exact .inr (rejected (e := .wxConflict) (by simp only [link, Op.ensure_bind_apply,
    inTable, decide_true, if_true, exclusive, Bool.not_true, Bool.false_eq_true, if_false]))
  rcases allocated_cases s parent with ⟨i, known, found⟩ | ⟨-, e, failed⟩
  case inr => exact .inr (rejected (e := e) (by simp [link, inTable, exclusive, failed]))
  by_cases mine : i.owner = caller
  case neg =>
    exact .inr (rejected (e := .notYours) (by simp [link, inTable, exclusive, found, mine]))
  by_cases typed : s.currentType parent = some (.pageTable i.ptLevel)
  case neg => exact .inr (rejected (e := .wrongState)
    (by simp [link, inTable, exclusive, found, mine, typed]))
  by_cases present : s.isAllocated child = true
  case neg => exact .inr (rejected (e := .wrongState)
    (by simp [link, inTable, exclusive, found, mine, typed, present]))
  cases lookup : s.linkIndex parent slot with
  | some idx => exact .inr (rejected (e := .wrongState)
      (by simp [link, inTable, exclusive, found, mine, typed, present, lookup]))
  | none =>
      cases shape : entryChildRef i.ptLevel leaf writable (execute && leaf) with
      | none => exact .inr (rejected (e := .wrongState)
          (by simp [link, inTable, exclusive, found, mine, typed, present, lookup, shape]))
      | some ref =>
          have start : link caller parent slot child writable leaf execute s =
              (getChild child ref >>= fun _ =>
                takeParent parent i.ptLevel child ref >>= fun _ =>
                  Op.modify (·.allocLink (requested parent slot child writable leaf execute)))
                    s := by
            simp [link, inTable, exclusive, found, mine, typed, present, lookup, shape, requested]
          rw [start]
          rcases getChild_cases s child ref with ⟨j, childKnown, accepted, took⟩ | ⟨e, failed⟩
          · rw [Op.bind_of_ok took]
            have shaped : (requested parent slot child writable leaf execute).Shaped := by
              intro executable
              simp only [requested, Bool.and_eq_true] at executable ⊢
              refine ⟨executable.2, ?_⟩
              by_contra written
              exact exclusive (by simp_all)
            rcases takeParent_cases pages (l := requested parent slot child writable leaf execute)
                rfl shaped (fun l' isLive => linkIndex_none lookup isLive) shape childKnown accepted
              with ⟨s', ran, pages', linked⟩ | ⟨e, s', ran, pages', same⟩
            · exact .inl ⟨s', ran, by rw [ownerOf_of_info known, mine], ⟨j, childKnown⟩, inTable,
                pages', linked⟩
            · exact .inr ⟨e, s', ran, pages', same⟩
          · rw [Op.bind_of_error failed]
            exact .inr ⟨e, s, rfl, pages, SameButStale.refl s⟩

end System

end Baleen.P2m
