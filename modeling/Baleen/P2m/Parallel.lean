import Baleen.P2m.Excess
import Baleen.P2m.Alike

/-!
# Two runs of the page accounting

A call that succeeds in two systems, one ahead of the other, keeps the difference between
them.  For the bulk removals, which visit the entries in storage order, it suffices that
both remove the same ones.
-/

namespace Baleen.P2m

namespace System

variable {s s' : System} {caller : DomId} {m : Mfn}

/-- What a successful pin did. -/
theorem pin_ok {level : PtLevel} (ran : pin caller m level s = (.ok (), s')) :
    ∃ i s₁, s.info m = some i ∧ i.owner = caller ∧ i.pinned = false ∧
      getChild m (.typed (.pageTable level)) s = (.ok (), s₁) ∧ s' = s₁.setPinned m true := by
  rw [pin] at ran
  simp only [Op.ensure_bind_eq_ok, Op.query_bind_eq_ok, decide_eq_true_eq, Bool.not_eq_true'] at ran
  obtain ⟨i, found, mine, unpinned, ran⟩ := ran
  obtain ⟨⟨⟩, s₁, took, ran⟩ := Op.bind_eq_ok.mp ran
  exact ⟨i, s₁, info_of_allocated found, mine, unpinned, took, by simpa using ran.symm⟩

/-- What a successful unpin did. -/
theorem unpin_ok (ran : unpin caller m s = (.ok (), s')) :
    ∃ i, s.info m = some i ∧ i.owner = caller ∧ i.pinned = true ∧
      putChild m (.typed (.pageTable i.ptLevel)) (s.setPinned m false) = (.ok (), s') := by
  rw [unpin] at ran
  simp only [Op.ensure_bind_eq_ok, Op.query_bind_eq_ok, decide_eq_true_eq,
    Op.modify_bind_apply] at ran
  obtain ⟨i, found, mine, pinned, ran⟩ := ran
  exact ⟨i, info_of_allocated found, mine, pinned, ran⟩

theorem info_setPinned {pinned : Bool} {i : FrameInfo} (known : s.info m = some i) (m' : Mfn) :
    (s.setPinned m pinned).info m' = if m = m' then some { i with pinned } else s.info m' := by
  rw [setPinned_of_info known, info_setFrame_of_info known]

end System

namespace Excess.Over

variable {x : Excess} {s s' t t' : System} {m : Mfn} {caller : DomId}

theorem allocate_both (ahead : x.Over s t) {owner : DomId}
    (ran : System.allocate owner m s = (.ok (), s'))
    (ran' : System.allocate owner m t = (.ok (), t')) : x.Over s' t' := by
  rcases System.allocate_cases s owner m with ⟨-, free, done⟩ | ⟨e, failed⟩
  · rcases System.allocate_cases t owner m with ⟨-, free', done'⟩ | ⟨e, failed⟩
    · obtain rfl := congrArg Prod.snd (done.symm.trans ran)
      obtain rfl := congrArg Prod.snd (done'.symm.trans ran')
      have unclaimed : ∀ c ∈ x.claims, c.1 ≠ m := by
        rcases ahead.info m with ⟨-, -, unclaimed⟩ | ⟨i, j, known, -⟩
        · exact unclaimed
        · simp [System.info, free] at known
      have even : m ∉ x.pins := fun mem => unclaimed _ (ahead.pins m mem) rfl
      have absent : ∀ k, (m, k) ∉ x.claims := fun k claimed => unclaimed _ claimed rfl
      have none' : x.claims.countP (fun c => c.1 = m) = 0 :=
        List.countP_eq_zero.mpr fun c claimed => by simpa using unclaimed c claimed
      have between : x.Between m ⟨owner, 0, 0, 0, 0, .l1, false⟩
        ⟨owner, 0, 0, 0, 0, .l1, false⟩ := by
        refine ⟨rfl, ?_, ?_, ?_, ?_, ?_, ?_, fun _ => rfl, ?_, ?_⟩
        · simp [List.count_eq_zero.mpr (absent .write)]
        · simp [List.count_eq_zero.mpr (absent .exec)]
        · simp [List.count_eq_zero.mpr (absent .table)]
        · simp [none']
        · simp [even]
        · simp
        · exact fun claimed => absurd claimed (absent _)
        · exact fun claimed => absurd claimed (absent _)
      refine ahead.rewrite m (by simpa using ahead.frameCount) (.inr ⟨_, _, ?_, ?_, between⟩)
        (fun m' other => System.info_setFrame_other other)
        (fun m' other => System.info_setFrame_other other) (fun _ _ _ _ _ between => between)
        (fun c claimed => .inr claimed) ahead.pins
      · rw [System.info_setFrame, if_pos rfl, free]
        rfl
      · rw [System.info_setFrame, if_pos rfl, free']
        rfl
    · rw [failed] at ran'
      cases ran'
  · rw [failed] at ran
    cases ran

theorem free_both (ahead : x.Over s t) (ran : System.free caller m s = (.ok (), s'))
    (ran' : System.free caller m t = (.ok (), t')) : x.Over s' t' := by
  rcases System.free_cases s caller m with ⟨i, known, -, idle, done⟩ | ⟨e, failed⟩
  · rcases System.free_cases t caller m with ⟨j, known', -, -, done'⟩ | ⟨e, failed⟩
    · obtain rfl := congrArg Prod.snd (done.symm.trans ran)
      obtain rfl := congrArg Prod.snd (done'.symm.trans ran')
      -- A frame without references carries no claim.
      have unclaimed : ∀ c ∈ x.claims, c.1 ≠ m := by
        intro c claimed here
        have one : 0 < x.claims.countP fun c => c.1 = m :=
          List.countP_pos_iff.mpr ⟨c, claimed, by simpa using here⟩
        have total := (ahead.both known known').total
        omega
      refine ahead.rewrite m (by simpa using ahead.frameCount) (.inl ⟨?_, ?_, unclaimed⟩)
        (fun m' other => System.info_setFrame_other other)
        (fun m' other => System.info_setFrame_other other) (fun _ _ _ _ _ between => between)
        (fun c claimed => .inr claimed) ahead.pins
      · rw [System.info_free, if_pos rfl]
      · rw [System.info_free, if_pos rfl]
    · rw [failed] at ran'
      cases ran'
  · rw [failed] at ran
    cases ran

theorem setPinned_both (ahead : x.Over s t) (even : m ∉ x.pins) (pinned : Bool) :
    x.Over (s.setPinned m pinned) (t.setPinned m pinned) := by
  rcases ahead.info m with ⟨missing, missing', -⟩ | ⟨i, j, known, known', between⟩
  · simpa [System.setPinned, missing, missing'] using ahead
  · rw [System.setPinned_of_info known, System.setPinned_of_info known']
    exact ahead.setFrames known known' (between.repin even pinned)

theorem pin_both (ahead : x.Over s t) {level : PtLevel}
    (ran : System.pin caller m level s = (.ok (), s'))
    (ran' : System.pin caller m level t = (.ok (), t')) : x.Over s' t' := by
  obtain ⟨i, s₁, known, -, unpinned, took, rfl⟩ := System.pin_ok ran
  obtain ⟨j, t₁, known', -, -, took', rfl⟩ := System.pin_ok ran'
  have even : m ∉ x.pins := by
    intro mem
    rw [(ahead.both known known').pinned.mpr (.inr mem)] at unpinned
    cases unpinned
  exact (ahead.getChild_both took took').setPinned_both even true

theorem unpin_both (ahead : x.Over s t) (sound : t.Sound)
    (ran : System.unpin caller m s = (.ok (), s'))
    (ran' : System.unpin caller m t = (.ok (), t')) : x.Over s' t' := by
  obtain ⟨i, known, -, -, gave⟩ := System.unpin_ok ran
  obtain ⟨j, known', -, pinned, gave'⟩ := System.unpin_ok ran'
  have between := ahead.both known known'
  have even : m ∉ x.pins := by
    intro mem
    rw [between.fresh mem] at pinned
    cases pinned
  -- The reference of the pin was there to be given back, so the second side shows the level.
  have table : 0 < j.pagetableRefs := by
    obtain ⟨j', known'', returned, -⟩ := System.putChild_of_ok gave'
    rw [System.info_setPinned known', if_pos rfl] at known''
    cases known''
    exact Nat.pos_of_ne_zero returned.1
  rw [between.level table] at gave
  exact (ahead.setPinned_both even false).putChild_both (System.setPinned_sound sound m false)
    gave gave'

theorem link_both (ahead : x.Over s t) {parent child : Mfn} {slot : UInt32}
    {writable leaf execute : Bool}
    (ran : System.link caller parent slot child writable leaf execute s = (.ok (), s'))
    (ran' : System.link caller parent slot child writable leaf execute t = (.ok (), t')) :
    x.Over s' t' := by
  obtain ⟨i, ref, s₁, s₂, known, -, typed, -, shape, took, taken, rfl⟩ := System.link_ok ran
  obtain ⟨j, ref', t₁, t₂, known', -, typed', -, shape', took', taken', rfl⟩ := System.link_ok ran'
  have table := ((System.currentType_table_iff known').mp typed').2
  have level := (ahead.both known known').level table
  rw [level] at shape taken
  obtain rfl : ref = ref' := by simpa [shape] using shape'
  have both := (ahead.getChild_both took took').getChild_both taken taken'
  exact both.relink _ _

theorem trans {y z : Excess} {u : System} (first : x.Over s t) (second : y.Over t u)
    (noPins : x.pins = []) (noPins' : y.pins = []) (pins : z.pins = [])
    (claims : z.claims = y.claims ++ x.claims) : (z.record s).Over s u := by
  refine ⟨first.frameCount.trans second.frameCount, fun m => ?_, by simp [pins]⟩
  rcases first.info m with ⟨missing, missing', unclaimed⟩ | ⟨i, j, known, known', between⟩
  · rcases second.info m with ⟨-, missing'', unclaimed'⟩ | ⟨j, k, known, -⟩
    · refine .inl ⟨missing, missing'', fun c claimed => ?_⟩
      rw [record_claims, claims] at claimed
      rcases List.mem_append.mp claimed with new | old
      · exact unclaimed' c new
      · exact unclaimed c old
    · rw [missing'] at known
      cases known
  · obtain ⟨k, known'', between'⟩ := second.of_left known'
    refine .inr ⟨i, k, known, known'', ?_⟩
    exact between.trans between' noPins noPins' pins claims (record_owner z known).symm
      (record_level z known).symm

/-- Both systems lose the same references. -/
theorem removed {y z : Excess} (ahead : x.Over s t) (first : y.Over s s') (second : z.Over t t')
    (noPins : y.pins = []) (noPins' : z.pins = []) (same : y.claims.Perm z.claims) :
    x.Over s' t' := by
  refine ⟨first.frameCount.symm.trans (ahead.frameCount.trans second.frameCount), fun m => ?_,
    ahead.pins⟩
  rcases ahead.info m with ⟨missing, missing', unclaimed⟩ | ⟨i, j, known, known', between⟩
  · refine .inl ⟨?_, ?_, unclaimed⟩
    · rcases first.info m with ⟨-, gone, -⟩ | ⟨i, -, known, -⟩
      · exact gone
      · rw [missing] at known
        cases known
    · rcases second.info m with ⟨-, gone, -⟩ | ⟨j, -, known, -⟩
      · exact gone
      · rw [missing'] at known
        cases known
  · obtain ⟨i', left, between₁⟩ := first.of_left known
    obtain ⟨j', right, between₂⟩ := second.of_left known'
    exact .inr ⟨i', j', left, right, between.removed between₁ between₂ noPins noPins' same⟩

end Excess.Over

/-- The claims of some entries of a system. -/
def Excess.entries (ls : List Link) (s : System) : Excess :=
  Excess.record ⟨ls.flatMap Link.claims, [], fun _ => 0, fun _ => .l1⟩ s

namespace System

variable {s s' t t' : System} {caller : DomId}

/-- The second system is the first without some entries. -/
structure Removed (ls : List Link) (s s' : System) : Prop where
  live : s.live.Perm (ls ++ s'.live)
  ahead : (Excess.entries ls s).Over s s'

theorem Removed.none (s : System) : Removed [] s s :=
  ⟨.refl _, Excess.Over.refl s _ _⟩

theorem Removed.cons {u : System} {ls : List Link} {l : Link} (first : Removed ls s t)
    (second : Removed [l] t u) : Removed (l :: ls) s u := by
  refine ⟨(first.live.trans (second.live.append_left ls)).trans List.perm_middle, ?_⟩
  exact first.ahead.trans second.ahead rfl rfl rfl (by simp [Excess.entries])

/-- A removal takes one entry away. -/
theorem unlinkAsserted_removed {parent : Mfn} {slot : UInt32} (sound : s.Sound)
    (ran : unlinkAsserted caller parent slot s = (.ok (), s')) :
    ∃ idx l, s.links[idx]? = some l ∧ l.active = true ∧ l.place = (parent, slot) ∧
      s'.links = s.links.set idx { l with active := false } ∧ Removed [l] s s' := by
  obtain ⟨i, idx, l, ref, s₁, known, -, lookup, stored, shape, released, gave⟩ :=
    unlinkAsserted_ok ran
  obtain ⟨l', stored', isLive, place⟩ := linkIndex_some lookup
  obtain rfl : l' = l := by simpa [stored] using stored'.symm
  have cleared := sound.clearLink idx l'
  have links : s'.links = s.links.set idx { l' with active := false } := by
    have released := (putChild_links (s.links.set idx { l' with active := false }) _ _).ran
      rfl released
    exact (putChild_links _ _ _).ran released gave
  refine ⟨idx, l', stored, isLive, place, links, ?_, ?_⟩
  · unfold System.live
    rw [links]
    exact Slab.live_set_dead_perm stored isLive rfl
  · have start := (Excess.Over.refl s (fun _ => 0) (fun _ => .l1)).relink s.links
      (s.links.set idx { l' with active := false })
    have first := start.putChild_right cleared released
    have second := first.putChild_right ((putChild_sound _ _).ran cleared released) gave
    rw [kind_of_entryChildRef i.ptLevel shape] at second
    exact second.perm (List.Perm.swap _ _ _)

/-- An asserted sweep over all entries removes exactly the doomed ones. -/
theorem sweep_removed {doomed : Link → Bool}
    {step : Nat → System → Option (Except P2mError Unit × System)} (sound : s.Sound)
    (visits : ∀ {idx u u'}, (∀ m, u.ownerOf m = s.ownerOf m) → Op.Visits step idx u u' →
      (u' = u ∧ ∀ l, u.links[idx]? = some l → l.active = true → doomed l = false) ∨
        ∃ l caller, u.links[idx]? = some l ∧ l.active = true ∧ doomed l = true ∧
          unlinkAsserted caller l.parent l.slot u = (.ok (), u'))
    (done : Op.sweepAsserted step (List.range s.links.length) s = (.ok (), s')) :
    ∃ ls, Removed ls s s' ∧ (∀ l ∈ ls, doomed l = true) ∧ ∀ l ∈ s'.live, doomed l = false := by
  let P : System → Prop := fun u => u.Sound ∧ u.links.length = s.links.length ∧
    ∃ ls, Removed ls s u ∧ ∀ l ∈ ls, doomed l = true
  -- What one visit does, in the terms of the sweep.
  have visited : ∀ {idx u u'}, P u → Op.Visits step idx u u' →
      (u' = u ∧ ∀ l, u.links[idx]? = some l → l.active = true → doomed l = false) ∨
        P u' ∧ ∃ l, u.links[idx]? = some l ∧
          u'.links = u.links.set idx { l with active := false } := by
    rintro idx u u' ⟨sound, length, ls, removed, all⟩ visited
    rcases visits (fun m => (removed.ahead.ownerOf m).symm) visited with
      spared | ⟨l, caller, stored, isLive, isDoomed, ran⟩
    · exact .inl spared
    · obtain ⟨idx', l', stored', isLive', place, links, single⟩ := unlinkAsserted_removed sound ran
      obtain rfl := Slab.index_unique sound.places stored' stored isLive' isLive place
      obtain rfl : l' = l := by simpa [stored'] using stored
      have sound' := (unlink_sound _ _ _).ran sound (unlink_of_asserted ran)
      refine .inr ⟨⟨sound', by rw [links, List.length_set, length], l' :: ls,
        removed.cons single, ?_⟩, l', stored, links⟩
      rintro l (_ | ⟨_, member⟩)
      · exact isDoomed
      · exact all l member
  have swept := Op.sweepAsserted_rule (P := P)
    (D := fun idx u => ∀ l, u.links[idx]? = some l → l.active = true → doomed l = false)
    ?visit ?stable ⟨sound, rfl, [], Removed.none s, by simp⟩ done
  case visit =>
    intro idx u u' holds visit
    rcases visited holds visit with ⟨rfl, spared⟩ | ⟨holds', l, stored, links⟩
    · exact ⟨holds, spared⟩
    · refine ⟨holds', fun l' stored' isLive => ?_⟩
      obtain ⟨inside, -⟩ := List.getElem?_eq_some_iff.mp stored
      rw [links, List.getElem?_set_self inside] at stored'
      cases stored'
      cases isLive
  case stable =>
    intro idx j u u' holds settled visit
    rcases visited holds visit with ⟨rfl, -⟩ | ⟨-, l, stored, links⟩
    · exact settled
    · intro l' stored' isLive
      rw [links, List.getElem?_set] at stored'
      split_ifs at stored'
      · cases stored'
        cases isLive
      · exact settled l' stored' isLive
  obtain ⟨⟨-, length, ls, removed, all⟩, settled⟩ := swept
  refine ⟨ls, removed, all, fun l isLive => ?_⟩
  obtain ⟨idx, stored⟩ := List.getElem?_of_mem (Slab.mem_live.mp isLive).1
  obtain ⟨inside, -⟩ := List.getElem?_eq_some_iff.mp stored
  exact settled idx (List.mem_range.mpr (by omega)) l stored (Slab.mem_live.mp isLive).2

theorem unlinkAll_removed {owner : DomId} (sound : s.Sound)
    (done : (Call.unlinkAll owner).asserted s = (.ok (), s')) :
    ∃ ls, Removed ls s s' ∧ (∀ l ∈ ls, s.outward owner l = true) ∧
      ∀ l ∈ s'.live, s.outward owner l = false := by
  refine sweep_removed sound (fun {idx u u'} owners visited => ?_) done
  have same : u.outward owner = s.outward owner := by
    funext l
    simp only [outward, owners]
  rw [← same]
  rcases unlinkAllStep_visits visited with spared | ⟨l, stored, isLive, mine, ran⟩
  · exact .inl spared
  · exact .inr ⟨l, owner, stored, isLive, mine, ran⟩

theorem unlinkAllInto_removed {owner : DomId} (sound : s.Sound)
    (done : (Call.unlinkAllInto owner).asserted s = (.ok (), s')) :
    ∃ ls, Removed ls s s' ∧ (∀ l ∈ ls, s.inward owner l = true) ∧
      ∀ l ∈ s'.live, s.inward owner l = false := by
  refine sweep_removed sound (fun {idx u u'} owners visited => ?_) done
  have same : u.inward owner = s.inward owner := by
    funext l
    simp only [inward, owners]
  rw [← same]
  rcases unlinkAllIntoStep_visits visited with
    spared | ⟨l, other, stored, isLive, into, -, ran⟩
  · exact .inl spared
  · exact .inr ⟨l, other, stored, isLive, into, ran⟩

end System

end Baleen.P2m
