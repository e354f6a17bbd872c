import Baleen.P2m.Entries

/-!
# Bulk release of a domain's pages

The four bulk operations of a teardown: removing the entries into or out of a
domain's frames, dropping its pins, and freeing its frames.  None of their sub-steps
is refused, and frames that no removed entry touched keep their accounting.
-/

namespace Baleen.P2m.System

variable {outside : List Claim} {s s' : System}

section UnlinkSweep

variable (doomed : Link → Bool) (owner : Link → DomId)

/-- Remove the entry stored at an index, if it is live and doomed. -/
def unlinkStep (idx : Nat) (s : System) : Option (Except P2mError Unit × System) :=
  match s.links[idx]? with
  | none => none
  | some l =>
      if l.active && doomed l then some (unlink (owner l) l.parent l.slot s) else none

/-- A frame at one end of a doomed entry. -/
def Touched (s : System) (m : Mfn) : Prop :=
  ∃ l ∈ s.live, doomed l = true ∧ (m = l.parent ∨ m = l.child)

/-- The state of the sweep, relative to its start. -/
structure Sweeping (outside : List Claim) (start s : System) : Prop where
  pages : Pages outside s
  kept : Kept (Touched doomed start) start s
  spared : s.live.filter (fun l => !doomed l) = start.live.filter fun l => !doomed l
  shrunk : ∀ l ∈ s.live, l ∈ start.live
  length : s.links.length = start.links.length

variable {doomed} {owner} {start : System}

theorem unlinkStep_some {idx : Nat} {r : Except P2mError Unit}
    (owned : ∀ l ∈ start.live, doomed l = true → start.ownerOf l.parent = some (owner l))
    (sweeping : Sweeping doomed outside start s)
    (ran : unlinkStep doomed owner idx s = some (r, s')) :
    r = .ok () ∧ Sweeping doomed outside start s' ∧
      ∃ l, s.links[idx]? = some l ∧ s'.links = s.links.set idx { l with active := false } := by
  unfold unlinkStep at ran
  cases stored : s.links[idx]? with
  | none => simp [stored] at ran
  | some l =>
      simp only [stored] at ran
      split_ifs at ran with chosen
      obtain ⟨isLive, isDoomed⟩ : l.active = true ∧ doomed l = true := by simpa using chosen
      have mem : l ∈ s.live := Slab.mem_live.mpr ⟨List.mem_of_getElem? stored, isLive⟩
      have mine : s.ownerOf l.parent = some (owner l) := by
        rw [sweeping.kept.owner]
        exact owned l (sweeping.shrunk l mem) isDoomed
      obtain ⟨s'', done, pages, unlinked, links⟩ := unlink_ok sweeping.pages stored isLive mine
      obtain ⟨rfl, rfl⟩ : Except.ok () = r ∧ s'' = s' := by
        rw [done] at ran
        simpa using ran
      refine ⟨rfl, ?_, l, rfl, links⟩
      obtain ⟨before, after, whole, rest⟩ := unlinked.live
      exact {
        pages := pages
        kept := by
          refine sweeping.kept.trans (unlinked.kept.mono ?_)
          exact fun m here => ⟨l, sweeping.shrunk l mem, isDoomed, here⟩
        spared := by
          rw [← sweeping.spared, whole, rest]
          simp [isDoomed]
        shrunk := fun l' isLive' => sweeping.shrunk l' (unlinked.mem_iff.mpr (.inr isLive'))
        length := by rw [links, List.length_set, sweeping.length] }

/-- A sweep over all entries removes exactly the doomed ones. -/
theorem unlinkSweep (owner : Link → DomId)
    {step : Nat → System → Option (Except P2mError Unit × System)}
    (pages : Pages outside s)
    (owned : ∀ l ∈ s.live, doomed l = true → s.ownerOf l.parent = some (owner l))
    (same : ∀ idx s', (∀ m, s'.ownerOf m = s.ownerOf m) →
      step idx s' = unlinkStep doomed owner idx s') :
    let swept := Op.sweep step (List.range s.links.length) s
    (∀ r ∈ swept.1, r = .ok ()) ∧ Pages outside swept.2 ∧ Kept (Touched doomed s) s swept.2 ∧
      swept.2.live = s.live.filter fun l => !doomed l := by
  have start : Sweeping doomed outside s s :=
    ⟨pages, Kept.refl _ s, rfl, fun _ h => h, rfl⟩
  have advance : ∀ {idx s₁ r s₂}, Sweeping doomed outside s s₁ → step idx s₁ = some (r, s₂) →
      unlinkStep doomed owner idx s₁ = some (r, s₂) := by
    intro idx s₁ r s₂ sweeping ran
    rwa [same idx s₁ sweeping.kept.owner] at ran
  -- A visited index holds no live doomed entry, and none comes back.
  have swept := Op.sweep_rule step (List.range s.links.length) (Sweeping doomed outside s)
    (· = .ok ())
    (fun idx s₁ => ∀ l, s₁.links[idx]? = some l → l.active = true → doomed l = false)
    ?ran ?skipped ?stable start
  case ran =>
    intro idx _ s₁ r s₂ sweeping ran
    obtain ⟨fine, sweeping', l', stored', links⟩ :=
      unlinkStep_some owned sweeping (advance sweeping ran)
    refine ⟨sweeping', fine, ?_⟩
    intro l stored isLive
    obtain ⟨inside, -⟩ := List.getElem?_eq_some_iff.mp stored'
    rw [links, List.getElem?_set_self inside] at stored
    cases stored
    cases isLive
  case skipped =>
    intro idx _ s₁ sweeping skipped l stored isLive
    rw [same idx s₁ sweeping.kept.owner] at skipped
    simpa [unlinkStep, stored, isLive] using skipped
  case stable =>
    intro idx _ idx' _ s₁ r s₂ sweeping done ran l stored isLive
    obtain ⟨-, -, l', stored', links⟩ := unlinkStep_some owned sweeping (advance sweeping ran)
    rw [links, List.getElem?_set] at stored
    split_ifs at stored
    · cases stored
      cases isLive
    · exact done l stored isLive
  obtain ⟨sweeping, fine, settled⟩ := swept
  refine ⟨fine, sweeping.pages, sweeping.kept, ?_⟩
  rw [← sweeping.spared, eq_comm, List.filter_eq_self]
  intro l isLive
  obtain ⟨idx, stored⟩ := List.getElem?_of_mem (Slab.mem_live.mp isLive).1
  obtain ⟨inside, -⟩ := List.getElem?_eq_some_iff.mp stored
  rw [sweeping.length] at inside
  simp [settled idx (List.mem_range.mpr inside) l stored (Slab.mem_live.mp isLive).2]

end UnlinkSweep

/-- An entry of one of `owner`'s tables. -/
def outward (s : System) (owner : DomId) (l : Link) : Bool := s.ownerOf l.parent = some owner

theorem unlinkAll_spec (pages : Pages outside s) (owner : DomId) :
    (∀ r ∈ (unlinkAll owner s).1, r = .ok ()) ∧ Pages outside (unlinkAll owner s).2 ∧
      Kept (Touched (s.outward owner) s) s (unlinkAll owner s).2 ∧
      (unlinkAll owner s).2.live = s.live.filter fun l => !s.outward owner l := by
  refine unlinkSweep (fun _ => owner) pages ?_ ?_
  · intro l _ isDoomed
    simpa [outward] using isDoomed
  · intro idx s' owners
    unfold unlinkStep
    cases s'.links[idx]? with
    | none => rfl
    | some l => simp [outward, owners]

/-- An entry into one of `owner`'s frames from another domain's table. -/
def inward (s : System) (owner : DomId) (l : Link) : Bool :=
  s.ownerOf l.child = some owner && (s.ownerOf l.parent).any (· ≠ owner)

theorem unlinkAllInto_spec (pages : Pages outside s) (owner : DomId) :
    (∀ r ∈ (unlinkAllInto owner s).1, r = .ok ()) ∧ Pages outside (unlinkAllInto owner s).2 ∧
      Kept (Touched (s.inward owner) s) s (unlinkAllInto owner s).2 ∧
      (unlinkAllInto owner s).2.live = s.live.filter fun l => !s.inward owner l := by
  refine unlinkSweep (fun l => (s.ownerOf l.parent).getD 0) pages ?_ ?_
  · intro l isLive _
    obtain ⟨i, known, -⟩ := pages.parent_table isLive
    simp [ownerOf_of_info known]
  · intro idx s' owners
    unfold unlinkStep
    cases s'.links[idx]? with
    | none => rfl
    | some l =>
        simp only [inward, owners]
        cases l.active with
        | false => simp
        | true =>
            by_cases into : s.ownerOf l.child = some owner
            · by_cases missing : s.ownerOf l.parent = none
              · simp [into, missing]
              · obtain ⟨d, parent⟩ := Option.ne_none_iff_exists'.mp missing
                by_cases mine : d = owner <;> simp [into, parent, mine]
            · simp [into]

/-- Only frames of `owner` changed, and no frame changed hands. -/
structure Spared (owner : DomId) (s s' : System) : Prop where
  links : s'.links = s.links
  numDomains : s'.numDomains = s.numDomains
  frameCount : s'.frameCount = s.frameCount
  other : ∀ m, s.ownerOf m ≠ some owner → s'.info m = s.info m
  owner : ∀ m d, s'.ownerOf m = some d → s.ownerOf m = some d

namespace Spared

variable {owner : DomId} {s'' : System}

theorem refl (owner : DomId) (s : System) : Spared owner s s :=
  ⟨rfl, rfl, rfl, fun _ _ => rfl, fun _ _ h => h⟩

theorem trans (first : Spared owner s s') (second : Spared owner s' s'') :
    Spared owner s s'' where
  links := second.links.trans first.links
  numDomains := second.numDomains.trans first.numDomains
  frameCount := second.frameCount.trans first.frameCount
  other m foreign :=
    (second.other m fun mine => foreign (first.owner m owner mine)).trans (first.other m foreign)
  owner m d owned := first.owner m d (second.owner m d owned)

theorem live (spared : Spared owner s s') : s'.live = s.live := by
  unfold System.live
  rw [spared.links]

theorem setFrame {m : Mfn} {i : FrameInfo} {f : Frame} (known : s.info m = some i)
    (mine : i.owner = owner) (same : ∀ i', infoOf f = some i' → i'.owner = i.owner) :
    Spared owner s (s.setFrame m f) where
  links := rfl
  numDomains := rfl
  frameCount := by simp
  other m' foreign := by
    rw [info_setFrame_other]
    rintro rfl
    exact foreign (by rw [ownerOf_of_info known, mine])
  owner m' d owned := by
    by_cases eq : m = m'
    · subst eq
      obtain ⟨i', after, rfl⟩ := ownerOf_eq_some.mp owned
      rw [info_setFrame, if_pos rfl, getElem?_of_info known, Option.bind_some] at after
      rw [ownerOf_of_info known, same i' after]
    · simpa [ownerOf, info_setFrame_other eq] using owned

end Spared

theorem mfns_of_frameCount (same : s'.frameCount = s.frameCount) : s'.mfns = s.mfns := by
  unfold mfns
  rw [same]

theorem isPinned_of_info {m : Mfn} {i : FrameInfo} (known : s.info m = some i) :
    s.isPinned m = i.pinned := by
  simp [isPinned, known]

theorem unpin_owned (pages : Pages outside s) {owner : DomId} {m : Mfn}
    (chosen : s.ownerOf m = some owner ∧ s.isPinned m = true) :
    ∃ s', unpin owner m s = (.ok (), s') ∧ Pages outside s' ∧ Spared owner s s' ∧
      (∀ m', s'.ownerOf m' = s.ownerOf m') ∧
      ∀ m', s'.isPinned m' = if m = m' then false else s.isPinned m' := by
  obtain ⟨i, known, mine⟩ := ownerOf_eq_some.mp chosen.1
  have pinned : i.pinned = true := by rw [← isPinned_of_info known]; exact chosen.2
  rcases unpin_cases pages owner m with ⟨j, known', -, -, ran, pages'⟩ | ⟨refused, -⟩
  · obtain rfl : i = j := by simpa [known] using known'
    refine ⟨_, ran, pages', Spared.setFrame known mine ?_, ?_, ?_⟩
    · rintro i' ⟨⟩
      exact FrameInfo.drop_owner _ _
    · exact fun m' => ownerOf_setFrame known (FrameInfo.drop_owner _ _)
    · intro m'
      unfold isPinned
      rw [info_setFrame_of_info known]
      split_ifs
      · simp
      · rfl
  · exact absurd (refused i known mine) (by simp [pinned])

theorem unpinAll_spec (pages : Pages outside s) (owner : DomId) :
    (∀ r ∈ (unpinAll owner s).1, r = .ok ()) ∧ Pages outside (unpinAll owner s).2 ∧
      Spared owner s (unpinAll owner s).2 ∧
      (∀ m, (unpinAll owner s).2.ownerOf m = s.ownerOf m) ∧
      ∀ m ∈ s.mfns, s.ownerOf m = some owner → (unpinAll owner s).2.isPinned m = false := by
  let P (s₁ : System) : Prop :=
    Pages outside s₁ ∧ Spared owner s s₁ ∧ ∀ m, s₁.ownerOf m = s.ownerOf m
  let step (m : Mfn) (s₁ : System) : Option (Except P2mError Unit × System) :=
    if s₁.ownerOf m = some owner ∧ s₁.isPinned m = true then some (unpin owner m s₁) else none
  have advance : ∀ m s₁ r s₂, P s₁ → step m s₁ = some (r, s₂) →
      P s₂ ∧ r = .ok () ∧ ∀ m', s₂.isPinned m' = if m = m' then false else s₁.isPinned m' := by
    rintro m s₁ r s₂ ⟨pages₁, spared, owners⟩ ran
    simp only [step] at ran
    split_ifs at ran with chosen
    obtain ⟨s₃, done, pages₂, spared₂, owners₂, pins⟩ := unpin_owned pages₁ chosen
    rw [done] at ran
    cases ran
    exact ⟨⟨pages₂, spared.trans spared₂, fun m => (owners₂ m).trans (owners m)⟩, rfl, pins⟩
  have start : P s := ⟨pages, Spared.refl owner s, fun _ => rfl⟩
  have swept := Op.sweep_rule step s.mfns P (· = .ok ())
    (fun m s₁ => s₁.ownerOf m = some owner → s₁.isPinned m = false) ?ran ?skipped ?stable start
  case ran =>
    intro m _ s₁ r s₂ holds ran
    obtain ⟨holds', fine, pins⟩ := advance m s₁ r s₂ holds ran
    exact ⟨holds', fine, fun _ => by simp [pins m]⟩
  case skipped =>
    intro m _ s₁ _ skipped mine
    simpa [step, mine] using skipped
  case stable =>
    intro m _ m' _ s₁ r s₂ holds done ran mine
    obtain ⟨⟨-, -, owners⟩, -, pins⟩ := advance m s₁ r s₂ holds ran
    rw [pins m']
    split_ifs
    · rfl
    · exact done (by rw [holds.2.2 m', ← owners m', mine])
  obtain ⟨⟨pages', spared, owners⟩, fine, settled⟩ := swept
  refine ⟨fine, pages', spared, owners, fun m member mine => ?_⟩
  exact settled m member ((owners m).trans mine)

/-- With no claim and no pin left on a domain's frames, freeing them cannot be refused. -/
theorem freeAll_spec (pages : Pages outside s) (owner : DomId)
    (unclaimed : ∀ c ∈ s.claims outside, s.ownerOf c.1 ≠ some owner)
    (unpinned : ∀ m ∈ s.mfns, s.ownerOf m = some owner → s.isPinned m = false) :
    (∀ r ∈ (freeAll owner s).1, r = .ok ()) ∧ Pages outside (freeAll owner s).2 ∧
      Spared owner s (freeAll owner s).2 ∧
      ∀ m ∈ s.mfns, (freeAll owner s).2.ownerOf m ≠ some owner := by
  let P (s₁ : System) : Prop :=
    Pages outside s₁ ∧ Spared owner s s₁ ∧ ∀ m, s₁.info m = s.info m ∨ s₁.info m = none
  let step (m : Mfn) (s₁ : System) : Option (Except P2mError Unit × System) :=
    if s₁.ownerOf m = some owner then some (free owner m s₁) else none
  have advance : ∀ m ∈ s.mfns, ∀ s₁ r s₂, P s₁ → step m s₁ = some (r, s₂) →
      P s₂ ∧ r = .ok () ∧ s₂.info m = none := by
    rintro m member s₁ r s₂ ⟨pages₁, spared, frames⟩ ran
    simp only [step] at ran
    split_ifs at ran with chosen
    obtain ⟨i, known, mine⟩ := ownerOf_eq_some.mp chosen
    have before : s.info m = some i := by
      rcases frames m with same | gone
      · rw [← same, known]
      · simp [gone] at known
    have idle : i.refs = 0 := by
      have whole : s₁.claims outside = s.claims outside := by unfold claims; rw [spared.live]
      have none' : (s₁.claims outside).countP (fun c => c.1 = m) = 0 := by
        rw [whole, List.countP_eq_zero]
        intro c held here
        obtain rfl : c.1 = m := by simpa using here
        exact unclaimed c held (by rw [ownerOf_of_info before, mine])
      have pins : i.pins = 0 := by
        have := unpinned m member (by rw [ownerOf_of_info before, mine])
        rw [isPinned_of_info before] at this
        simp [FrameInfo.pins, this]
      have := (pages₁.balanced known).total
      omega
    rw [free_ok known mine idle] at ran
    cases ran
    refine ⟨⟨pages₁.free known idle, spared.trans (Spared.setFrame known mine ?_), ?_⟩, rfl, ?_⟩
    · rintro i' ⟨⟩
    · intro m'
      rw [info_free]
      split_ifs
      · exact .inr rfl
      · exact frames m'
    · rw [info_free, if_pos rfl]
  have start : P s := ⟨pages, Spared.refl owner s, fun _ => .inl rfl⟩
  have swept := Op.sweep_rule step s.mfns P (· = .ok ())
    (fun m s₁ => s₁.ownerOf m ≠ some owner) ?ran ?skipped ?stable start
  case ran =>
    intro m member s₁ r s₂ holds ran
    obtain ⟨holds', fine, gone⟩ := advance m member s₁ r s₂ holds ran
    exact ⟨holds', fine, by simp [ownerOf, gone]⟩
  case skipped =>
    intro m _ s₁ _ skipped
    simpa [step] using skipped
  case stable =>
    intro m _ m' _ s₁ r s₂ _ done ran mine
    simp only [step] at ran
    split_ifs at ran
    rcases free_cases s₁ owner m with ⟨i, -, -, -, freed⟩ | ⟨e, failed⟩
    · rw [freed] at ran
      cases ran
      simp only [ownerOf, info_free] at mine
      split_ifs at mine
      · cases mine
      · exact done mine
    · rw [failed] at ran
      cases ran
      exact done mine
  obtain ⟨⟨pages', spared, -⟩, fine, settled⟩ := swept
  exact ⟨fine, pages', spared, settled⟩

end Baleen.P2m.System
