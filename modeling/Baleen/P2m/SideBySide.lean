import Baleen.P2m.Parallel

/-!
# Runs side by side

Two runs of the same calls, the first with some entries and pins beyond the second.  As
long as these stay in place and every call succeeds in both, they remain the whole
difference.
-/

namespace Baleen.P2m

namespace System

variable {x : Excess} {edges : List Link} {s s' t t' : System} {caller : DomId} {m : Mfn}

theorem allocate_links (links : List Link) (owner : DomId) (m : Mfn) :
    Op.Keeps (fun s => s.links = links) (allocate owner m) := by
  refine (Op.Keeps.ensure _ _).bind fun _ => (Op.Keeps.query _).bind fun f => ?_
  exact (Op.Keeps.ensure _ _).bind fun _ => .modify fun s same => same

theorem setPinned_links (s : System) (m : Mfn) (pinned : Bool) :
    (s.setPinned m pinned).links = s.links := by
  unfold setPinned
  cases s.info m <;> rfl

theorem pin_links (links : List Link) (caller : DomId) (m : Mfn) (level : PtLevel) :
    Op.Keeps (fun s => s.links = links) (pin caller m level) := by
  refine (Op.Keeps.query _).bind fun i => (Op.Keeps.ensure _ _).bind fun _ => ?_
  refine (Op.Keeps.ensure _ _).bind fun _ => ?_
  refine (getChild_links links m (.typed (.pageTable level))).bind fun _ => ?_
  exact .modify fun s same => (setPinned_links s m true).trans same

theorem unpin_links (links : List Link) (caller : DomId) (m : Mfn) :
    Op.Keeps (fun s => s.links = links) (unpin caller m) :=
  unpin_keeps (putChild_links links) (fun s m same => (setPinned_links s m false).trans same)
    caller m

theorem free_links (links : List Link) (caller : DomId) (m : Mfn) :
    Op.Keeps (fun s => s.links = links) (free caller m) :=
  free_keeps (fun _ _ same => same) caller m

theorem putChild_isPinned (pinned : Bool) (m m' : Mfn) (ref : ChildRef) :
    Op.Keeps (fun s => s.isPinned m = pinned) (putChild m' ref) := by
  intro s same
  rcases putChild_cases s m' ref with ⟨i, known, -, ran⟩ | ⟨e, failed⟩
  · have kept : Kept (fun _ => True) s (s.setFrame m' (.allocated (i.drop ref))) :=
      Kept.setFrame known (by simp) (by simp) trivial
    rw [ran]
    exact (kept.pinned m).trans same
  · rw [failed]
    exact same

/-- An unpin clears one pin. -/
theorem unpin_isPinned (ran : unpin caller m s = (.ok (), s')) (m' : Mfn) :
    s'.isPinned m' = if m = m' then false else s.isPinned m' := by
  obtain ⟨i, known, -, -, gave⟩ := unpin_ok ran
  refine (putChild_isPinned _ m' m _).ran ?_ gave
  unfold isPinned
  rw [info_setPinned known]
  split_ifs <;> rfl

theorem link_live {parent child : Mfn} {slot : UInt32} {writable leaf execute : Bool}
    (ran : link caller parent slot child writable leaf execute s = (.ok (), s')) :
    s'.live.Perm (requested parent slot child writable leaf execute :: s.live) := by
  obtain ⟨i, ref, s₁, s₂, -, -, -, -, -, took, taken, rfl⟩ := link_ok ran
  have links : s₁.links = s.links := (getChild_links _ _ _).ran rfl took
  have links' : s₂.links = s₁.links := (getChild_links _ _ _).ran rfl taken
  have live : s₂.live = s.live := by
    unfold System.live
    rw [links', links]
  rw [← live]
  exact Pages.live_allocLink s₂ rfl

/-- The first of two runs has some entries and references beyond the second. -/
structure Parallel (x : Excess) (edges : List Link) (s t : System) : Prop where
  ahead : x.Over s t
  live : s.live.Perm (edges ++ t.live)
  sound : s.Sound
  sound' : t.Sound

/-- The entries and pins of the first run are in place. -/
structure InPlace (x : Excess) (edges : List Link) (s : System) : Prop where
  edges : ∀ l ∈ edges, l ∈ s.live
  pins : ∀ m ∈ x.pins, s.isPinned m = true

namespace Parallel

theorem relinked (parallel : Parallel x edges s t) (links : s'.links = s.links)
    (links' : t'.links = t.links) : s'.live.Perm (edges ++ t'.live) := by
  unfold System.live
  rw [links, links']
  exact parallel.live

theorem removed (parallel : Parallel x edges s t) {ls ls' : List Link} (first : Removed ls s s')
    (second : Removed ls' t t') (same : ls.Perm ls') :
    x.Over s' t' ∧ s'.live.Perm (edges ++ t'.live) := by
  refine ⟨parallel.ahead.removed first.ahead second.ahead rfl rfl (same.flatMap_right _), ?_⟩
  have whole : (ls ++ s'.live).Perm (ls ++ (edges ++ t'.live)) := by
    refine first.live.symm.trans (parallel.live.trans ?_)
    refine ((second.live.append_left edges).trans (List.perm_append_comm_assoc _ _ _)).trans ?_
    exact same.symm.append_right _
  exact (List.perm_append_left_iff ls).mp whole

/-- Both runs drop the entries of one kind, and the first keeps what it has beyond. -/
theorem swept (parallel : Parallel x edges s t) (inPlace : InPlace x edges s')
    {doomed doomed' : Link → Bool} (agree : doomed = doomed') {ls ls' : List Link}
    (first : Removed ls s s') (all : ∀ l ∈ ls, doomed l = true)
    (rest : ∀ l ∈ s'.live, doomed l = false) (second : Removed ls' t t')
    (all' : ∀ l ∈ ls', doomed' l = true) (rest' : ∀ l ∈ t'.live, doomed' l = false) :
    x.Over s' t' ∧ s'.live.Perm (edges ++ t'.live) := by
  subst agree
  refine parallel.removed first second ?_
  -- The removed entries are the doomed ones among the live.
  have split : ∀ {ls rest live : List Link}, live.Perm (ls ++ rest) →
      (∀ l ∈ ls, doomed l = true) → (∀ l ∈ rest, doomed l = false) →
      (live.filter doomed).Perm ls := by
    intro ls rest live whole all none'
    refine (whole.filter doomed).trans ?_
    rw [List.filter_append, List.filter_eq_self.mpr all,
      List.filter_eq_nil_iff.mpr fun l member => by simp [none' l member], List.append_nil]
  have spared : edges.filter doomed = [] :=
    List.filter_eq_nil_iff.mpr fun l member => by simp [rest l (inPlace.edges l member)]
  have same : (s.live.filter doomed).Perm (t.live.filter doomed) := by
    have joined := parallel.live.filter doomed
    rwa [List.filter_append, spared, List.nil_append] at joined
  exact (split first.live all rest).symm.trans (same.trans (split second.live all' rest'))

theorem getChild (parallel : Parallel x edges s t) {ref : ChildRef}
    (ran : System.getChild m ref s = (.ok (), s'))
    (ran' : System.getChild m ref t = (.ok (), t')) : Parallel x edges s' t' where
  ahead := parallel.ahead.getChild_both ran ran'
  live := parallel.relinked ((getChild_links _ _ _).ran rfl ran)
    ((getChild_links _ _ _).ran rfl ran')
  sound := (getChild_sound _ _).ran parallel.sound ran
  sound' := (getChild_sound _ _).ran parallel.sound' ran'

theorem putChild (parallel : Parallel x edges s t) {ref : ChildRef}
    (ran : System.putChild m ref s = (.ok (), s'))
    (ran' : System.putChild m ref t = (.ok (), t')) : Parallel x edges s' t' where
  ahead := parallel.ahead.putChild_both parallel.sound' ran ran'
  live := parallel.relinked ((putChild_links _ _ _).ran rfl ran)
    ((putChild_links _ _ _).ran rfl ran')
  sound := (putChild_sound _ _).ran parallel.sound ran
  sound' := (putChild_sound _ _).ran parallel.sound' ran'

theorem unpin (parallel : Parallel x edges s t) (ran : System.unpin caller m s = (.ok (), s'))
    (ran' : System.unpin caller m t = (.ok (), t')) : Parallel x edges s' t' where
  ahead := parallel.ahead.unpin_both parallel.sound' ran ran'
  live := parallel.relinked ((unpin_links _ _ _).ran rfl ran) ((unpin_links _ _ _).ran rfl ran')
  sound := (unpin_sound _ _).ran parallel.sound ran
  sound' := (unpin_sound _ _).ran parallel.sound' ran'

theorem free (parallel : Parallel x edges s t) (ran : System.free caller m s = (.ok (), s'))
    (ran' : System.free caller m t = (.ok (), t')) : Parallel x edges s' t' where
  ahead := parallel.ahead.free_both ran ran'
  live := parallel.relinked ((free_links _ _ _).ran rfl ran) ((free_links _ _ _).ran rfl ran')
  sound := (free_sound _ _).ran parallel.sound ran
  sound' := (free_sound _ _).ran parallel.sound' ran'

/-- Dropping all pins of a domain: the pins of the first run are not among them. -/
theorem unpinAll (parallel : Parallel x edges s t) (inPlace : InPlace x edges s') {owner : DomId}
    (ran : (Call.unpinAll owner).asserted s = (.ok (), s'))
    (ran' : (Call.unpinAll owner).asserted t = (.ok (), t')) : Parallel x edges s' t' := by
  have items : t.mfns = s.mfns := mfns_of_frameCount parallel.ahead.frameCount.symm
  have ran' : Op.sweepAsserted (unpinAllStep owner) t.mfns t = (.ok (), t') := ran'
  rw [items] at ran'
  refine Op.sweepAsserted_both (R := Parallel x edges)
    (K := fun s => ∀ m ∈ x.pins, s.isPinned m = true) ?_ ?_ parallel inPlace.pins ran ran'
  · intro m s s' t t' parallel stays visited visited'
    have owners := parallel.ahead.ownerOf m
    have pins := parallel.ahead.isPinned m
    rcases unpinAllStep_visits visited with ⟨rfl, skipped⟩ | ⟨mine, pinned, ran⟩
    · rcases unpinAllStep_visits visited' with ⟨rfl, -⟩ | ⟨mine', pinned', -⟩
      · exact parallel
      · exact absurd ⟨owners.trans mine', pins.mpr (.inl pinned')⟩ skipped
    · rcases unpinAllStep_visits visited' with ⟨rfl, skipped⟩ | ⟨-, -, ran'⟩
      · -- Only a pin of the first run alone could be dropped there alone.
        rcases pins.mp pinned with pinned' | mem
        · exact absurd ⟨owners.symm.trans mine, pinned'⟩ skipped
        · have cleared := unpin_isPinned ran m
          rw [if_pos rfl, stays m mem] at cleared
          cases cleared
      · exact parallel.unpin ran ran'
  · intro m s s' stays visited m' mem
    rcases unpinAllStep_visits visited with ⟨rfl, -⟩ | ⟨-, -, ran⟩
    · exact stays m' mem
    · have after := unpin_isPinned ran m'
      rw [stays m' mem] at after
      split_ifs at after
      exact after.symm

theorem freeAll (parallel : Parallel x edges s t) {owner : DomId}
    (ran : (Call.freeAll owner).asserted s = (.ok (), s'))
    (ran' : (Call.freeAll owner).asserted t = (.ok (), t')) : Parallel x edges s' t' := by
  have items : t.mfns = s.mfns := mfns_of_frameCount parallel.ahead.frameCount.symm
  have ran' : Op.sweepAsserted (freeAllStep owner) t.mfns t = (.ok (), t') := ran'
  rw [items] at ran'
  refine Op.sweepAsserted_both (R := Parallel x edges) (K := fun _ => True) ?_
    (fun _ _ _ _ _ => trivial) parallel trivial ran ran'
  intro m s s' t t' parallel _ visited visited'
  have owners := parallel.ahead.ownerOf m
  rcases freeAllStep_visits visited with ⟨rfl, skipped⟩ | ⟨mine, ran⟩
  · rcases freeAllStep_visits visited' with ⟨rfl, -⟩ | ⟨mine', -⟩
    · exact parallel
    · exact absurd (owners.trans mine') skipped
  · rcases freeAllStep_visits visited' with ⟨rfl, skipped⟩ | ⟨-, ran'⟩
    · exact absurd (owners.symm.trans mine) skipped
    · exact parallel.free ran ran'

/-- A call that succeeds in both runs, and leaves what the first has beyond in place. -/
theorem call (parallel : Parallel x edges s t) {c : Call} (inPlace : InPlace x edges s')
    (ran : c.asserted s = (.ok (), s')) (ran' : c.asserted t = (.ok (), t')) :
    Parallel x edges s' t' := by
  have sound : s'.Sound := by
    rw [← Call.apply_of_asserted ran]
    exact c.apply_sound parallel.sound
  have sound' : t'.Sound := by
    rw [← Call.apply_of_asserted ran']
    exact c.apply_sound parallel.sound'
  cases c with
  | allocate owner mfn =>
      refine ⟨parallel.ahead.allocate_both ran ran', ?_, sound, sound'⟩
      exact parallel.relinked ((allocate_links _ _ _).ran rfl ran)
        ((allocate_links _ _ _).ran rfl ran')
  | get mfn => exact parallel.getChild (show System.getChild mfn .bare s = _ from ran) ran'
  | put mfn => exact parallel.putChild (show System.putChild mfn .bare s = _ from ran) ran'
  | getType mfn ty =>
      exact parallel.getChild (show System.getChild mfn (.typed ty) s = _ from ran) ran'
  | putType mfn ty =>
      exact parallel.putChild (show System.putChild mfn (.typed ty) s = _ from ran) ran'
  | pin caller mfn level =>
      refine ⟨parallel.ahead.pin_both ran ran', ?_, sound, sound'⟩
      exact parallel.relinked ((pin_links _ _ _ _).ran rfl ran) ((pin_links _ _ _ _).ran rfl ran')
  | unpin caller mfn => exact parallel.unpin ran ran'
  | free caller mfn => exact parallel.free ran ran'
  | link caller parent slot child writable leaf execute =>
      refine ⟨parallel.ahead.link_both ran ran', ?_, sound, sound'⟩
      have joined := link_live ran
      have joined' := link_live ran'
      refine joined.trans (((parallel.live.cons _).trans ?_).trans (joined'.symm.append_left edges))
      exact List.perm_middle.symm
  | unlink caller parent slot =>
      obtain ⟨_, l, stored, isLive, place, -, removed⟩ := unlinkAsserted_removed parallel.sound ran
      obtain ⟨_, l', stored', isLive', place', -, removed'⟩ :=
        unlinkAsserted_removed parallel.sound' ran'
      -- The slot holds the same entry in both runs.
      have member : l ∈ s.live := Slab.mem_live.mpr ⟨List.mem_of_getElem? stored, isLive⟩
      have member' : l' ∈ s.live := parallel.live.mem_iff.mpr (List.mem_append_right _
        (Slab.mem_live.mpr ⟨List.mem_of_getElem? stored', isLive'⟩))
      obtain rfl : l = l' :=
        List.inj_on_of_nodup_map parallel.sound.places member member' (place.trans place'.symm)
      obtain ⟨ahead, live⟩ := parallel.removed removed removed' (.refl _)
      exact ⟨ahead, live, sound, sound'⟩
  | unlinkAll owner =>
      obtain ⟨ls, removed, all, rest⟩ := unlinkAll_removed parallel.sound ran
      obtain ⟨ls', removed', all', rest'⟩ := unlinkAll_removed parallel.sound' ran'
      have agree : s.outward owner = t.outward owner := by
        funext l
        simp only [outward, parallel.ahead.ownerOf]
      obtain ⟨ahead, live⟩ := parallel.swept inPlace agree removed all rest removed' all' rest'
      exact ⟨ahead, live, sound, sound'⟩
  | unlinkAllInto owner =>
      obtain ⟨ls, removed, all, rest⟩ := unlinkAllInto_removed parallel.sound ran
      obtain ⟨ls', removed', all', rest'⟩ := unlinkAllInto_removed parallel.sound' ran'
      have agree : s.inward owner = t.inward owner := by
        funext l
        simp only [inward, parallel.ahead.ownerOf]
      obtain ⟨ahead, live⟩ := parallel.swept inPlace agree removed all rest removed' all' rest'
      exact ⟨ahead, live, sound, sound'⟩
  | unpinAll owner => exact parallel.unpinAll inPlace ran ran'
  | freeAll owner => exact parallel.freeAll ran ran'

end Parallel

end System

/-- The calls all succeed, and the property holds after each. -/
inductive Runs (keeps : System → Prop) : List Call → System → System → Prop where
  | nil {s : System} : Runs keeps [] s s
  | cons {c : Call} {calls : List Call} {s s₁ s' : System} (ran : c.asserted s = (.ok (), s₁))
      (kept : keeps s₁) (rest : Runs keeps calls s₁ s') : Runs keeps (c :: calls) s s'

theorem Runs.mono {keeps keeps' : System → Prop} {calls : List Call} {s s' : System}
    (runs : Runs keeps calls s s') (weaker : ∀ s, keeps s → keeps' s) : Runs keeps' calls s s' := by
  induction runs with
  | nil => exact .nil
  | cons ran kept _ ih => exact .cons ran (weaker _ kept) ih

/-- Runs side by side stay side by side. -/
theorem Runs.parallel {x : Excess} {edges : List Link} {calls : List Call}
    {s s' t t' : System} (runs : Runs (System.InPlace x edges) calls s s')
    (runs' : Runs (fun _ => True) calls t t') (parallel : System.Parallel x edges s t) :
    System.Parallel x edges s' t' := by
  induction runs generalizing t with
  | nil =>
      cases runs'
      exact parallel
  | cons ran kept _ ih =>
      cases runs' with
      | cons ran' _ rest' => exact ih rest' (parallel.call kept ran ran')

end Baleen.P2m
