import Baleen.P2m.Levels
import Baleen.P2m.Teardown
import Baleen.Lib.Asserted

/-!
# The calls of the page accounting, and what every state satisfies

Any sequence of calls may reach a state: nothing is asked of the references a caller gives
back.  What holds then is that the counts by kind never exceed the total, and that live
entries have distinct slots.

A call counts as a success if it returns and its assertions hold.  Only the removal of
entries asserts the results of the operations it is made of.
-/

namespace Baleen.P2m

namespace System

/-- Give back both references of a removed entry, as asserted. -/
def releaseEntryAsserted (level : PtLevel) (l : Link) : Op System P2mError Unit := do
  putType l.parent (.pageTable level)
  match entryChildRef level l.leaf l.writable l.execute with
  | some ref => putChild l.child ref
  | none => Op.fail .wrongState

def unlinkAsserted (caller : DomId) (parent : Mfn) (slot : UInt32) : Op System P2mError Unit := do
  let i ← Op.query (·.allocated parent)
  Op.ensure (fun _ => i.owner = caller) .notYours
  let s ← Op.read
  match s.linkIndex parent slot with
  | none => Op.fail .wrongState
  | some idx =>
      match s.links[idx]? with
      | none => Op.fail .wrongState
      | some l =>
          Op.modify fun s => { s with links := s.links.set idx { l with active := false } }
          releaseEntryAsserted i.ptLevel l

def unlinkAllStep (owner : DomId) (idx : Nat) (s : System) :
    Option (Except P2mError Unit × System) :=
  match s.links[idx]? with
  | none => none
  | some l =>
      if l.active && s.ownerOf l.parent = some owner then
        some (unlinkAsserted owner l.parent l.slot s)
      else none

def unlinkAllIntoStep (owner : DomId) (idx : Nat) (s : System) :
    Option (Except P2mError Unit × System) :=
  match s.links[idx]? with
  | none => none
  | some l =>
      if !l.active || s.ownerOf l.child ≠ some owner then none
      else
        match s.ownerOf l.parent with
        | none => some (.error .wrongState, s)
        | some parentOwner =>
            if parentOwner = owner then none
            else some (unlinkAsserted parentOwner l.parent l.slot s)

def unpinAllStep (owner : DomId) (mfn : Mfn) (s : System) :
    Option (Except P2mError Unit × System) :=
  if s.ownerOf mfn = some owner ∧ s.isPinned mfn then some (unpin owner mfn s) else none

def freeAllStep (owner : DomId) (mfn : Mfn) (s : System) :
    Option (Except P2mError Unit × System) :=
  if s.ownerOf mfn = some owner then some (free owner mfn s) else none

end System

inductive Call where
  | allocate (owner : DomId) (mfn : Mfn)
  | get (mfn : Mfn)
  | put (mfn : Mfn)
  | getType (mfn : Mfn) (ty : PageType)
  | putType (mfn : Mfn) (ty : PageType)
  | pin (caller : DomId) (mfn : Mfn) (level : PtLevel)
  | unpin (caller : DomId) (mfn : Mfn)
  | free (caller : DomId) (mfn : Mfn)
  | link (caller : DomId) (parent : Mfn) (slot : UInt32) (child : Mfn)
      (writable leaf execute : Bool)
  | unlink (caller : DomId) (parent : Mfn) (slot : UInt32)
  | unlinkAll (owner : DomId)
  | unlinkAllInto (owner : DomId)
  | unpinAll (owner : DomId)
  | freeAll (owner : DomId)
  deriving DecidableEq, Repr

/-- The state a call leaves, whatever it returns. -/
def Call.apply (s : System) : Call → System
  | .allocate owner mfn => (System.allocate owner mfn s).2
  | .get mfn => (System.get mfn s).2
  | .put mfn => (System.put mfn s).2
  | .getType mfn ty => (System.getType mfn ty s).2
  | .putType mfn ty => (System.putType mfn ty s).2
  | .pin caller mfn level => (System.pin caller mfn level s).2
  | .unpin caller mfn => (System.unpin caller mfn s).2
  | .free caller mfn => (System.free caller mfn s).2
  | .link caller parent slot child writable leaf execute =>
      (System.link caller parent slot child writable leaf execute s).2
  | .unlink caller parent slot => (System.unlink caller parent slot s).2
  | .unlinkAll owner => (System.unlinkAll owner s).2
  | .unlinkAllInto owner => (System.unlinkAllInto owner s).2
  | .unpinAll owner => (System.unpinAll owner s).2
  | .freeAll owner => (System.freeAll owner s).2

/-- The call with its assertions. -/
def Call.asserted : Call → Op System P2mError Unit
  | .allocate owner mfn => System.allocate owner mfn
  | .get mfn => System.get mfn
  | .put mfn => System.put mfn
  | .getType mfn ty => System.getType mfn ty
  | .putType mfn ty => System.putType mfn ty
  | .pin caller mfn level => System.pin caller mfn level
  | .unpin caller mfn => System.unpin caller mfn
  | .free caller mfn => System.free caller mfn
  | .link caller parent slot child writable leaf execute =>
      System.link caller parent slot child writable leaf execute
  | .unlink caller parent slot => System.unlinkAsserted caller parent slot
  | .unlinkAll owner => fun s =>
      Op.sweepAsserted (System.unlinkAllStep owner) (List.range s.links.length) s
  | .unlinkAllInto owner => fun s =>
      Op.sweepAsserted (System.unlinkAllIntoStep owner) (List.range s.links.length) s
  | .unpinAll owner => fun s => Op.sweepAsserted (System.unpinAllStep owner) s.mfns s
  | .freeAll owner => fun s => Op.sweepAsserted (System.freeAllStep owner) s.mfns s

/-- The states that calls in any order lead to, failed ones among them. -/
inductive Reachable : System → Prop where
  | new (numDomains numFrames : Nat) : Reachable (System.new numDomains numFrames)
  | call {s : System} (reached : Reachable s) (c : Call) : Reachable (c.apply s)

/-- The counts by kind stay within the total. -/
def FrameInfo.Counted (i : FrameInfo) : Prop :=
  i.writableRefs + i.executableRefs + i.pagetableRefs ≤ i.refs

theorem FrameInfo.Counted.refs_pos {i : FrameInfo} {ref : ChildRef} (counted : i.Counted)
    (returned : i.Returns ref) : 0 < i.refs := by
  unfold Counted at counted
  rcases ref with _ | _ | (_ | _) <;> simp only [FrameInfo.Returns] at returned <;> omega

namespace System

structure Sound (s : System) : Prop where
  counted : ∀ {m i}, s.info m = some i → i.Counted
  places : (s.live.map Link.place).Nodup

variable {s : System}

theorem Sound.setFrame (sound : Sound s) {m : Mfn} {f : Frame}
    (counted : ∀ i, infoOf f = some i → i.Counted) : Sound (s.setFrame m f) := by
  refine ⟨?_, sound.places⟩
  intro m' i known
  rw [info_setFrame] at known
  split_ifs at known
  · cases cell : s.frames[m.toNat]? with
    | none => simp [cell] at known
    | some old => exact counted i (by simpa [cell] using known)
  · exact sound.counted known

theorem getChild_sound (m : Mfn) (ref : ChildRef) : Op.Keeps Sound (getChild m ref) := by
  intro s sound
  rcases getChild_cases s m ref with ⟨i, known, -, ran⟩ | ⟨e, failed⟩
  · rw [ran]
    refine sound.setFrame ?_
    rintro j ⟨⟩
    have counted := sound.counted known
    unfold FrameInfo.Counted at counted ⊢
    rcases ref with _ | _ | (_ | _) <;> simp only [FrameInfo.bump, addTyped] <;> omega
  · rw [failed]
    exact sound

theorem putChild_sound (m : Mfn) (ref : ChildRef) : Op.Keeps Sound (putChild m ref) := by
  intro s sound
  rcases putChild_cases s m ref with ⟨i, known, returned, ran⟩ | ⟨e, failed⟩
  · rw [ran]
    refine sound.setFrame ?_
    rintro j ⟨⟩
    have counted := sound.counted known
    unfold FrameInfo.Counted at counted ⊢
    rcases ref with _ | _ | (_ | _) <;> simp only [FrameInfo.Returns] at returned <;>
      simp only [FrameInfo.drop, dropTyped] <;> omega
  · rw [failed]
    exact sound

theorem setPinned_sound (sound : Sound s) (m : Mfn) (pinned : Bool) :
    Sound (s.setPinned m pinned) := by
  unfold setPinned
  cases known : s.info m with
  | none => exact sound
  | some i =>
      have counted := sound.counted known
      refine sound.setFrame ?_
      rintro j ⟨⟩
      exact counted

theorem allocate_sound (owner : DomId) (m : Mfn) : Op.Keeps Sound (allocate owner m) := by
  refine (Op.Keeps.ensure _ _).bind fun _ => (Op.Keeps.query _).bind fun f => ?_
  refine (Op.Keeps.ensure _ _).bind fun _ => .modify fun s sound => sound.setFrame ?_
  rintro i ⟨⟩
  exact Nat.le_refl 0

theorem free_sound (caller : DomId) (m : Mfn) : Op.Keeps Sound (free caller m) := by
  refine free_keeps (fun s m sound => sound.setFrame ?_) caller m
  rintro i ⟨⟩

theorem pin_sound (caller : DomId) (m : Mfn) (level : PtLevel) :
    Op.Keeps Sound (pin caller m level) := by
  refine (Op.Keeps.query _).bind fun i => (Op.Keeps.ensure _ _).bind fun _ => ?_
  refine (Op.Keeps.ensure _ _).bind fun _ => ?_
  refine (getChild_sound m (.typed (.pageTable level))).bind fun _ => ?_
  exact .modify fun s sound => setPinned_sound sound m true

theorem unpin_sound (caller : DomId) (m : Mfn) : Op.Keeps Sound (unpin caller m) :=
  unpin_keeps putChild_sound (fun _ m sound => setPinned_sound sound m false) caller m

/-- Overwriting an entry by a dead one leaves no new live entry. -/
theorem Sound.clearLink (sound : Sound s) (idx : Nat) (l : Link) :
    Sound { s with links := s.links.set idx { l with active := false } } := by
  refine ⟨sound.counted, ?_⟩
  exact sound.places.sublist ((Slab.live_set_dead_sublist s.links idx rfl).map Link.place)

theorem unlink_sound (caller : DomId) (parent : Mfn) (slot : UInt32) :
    Op.Keeps Sound (unlink caller parent slot) :=
  unlink_keeps putChild_sound (fun _ idx l sound => sound.clearLink idx l) caller parent slot

theorem takeParent_sound (parent : Mfn) (level : PtLevel) (child : Mfn) (ref : ChildRef) :
    Op.Keeps Sound (takeParent parent level child ref) := by
  refine (getChild_sound parent (.typed (.pageTable level))).attempt.bind fun r => ?_
  cases r with
  | ok _ => exact .pure ()
  | error e => exact (putChild_sound child ref).ignore.bind fun _ => .fail e

/-- The references of an entry are taken and given back without touching the entries. -/
theorem getChild_links (links : List Link) (m : Mfn) (ref : ChildRef) :
    Op.Keeps (fun s => s.links = links) (getChild m ref) := by
  intro s same
  rcases getChild_cases s m ref with ⟨i, -, -, ran⟩ | ⟨e, failed⟩
  · rw [ran]
    exact same
  · rw [failed]
    exact same

theorem putChild_links (links : List Link) (m : Mfn) (ref : ChildRef) :
    Op.Keeps (fun s => s.links = links) (putChild m ref) := by
  intro s same
  rcases putChild_cases s m ref with ⟨i, -, -, ran⟩ | ⟨e, failed⟩
  · rw [ran]
    exact same
  · rw [failed]
    exact same

theorem takeParent_links (links : List Link) (parent : Mfn) (level : PtLevel) (child : Mfn)
    (ref : ChildRef) : Op.Keeps (fun s => s.links = links) (takeParent parent level child ref) := by
  refine (getChild_links links parent (.typed (.pageTable level))).attempt.bind fun r => ?_
  cases r with
  | ok _ => exact .pure ()
  | error e => exact (putChild_links links child ref).ignore.bind fun _ => .fail e

theorem Sound.allocLink (sound : Sound s) {l : Link} (isLive : l.active = true)
    (vacant : ∀ l' ∈ s.live, l'.place ≠ l.place) : Sound (s.allocLink l) := by
  refine ⟨sound.counted, ?_⟩
  rw [((Pages.live_allocLink s isLive).map Link.place).nodup_iff, List.map_cons, List.nodup_cons]
  refine ⟨?_, sound.places⟩
  rw [List.mem_map]
  rintro ⟨l', old, clash⟩
  exact vacant l' old clash

/-- What a successful installation did. -/
theorem link_ok {s' : System} {caller : DomId} {parent : Mfn} {slot : UInt32} {child : Mfn}
    {writable leaf execute : Bool}
    (ran : link caller parent slot child writable leaf execute s = (.ok (), s')) :
    ∃ i ref s₁ s₂, s.info parent = some i ∧ i.owner = caller ∧
      s.currentType parent = some (.pageTable i.ptLevel) ∧ s.linkIndex parent slot = none ∧
      entryChildRef i.ptLevel leaf writable (execute && leaf) = some ref ∧
      getChild child ref s = (.ok (), s₁) ∧
      getChild parent (.typed (.pageTable i.ptLevel)) s₁ = (.ok (), s₂) ∧
      s' = s₂.allocLink (requested parent slot child writable leaf execute) := by
  rw [link] at ran
  simp only [Op.ensure_bind_eq_ok, Op.query_bind_eq_ok, decide_eq_true_eq,
    Option.isNone_iff_eq_none] at ran
  simp only [Op.bind_eq_ok] at ran
  obtain ⟨-, -, i, found, mine, typed, -, vacant, ref, shape, ⟨⟩, s₁, took, ⟨⟩, s₂, taken,
    stored⟩ :=
    ran
  have known := info_of_allocated found
  have shaped : entryChildRef i.ptLevel leaf writable (execute && leaf) = some ref := by
    cases found : entryChildRef i.ptLevel leaf writable (execute && leaf) with
    | none => simp [found] at shape
    | some ref' => simpa [found] using shape
  have both : getChild parent (.typed (.pageTable i.ptLevel)) s₁ = (.ok (), s₂) := by
    rw [takeParent, Op.attempt_bind_apply, getType_eq] at taken
    rcases getChild_cases s₁ parent (.typed (.pageTable i.ptLevel)) with ⟨j, -, -, ran⟩ | ⟨e, ran⟩
    · rw [ran] at taken ⊢
      simpa using taken
    · rw [ran] at taken
      simp at taken
  refine ⟨i, ref, s₁, s₂, known, mine, typed, vacant, shaped, took, both, ?_⟩
  simpa [requested] using stored.symm

theorem link_sound (caller : DomId) (parent : Mfn) (slot : UInt32) (child : Mfn)
    (writable leaf execute : Bool) :
    Op.Keeps Sound (link caller parent slot child writable leaf execute) := by
  intro s sound
  refine Op.Yields.state (P := Sound) ?_
  refine Op.yields_ensure sound fun _ => Op.yields_ensure sound fun _ => ?_
  rw [Op.query_bind_apply]
  cases s.allocated parent with
  | error e => exact sound
  | ok i =>
      refine Op.yields_ensure sound fun _ => Op.yields_ensure sound fun _ => ?_
      refine Op.yields_ensure sound fun _ => Op.yields_ensure sound fun vacant => ?_
      rw [Op.query_bind_apply]
      cases entryChildRef i.ptLevel leaf writable (execute && leaf) with
      | none => exact sound
      | some ref =>
          -- The slot is vacant until the entry is stored, as no entry moves before that.
          have took := getChild_sound child ref s sound
          have links := getChild_links s.links child ref s rfl
          refine Op.yields_bind (fun _ s' => Sound s' ∧ s'.links = s.links) ?_ ?_
          · match getChild child ref s, took, links with
            | (.ok _, s'), took, links => exact ⟨took, links⟩
            | (.error _, s'), took, links => exact took
          rintro - s₁ ⟨sound₁, links₁⟩
          have took' := takeParent_sound parent i.ptLevel child ref s₁ sound₁
          have links' := takeParent_links s.links parent i.ptLevel child ref s₁ links₁
          refine Op.yields_bind (fun _ s' => Sound s' ∧ s'.links = s.links) ?_ ?_
          · match takeParent parent i.ptLevel child ref s₁, took', links' with
            | (.ok _, s'), took, links => exact ⟨took, links⟩
            | (.error _, s'), took, links => exact took
          rintro - s₂ ⟨sound₂, links₂⟩
          refine sound₂.allocLink rfl ?_
          intro l isLive
          have live : s₂.live = s.live := by
            unfold System.live
            rw [links₂]
          rw [live] at isLive
          exact linkIndex_none (Option.isNone_iff_eq_none.mp vacant) isLive

/-- What an asserted removal did. -/
theorem unlinkAsserted_ok {s' : System} {caller : DomId} {parent : Mfn} {slot : UInt32}
    (ran : unlinkAsserted caller parent slot s = (.ok (), s')) :
    ∃ i idx l ref s₁, s.info parent = some i ∧ i.owner = caller ∧
      s.linkIndex parent slot = some idx ∧ s.links[idx]? = some l ∧
      entryChildRef i.ptLevel l.leaf l.writable l.execute = some ref ∧
      putChild l.parent (.typed (.pageTable i.ptLevel))
        { s with links := s.links.set idx { l with active := false } } = (.ok (), s₁) ∧
      putChild l.child ref s₁ = (.ok (), s') := by
  rw [unlinkAsserted] at ran
  simp only [Op.ensure_bind_eq_ok, Op.query_bind_eq_ok, decide_eq_true_eq,
    Op.read_bind_apply] at ran
  obtain ⟨i, found, mine, ran⟩ := ran
  have known := info_of_allocated found
  cases lookup : s.linkIndex parent slot with
  | none => simp [lookup] at ran
  | some idx =>
      obtain ⟨l, stored, -, -⟩ := linkIndex_some lookup
      simp only [lookup, stored, Op.modify_bind_apply, releaseEntryAsserted, Op.bind_eq_ok] at ran
      obtain ⟨⟨⟩, s₁, released, ran⟩ := ran
      cases shape : entryChildRef i.ptLevel l.leaf l.writable l.execute with
      | none => simp [shape] at ran
      | some ref =>
          simp only [shape] at ran
          exact ⟨i, idx, l, ref, s₁, known, mine, rfl, stored, shape, released, ran⟩

/-- A removal whose releases succeed. -/
theorem unlink_eq {s₁ s' : System} {caller : DomId} {parent : Mfn} {slot : UInt32} {i : FrameInfo}
    {idx : Nat} {l : Link} {ref : ChildRef} (known : s.info parent = some i)
    (mine : i.owner = caller) (lookup : s.linkIndex parent slot = some idx)
    (stored : s.links[idx]? = some l)
    (shape : entryChildRef i.ptLevel l.leaf l.writable l.execute = some ref)
    (released : putChild l.parent (.typed (.pageTable i.ptLevel))
      { s with links := s.links.set idx { l with active := false } } = (.ok (), s₁))
    (gave : putChild l.child ref s₁ = (.ok (), s')) :
    unlink caller parent slot s = (.ok (), s') := by
  simp only [unlink, Op.query_bind_apply, allocated_of_info known, Op.ensure_bind_apply, mine,
    decide_true, if_true, Op.read_bind_apply, lookup, stored, Op.modify_bind_apply]
  rw [releaseEntry, Op.ignore_bind_apply, putType_eq, released, shape]
  simp only [Op.ignore_apply, gave]

/-- The assertions change nothing when they hold. -/
theorem unlink_of_asserted {s' : System} {caller : DomId} {parent : Mfn} {slot : UInt32}
    (ran : unlinkAsserted caller parent slot s = (.ok (), s')) :
    unlink caller parent slot s = (.ok (), s') := by
  obtain ⟨i, idx, l, ref, s₁, known, mine, lookup, stored, shape, released, gave⟩ :=
    unlinkAsserted_ok ran
  exact unlink_eq known mine lookup stored shape released gave

/-- A visit of the sweep over `owner`'s tables. -/
theorem unlinkAllStep_visits {owner : DomId} {idx : Nat} {s' : System}
    (visited : Op.Visits (unlinkAllStep owner) idx s s') :
    (s' = s ∧ ∀ l, s.links[idx]? = some l → l.active = true → s.outward owner l = false) ∨
      ∃ l, s.links[idx]? = some l ∧ l.active = true ∧ s.outward owner l = true ∧
        unlinkAsserted owner l.parent l.slot s = (.ok (), s') := by
  unfold Op.Visits unlinkAllStep at visited
  cases stored : s.links[idx]? with
  | none => simpa [stored] using visited
  | some l =>
      simp only [stored, Option.some.injEq, forall_eq'] at visited ⊢
      by_cases chosen : (l.active && s.ownerOf l.parent = some owner) = true
      · rw [if_pos chosen] at visited
        obtain ⟨isLive, mine⟩ := Bool.and_eq_true_iff.mp chosen
        obtain ⟨a, ran⟩ : ∃ a, unlinkAsserted owner l.parent l.slot s = (.ok a, s') := by
          simpa using visited
        exact .inr ⟨l, rfl, isLive, mine, ran⟩
      · rw [if_neg chosen] at visited
        refine .inl ⟨by simpa using visited, fun isLive => ?_⟩
        simpa [isLive, outward] using chosen

/-- A visit of the sweep over the entries into `owner`'s frames. -/
theorem unlinkAllIntoStep_visits {owner : DomId} {idx : Nat} {s' : System}
    (visited : Op.Visits (unlinkAllIntoStep owner) idx s s') :
    (s' = s ∧ ∀ l, s.links[idx]? = some l → l.active = true → s.inward owner l = false) ∨
      ∃ l other, s.links[idx]? = some l ∧ l.active = true ∧ s.inward owner l = true ∧
        s.ownerOf l.parent = some other ∧
        unlinkAsserted other l.parent l.slot s = (.ok (), s') := by
  unfold Op.Visits unlinkAllIntoStep at visited
  cases stored : s.links[idx]? with
  | none => simpa [stored] using visited
  | some l =>
      simp only [stored, Option.some.injEq, forall_eq'] at visited ⊢
      by_cases other : (!l.active || s.ownerOf l.child ≠ some owner) = true
      · rw [if_pos other] at visited
        refine .inl ⟨by simpa using visited, fun isLive => ?_⟩
        simp only [isLive, Bool.not_true, Bool.false_or, decide_eq_true_eq] at other
        simp [inward, other]
      · rw [if_neg other] at visited
        obtain ⟨isLive, into⟩ : l.active = true ∧ s.ownerOf l.child = some owner := by
          simpa using other
        cases parent : s.ownerOf l.parent with
        | none => simp [parent] at visited
        | some d =>
            simp only [parent] at visited
            by_cases mine : d = owner
            · rw [if_pos mine] at visited
              refine .inl ⟨by simpa using visited, fun _ => ?_⟩
              simp [inward, parent, mine]
            · rw [if_neg mine] at visited
              obtain ⟨a, ran⟩ : ∃ a, unlinkAsserted d l.parent l.slot s = (.ok a, s') := by
                simpa using visited
              exact .inr ⟨l, d, rfl, isLive, by simp [inward, into, parent, mine], parent, ran⟩

theorem unpinAllStep_visits {owner : DomId} {m : Mfn} {s' : System}
    (visited : Op.Visits (unpinAllStep owner) m s s') :
    (s' = s ∧ ¬(s.ownerOf m = some owner ∧ s.isPinned m = true)) ∨
      s.ownerOf m = some owner ∧ s.isPinned m = true ∧ unpin owner m s = (.ok (), s') := by
  unfold Op.Visits unpinAllStep at visited
  by_cases chosen : s.ownerOf m = some owner ∧ s.isPinned m = true
  · rw [if_pos chosen] at visited
    obtain ⟨a, ran⟩ : ∃ a, unpin owner m s = (.ok a, s') := by simpa using visited
    exact .inr ⟨chosen.1, chosen.2, ran⟩
  · rw [if_neg chosen] at visited
    exact .inl ⟨by simpa using visited, chosen⟩

theorem freeAllStep_visits {owner : DomId} {m : Mfn} {s' : System}
    (visited : Op.Visits (freeAllStep owner) m s s') :
    (s' = s ∧ s.ownerOf m ≠ some owner) ∨
      s.ownerOf m = some owner ∧ free owner m s = (.ok (), s') := by
  unfold Op.Visits freeAllStep at visited
  by_cases mine : s.ownerOf m = some owner
  · rw [if_pos mine] at visited
    obtain ⟨a, ran⟩ : ∃ a, free owner m s = (.ok a, s') := by simpa using visited
    exact .inr ⟨mine, ran⟩
  · rw [if_neg mine] at visited
    exact .inl ⟨by simpa using visited, mine⟩

end System

theorem Call.apply_sound {s : System} (sound : s.Sound) (c : Call) : (c.apply s).Sound := by
  cases c with
  | allocate owner mfn => exact System.allocate_sound owner mfn s sound
  | get mfn => exact System.getChild_sound mfn .bare s sound
  | put mfn => exact System.putChild_sound mfn .bare s sound
  | getType mfn ty => exact System.getChild_sound mfn (.typed ty) s sound
  | putType mfn ty => exact System.putChild_sound mfn (.typed ty) s sound
  | pin caller mfn level => exact System.pin_sound caller mfn level s sound
  | unpin caller mfn => exact System.unpin_sound caller mfn s sound
  | free caller mfn => exact System.free_sound caller mfn s sound
  | link caller parent slot child writable leaf execute =>
      exact System.link_sound caller parent slot child writable leaf execute s sound
  | unlink caller parent slot => exact System.unlink_sound caller parent slot s sound
  | unlinkAll owner => exact System.unlinkAll_keeps sound owner System.unlink_sound
  | unlinkAllInto owner => exact System.unlinkAllInto_keeps sound owner System.unlink_sound
  | unpinAll owner => exact System.unpinAll_keeps sound owner System.unpin_sound
  | freeAll owner => exact System.freeAll_keeps sound owner System.free_sound

theorem Reachable.sound {s : System} (reached : Reachable s) : s.Sound := by
  induction reached with
  | new numDomains numFrames =>
      refine ⟨?_, by simp [System.live, System.new]⟩
      intro m i known
      simp only [System.info, System.new, List.getElem?_replicate] at known
      split_ifs at known
  | call _ c ih => exact c.apply_sound ih

/-- A call whose assertions hold leaves the state the plain call leaves. -/
theorem Call.apply_of_asserted {s s' : System} {c : Call} (ran : c.asserted s = (.ok (), s')) :
    c.apply s = s' := by
  cases c with
  | unlink caller parent slot => exact congrArg Prod.snd (System.unlink_of_asserted ran)
  | unlinkAll owner =>
      refine Op.sweep_of_asserted ?_ ran
      intro idx s s' visited
      rcases System.unlinkAllStep_visits visited with ⟨rfl, spared⟩ | ⟨l, stored, isLive, mine, ran⟩
      · refine .inl ⟨?_, rfl⟩
        cases stored : s'.links[idx]? with
        | none => rfl
        | some l =>
            have spared := spared l stored
            simp only [System.outward, decide_eq_false_iff_not] at spared
            simpa using spared
      · refine .inr ⟨.ok (), ?_⟩
        simp only [System.outward, decide_eq_true_eq] at mine
        simp [stored, isLive, mine, System.unlink_of_asserted ran]
  | unlinkAllInto owner =>
      refine Op.sweep_of_asserted ?_ ran
      intro idx s s' visited
      rcases System.unlinkAllIntoStep_visits visited with
        ⟨rfl, spared⟩ | ⟨l, other, stored, isLive, into, parent, ran⟩
      · refine .inl ⟨?_, rfl⟩
        cases stored : s'.links[idx]? with
        | none => rfl
        | some l =>
            have spared := spared l stored
            cases isLive : l.active with
            | false => simp [isLive]
            | true =>
                have spared := spared isLive
                by_cases child : s'.ownerOf l.child = some owner
                · cases parent : s'.ownerOf l.parent with
                  | none => simp [child, parent]
                  | some d =>
                      have mine : d = owner := by simpa [System.inward, child, parent] using spared
                      simp [parent, mine]
                · simp [child]
      · refine .inr ⟨.ok (), ?_⟩
        simp only [System.inward, parent, Option.any_some, Bool.and_eq_true,
          decide_eq_true_eq] at into
        simp [stored, isLive, into.1, parent, into.2, System.unlink_of_asserted ran]
  | unpinAll owner =>
      refine Op.sweep_of_asserted ?_ ran
      rintro m s s' (⟨skipped, rfl⟩ | ⟨a, ran⟩)
      · exact .inl ⟨skipped, rfl⟩
      · exact .inr ⟨_, ran⟩
  | freeAll owner =>
      refine Op.sweep_of_asserted ?_ ran
      rintro m s s' (⟨skipped, rfl⟩ | ⟨a, ran⟩)
      · exact .inl ⟨skipped, rfl⟩
      · exact .inr ⟨_, ran⟩
  | _ => exact congrArg Prod.snd ran

end Baleen.P2m
