import Baleen.Grant.Tables
import Mathlib.Data.List.Nodup

/-!
# Mapping and unmapping

A mapping joins the live mappings under a fresh handle and is counted in its entry;
an unmap takes both back.  The backing of the tables is the list of page references
that the live mappings stand on.
-/

namespace Baleen.Grant

namespace Access

/-- The permit with one more mapping. -/
def mapped (a : Access) (writable : Bool) : Access :=
  { a with
    maps := a.maps + 1
    writableMaps := if writable then a.writableMaps + 1 else a.writableMaps }

/-- The permit with one mapping less. -/
def unmapped (a : Access) (writable : Bool) : Access :=
  { a with
    maps := a.maps - 1
    writableMaps := if writable then a.writableMaps - 1 else a.writableMaps }

@[simp]
theorem unmapped_mapped (a : Access) (writable : Bool) :
    (a.mapped writable).unmapped writable = a := by
  cases writable <;> rfl

@[simp]
theorem terms_mapped (a : Access) (writable : Bool) : (a.mapped writable).terms = a.terms := rfl

@[simp]
theorem terms_unmapped (a : Access) (writable : Bool) : (a.unmapped writable).terms = a.terms := rfl

end Access

namespace System

variable {s s' : System} {grantor grantee : DomId} {gref : GrantRef} {handle : GrantHandle}

/-- The page reference a mapping stands on. -/
def backingOf (s : System) (m : Mapping) : Unmapped :=
  ⟨(s.grantedFrame m.grantor m.gref).getD 0, m.writable⟩

/-- The page references the live mappings stand on. -/
def backing (s : System) : List Unmapped := s.live.map s.backingOf

theorem backingOf_of_active {m : Mapping} {a : Access}
    (active : s.grantEntry m.grantor m.gref = some a) :
    s.backingOf m = ⟨a.frame, m.writable⟩ := by
  simp [backingOf, grantedFrame, active]

/-- Every entry still grants the same, if it did before. -/
def SameTerms (s s' : System) : Prop :=
  ∀ d g, (s'.grantEntry d g).map Access.terms = (s.grantEntry d g).map Access.terms

theorem SameTerms.backingOf (same : SameTerms s s') (m : Mapping) :
    s'.backingOf m = s.backingOf m := by
  have frames := congrArg (Option.map fun t => t.2.1) (same m.grantor m.gref)
  have frames : s'.grantedFrame m.grantor m.gref = s.grantedFrame m.grantor m.gref := by
    simpa [grantedFrame, Function.comp_def, Access.terms] using frames
  unfold System.backingOf
  rw [frames]

theorem freeHandle_fresh (s : System) (grantee : DomId) {m : Mapping} (isLive : m ∈ s.live) :
    m.name ≠ (grantee, s.freeHandle grantee) := by
  have unused : s.maps.any (named grantee (s.freeHandle grantee)) = false := by
    have found := FirstFit.search_unused (fun h => s.maps.any (named grantee h))
      (s.maps.map (·.handle)) (by
        intro h used
        obtain ⟨m, stored, isNamed⟩ := List.any_eq_true.mp used
        rw [named_iff] at isNamed
        exact List.mem_map.mpr ⟨m, stored, congrArg Prod.snd isNamed.2⟩)
    rwa [List.length_map] at found
  intro clash
  have := List.any_eq_false.mp unused m (mem_live_iff.mp isLive).1
  exact this (named_iff.mpr ⟨(mem_live_iff.mp isLive).2, clash⟩)

/-- The mapping `m` was added under the permit `a`. -/
structure Mapped (m : Mapping) (a : Access) (s s' : System) : Prop where
  active : s.grantEntry m.grantor m.gref = some a
  entries : s'.domains = (s.setEntry m.grantor m.gref (.access (a.mapped m.writable))).domains
  stored : s'.maps = Slab.insert (·.active) s.maps m
  isActive : m.active = true

namespace Mapped

variable {m : Mapping} {a : Access}

theorem live (mapped : Mapped m a s s') :
    ∃ before after, s.live = before ++ after ∧ s'.live = before ++ m :: after := by
  unfold System.live
  rw [mapped.stored]
  exact Slab.live_insert s.maps mapped.isActive

theorem live_perm (mapped : Mapped m a s s') : s'.live.Perm (m :: s.live) := by
  obtain ⟨before, after, whole, joined⟩ := mapped.live
  rw [whole, joined]
  exact List.perm_middle

theorem entryAt (mapped : Mapped m a s s') (d : DomId) (g : GrantRef) :
    s'.entryAt d g = if m.grantor = d ∧ m.gref = g then some (.access (a.mapped m.writable))
      else s.entryAt d g := by
  have same : s'.entryAt d g =
      (s.setEntry m.grantor m.gref (.access (a.mapped m.writable))).entryAt d g := by
    unfold System.entryAt
    rw [mapped.entries]
  rw [same, entryAt_setEntry, grantEntry_eq_some.mp mapped.active]
  rfl

theorem grantEntry (mapped : Mapped m a s s') (d : DomId) (g : GrantRef) :
    s'.grantEntry d g = if m.grantor = d ∧ m.gref = g then some (a.mapped m.writable)
      else s.grantEntry d g := by
  unfold System.grantEntry
  rw [mapped.entryAt]
  split_ifs <;> rfl

theorem sameTerms (mapped : Mapped m a s s') : SameTerms s s' := by
  intro d g
  rw [mapped.grantEntry]
  split_ifs with here
  · obtain ⟨rfl, rfl⟩ := here
    simp [mapped.active]
  · rfl

theorem domainCount (mapped : Mapped m a s s') : s'.domainCount = s.domainCount := by
  unfold System.domainCount
  rw [mapped.entries]
  exact domainCount_setEntry s _ _ _

theorem entryCount (mapped : Mapped m a s s') (d : DomId) : s'.entryCount d = s.entryCount d := by
  unfold System.entryCount
  rw [mapped.entries]
  exact entryCount_setEntry s _ _ _ _

theorem backing (mapped : Mapped m a s s') :
    s'.backing.Perm (⟨a.frame, m.writable⟩ :: s.backing) := by
  have same : s'.backingOf = s.backingOf := funext mapped.sameTerms.backingOf
  unfold System.backing
  rw [same, ← backingOf_of_active mapped.active]
  exact mapped.live_perm.map _

theorem consistent (mapped : Mapped m a s s') (consistent : s.Consistent)
    (grantee : a.grantee = m.grantee) (permitted : m.writable = true → a.readonly = false)
    (fresh : ∀ m' ∈ s.live, m'.name ≠ m.name) : s'.Consistent where
  counts := by
    intro d g b active
    rw [mapped.live_perm.countP_eq, mapped.live_perm.countP_eq, List.countP_cons,
      List.countP_cons]
    rw [mapped.grantEntry] at active
    split_ifs at active with here
    · obtain ⟨rfl, rfl⟩ := here
      cases active
      have counts := consistent.counts mapped.active
      cases m.writable <;> simp [Access.mapped, counts]
    · have counts := consistent.counts active
      have apart : Mapping.ofEntry d g m = false := by
        by_contra yes
        exact here (ofEntry_iff.mp (by simpa using yes))
      simpa [apart] using counts
  backed := by
    intro m' isLive
    rw [mapped.grantEntry]
    rcases List.mem_cons.mp (mapped.live_perm.mem_iff.mp isLive) with rfl | old
    · rw [if_pos ⟨rfl, rfl⟩]
      exact ⟨_, rfl, grantee, permitted⟩
    · obtain ⟨b, active, fits⟩ := consistent.backed old
      split_ifs with here
      · obtain ⟨h₁, h₂⟩ := here
        rw [← h₁, ← h₂, mapped.active] at active
        cases active
        exact ⟨_, rfl, fits⟩
      · exact ⟨b, active, fits⟩
  known := by
    intro d g b active
    rw [mapped.domainCount]
    rw [mapped.grantEntry] at active
    split_ifs at active
    · cases active
      have known := consistent.known mapped.active
      exact known
    · exact consistent.known active
  names := by
    rw [(mapped.live_perm.map Mapping.name).nodup_iff, List.map_cons, List.nodup_cons]
    refine ⟨?_, consistent.names⟩
    rw [List.mem_map]
    rintro ⟨m', old, clash⟩
    exact fresh m' old clash
  placed := by
    intro d g b active
    rw [mapped.entries] at active
    exact placed_setEntry consistent active

end Mapped

/-- The record a successful map stores. -/
def newMapping (s : System) (grantee grantor : DomId) (gref : GrantRef) (writable : Bool) :
    Mapping := ⟨true, grantee, s.freeHandle grantee, grantor, gref, writable⟩

theorem map_cases (s : System) (grantee grantor : DomId) (gref : GrantRef) (writable : Bool) :
    (∃ a s', s.grantEntry grantor gref = some a ∧ a.grantee = grantee ∧
        (writable = true → a.readonly = false) ∧
        map grantee grantor gref writable s = (.ok (s.freeHandle grantee), s') ∧
        Mapped (s.newMapping grantee grantor gref writable) a s s') ∨
      ∃ e, map grantee grantor gref writable s = (.error e, s) := by
  rcases entry_cases s grantor gref with ⟨entry, found, ok⟩ | ⟨-, e, failed⟩
  case inr => exact .inr ⟨e, by simp [map, failed]⟩
  cases entry with
  | free => exact .inr ⟨.wrongState, by simp [map, ok]⟩
  | access a =>
      by_cases addressed : a.grantee = grantee
      case neg => exact .inr ⟨.permissionDenied, by simp [map, ok, addressed]⟩
      by_cases denied : (writable && a.readonly) = true
      case pos => exact .inr ⟨.permissionDenied, by
        simp only [map, Op.query_bind_apply, ok, Op.ensure_bind_apply, addressed, decide_true,
          if_true, denied, Bool.not_true, Bool.false_eq_true, if_false]⟩
      by_cases room : a.maps + 1 < 2 ^ 32
      case neg => exact .inr ⟨.overflow, by
        simp only [map, Op.query_bind_apply, ok, Op.ensure_bind_apply, addressed, decide_true,
          if_true, denied, Bool.not_false, countsAfterMap, room, if_false]⟩
      have active : s.grantEntry grantor gref = some a := grantEntry_eq_some.mpr found
      subst addressed
      refine .inl ⟨a,
        { s.setEntry grantor gref (.access (a.mapped writable)) with
          maps := Slab.insert (·.active) s.maps (s.newMapping a.grantee grantor gref writable) },
        active, rfl, ?_, ?_, active, rfl, rfl, rfl⟩
      · intro written
        cases readonly : a.readonly with
        | false => rfl
        | true => simp [written, readonly] at denied
      · simp only [map, Op.query_bind_apply, ok, Op.ensure_bind_apply, decide_true,
          if_true, denied, Bool.not_false, countsAfterMap, room, allocHandle,
          Op.modify_bind_apply, Op.read_bind_apply, Op.pure_apply]
        rfl

/-- Any mapping the tables accept keeps them consistent. -/
theorem Consistent.map (consistent : s.Consistent) {writable : Bool} {a : Access}
    (addressed : a.grantee = grantee) (permitted : writable = true → a.readonly = false)
    (mapped : Mapped (s.newMapping grantee grantor gref writable) a s s') : s'.Consistent :=
  mapped.consistent consistent addressed permitted fun _ isLive => s.freeHandle_fresh grantee isLive

/-- The mapping `m` was released from the permit `a`. -/
structure Released (m : Mapping) (a : Access) (s s' : System) : Prop where
  active : s.grantEntry m.grantor m.gref = some a
  entries : s'.domains = (s.setEntry m.grantor m.gref (.access (a.unmapped m.writable))).domains
  stored : ∃ slot : Nat, s.maps[slot]? = some m ∧
    s'.maps = s.maps.set slot { m with active := false }
  isActive : m.active = true

namespace Released

variable {m : Mapping} {a : Access}

theorem live (released : Released m a s s') :
    ∃ before after, s.live = before ++ m :: after ∧ s'.live = before ++ after := by
  obtain ⟨slot, stored, maps⟩ := released.stored
  unfold System.live
  rw [maps]
  exact Slab.live_set_dead stored released.isActive rfl

theorem live_perm (released : Released m a s s') : s.live.Perm (m :: s'.live) := by
  obtain ⟨before, after, whole, rest⟩ := released.live
  rw [whole, rest]
  exact List.perm_middle

theorem mem_live (released : Released m a s s') : m ∈ s.live :=
  released.live_perm.mem_iff.mpr (List.mem_cons_self ..)

theorem entryAt (released : Released m a s s') (d : DomId) (g : GrantRef) :
    s'.entryAt d g = if m.grantor = d ∧ m.gref = g then some (.access (a.unmapped m.writable))
      else s.entryAt d g := by
  have same : s'.entryAt d g =
      (s.setEntry m.grantor m.gref (.access (a.unmapped m.writable))).entryAt d g := by
    unfold System.entryAt
    rw [released.entries]
  rw [same, entryAt_setEntry, grantEntry_eq_some.mp released.active]
  rfl

theorem grantEntry (released : Released m a s s') (d : DomId) (g : GrantRef) :
    s'.grantEntry d g = if m.grantor = d ∧ m.gref = g then some (a.unmapped m.writable)
      else s.grantEntry d g := by
  unfold System.grantEntry
  rw [released.entryAt]
  split_ifs <;> rfl

theorem sameTerms (released : Released m a s s') : SameTerms s s' := by
  intro d g
  rw [released.grantEntry]
  split_ifs with here
  · obtain ⟨rfl, rfl⟩ := here
    simp [released.active]
  · rfl

theorem domainCount (released : Released m a s s') : s'.domainCount = s.domainCount := by
  unfold System.domainCount
  rw [released.entries]
  exact domainCount_setEntry s _ _ _

theorem entryCount (released : Released m a s s') (d : DomId) :
    s'.entryCount d = s.entryCount d := by
  unfold System.entryCount
  rw [released.entries]
  exact entryCount_setEntry s _ _ _ _

theorem backing (released : Released m a s s') :
    s.backing.Perm (⟨a.frame, m.writable⟩ :: s'.backing) := by
  have same : s'.backingOf = s.backingOf := funext released.sameTerms.backingOf
  unfold System.backing
  rw [same, ← backingOf_of_active released.active]
  exact released.live_perm.map _

theorem consistent (released : Released m a s s') (consistent : s.Consistent) :
    s'.Consistent where
  counts := by
    intro d g b active
    have whole := released.live_perm.countP_eq (Mapping.ofEntry d g)
    have written := released.live_perm.countP_eq fun m => Mapping.ofEntry d g m && m.writable
    rw [List.countP_cons] at whole written
    rw [released.grantEntry] at active
    split_ifs at active with here
    · obtain ⟨rfl, rfl⟩ := here
      cases active
      have counts := consistent.counts released.active
      rw [whole, written] at counts
      cases writable : m.writable <;> simp [writable] at counts <;>
        simp [Access.unmapped, counts]
    · have counts := consistent.counts active
      have apart : Mapping.ofEntry d g m = false := by
        by_contra yes
        exact here (ofEntry_iff.mp (by simpa using yes))
      rw [whole, written] at counts
      simpa [apart] using counts
  backed := by
    intro m' isLive
    obtain ⟨b, active, fits⟩ :=
      consistent.backed (released.live_perm.mem_iff.mpr (List.mem_cons_of_mem _ isLive))
    rw [released.grantEntry]
    split_ifs with here
    · obtain ⟨h₁, h₂⟩ := here
      rw [← h₁, ← h₂, released.active] at active
      cases active
      exact ⟨_, rfl, fits⟩
    · exact ⟨b, active, fits⟩
  known := by
    intro d g b active
    rw [released.domainCount]
    rw [released.grantEntry] at active
    split_ifs at active
    · cases active
      have known := consistent.known released.active
      exact known
    · exact consistent.known active
  names := by
    have nodup := (released.live_perm.map Mapping.name).nodup_iff.mp consistent.names
    exact (List.nodup_cons.mp nodup).2
  placed := by
    intro d g b active
    rw [released.entries] at active
    exact placed_setEntry consistent active

end Released

theorem unmap_cases (consistent : s.Consistent) (grantee : DomId) (handle : GrantHandle) :
    (∃ m a s', m ∈ s.live ∧ m.name = (grantee, handle) ∧
        unmap grantee handle s = (.ok ⟨a.frame, m.writable⟩, s') ∧ Released m a s s') ∨
      ((∀ m ∈ s.live, m.name ≠ (grantee, handle)) ∧
        ∃ e, unmap grantee handle s = (.error e, s)) := by
  cases search : s.maps.findIdx? (named grantee handle) with
  | none =>
      refine .inr ⟨?_, .badHandle, by simp [unmap, search]⟩
      intro m isLive clash
      have absent := List.findIdx?_eq_none_iff.mp search m (mem_live_iff.mp isLive).1
      rw [named_iff.mpr ⟨(mem_live_iff.mp isLive).2, clash⟩] at absent
      cases absent
  | some slot =>
      obtain ⟨inside, isNamed, -⟩ := List.findIdx?_eq_some_iff_getElem.mp search
      obtain ⟨m, stored⟩ : ∃ m, s.maps[slot]? = some m := ⟨_, List.getElem?_eq_getElem inside⟩
      obtain ⟨isActive, name⟩ : m.active = true ∧ m.name = (grantee, handle) := by
        rw [← named_iff]
        obtain ⟨_, same⟩ := List.getElem?_eq_some_iff.mp stored
        rwa [← same]
      have isLive : m ∈ s.live := mem_live_iff.mpr ⟨List.mem_of_getElem? stored, isActive⟩
      obtain ⟨a, active, -⟩ := consistent.backed isLive
      refine .inl ⟨m, a,
        { s.setEntry m.grantor m.gref (.access (a.unmapped m.writable)) with
          maps := s.maps.set slot { m with active := false } },
        isLive, name, ?_, active, rfl, ⟨slot, stored, rfl⟩, isActive⟩
      simp only [unmap, Op.read_bind_apply, search, stored, Op.modify_bind_apply, Op.pure_apply,
        dropCounts, active, grantedFrame, Option.map_some, Option.getD_some]
      rfl

/-- A live mapping can be unmapped under its name. -/
theorem unmap_ok (consistent : s.Consistent) {m : Mapping} (isLive : m ∈ s.live) :
    ∃ a s', unmap m.grantee m.handle s = (.ok ⟨a.frame, m.writable⟩, s') ∧ Released m a s s' := by
  rcases unmap_cases consistent m.grantee m.handle with
    ⟨m', a, s', isLive', name, ran, released⟩ | ⟨absent, -⟩
  · obtain rfl : m' = m := consistent.eq_of_name isLive' isLive name
    exact ⟨a, s', ran, released⟩
  · exact absurd rfl (absent m isLive)

/-- Taking back a mapping that was just made restores the entries and the live mappings. -/
theorem Mapped.undo {m : Mapping} {a : Access} (mapped : Mapped m a s s')
    (consistent : s'.Consistent) :
    ∃ u s'', unmap m.grantee m.handle s' = (.ok u, s'') ∧ s''.domains = s.domains ∧
      s''.live = s.live := by
  have isLive : m ∈ s'.live := mapped.live_perm.mem_iff.mpr (List.mem_cons_self ..)
  obtain ⟨b, s'', ran, released⟩ := unmap_ok consistent isLive
  refine ⟨_, s'', ran, ?_, ?_⟩
  · have counted : b = a.mapped m.writable := by
      have active := released.active
      rw [mapped.grantEntry, if_pos ⟨rfl, rfl⟩] at active
      simpa using active.symm
    have before : s.domains.get? m.grantor.toNat m.gref.toNat = some (.access a) :=
      grantEntry_eq_some.mp mapped.active
    rw [released.entries, counted, Access.unmapped_mapped]
    simp only [setEntry]
    rw [mapped.entries]
    simp only [setEntry]
    rw [Grid.set_set, Grid.set_present before]
  · obtain ⟨before, after, old, new⟩ := mapped.live
    obtain ⟨before', after', old', new'⟩ := released.live
    have distinct : s'.live.Nodup := List.Nodup.of_map _ consistent.names
    rw [new] at distinct
    have absent : m ∉ before ++ after := (List.nodup_cons.mp (List.nodup_middle.mp distinct)).1
    have split := new.symm.trans old'
    obtain ⟨rfl, -, rfl⟩ := (List.append_cons_inj_of_notMem
      (fun h => absent (List.mem_append_left _ h)) (fun h => absent (List.mem_append_right _ h))).mp
      split
    rw [new', old]

end System

end Baleen.Grant
