import Baleen.Grant.Maps
import Baleen.Lib.Agree

/-!
# Grant tables up to storage

Two systems are alike if their entries are the same and so are their live mappings, in
whatever order these are stored.  A new mapping takes the same handle in both, and calls
on such systems return the same and leave them alike.
-/

namespace Baleen.Grant.System

structure Alike (s t : System) : Prop where
  domains : s.domains = t.domains
  mappings : s.live.Perm t.live

variable {s t : System}

namespace Alike

theorem refl (s : System) : Alike s s := ⟨rfl, .refl _⟩

theorem symm (alike : Alike s t) : Alike t s := ⟨alike.domains.symm, alike.mappings.symm⟩

theorem trans {u : System} (first : Alike s t) (second : Alike t u) : Alike s u :=
  ⟨first.domains.trans second.domains, first.mappings.trans second.mappings⟩

theorem domain (alike : Alike s t) (dom : DomId) : s.domain dom = t.domain dom := by
  unfold System.domain
  rw [alike.domains]

theorem entry (alike : Alike s t) (grantor : DomId) (gref : GrantRef) :
    s.entry grantor gref = t.entry grantor gref := by
  unfold System.entry
  rw [alike.domain]

theorem grantEntry (alike : Alike s t) (grantor : DomId) (gref : GrantRef) :
    s.grantEntry grantor gref = t.grantEntry grantor gref := by
  unfold System.grantEntry System.entryAt
  rw [alike.domains]

theorem grantedFrame (alike : Alike s t) (grantor : DomId) (gref : GrantRef) :
    s.grantedFrame grantor gref = t.grantedFrame grantor gref := by
  unfold System.grantedFrame
  rw [alike.grantEntry]

theorem authorizes (alike : Alike s t) (grantor grantee : DomId) (frame : Frame)
    (writable : Bool) :
    s.authorizes grantor grantee frame writable = t.authorizes grantor grantee frame writable := by
  unfold System.authorizes
  rw [alike.domain]

theorem copy (alike : Alike s t) (grantee grantor : DomId) (gref : GrantRef) (write : Bool) :
    s.copy grantee grantor gref write = t.copy grantee grantor gref write := by
  unfold System.copy
  rw [alike.entry]

theorem setEntry (alike : Alike s t) (grantor : DomId) (gref : GrantRef) (e : GrantEntry) :
    Alike (s.setEntry grantor gref e) (t.setEntry grantor gref e) := by
  refine ⟨?_, alike.mappings⟩
  unfold System.setEntry
  rw [alike.domains]

end Alike

/-- Whether a live mapping has the handle. -/
theorem used_iff {grantee : DomId} {h : GrantHandle} :
    s.maps.any (named grantee h) = true ↔ ∃ m ∈ s.live, m.name = (grantee, h) := by
  rw [List.any_eq_true]
  constructor
  · rintro ⟨m, stored, isNamed⟩
    obtain ⟨active, name⟩ := named_iff.mp isNamed
    exact ⟨m, mem_live_iff.mpr ⟨stored, active⟩, name⟩
  · rintro ⟨m, isLive, name⟩
    obtain ⟨stored, active⟩ := mem_live_iff.mp isLive
    exact ⟨m, stored, named_iff.mpr ⟨active, name⟩⟩

/-- A new mapping takes the least handle that its grantee has not in use. -/
theorem freeHandle_least {grantee : DomId} {h : GrantHandle} (below : h < s.freeHandle grantee) :
    ∃ m ∈ s.live, m.name = (grantee, h) := by
  apply used_iff.mp
  exact FirstFit.used_below_search _ _ 0 h (Nat.zero_le h) below

theorem Alike.freeHandle_le (alike : Alike s t) (grantee : DomId) :
    s.freeHandle grantee ≤ t.freeHandle grantee := by
  by_contra above
  obtain ⟨m, isLive, name⟩ := freeHandle_least (Nat.lt_of_not_le above)
  exact freeHandle_fresh t grantee (alike.mappings.mem_iff.mp isLive) name

theorem Alike.freeHandle (alike : Alike s t) (grantee : DomId) :
    s.freeHandle grantee = t.freeHandle grantee :=
  Nat.le_antisymm (alike.freeHandle_le grantee) (alike.symm.freeHandle_le grantee)

theorem Alike.insert (alike : Alike s t) {m : Mapping} (active : m.active = true) :
    Alike { s with maps := Slab.insert (·.active) s.maps m }
      { t with maps := Slab.insert (·.active) t.maps m } := by
  refine ⟨alike.domains, ?_⟩
  have joined : ∀ maps : List Mapping,
      (Slab.live (·.active) (Slab.insert (·.active) maps m)).Perm
        (m :: Slab.live (·.active) maps) :=
    fun maps => Slab.live_insert_perm active
  exact ((joined s.maps).trans (alike.mappings.cons m)).trans (joined t.maps).symm

theorem grantAccess_agree (alike : Alike s t) (grantor : DomId) (gref : GrantRef)
    (grantee : DomId) (frame : Frame) (readonly : Bool) :
    Op.Agree Alike Alike (grantAccess grantor gref grantee frame readonly s)
      (grantAccess grantor gref grantee frame readonly t) := by
  refine Op.agree_query (alike.domain grantee) alike fun _ _ => ?_
  refine Op.agree_query (alike.entry grantor gref) alike fun e _ => ?_
  exact Op.agree_ensure rfl alike fun _ => .ok (alike.setEntry grantor gref _)

theorem endAccess_agree (alike : Alike s t) (grantor : DomId) (gref : GrantRef) :
    Op.Agree Alike Alike (endAccess grantor gref s) (endAccess grantor gref t) := by
  refine Op.agree_query (alike.entry grantor gref) alike fun e _ => ?_
  cases e with
  | free => exact .error alike
  | access a => exact Op.agree_ensure rfl alike fun _ => .ok (alike.setEntry grantor gref .free)

theorem map_agree (alike : Alike s t) (grantee grantor : DomId) (gref : GrantRef)
    (writable : Bool) : Op.Agree Alike Alike (map grantee grantor gref writable s)
      (map grantee grantor gref writable t) := by
  refine Op.agree_query (alike.entry grantor gref) alike fun e _ => ?_
  cases e with
  | free => exact .error alike
  | access a =>
      refine Op.agree_ensure rfl alike fun _ => Op.agree_ensure rfl alike fun _ => ?_
      refine Op.agree_query rfl alike fun counts _ => ?_
      have counted := alike.setEntry grantor gref
        (.access { a with maps := counts.1, writableMaps := counts.2 })
      have handle := counted.freeHandle grantee
      simp only [Op.modify_bind_apply, allocHandle, Op.read_bind_apply, Op.pure_apply]
      rw [handle]
      exact .ok (counted.insert rfl)

theorem Alike.dropCounts (alike : Alike s t) (m : Mapping) :
    Alike (s.dropCounts m) (t.dropCounts m) := by
  unfold System.dropCounts
  rw [alike.grantEntry]
  cases t.grantEntry m.grantor m.gref with
  | none => exact alike
  | some a => exact alike.setEntry _ _ _

theorem maps_dropCounts (s : System) (m : Mapping) : (s.dropCounts m).maps = s.maps := by
  unfold dropCounts
  cases s.grantEntry m.grantor m.gref with
  | none => rfl
  | some a => rfl

theorem unmap_agree (consistent : t.Consistent) (alike : Alike s t) (grantee : DomId)
    (handle : GrantHandle) :
    Op.Agree Alike Alike (unmap grantee handle s) (unmap grantee handle t) := by
  have located : ∀ {s : System} {slot : Nat}, s.maps.findIdx? (named grantee handle) = some slot →
      ∃ m ∈ s.live, s.maps[slot]? = some m ∧ m.name = (grantee, handle) := by
    intro s slot search
    obtain ⟨inside, isNamed, -⟩ := List.findIdx?_eq_some_iff_getElem.mp search
    obtain ⟨active, name⟩ := named_iff.mp isNamed
    have stored := List.getElem?_eq_getElem inside
    exact ⟨_, mem_live_iff.mpr ⟨List.mem_of_getElem? stored, active⟩, stored, name⟩
  have missing : ∀ {s : System}, s.maps.findIdx? (named grantee handle) = none →
      ∀ m ∈ s.live, m.name ≠ (grantee, handle) := by
    intro s search m isLive name
    obtain ⟨stored, active⟩ := mem_live_iff.mp isLive
    have absent := List.findIdx?_eq_none_iff.mp search m stored
    rw [named_iff.mpr ⟨active, name⟩] at absent
    cases absent
  unfold unmap
  rw [Op.read_bind_apply, Op.read_bind_apply]
  cases here : s.maps.findIdx? (named grantee handle) with
  | none =>
      cases there : t.maps.findIdx? (named grantee handle) with
      | none => exact .error alike
      | some slot' =>
          obtain ⟨m, isLive, -, name⟩ := located there
          exact absurd name (missing here m (alike.mappings.mem_iff.mpr isLive))
  | some slot =>
      obtain ⟨m, isLive, stored, name⟩ := located here
      cases there : t.maps.findIdx? (named grantee handle) with
      | none => exact absurd name (missing there m (alike.mappings.mem_iff.mp isLive))
      | some slot' =>
          obtain ⟨m', isLive', stored', name'⟩ := located there
          obtain rfl : m = m' := consistent.eq_of_name (alike.mappings.mem_iff.mp isLive) isLive'
            (name.trans name'.symm)
          have active := (mem_live_iff.mp isLive).2
          simp only [stored, stored', Op.modify_bind_apply, Op.pure_apply, alike.grantedFrame]
          refine .ok ⟨(alike.dropCounts m).domains, ?_⟩
          have dead : Mapping.active { m with active := false } = false := rfl
          have removed := Slab.live_set_dead_perm stored active dead
          have removed' := Slab.live_set_dead_perm stored' active dead
          rw [← maps_dropCounts s m] at removed
          rw [← maps_dropCounts t m] at removed'
          have whole : (Slab.live (·.active) (s.dropCounts m).maps).Perm
              (Slab.live (·.active) (t.dropCounts m).maps) := (alike.dropCounts m).mappings
          exact ((removed.symm.trans whole).trans removed').cons_inv

end Baleen.Grant.System
