import Baleen.Grant.Model

/-!
# Consistency of the grant tables

The map counts of every active entry are the numbers of live mappings over it, every
live mapping stands on an entry that permits it, and no two live mappings of a domain
share a handle.
-/

namespace Baleen.Grant

namespace Mapping

/-- The name a grantee knows a mapping by. -/
def name (m : Mapping) : DomId × GrantHandle := (m.grantee, m.handle)

/-- Whether a mapping stands on the given entry. -/
def ofEntry (grantor : DomId) (gref : GrantRef) (m : Mapping) : Bool :=
  m.grantor = grantor && m.gref = gref

end Mapping

/-- What a permit grants, apart from its counts. -/
def Access.terms (a : Access) : DomId × Frame × Bool := (a.grantee, a.frame, a.readonly)

namespace System

variable {s s' : System} {grantor : DomId} {gref : GrantRef}

theorem entry_cases (s : System) (grantor : DomId) (gref : GrantRef) :
    (∃ e, s.entryAt grantor gref = some e ∧ s.entry grantor gref = .ok e) ∨
      (s.entryAt grantor gref = none ∧ ∃ e, s.entry grantor gref = .error e) := by
  unfold entry entryAt domain Grid.get?
  cases s.domains[grantor.toNat]? with
  | none => exact .inr ⟨rfl, _, rfl⟩
  | some row =>
      simp only [Option.bind_some]
      cases row[gref.toNat]? with
      | none => exact .inr ⟨rfl, _, rfl⟩
      | some e => exact .inl ⟨e, rfl, rfl⟩

theorem entry_of_entryAt {e : GrantEntry} (found : s.entryAt grantor gref = some e) :
    s.entry grantor gref = .ok e := by
  rcases entry_cases s grantor gref with ⟨e', found', same⟩ | ⟨missing, -⟩
  · rw [same]
    simpa [found] using found'.symm
  · simp [found] at missing

theorem grantEntry_eq_some {a : Access} :
    s.grantEntry grantor gref = some a ↔ s.entryAt grantor gref = some (.access a) := by
  unfold grantEntry
  rcases s.entryAt grantor gref with _ | (_ | b) <;> simp

theorem entryAt_setEntry (s : System) (grantor d : DomId) (gref g : GrantRef) (e : GrantEntry) :
    (s.setEntry grantor gref e).entryAt d g =
      if grantor = d ∧ gref = g then (s.entryAt grantor gref).map fun _ => e
      else s.entryAt d g := by
  unfold entryAt setEntry
  rw [Grid.get?_set]
  simp only [UInt16.toNat_inj, UInt32.toNat_inj]

theorem grantEntry_setEntry {old : GrantEntry} (found : s.entryAt grantor gref = some old)
    (d : DomId) (g : GrantRef) (e : GrantEntry) :
    (s.setEntry grantor gref e).grantEntry d g =
      if grantor = d ∧ gref = g then (match e with | .free => none | .access a => some a)
      else s.grantEntry d g := by
  unfold grantEntry
  rw [entryAt_setEntry, found]
  split_ifs
  · cases e <;> rfl
  · rfl

@[simp]
theorem live_setEntry (s : System) (grantor : DomId) (gref : GrantRef) (e : GrantEntry) :
    (s.setEntry grantor gref e).live = s.live := rfl

@[simp]
theorem maps_setEntry (s : System) (grantor : DomId) (gref : GrantRef) (e : GrantEntry) :
    (s.setEntry grantor gref e).maps = s.maps := rfl

@[simp]
theorem domainCount_setEntry (s : System) (grantor : DomId) (gref : GrantRef) (e : GrantEntry) :
    (s.setEntry grantor gref e).domainCount = s.domainCount := by
  simp [setEntry, domainCount]

@[simp]
theorem entryCount_setEntry (s : System) (grantor d : DomId) (gref : GrantRef) (e : GrantEntry) :
    (s.setEntry grantor gref e).entryCount d = s.entryCount d := by
  simp [setEntry, entryCount]

structure Consistent (s : System) : Prop where
  counts : ∀ {d g a}, s.grantEntry d g = some a → a.maps = s.live.countP (Mapping.ofEntry d g) ∧
    a.writableMaps = s.live.countP fun m => Mapping.ofEntry d g m && m.writable
  backed : ∀ {m}, m ∈ s.live → ∃ a, s.grantEntry m.grantor m.gref = some a ∧
    a.grantee = m.grantee ∧ (m.writable = true → a.readonly = false)
  known : ∀ {d g a}, s.grantEntry d g = some a → a.grantee.toNat < s.domainCount
  names : (s.live.map Mapping.name).Nodup
  /-- Only entries that an identifier can name are ever active. -/
  placed : ∀ {d g : Nat} {a}, s.domains.get? d g = some (.access a) →
    ∃ (dom : DomId) (gref : GrantRef), dom.toNat = d ∧ gref.toNat = g

theorem mem_live_iff {m : Mapping} : m ∈ s.live ↔ m ∈ s.maps ∧ m.active = true := Slab.mem_live

theorem named_iff {grantee : DomId} {handle : GrantHandle} {m : Mapping} :
    named grantee handle m = true ↔ m.active = true ∧ m.name = (grantee, handle) := by
  simp [named, Mapping.name, and_assoc]

theorem ofEntry_iff {m : Mapping} : Mapping.ofEntry grantor gref m = true ↔
    m.grantor = grantor ∧ m.gref = gref := by
  simp [Mapping.ofEntry]

@[simp]
theorem ofEntry_self (m : Mapping) : Mapping.ofEntry m.grantor m.gref m = true := by
  simp [Mapping.ofEntry]

namespace Consistent

/-- A mapping is determined by its name. -/
theorem eq_of_name (consistent : s.Consistent) {m m' : Mapping} (isLive : m ∈ s.live)
    (isLive' : m' ∈ s.live) (same : m.name = m'.name) : m = m' := by
  obtain ⟨i, stored⟩ := List.getElem?_of_mem (mem_live_iff.mp isLive).1
  obtain ⟨j, stored'⟩ := List.getElem?_of_mem (mem_live_iff.mp isLive').1
  have index := Slab.index_unique consistent.names stored stored' (mem_live_iff.mp isLive).2
    (mem_live_iff.mp isLive').2 same
  subst index
  simpa [stored] using stored'

/-- An unmapped entry has no live mapping over it. -/
theorem not_ofEntry (consistent : s.Consistent) {a : Access}
    (active : s.grantEntry grantor gref = some a) (unmapped : a.maps = 0) {m : Mapping}
    (isLive : m ∈ s.live) : ¬(m.grantor = grantor ∧ m.gref = gref) := by
  intro here
  have count := (consistent.counts active).1
  rw [unmapped] at count
  have := List.countP_eq_zero.mp count.symm m isLive
  exact this (ofEntry_iff.mpr here)

/-- A free entry has no live mapping over it. -/
theorem not_ofEntry_free (consistent : s.Consistent) (free : s.grantEntry grantor gref = none)
    {m : Mapping} (isLive : m ∈ s.live) : ¬(m.grantor = grantor ∧ m.gref = gref) := by
  rintro ⟨rfl, rfl⟩
  obtain ⟨a, active, -⟩ := consistent.backed isLive
  simp [free] at active

end Consistent

/-- The invariant reads the entries and the live mappings, not the inactive records. -/
theorem Consistent.congr (consistent : s.Consistent) (entries : s'.domains = s.domains)
    (mappings : s'.live = s.live) : s'.Consistent := by
  obtain ⟨domains, maps⟩ := s'
  obtain rfl : domains = s.domains := entries
  exact {
    counts := by
      rw [mappings]
      exact consistent.counts
    backed := by
      rw [mappings]
      exact consistent.backed
    known := consistent.known
    names := by
      rw [mappings]
      exact consistent.names
    placed := consistent.placed }

theorem Consistent.new (numDomains entriesPerDomain : Nat) :
    (System.new numDomains entriesPerDomain).Consistent := by
  have empty : ∀ d g a, (System.new numDomains entriesPerDomain).domains.get? d g ≠
      some (.access a) := by
    intro d g a
    simp only [System.new, Grid.get?_fill]
    split_ifs <;> simp
  have missing : ∀ d g, (System.new numDomains entriesPerDomain).grantEntry d g = none := by
    intro d g
    by_contra present
    obtain ⟨a, active⟩ := Option.ne_none_iff_exists'.mp present
    exact empty _ _ a (grantEntry_eq_some.mp active)
  exact {
    counts := by simp [missing]
    backed := by simp [System.new, live]
    known := by simp [missing]
    names := by simp [System.new, live]
    placed := fun active => absurd active (empty _ _ _) }

/-- The consent of `grantor`, as a statement about its active entries. -/
theorem Consistent.authorizes_iff (consistent : s.Consistent) {grantee : DomId} {frame : Frame}
    {writable : Bool} :
    s.authorizes grantor grantee frame writable = true ↔
      ∃ gref a, s.grantEntry grantor gref = some a ∧ a.grantee = grantee ∧ a.frame = frame ∧
        (writable = true → a.readonly = false) := by
  have permit : ∀ e, covers grantee frame writable e = true ↔
      ∃ a, e = .access a ∧ a.grantee = grantee ∧ a.frame = frame ∧
        (writable = true → a.readonly = false) := by
    rintro (_ | a)
    · simp [covers]
    · cases writable <;> simp [covers, and_assoc]
  unfold authorizes domain
  constructor
  · intro granted
    cases row : s.domains[grantor.toNat]? with
    | none => simp [row] at granted
    | some entries =>
        simp only [row, List.any_eq_true] at granted
        obtain ⟨e, member, covered⟩ := granted
        obtain ⟨a, rfl, fits⟩ := (permit e).mp covered
        obtain ⟨g, found⟩ := List.getElem?_of_mem member
        have active : s.domains.get? grantor.toNat g = some (.access a) := by
          simp [Grid.get?, row, found]
        obtain ⟨dom, gref, sameDom, rfl⟩ := consistent.placed active
        exact ⟨gref, a, grantEntry_eq_some.mpr active, fits⟩
  · rintro ⟨gref, a, active, fits⟩
    have found := grantEntry_eq_some.mp active
    unfold entryAt Grid.get? at found
    cases row : s.domains[grantor.toNat]? with
    | none => simp [row] at found
    | some entries =>
        simp only [row, Option.bind_some] at found
        simp only [List.any_eq_true]
        exact ⟨_, List.mem_of_getElem? found, (permit _).mpr ⟨a, rfl, fits⟩⟩

theorem placed_setEntry (consistent : s.Consistent) {e : GrantEntry} {d g : Nat} {a : Access}
    (active : (s.setEntry grantor gref e).domains.get? d g = some (.access a)) :
    ∃ (dom : DomId) (gref : GrantRef), dom.toNat = d ∧ gref.toNat = g := by
  unfold setEntry at active
  rw [Grid.get?_set] at active
  split_ifs at active with here
  · exact ⟨grantor, gref, here.1, here.2⟩
  · exact consistent.placed active

theorem domain_cases (s : System) (dom : DomId) :
    (dom.toNat < s.domainCount ∧ ∃ row, s.domain dom = .ok row) ∨
      ∃ e, s.domain dom = .error e := by
  unfold domain
  cases found : s.domains[dom.toNat]? with
  | none => exact .inr ⟨_, rfl⟩
  | some row => exact .inl ⟨(List.getElem?_eq_some_iff.mp found).1, row, rfl⟩

theorem grantAccess_cases (s : System) (grantor : DomId) (gref : GrantRef) (grantee : DomId)
    (frame : Frame) (readonly : Bool) :
    (grantee.toNat < s.domainCount ∧ s.entryAt grantor gref = some .free ∧
        grantAccess grantor gref grantee frame readonly s =
          (.ok (), s.setEntry grantor gref (.access ⟨grantee, frame, readonly, 0, 0⟩))) ∨
      ∃ e, grantAccess grantor gref grantee frame readonly s = (.error e, s) := by
  rcases domain_cases s grantee with ⟨known, row, found⟩ | ⟨e, failed⟩
  · rcases entry_cases s grantor gref with ⟨entry, found', ok⟩ | ⟨-, e, failed⟩
    · cases entry with
      | free => exact .inl ⟨known, found', by simp [grantAccess, found, ok]⟩
      | access a => exact .inr ⟨.wrongState, by simp [grantAccess, found, ok]⟩
    · exact .inr ⟨e, by simp [grantAccess, found, failed]⟩
  · exact .inr ⟨e, by simp [grantAccess, failed]⟩

theorem Consistent.grantAccess (consistent : s.Consistent) {grantee : DomId} {frame : Frame}
    {readonly : Bool} (known : grantee.toNat < s.domainCount)
    (free : s.entryAt grantor gref = some .free) :
    (s.setEntry grantor gref (.access ⟨grantee, frame, readonly, 0, 0⟩)).Consistent := by
  have missing : s.grantEntry grantor gref = none := by simp [grantEntry, free]
  have bare : ∀ m ∈ s.live, ¬Mapping.ofEntry grantor gref m = true := fun m isLive here =>
    consistent.not_ofEntry_free missing isLive (ofEntry_iff.mp here)
  exact {
    counts := by
      intro d g a active
      rw [grantEntry_setEntry free] at active
      split_ifs at active with here
      · obtain ⟨rfl, rfl⟩ := here
        cases active
        refine ⟨(List.countP_eq_zero.mpr bare).symm, (List.countP_eq_zero.mpr ?_).symm⟩
        intro m isLive both
        exact bare m isLive (Bool.and_eq_true _ _ ▸ both).1
      · exact consistent.counts active
    backed := by
      intro m isLive
      obtain ⟨a, active, fits⟩ := consistent.backed isLive
      refine ⟨a, ?_, fits⟩
      rw [grantEntry_setEntry free, if_neg, active]
      rintro ⟨rfl, rfl⟩
      simp [missing] at active
    known := by
      intro d g a active
      rw [domainCount_setEntry]
      rw [grantEntry_setEntry free] at active
      split_ifs at active
      · cases active
        exact known
      · exact consistent.known active
    names := consistent.names
    placed := placed_setEntry consistent }

theorem endAccess_cases (s : System) (grantor : DomId) (gref : GrantRef) :
    (∃ a, s.grantEntry grantor gref = some a ∧ a.maps = 0 ∧
        endAccess grantor gref s = (.ok (), s.setEntry grantor gref .free)) ∨
      ((∀ a, s.grantEntry grantor gref = some a → a.maps ≠ 0) ∧
        ∃ e, endAccess grantor gref s = (.error e, s)) := by
  rcases entry_cases s grantor gref with ⟨entry, found, ok⟩ | ⟨missing, e, failed⟩
  · cases entry with
    | free =>
        exact .inr ⟨by simp [grantEntry, found], .wrongState, by simp [endAccess, ok]⟩
    | access a =>
        have active : s.grantEntry grantor gref = some a := grantEntry_eq_some.mpr found
        by_cases unmapped : a.maps = 0
        · exact .inl ⟨a, active, unmapped, by simp [endAccess, ok, unmapped]⟩
        · exact .inr ⟨by simp [active, unmapped], .inUse, by simp [endAccess, ok, unmapped]⟩
  · exact .inr ⟨by simp [grantEntry, missing], e, by simp [endAccess, failed]⟩

theorem Consistent.endAccess (consistent : s.Consistent) {a : Access}
    (active : s.grantEntry grantor gref = some a) (unmapped : a.maps = 0) :
    (s.setEntry grantor gref .free).Consistent := by
  have found := grantEntry_eq_some.mp active
  exact {
    counts := by
      intro d g a' active'
      rw [grantEntry_setEntry found] at active'
      split_ifs at active'
      exact consistent.counts active'
    backed := by
      intro m isLive
      obtain ⟨a', active', fits⟩ := consistent.backed isLive
      refine ⟨a', ?_, fits⟩
      rw [grantEntry_setEntry found, if_neg, active']
      rintro ⟨rfl, rfl⟩
      exact consistent.not_ofEntry active unmapped isLive ⟨rfl, rfl⟩
    known := by
      intro d g a' active'
      rw [domainCount_setEntry]
      rw [grantEntry_setEntry found] at active'
      split_ifs at active'
      exact consistent.known active'
    names := consistent.names
    placed := placed_setEntry consistent }

end System

end Baleen.Grant
