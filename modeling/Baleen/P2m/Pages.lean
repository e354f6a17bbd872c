import Baleen.P2m.Frames

/-!
# Exact page accounting

A claim is one reference held on a frame, of one kind.  The live page-table entries
make two claims each; the claims of other subsystems are passed in as a list.  The
invariant `Pages` says that the counters of every allocated frame are exactly the
numbers of claims on it, together with the type discipline that keeps every later
release possible.  Each rule below moves one claim.
-/

namespace Baleen.P2m

/-- The kinds of reference. -/
inductive Kind where
  | bare
  | write
  | exec
  | table
  deriving DecidableEq, Repr

/-- A reference on a frame. -/
abbrev Claim := Mfn × Kind

def ChildRef.kind : ChildRef → Kind
  | .bare => .bare
  | .exec => .exec
  | .typed .writable => .write
  | .typed (.pageTable _) => .table

namespace Link

/-- The kind of reference an entry holds on its child. -/
def kind (l : Link) : Kind :=
  if l.leaf then (if l.writable then .write else if l.execute then .exec else .bare) else .table

/-- The references an entry holds: on the table it sits in, and on its child. -/
def claims (l : Link) : List Claim := [(l.parent, .table), (l.child, l.kind)]

/-- Only a read-only leaf is executable. -/
def Shaped (l : Link) : Prop := l.execute = true → l.leaf = true ∧ l.writable = false

/-- The slot an entry occupies. -/
def place (l : Link) : Mfn × UInt32 := (l.parent, l.slot)

end Link

theorem kind_of_entryChildRef (level : PtLevel) {l : Link} {ref : ChildRef}
    (shape : entryChildRef level l.leaf l.writable l.execute = some ref) : ref.kind = l.kind := by
  unfold entryChildRef at shape
  unfold Link.kind
  split_ifs at shape ⊢
  · cases shape; rfl
  · cases shape; rfl
  · cases shape; rfl
  · cases level <;> simp only [PtLevel.interiorChildType, Option.map_some, Option.map_none,
      Option.some.injEq, reduceCtorEq] at shape <;> subst shape <;> rfl

/-- The page-table references the pin bit stands for. -/
def FrameInfo.pins (i : FrameInfo) : Nat := if i.pinned then 1 else 0

@[simp]
theorem FrameInfo.pins_bump (i : FrameInfo) (ref : ChildRef) : (i.bump ref).pins = i.pins := by
  simp [pins]

@[simp]
theorem FrameInfo.pins_drop (i : FrameInfo) (ref : ChildRef) : (i.drop ref).pins = i.pins := by
  simp [pins]

theorem countP_kinds (claims : List Claim) (m : Mfn) :
    claims.countP (fun c => c.1 = m) = claims.count (m, .write) + claims.count (m, .exec) +
      claims.count (m, .table) + claims.count (m, .bare) := by
  induction claims with
  | nil => rfl
  | cons c rest ih =>
      obtain ⟨m', k⟩ := c
      by_cases same : m' = m
      · subst same
        cases k <;> simp [ih] <;> omega
      · simp [ih, same]

/-- The counters of a frame are the numbers of claims on it. -/
structure Balanced (claims : List Claim) (m : Mfn) (i : FrameInfo) : Prop where
  writable : i.writableRefs = claims.count (m, .write)
  executable : i.executableRefs = claims.count (m, .exec)
  pagetable : i.pagetableRefs = claims.count (m, .table) + i.pins
  total : i.refs = claims.countP (fun c => c.1 = m) + i.pins

namespace Balanced

variable {claims claims' : List Claim} {m m' : Mfn} {i : FrameInfo}

theorem perm (balanced : Balanced claims m i) (same : claims.Perm claims') :
    Balanced claims' m i where
  writable := by rw [← same.count_eq]; exact balanced.writable
  executable := by rw [← same.count_eq]; exact balanced.executable
  pagetable := by rw [← same.count_eq]; exact balanced.pagetable
  total := by rw [← same.countP_eq]; exact balanced.total

theorem bump (balanced : Balanced claims m i) (ref : ChildRef) :
    Balanced ((m, ref.kind) :: claims) m (i.bump ref) := by
  obtain ⟨writable, executable, pagetable, total⟩ := balanced
  have pins := i.pins_bump ref
  constructor
  all_goals
    rcases ref with _ | _ | (_ | _) <;>
      simp only [FrameInfo.bump, System.addTyped] at pins <;>
      simp [FrameInfo.bump, System.addTyped, ChildRef.kind] <;> omega

theorem drop {ref : ChildRef} (balanced : Balanced ((m, ref.kind) :: claims) m i) :
    Balanced claims m (i.drop ref) := by
  obtain ⟨writable, executable, pagetable, total⟩ := balanced
  have pins := i.pins_drop ref
  constructor
  all_goals
    rcases ref with _ | _ | (_ | _) <;>
      simp only [FrameInfo.drop, System.dropTyped] at pins <;>
      simp [ChildRef.kind] at writable executable pagetable total <;>
      simp [FrameInfo.drop, System.dropTyped] <;> omega

theorem other_iff (other : m ≠ m') {k : Kind} :
    Balanced ((m, k) :: claims) m' i ↔ Balanced claims m' i := by
  have counts : ∀ k', ((m, k) :: claims).count (m', k') = claims.count (m', k') :=
    fun k' => List.count_cons_of_ne (by simp [other])
  have whole : ((m, k) :: claims).countP (fun c => c.1 = m') =
      claims.countP fun c => c.1 = m' := by simp [other]
  constructor
  · rintro ⟨writable, executable, pagetable, total⟩
    rw [counts] at writable executable pagetable
    rw [whole] at total
    exact ⟨writable, executable, pagetable, total⟩
  · rintro ⟨writable, executable, pagetable, total⟩
    rw [← counts] at writable executable pagetable
    rw [← whole] at total
    exact ⟨writable, executable, pagetable, total⟩

/-- The counts by kind add up to the total. -/
theorem total_eq (balanced : Balanced claims m i) :
    i.refs = i.writableRefs + i.executableRefs + i.pagetableRefs + claims.count (m, .bare) := by
  have split := countP_kinds claims m
  have := balanced.writable
  have := balanced.executable
  have := balanced.pagetable
  have := balanced.total
  omega

theorem returns {ref : ChildRef} (balanced : Balanced ((m, ref.kind) :: claims) m i)
    (levelled : ∀ level, ref = .typed (.pageTable level) → i.ptLevel = level) :
    i.Returns ref := by
  have total := balanced.total_eq
  have writable := balanced.writable
  have executable := balanced.executable
  have pagetable := balanced.pagetable
  rcases ref with _ | _ | (_ | level)
  · simp only [ChildRef.kind, List.count_cons_self] at total
    exact ⟨by omega, by omega⟩
  · simp only [ChildRef.kind, List.count_cons_self] at executable
    exact show i.executableRefs ≠ 0 by omega
  · simp only [ChildRef.kind, List.count_cons_self] at writable
    exact show i.writableRefs ≠ 0 by omega
  · simp only [ChildRef.kind, List.count_cons_self] at pagetable
    exact ⟨by omega, levelled level rfl⟩

theorem pos_of_mem {k : Kind} (balanced : Balanced claims m i) (held : (m, k) ∈ claims) :
    0 < i.refs := by
  have : 0 < claims.countP (fun c => c.1 = m) :=
    List.countP_pos_iff.mpr ⟨(m, k), held, by simp⟩
  have := balanced.total
  omega

theorem pagetable_pos_of_mem (balanced : Balanced claims m i) (held : (m, .table) ∈ claims) :
    0 < i.pagetableRefs := by
  have : 0 < claims.count (m, .table) := List.count_pos_iff.mpr held
  have := balanced.pagetable
  omega

end Balanced

namespace System

/-- The references held on the frames: by the live entries, and from outside. -/
def claims (s : System) (outside : List Claim) : List Claim :=
  s.live.flatMap Link.claims ++ outside

@[simp]
theorem claims_setFrame (s : System) (m : Mfn) (f : Frame) (outside : List Claim) :
    (s.setFrame m f).claims outside = s.claims outside := rfl

/-- Exact accounting and the type discipline. -/
structure Pages (outside : List Claim) (s : System) : Prop where
  balanced : ∀ {m i}, s.info m = some i → Balanced (s.claims outside) m i
  allocated : ∀ {c}, c ∈ s.claims outside → ∃ i, s.info c.1 = some i
  exclusive : ∀ {m i}, s.info m = some i → 0 < i.writableRefs →
    i.executableRefs = 0 ∧ i.pagetableRefs = 0
  owned : ∀ {m i}, s.info m = some i → i.owner.toNat < s.numDomains
  shaped : ∀ {l}, l ∈ s.live → l.Shaped
  places : (s.live.map Link.place).Nodup
  levelled : ∀ {l}, l ∈ s.live → l.leaf = false → ∀ {i j}, s.info l.parent = some i →
    s.info l.child = some j → i.ptLevel.interiorChildType = some (.pageTable j.ptLevel)
  /-- Only frames that a frame number can name are ever allocated. -/
  placed : ∀ {k : Nat} {i}, s.frames[k]? = some (.allocated i) → ∃ m : Mfn, m.toNat = k

namespace Pages

variable {outside outside' : List Claim} {s : System} {m : Mfn} {i : FrameInfo} {ref : ChildRef}

theorem claims_cons (s : System) (c : Claim) (outside : List Claim) :
    (s.claims (c :: outside)).Perm (c :: s.claims outside) := List.perm_middle

theorem perm (pages : Pages outside s) (same : outside.Perm outside') : Pages outside' s :=
  have whole : (s.claims outside).Perm (s.claims outside') := same.append_left _
  { pages with
    balanced := fun known => (pages.balanced known).perm whole
    allocated := fun held => pages.allocated (whole.mem_iff.mpr held) }

theorem mem_claims {l : Link} (isLive : l ∈ s.live) {c : Claim} (held : c ∈ l.claims) :
    c ∈ s.claims outside :=
  List.mem_append_left _ (List.mem_flatMap.mpr ⟨l, isLive, held⟩)

/-- The table of a live entry is allocated and typed as a page table. -/
theorem parent_table (pages : Pages outside s) {l : Link} (isLive : l ∈ s.live) :
    ∃ i, s.info l.parent = some i ∧ 0 < i.pagetableRefs := by
  have held : (l.parent, Kind.table) ∈ s.claims outside := mem_claims isLive (by simp [Link.claims])
  obtain ⟨i, known⟩ := pages.allocated held
  exact ⟨i, known, (pages.balanced known).pagetable_pos_of_mem held⟩

theorem child_allocated (pages : Pages outside s) {l : Link} (isLive : l ∈ s.live) :
    ∃ i, s.info l.child = some i :=
  pages.allocated (mem_claims isLive (by simp [Link.claims] : (l.child, l.kind) ∈ l.claims))

theorem child_table (pages : Pages outside s) {l : Link} (isLive : l ∈ s.live)
    (interior : l.leaf = false) : ∃ i, s.info l.child = some i ∧ 0 < i.pagetableRefs := by
  have held : (l.child, Kind.table) ∈ s.claims outside :=
    mem_claims isLive (by simp [Link.claims, Link.kind, interior])
  obtain ⟨i, known⟩ := pages.allocated held
  exact ⟨i, known, (pages.balanced known).pagetable_pos_of_mem held⟩

/-- A rewritten frame keeps the levels of live entries if its own level stays while it is
typed as a table. -/
theorem levelled_setFrame (pages : Pages outside s) {i' : FrameInfo} (known : s.info m = some i)
    (same : 0 < i.pagetableRefs → i'.ptLevel = i.ptLevel) {l : Link} (isLive : l ∈ s.live)
    (interior : l.leaf = false) {a b : FrameInfo}
    (parent : (s.setFrame m (.allocated i')).info l.parent = some a)
    (child : (s.setFrame m (.allocated i')).info l.child = some b) :
    a.ptLevel.interiorChildType = some (.pageTable b.ptLevel) := by
  obtain ⟨p, knownParent, parentTable⟩ := pages.parent_table isLive
  obtain ⟨c, knownChild, childTable⟩ := pages.child_table isLive interior
  have levels := pages.levelled isLive interior knownParent knownChild
  rw [info_setFrame_of_info known] at parent child
  have ha : a.ptLevel = p.ptLevel := by
    split_ifs at parent with eq
    · subst eq
      cases parent
      obtain rfl : i = p := by simpa [known] using knownParent
      exact same parentTable
    · simp_all
  have hb : b.ptLevel = c.ptLevel := by
    split_ifs at child with eq
    · subst eq
      cases child
      obtain rfl : i = c := by simpa [known] using knownChild
      exact same childTable
    · simp_all
  rw [ha, hb, levels]

theorem placed_setFrame (pages : Pages outside s) {f : Frame} {k : Nat} {a : FrameInfo}
    (after : (s.setFrame m f).frames[k]? = some (.allocated a)) : ∃ m : Mfn, m.toNat = k := by
  by_cases here : m.toNat = k
  · exact ⟨m, here⟩
  · unfold setFrame at after
    rw [List.getElem?_set_ne here] at after
    exact pages.placed after

theorem exclusive_setFrame (pages : Pages outside s) {i' : FrameInfo} (known : s.info m = some i)
    (fine : 0 < i'.writableRefs → i'.executableRefs = 0 ∧ i'.pagetableRefs = 0) {m' : Mfn}
    {a : FrameInfo} (after : (s.setFrame m (.allocated i')).info m' = some a)
    (written : 0 < a.writableRefs) : a.executableRefs = 0 ∧ a.pagetableRefs = 0 := by
  rw [info_setFrame_of_info known] at after
  split_ifs at after
  · cases after
    exact fine written
  · exact pages.exclusive after written

theorem owned_setFrame (pages : Pages outside s) {i' : FrameInfo} (known : s.info m = some i)
    (same : i'.owner = i.owner) {m' : Mfn} {a : FrameInfo}
    (after : (s.setFrame m (.allocated i')).info m' = some a) :
    a.owner.toNat < s.numDomains := by
  rw [info_setFrame_of_info known] at after
  split_ifs at after
  · cases after
    rw [same]
    exact pages.owned known
  · exact pages.owned after

theorem isSome_setFrame {i' : FrameInfo} (known : s.info m = some i) {m' : Mfn}
    (before : ∃ a, s.info m' = some a) : ∃ a, (s.setFrame m (.allocated i')).info m' = some a := by
  rw [info_setFrame_of_info known]
  split_ifs
  · exact ⟨i', rfl⟩
  · exact before

/-- Taking a reference records a claim. -/
theorem bump (pages : Pages outside s) (known : s.info m = some i) (accepted : i.Accepts ref) :
    Pages ((m, ref.kind) :: outside) (s.setFrame m (.allocated (i.bump ref))) where
  balanced := by
    intro m' a after
    rw [info_setFrame_of_info known] at after
    have whole := (claims_cons s (m, ref.kind) outside).symm
    split_ifs at after with eq
    · subst eq
      cases after
      exact ((pages.balanced known).bump ref).perm whole
    · exact ((Balanced.other_iff eq).mpr (pages.balanced after)).perm whole
  allocated := by
    intro c held
    have held : c ∈ (m, ref.kind) :: s.claims outside :=
      (claims_cons s (m, ref.kind) outside).mem_iff.mp held
    apply isSome_setFrame known
    rcases List.mem_cons.mp held with rfl | held
    · exact ⟨i, known⟩
    · exact pages.allocated held
  exclusive := by
    apply pages.exclusive_setFrame known
    have exclusive := pages.exclusive known
    rcases ref with _ | _ | (_ | _) <;>
      simp only [FrameInfo.Accepts] at accepted <;>
      simp only [FrameInfo.bump, addTyped] <;> omega
  owned := pages.owned_setFrame known (i.bump_owner ref)
  shaped := pages.shaped
  places := pages.places
  levelled := pages.levelled_setFrame known fun typed => i.bump_ptLevel (by omega) ref
  placed := pages.placed_setFrame

/-- A claim that is held can be given back, and is then gone. -/
theorem drop (pages : Pages ((m, ref.kind) :: outside) s) (known : s.info m = some i) :
    Pages outside (s.setFrame m (.allocated (i.drop ref))) where
  balanced := by
    intro m' a after
    rw [info_setFrame_of_info known] at after
    have whole := claims_cons s (m, ref.kind) outside
    split_ifs at after with eq
    · subst eq
      cases after
      exact ((pages.balanced known).perm whole).drop
    · exact (Balanced.other_iff eq).mp ((pages.balanced after).perm whole)
  allocated := by
    intro c held
    apply isSome_setFrame known
    exact pages.allocated ((claims_cons s (m, ref.kind) outside).mem_iff.mpr
      (List.mem_cons_of_mem _ held))
  exclusive := by
    apply pages.exclusive_setFrame known
    have exclusive := pages.exclusive known
    rcases ref with _ | _ | (_ | _) <;> simp only [FrameInfo.drop, dropTyped] <;> omega
  owned := pages.owned_setFrame known (i.drop_owner ref)
  shaped := pages.shaped
  places := pages.places
  levelled := pages.levelled_setFrame known fun _ => i.drop_ptLevel ref
  placed := pages.placed_setFrame

theorem returns (pages : Pages ((m, ref.kind) :: outside) s) (known : s.info m = some i)
    (levelled : ∀ level, ref = .typed (.pageTable level) → i.ptLevel = level) : i.Returns ref :=
  ((pages.balanced known).perm (claims_cons s (m, ref.kind) outside)).returns levelled

/-- Releasing a claimed reference succeeds. -/
theorem putChild (pages : Pages ((m, ref.kind) :: outside) s)
    (levelled : ∀ level, ref = .typed (.pageTable level) → ∀ i, s.info m = some i →
      i.ptLevel = level) :
    ∃ i, s.info m = some i ∧
      System.putChild m ref s = (.ok (), s.setFrame m (.allocated (i.drop ref))) ∧
      Pages outside (s.setFrame m (.allocated (i.drop ref))) := by
  obtain ⟨i, known⟩ := pages.allocated (c := (m, ref.kind))
    ((claims_cons s (m, ref.kind) outside).mem_iff.mpr (List.mem_cons_self ..))
  have returned := pages.returns known fun level same => levelled level same i known
  exact ⟨i, known, putChild_ok known returned, pages.drop known⟩

theorem live_allocLink (s : System) {l : Link} (isLive : l.active = true) :
    (s.allocLink l).live.Perm (l :: s.live) := Slab.live_insert_perm isLive

@[simp]
theorem info_allocLink (s : System) (l : Link) (m : Mfn) : (s.allocLink l).info m = s.info m := rfl

/-- An entry stores the two claims that were taken for it. -/
theorem allocLink {l : Link} (pages : Pages ((l.parent, .table) :: (l.child, l.kind) :: outside) s)
    (isLive : l.active = true) (shaped : l.Shaped) (vacant : ∀ l' ∈ s.live, l'.place ≠ l.place)
    (levelled : l.leaf = false → ∀ {i j}, s.info l.parent = some i → s.info l.child = some j →
      i.ptLevel.interiorChildType = some (.pageTable j.ptLevel)) :
    Pages outside (s.allocLink l) := by
  have joined := live_allocLink s isLive
  have whole : (s.claims ((l.parent, .table) :: (l.child, l.kind) :: outside)).Perm
      ((s.allocLink l).claims outside) := by
    have entries : ((s.allocLink l).live.flatMap Link.claims).Perm
        (l.claims ++ s.live.flatMap Link.claims) := joined.flatMap_right _
    refine List.Perm.symm ((entries.append_right outside).trans ?_)
    rw [List.append_assoc]
    exact List.perm_append_comm_assoc l.claims _ outside
  exact {
    balanced := fun known => (pages.balanced known).perm whole
    allocated := fun held => pages.allocated (whole.mem_iff.mpr held)
    exclusive := pages.exclusive
    owned := pages.owned
    shaped := by
      intro l' isLive'
      rcases List.mem_cons.mp (joined.mem_iff.mp isLive') with rfl | old
      · exact shaped
      · exact pages.shaped old
    places := by
      rw [(joined.map Link.place).nodup_iff, List.map_cons, List.nodup_cons]
      refine ⟨?_, pages.places⟩
      rw [List.mem_map]
      rintro ⟨l', old, clash⟩
      exact vacant l' old clash
    levelled := by
      intro l' isLive' interior
      rcases List.mem_cons.mp (joined.mem_iff.mp isLive') with rfl | old
      · exact levelled interior
      · exact pages.levelled old interior
    placed := pages.placed }

/-- A cleared entry leaves its two claims to be given back. -/
theorem clearLink (pages : Pages outside s) {l : Link} {idx : Nat} (stored : s.links[idx]? = some l)
    (isLive : l.active = true) :
    Pages ((l.parent, .table) :: (l.child, l.kind) :: outside)
      { s with links := s.links.set idx { l with active := false } } := by
  have parted : s.live.Perm
      (l :: System.live { s with links := s.links.set idx { l with active := false } }) :=
    Slab.live_set_dead_perm stored isLive rfl
  have whole : (s.claims outside).Perm
      (System.claims { s with links := s.links.set idx { l with active := false } }
        ((l.parent, .table) :: (l.child, l.kind) :: outside)) := by
    refine ((parted.flatMap_right Link.claims).append_right outside).trans ?_
    rw [List.flatMap_cons, List.append_assoc]
    exact List.perm_append_comm_assoc l.claims _ outside
  have nodup : ((l :: System.live
      { s with links := s.links.set idx { l with active := false } }).map Link.place).Nodup :=
    (parted.map Link.place).nodup_iff.mp pages.places
  exact {
    balanced := fun known => (pages.balanced known).perm whole
    allocated := fun held => pages.allocated (whole.mem_iff.mpr held)
    exclusive := pages.exclusive
    owned := pages.owned
    shaped := fun rest => pages.shaped (parted.mem_iff.mpr (List.mem_cons_of_mem _ rest))
    places := (List.nodup_cons.mp nodup).2
    levelled := fun rest => pages.levelled (parted.mem_iff.mpr (List.mem_cons_of_mem _ rest))
    placed := pages.placed }

/-- The pin bit takes over a page-table claim. -/
theorem pin (pages : Pages ((m, .table) :: outside) s) (known : s.info m = some i)
    (unpinned : i.pinned = false) :
    Pages outside (s.setFrame m (.allocated { i with pinned := true })) where
  balanced := by
    intro m' a after
    rw [info_setFrame_of_info known] at after
    have whole := claims_cons s (m, .table) outside
    split_ifs at after with eq
    · subst eq
      cases after
      obtain ⟨writable, executable, pagetable, total⟩ := (pages.balanced known).perm whole
      simp [FrameInfo.pins, unpinned] at writable executable pagetable total
      exact ⟨writable, executable, pagetable, total⟩
    · exact (Balanced.other_iff eq).mp ((pages.balanced after).perm whole)
  allocated := by
    intro c held
    apply isSome_setFrame known
    exact pages.allocated ((claims_cons s (m, .table) outside).mem_iff.mpr
      (List.mem_cons_of_mem _ held))
  exclusive := by
    have exclusive := pages.exclusive known
    apply pages.exclusive_setFrame known
    exact exclusive
  owned := by
    apply pages.owned_setFrame known
    rfl
  shaped := pages.shaped
  places := pages.places
  levelled := by
    apply pages.levelled_setFrame known
    exact fun _ => rfl
  placed := pages.placed_setFrame

/-- Clearing the pin bit leaves a page-table claim to be given back. -/
theorem unpin (pages : Pages outside s) (known : s.info m = some i) (pinned : i.pinned = true) :
    Pages ((m, .table) :: outside) (s.setFrame m (.allocated { i with pinned := false })) where
  balanced := by
    intro m' a after
    rw [info_setFrame_of_info known] at after
    have whole := (claims_cons s (m, .table) outside).symm
    split_ifs at after with eq
    · subst eq
      cases after
      obtain ⟨writable, executable, pagetable, total⟩ := pages.balanced known
      simp only [FrameInfo.pins, pinned, if_true] at pagetable total
      refine Balanced.perm ⟨?_, ?_, ?_, ?_⟩ whole
      · simpa using writable
      · simpa using executable
      · simpa [FrameInfo.pins] using pagetable
      · simpa [FrameInfo.pins] using total
    · exact ((Balanced.other_iff eq).mpr (pages.balanced after)).perm whole
  allocated := by
    intro c held
    have held : c ∈ (m, Kind.table) :: s.claims outside :=
      (claims_cons s (m, .table) outside).mem_iff.mp held
    apply isSome_setFrame known
    rcases List.mem_cons.mp held with rfl | held
    · exact ⟨i, known⟩
    · exact pages.allocated held
  exclusive := by
    have exclusive := pages.exclusive known
    apply pages.exclusive_setFrame known
    exact exclusive
  owned := by
    apply pages.owned_setFrame known
    rfl
  shaped := pages.shaped
  places := pages.places
  levelled := by
    apply pages.levelled_setFrame known
    exact fun _ => rfl
  placed := pages.placed_setFrame

/-- A frame without accounting carries no claim. -/
theorem unclaimed (pages : Pages outside s) (missing : s.info m = none) {c : Claim}
    (held : c ∈ s.claims outside) : c.1 ≠ m := by
  rintro rfl
  obtain ⟨i, known⟩ := pages.allocated held
  simp [missing] at known

/-- An unreferenced frame carries no claim. -/
theorem unclaimed_of_refs (pages : Pages outside s) (known : s.info m = some i) (idle : i.refs = 0)
    {c : Claim} (held : c ∈ s.claims outside) : c.1 ≠ m := by
  rintro rfl
  have := (pages.balanced known).pos_of_mem (k := c.2) held
  omega

/-- Rewriting a frame that carries no claim disturbs no other. -/
theorem setFrame_unclaimed (pages : Pages outside s) {f : Frame}
    (free : ∀ {c}, c ∈ s.claims outside → c.1 ≠ m)
    (fresh : ∀ {i}, infoOf f = some i → i.owner.toNat < s.numDomains ∧ i.refs = 0 ∧
      i.writableRefs = 0 ∧ i.executableRefs = 0 ∧ i.pagetableRefs = 0 ∧ i.pinned = false) :
    Pages outside (s.setFrame m f) := by
  have written : ∀ {a}, (s.setFrame m f).info m = some a → infoOf f = some a := by
    intro a after
    rw [info_setFrame, if_pos rfl] at after
    cases found : s.frames[m.toNat]? with
    | none => simp [found] at after
    | some old => simpa [found] using after
  have absent : ∀ k, (s.claims outside).count (m, k) = 0 := fun k =>
    List.count_eq_zero.mpr fun held => free held rfl
  have entries : ∀ {l}, l ∈ s.live → m ≠ l.parent ∧ m ≠ l.child := fun isLive =>
    ⟨(free (mem_claims isLive (c := (_, .table)) (by simp [Link.claims]))).symm,
      (free (mem_claims isLive (c := (_, _)) (by simp [Link.claims]; exact .inr rfl))).symm⟩
  exact {
    balanced := by
      intro m' a after
      by_cases eq : m = m'
      · subst eq
        obtain ⟨-, refs, writable, executable, pagetable, unpinned⟩ := fresh (written after)
        refine ⟨?_, ?_, ?_, ?_⟩
        · rw [writable]; exact (absent .write).symm
        · rw [executable]; exact (absent .exec).symm
        · rw [pagetable, FrameInfo.pins, unpinned]
          simpa using (absent .table).symm
        · have none' : (s.claims outside).countP (fun c => c.1 = m) = 0 :=
            List.countP_eq_zero.mpr fun c held => by simpa using free held
          rw [refs, FrameInfo.pins, unpinned]
          simpa using none'.symm
      · rw [info_setFrame_other eq] at after
        exact pages.balanced after
    allocated := by
      intro c held
      rw [info_setFrame_other (free held).symm]
      exact pages.allocated held
    exclusive := by
      intro m' a after positive
      by_cases eq : m = m'
      · subst eq
        obtain ⟨-, -, -, executable, pagetable, -⟩ := fresh (written after)
        exact ⟨executable, pagetable⟩
      · rw [info_setFrame_other eq] at after
        exact pages.exclusive after positive
    owned := by
      intro m' a after
      by_cases eq : m = m'
      · subst eq
        exact (fresh (written after)).1
      · rw [info_setFrame_other eq] at after
        exact pages.owned after
    shaped := pages.shaped
    places := pages.places
    levelled := by
      intro l isLive interior i j knownParent knownChild
      obtain ⟨parent, child⟩ := entries isLive
      rw [info_setFrame_other parent] at knownParent
      rw [info_setFrame_other child] at knownChild
      exact pages.levelled isLive interior knownParent knownChild
    placed := pages.placed_setFrame }

theorem new (numDomains numFrames : Nat) : Pages [] (System.new numDomains numFrames) := by
  have missing : ∀ m, (System.new numDomains numFrames).info m = none := by
    intro m
    simp only [info, System.new, List.getElem?_replicate]
    split_ifs <;> rfl
  exact {
    balanced := by simp [missing]
    allocated := by simp [claims, System.live, System.new]
    exclusive := by simp [missing]
    owned := by simp [missing]
    shaped := by simp [System.live, System.new]
    places := by simp [System.live, System.new]
    levelled := by simp [missing]
    placed := by simp [System.new, List.getElem?_replicate] }

end Pages

end System

end Baleen.P2m
