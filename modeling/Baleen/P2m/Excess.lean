import Baleen.P2m.Calls

/-!
# One page accounting ahead of another

Two systems that differ by references only: the first holds some claims and pins beyond
the second, and agrees with it otherwise, on the level of a frame as far as the second
types it as a table.  A call that both accept keeps the difference; a reference taken or
given back on one side changes it by one claim.
-/

namespace Baleen.P2m

/-- References that one system holds beyond another, with the owners of the frames they are
held on and the levels of the tables among these. -/
structure Excess where
  claims : List Claim
  pins : List Mfn
  owner : Mfn → DomId
  level : Mfn → PtLevel

namespace Excess

def take (x : Excess) (c : Claim) : Excess := { x with claims := c :: x.claims }

@[simp]
theorem take_pins (x : Excess) (c : Claim) : (x.take c).pins = x.pins := rfl

@[simp]
theorem take_owner (x : Excess) (c : Claim) : (x.take c).owner = x.owner := rfl

@[simp]
theorem take_level (x : Excess) (c : Claim) : (x.take c).level = x.level := rfl

/-- Owners and levels as they are in a system. -/
def record (x : Excess) (s : System) : Excess :=
  { x with
    owner := fun m => (s.ownerOf m).getD 0
    level := fun m => ((s.info m).map (·.ptLevel)).getD .l1 }

@[simp]
theorem record_claims (x : Excess) (s : System) : (x.record s).claims = x.claims := rfl

@[simp]
theorem record_pins (x : Excess) (s : System) : (x.record s).pins = x.pins := rfl

theorem record_owner (x : Excess) {s : System} {m : Mfn} {i : FrameInfo}
    (known : s.info m = some i) : (x.record s).owner m = i.owner := by
  simp [record, System.ownerOf, known]

theorem record_level (x : Excess) {s : System} {m : Mfn} {i : FrameInfo}
    (known : s.info m = some i) : (x.record s).level m = i.ptLevel := by
  simp [record, known]

/-- The accounting `i` of a frame is ahead of `j`. -/
structure Between (x : Excess) (m : Mfn) (i j : FrameInfo) : Prop where
  owner : i.owner = j.owner
  writable : i.writableRefs = j.writableRefs + x.claims.count (m, .write)
  executable : i.executableRefs = j.executableRefs + x.claims.count (m, .exec)
  pagetable : i.pagetableRefs = j.pagetableRefs + x.claims.count (m, .table)
  total : i.refs = j.refs + x.claims.countP (fun c => c.1 = m)
  pinned : i.pinned = true ↔ j.pinned = true ∨ m ∈ x.pins
  fresh : m ∈ x.pins → j.pinned = false
  level : 0 < j.pagetableRefs → i.ptLevel = j.ptLevel
  held : ∀ {k}, (m, k) ∈ x.claims → i.owner = x.owner m
  stamped : (m, .table) ∈ x.claims → i.ptLevel = x.level m

namespace Between

variable {x : Excess} {m m' : Mfn} {i j : FrameInfo} {ref : ChildRef}

theorem table_pos (between : x.Between m i j) (claimed : (m, .table) ∈ x.claims) :
    i.pagetableRefs ≠ 0 := by
  have one : 0 < x.claims.count (m, .table) := List.count_pos_iff.mpr claimed
  have := between.pagetable
  omega

/-- Both sides take the same reference. -/
theorem bump (between : x.Between m i j) (accepted : i.Accepts ref) (accepted' : j.Accepts ref) :
    x.Between m (i.bump ref) (j.bump ref) where
  owner := by simpa using between.owner
  writable := by
    have := between.writable
    rcases ref with _ | _ | (_ | _) <;> simp only [FrameInfo.bump, System.addTyped] <;> omega
  executable := by
    have := between.executable
    rcases ref with _ | _ | (_ | _) <;> simp only [FrameInfo.bump, System.addTyped] <;> omega
  pagetable := by
    have := between.pagetable
    rcases ref with _ | _ | (_ | _) <;> simp only [FrameInfo.bump, System.addTyped] <;> omega
  total := by
    have := between.total
    rcases ref with _ | _ | (_ | _) <;> simp only [FrameInfo.bump, System.addTyped] <;> omega
  pinned := by simpa using between.pinned
  fresh := by simpa using between.fresh
  level := by
    intro typed
    rcases ref with _ | _ | (_ | level)
    · exact between.level typed
    · exact between.level typed
    · exact between.level typed
    · rw [FrameInfo.bump_table_ptLevel accepted, FrameInfo.bump_table_ptLevel accepted']
  held := fun claimed => by simpa using between.held claimed
  stamped := by
    intro claimed
    rw [FrameInfo.bump_ptLevel (between.table_pos claimed)]
    exact between.stamped claimed

/-- Both sides give the same reference back. -/
theorem drop (between : x.Between m i j) (counted : j.Counted) (returned : j.Returns ref) :
    x.Between m (i.drop ref) (j.drop ref) where
  owner := by simpa using between.owner
  writable := by
    have := between.writable
    rcases ref with _ | _ | (_ | _) <;> simp only [FrameInfo.Returns] at returned <;>
      simp only [FrameInfo.drop, System.dropTyped] <;> omega
  executable := by
    have := between.executable
    rcases ref with _ | _ | (_ | _) <;> simp only [FrameInfo.Returns] at returned <;>
      simp only [FrameInfo.drop, System.dropTyped] <;> omega
  pagetable := by
    have := between.pagetable
    rcases ref with _ | _ | (_ | _) <;> simp only [FrameInfo.Returns] at returned <;>
      simp only [FrameInfo.drop, System.dropTyped] <;> omega
  total := by
    have := between.total
    have := counted.refs_pos returned
    rcases ref with _ | _ | (_ | _) <;> simp only [FrameInfo.drop, System.dropTyped] <;> omega
  pinned := by simpa using between.pinned
  fresh := by simpa using between.fresh
  level := by
    intro typed
    rw [FrameInfo.drop_ptLevel, FrameInfo.drop_ptLevel]
    refine between.level ?_
    rcases ref with _ | _ | (_ | _) <;>
      simp only [FrameInfo.drop, System.dropTyped] at typed <;> omega
  held := fun claimed => by simpa using between.held claimed
  stamped := fun claimed => by simpa using between.stamped claimed

/-- The first side gives back a reference that it holds beyond the second. -/
theorem give (between : (x.take (m, ref.kind)).Between m i j) :
    x.Between m (i.drop ref) j where
  owner := by simpa using between.owner
  writable := by
    have := between.writable
    rcases ref with _ | _ | (_ | _) <;> simp [take, ChildRef.kind] at this <;>
      simp only [FrameInfo.drop, System.dropTyped] <;> omega
  executable := by
    have := between.executable
    rcases ref with _ | _ | (_ | _) <;> simp [take, ChildRef.kind] at this <;>
      simp only [FrameInfo.drop, System.dropTyped] <;> omega
  pagetable := by
    have := between.pagetable
    rcases ref with _ | _ | (_ | _) <;> simp [take, ChildRef.kind] at this <;>
      simp only [FrameInfo.drop, System.dropTyped] <;> omega
  total := by
    have := between.total
    rcases ref with _ | _ | (_ | _) <;> simp [take] at this <;>
      simp only [FrameInfo.drop, System.dropTyped] <;> omega
  pinned := by simpa using between.pinned
  fresh := between.fresh
  level := by simpa using between.level
  held := fun claimed => by simpa using between.held (List.mem_cons_of_mem _ claimed)
  stamped := fun claimed => by simpa using between.stamped (List.mem_cons_of_mem _ claimed)

/-- The first side takes a reference. -/
theorem take_left (between : x.Between m i j) {s : System} (known : s.info m = some (i.bump ref)) :
    ((x.take (m, ref.kind)).record s).Between m (i.bump ref) j where
  owner := by simpa using between.owner
  writable := by
    have := between.writable
    rcases ref with _ | _ | (_ | _) <;>
      simp [FrameInfo.bump, System.addTyped, take, ChildRef.kind] <;> omega
  executable := by
    have := between.executable
    rcases ref with _ | _ | (_ | _) <;>
      simp [FrameInfo.bump, System.addTyped, take, ChildRef.kind] <;> omega
  pagetable := by
    have := between.pagetable
    rcases ref with _ | _ | (_ | _) <;>
      simp [FrameInfo.bump, System.addTyped, take, ChildRef.kind] <;> omega
  total := by
    have := between.total
    rcases ref with _ | _ | (_ | _) <;>
      simp [FrameInfo.bump, System.addTyped, take] <;> omega
  pinned := by simpa using between.pinned
  fresh := between.fresh
  level := by
    intro typed
    have := between.pagetable
    rw [FrameInfo.bump_ptLevel (by omega)]
    exact between.level typed
  held := fun _ => (record_owner _ known).symm
  stamped := fun _ => (record_level _ known).symm

/-- The second side gives back a reference, so that the first holds it beyond it. -/
theorem drop_right (between : x.Between m i j) (counted : j.Counted) (returned : j.Returns ref)
    {s : System} (known : s.info m = some i) :
    ((x.take (m, ref.kind)).record s).Between m i (j.drop ref) where
  owner := by simpa using between.owner
  writable := by
    have := between.writable
    rcases ref with _ | _ | (_ | _) <;> simp only [FrameInfo.Returns] at returned <;>
      simp [FrameInfo.drop, System.dropTyped, take, ChildRef.kind] <;> omega
  executable := by
    have := between.executable
    rcases ref with _ | _ | (_ | _) <;> simp only [FrameInfo.Returns] at returned <;>
      simp [FrameInfo.drop, System.dropTyped, take, ChildRef.kind] <;> omega
  pagetable := by
    have := between.pagetable
    rcases ref with _ | _ | (_ | _) <;> simp only [FrameInfo.Returns] at returned <;>
      simp [FrameInfo.drop, System.dropTyped, take, ChildRef.kind] <;> omega
  total := by
    have := between.total
    have := counted.refs_pos returned
    rcases ref with _ | _ | (_ | _) <;>
      simp [FrameInfo.drop, System.dropTyped, take] <;> omega
  pinned := by simpa using between.pinned
  fresh := by simpa using between.fresh
  level := by
    intro typed
    rw [FrameInfo.drop_ptLevel]
    refine between.level ?_
    rcases ref with _ | _ | (_ | _) <;>
      simp only [FrameInfo.drop, System.dropTyped] at typed <;> omega
  held := fun _ => (record_owner _ known).symm
  stamped := fun _ => (record_level _ known).symm

/-- A claim on another frame makes no difference. -/
theorem take_other (other : m ≠ m') {k : Kind} :
    (x.take (m, k)).Between m' i j ↔ x.Between m' i j := by
  have counts : ∀ k', (x.take (m, k)).claims.count (m', k') = x.claims.count (m', k') :=
    fun k' => List.count_cons_of_ne (by simp [other])
  have whole : (x.take (m, k)).claims.countP (fun c => c.1 = m') =
      x.claims.countP fun c => c.1 = m' := by simp [take, other]
  have members : ∀ k', (m', k') ∈ (x.take (m, k)).claims ↔ (m', k') ∈ x.claims := by
    intro k'
    simp [take, Ne.symm other]
  constructor
  · intro b
    exact ⟨b.owner, by rw [b.writable, counts], by rw [b.executable, counts],
      by rw [b.pagetable, counts], by rw [b.total, whole], b.pinned, b.fresh, b.level,
      fun claimed => b.held ((members _).mpr claimed),
      fun claimed => b.stamped ((members _).mpr claimed)⟩
  · intro b
    exact ⟨b.owner, by rw [b.writable, counts], by rw [b.executable, counts],
      by rw [b.pagetable, counts], by rw [b.total, whole], b.pinned, b.fresh, b.level,
      fun claimed => b.held ((members _).mp claimed),
      fun claimed => b.stamped ((members _).mp claimed)⟩

/-- What the first side holds beyond the second it can give back. -/
theorem returns (between : (x.take (m, ref.kind)).Between m i j) (counted : j.Counted)
    (levelled : ∀ level, ref = .typed (.pageTable level) → i.ptLevel = level) :
    i.Returns ref := by
  have kinds := countP_kinds (x.take (m, ref.kind)).claims m
  have writable := between.writable
  have executable := between.executable
  have pagetable := between.pagetable
  have total := between.total
  unfold FrameInfo.Counted at counted
  rcases ref with _ | _ | (_ | level)
  · have one : 0 < (x.take (m, ChildRef.bare.kind)).claims.count (m, .bare) :=
      List.count_pos_iff.mpr (List.mem_cons_self ..)
    exact ⟨by omega, by omega⟩
  · have one : 0 < (x.take (m, ChildRef.exec.kind)).claims.count (m, .exec) :=
      List.count_pos_iff.mpr (List.mem_cons_self ..)
    exact show i.executableRefs ≠ 0 by omega
  · have one : 0 < (x.take (m, (ChildRef.typed .writable).kind)).claims.count (m, .write) :=
      List.count_pos_iff.mpr (List.mem_cons_self ..)
    exact show i.writableRefs ≠ 0 by omega
  · exact ⟨between.table_pos (List.mem_cons_self ..), levelled level rfl⟩

/-- Both sides write the pin bit of a frame that has no pin beyond the other. -/
theorem repin (between : x.Between m i j) (even : m ∉ x.pins) (pinned : Bool) :
    x.Between m { i with pinned } { j with pinned } :=
  { between with
    pinned := by simp [even]
    fresh := fun mem => absurd mem even }

/-- The owners and levels may be recorded afresh. -/
theorem record (between : x.Between m i j) {s : System} (known : s.info m = some i) :
    (x.record s).Between m i j :=
  { between with
    held := fun _ => (x.record_owner known).symm
    stamped := fun _ => (x.record_level known).symm }

theorem perm (between : x.Between m i j) {claims : List Claim} (same : x.claims.Perm claims) :
    Between { x with claims } m i j :=
  { between with
    writable := by rw [between.writable, same.count_eq]
    executable := by rw [between.executable, same.count_eq]
    pagetable := by rw [between.pagetable, same.count_eq]
    total := by rw [between.total, same.countP_eq]
    held := fun claimed => between.held (same.mem_iff.mpr claimed)
    stamped := fun claimed => between.stamped (same.mem_iff.mpr claimed) }

/-- Both sides lose the same references. -/
theorem removed {y z : Excess} {i' j' : FrameInfo} (between : x.Between m i j)
    (first : y.Between m i i') (second : z.Between m j j') (noPins : y.pins = [])
    (noPins' : z.pins = []) (same : y.claims.Perm z.claims) : x.Between m i' j' := by
  have table : i'.pagetableRefs = j'.pagetableRefs + x.claims.count (m, .table) := by
    have := between.pagetable
    have := first.pagetable
    have := second.pagetable
    have := same.count_eq (m, Kind.table)
    omega
  refine ⟨?_, ?_, ?_, table, ?_, ?_, ?_, ?_, ?_, ?_⟩
  · rw [← first.owner, between.owner, second.owner]
  · have := between.writable
    have := first.writable
    have := second.writable
    have := same.count_eq (m, Kind.write)
    omega
  · have := between.executable
    have := first.executable
    have := second.executable
    have := same.count_eq (m, Kind.exec)
    omega
  · have := between.total
    have := first.total
    have := second.total
    have := same.countP_eq fun c => decide (c.1 = m)
    omega
  · have left : i.pinned = true ↔ i'.pinned = true := by simpa [noPins] using first.pinned
    have right : j.pinned = true ↔ j'.pinned = true := by simpa [noPins'] using second.pinned
    rw [← left, ← right]
    exact between.pinned
  · intro mem
    have right : j.pinned = true ↔ j'.pinned = true := by simpa [noPins'] using second.pinned
    have unpinned := between.fresh mem
    rw [Bool.eq_false_iff] at unpinned ⊢
    rwa [ne_eq, ← right]
  · intro typed
    have := second.pagetable
    rw [← first.level (by omega), between.level (by omega), second.level typed]
  · intro k claimed
    rw [← first.owner]
    exact between.held claimed
  · intro claimed
    have one : 0 < x.claims.count (m, .table) := List.count_pos_iff.mpr claimed
    rw [← first.level (by omega)]
    exact between.stamped claimed

/-- Two losses in a row. -/
theorem trans {y z : Excess} {k : FrameInfo} (first : x.Between m i j) (second : y.Between m j k)
    (noPins : x.pins = []) (noPins' : y.pins = []) (pins : z.pins = [])
    (claims : z.claims = y.claims ++ x.claims) (owner : i.owner = z.owner m)
    (level : i.ptLevel = z.level m) : z.Between m i k := by
  have table : i.pagetableRefs = k.pagetableRefs + z.claims.count (m, .table) := by
    rw [first.pagetable, second.pagetable, claims, List.count_append, Nat.add_assoc]
  refine ⟨?_, ?_, ?_, table, ?_, ?_, ?_, ?_, fun _ => owner, fun _ => level⟩
  · rw [first.owner, second.owner]
  · rw [first.writable, second.writable, claims, List.count_append, Nat.add_assoc]
  · rw [first.executable, second.executable, claims, List.count_append, Nat.add_assoc]
  · rw [first.total, second.total, claims, List.countP_append, Nat.add_assoc]
  · have left : i.pinned = true ↔ j.pinned = true := by simpa [noPins] using first.pinned
    have right : j.pinned = true ↔ k.pinned = true := by simpa [noPins'] using second.pinned
    simp [pins, left, right]
  · simp [pins]
  · intro typed
    have := second.pagetable
    rw [first.level (by omega), second.level typed]

end Between

/-- The first system is ahead of the second, and agrees with it otherwise. -/
structure Over (x : Excess) (s t : System) : Prop where
  frameCount : s.frameCount = t.frameCount
  info : ∀ m, (s.info m = none ∧ t.info m = none ∧ ∀ c ∈ x.claims, c.1 ≠ m) ∨
    ∃ i j, s.info m = some i ∧ t.info m = some j ∧ x.Between m i j
  pins : ∀ m ∈ x.pins, (m, .table) ∈ x.claims

namespace Over

variable {x x' : Excess} {s s' t t' : System} {m : Mfn} {i i' j j' : FrameInfo} {ref : ChildRef}

theorem of_left (ahead : x.Over s t) (known : s.info m = some i) :
    ∃ j, t.info m = some j ∧ x.Between m i j := by
  rcases ahead.info m with ⟨missing, -⟩ | ⟨i', j, known', known'', between⟩
  · rw [missing] at known
    cases known
  · obtain rfl : i' = i := by simpa [known] using known'.symm
    exact ⟨j, known'', between⟩

theorem of_right (ahead : x.Over s t) (known : t.info m = some j) :
    ∃ i, s.info m = some i ∧ x.Between m i j := by
  rcases ahead.info m with ⟨-, missing, -⟩ | ⟨i, j', known', known'', between⟩
  · rw [missing] at known
    cases known
  · obtain rfl : j' = j := by simpa [known] using known''.symm
    exact ⟨i, known', between⟩

theorem both (ahead : x.Over s t) (known : s.info m = some i) (known' : t.info m = some j) :
    x.Between m i j := by
  obtain ⟨j', known'', between⟩ := ahead.of_left known
  obtain rfl : j' = j := by simpa [known'] using known''.symm
  exact between

/-- A frame that carries a claim is allocated on both sides. -/
theorem claimed (ahead : x.Over s t) {k : Kind} (held : (m, k) ∈ x.claims) :
    ∃ i j, s.info m = some i ∧ t.info m = some j ∧ x.Between m i j := by
  rcases ahead.info m with ⟨-, -, unclaimed⟩ | allocated
  · exact absurd rfl (unclaimed _ held)
  · exact allocated

theorem ownerOf (ahead : x.Over s t) (m : Mfn) : s.ownerOf m = t.ownerOf m := by
  rcases ahead.info m with ⟨missing, missing', -⟩ | ⟨i, j, known, known', between⟩
  · simp [System.ownerOf, missing, missing']
  · rw [System.ownerOf_of_info known, System.ownerOf_of_info known', between.owner]

theorem isPinned (ahead : x.Over s t) (m : Mfn) :
    s.isPinned m = true ↔ t.isPinned m = true ∨ m ∈ x.pins := by
  rcases ahead.info m with ⟨missing, missing', unclaimed⟩ | ⟨i, j, known, known', between⟩
  · have even : m ∉ x.pins := fun mem => unclaimed _ (ahead.pins m mem) rfl
    simp [System.isPinned, missing, missing', even]
  · simpa [System.isPinned, known, known'] using between.pinned

/-- Each system is ahead of itself by nothing. -/
theorem refl (s : System) (owner : Mfn → DomId) (level : Mfn → PtLevel) :
    Over ⟨[], [], owner, level⟩ s s := by
  refine ⟨rfl, fun m => ?_, by simp⟩
  cases known : s.info m with
  | none => exact .inl ⟨rfl, rfl, by simp⟩
  | some i =>
      refine .inr ⟨i, i, rfl, rfl, ?_⟩
      constructor <;> simp

/-- Both systems change at one frame only. -/
theorem rewrite (ahead : x.Over s t) (m : Mfn) (frameCount : s'.frameCount = t'.frameCount)
    (here : (s'.info m = none ∧ t'.info m = none ∧ ∀ c ∈ x'.claims, c.1 ≠ m) ∨
      ∃ i j, s'.info m = some i ∧ t'.info m = some j ∧ x'.Between m i j)
    (left : ∀ m', m ≠ m' → s'.info m' = s.info m') (right : ∀ m', m ≠ m' → t'.info m' = t.info m')
    (others : ∀ m' i j, m ≠ m' → s.info m' = some i → x.Between m' i j → x'.Between m' i j)
    (claims : ∀ c ∈ x'.claims, c.1 = m ∨ c ∈ x.claims)
    (pins : ∀ m ∈ x'.pins, (m, .table) ∈ x'.claims) : x'.Over s' t' := by
  refine ⟨frameCount, fun m' => ?_, pins⟩
  by_cases same : m = m'
  · subst same
    exact here
  · rw [left m' same, right m' same]
    rcases ahead.info m' with ⟨missing, missing', unclaimed⟩ | ⟨i, j, known, known', between⟩
    · refine .inl ⟨missing, missing', fun c claimed => ?_⟩
      rcases claims c claimed with rfl | old
      · exact same
      · exact unclaimed c old
    · exact .inr ⟨i, j, known, known', others m' i j same known between⟩

theorem setFrames (ahead : x.Over s t) (known : s.info m = some i) (known' : t.info m = some j)
    (between : x.Between m i' j') :
    x.Over (s.setFrame m (.allocated i')) (t.setFrame m (.allocated j')) := by
  refine ahead.rewrite m (by simpa using ahead.frameCount) (.inr ⟨i', j', ?_, ?_, between⟩)
    (fun m' other => System.info_setFrame_other other)
    (fun m' other => System.info_setFrame_other other) (fun _ _ _ _ _ between => between)
    (fun c claimed => .inr claimed) ahead.pins
  · rw [System.info_setFrame_of_info known, if_pos rfl]
  · rw [System.info_setFrame_of_info known', if_pos rfl]

/-- The stored entries say nothing about the frames. -/
theorem relink (ahead : x.Over s t) (links links' : List Link) :
    x.Over { s with links } { t with links := links' } :=
  ⟨ahead.frameCount, ahead.info, ahead.pins⟩

theorem perm (ahead : x.Over s t) {claims : List Claim} (same : x.claims.Perm claims) :
    Over { x with claims } s t := by
  refine ⟨ahead.frameCount, fun m => ?_, fun m mem => same.mem_iff.mp (ahead.pins m mem)⟩
  rcases ahead.info m with ⟨missing, missing', unclaimed⟩ | ⟨i, j, known, known', between⟩
  · exact .inl ⟨missing, missing', fun c claimed => unclaimed c (same.mem_iff.mpr claimed)⟩
  · exact .inr ⟨i, j, known, known', between.perm same⟩

theorem getChild_both (ahead : x.Over s t) (ran : System.getChild m ref s = (.ok (), s'))
    (ran' : System.getChild m ref t = (.ok (), t')) : x.Over s' t' := by
  obtain ⟨i, known, accepted, rfl⟩ := System.getChild_of_ok ran
  obtain ⟨j, known', accepted', rfl⟩ := System.getChild_of_ok ran'
  exact ahead.setFrames known known' ((ahead.both known known').bump accepted accepted')

theorem putChild_both (ahead : x.Over s t) (sound : t.Sound)
    (ran : System.putChild m ref s = (.ok (), s')) (ran' : System.putChild m ref t = (.ok (), t')) :
    x.Over s' t' := by
  obtain ⟨i, known, -, rfl⟩ := System.putChild_of_ok ran
  obtain ⟨j, known', returned, rfl⟩ := System.putChild_of_ok ran'
  exact ahead.setFrames known known'
    ((ahead.both known known').drop (sound.counted known') returned)

/-- A reference taken on the first side. -/
theorem getChild_left (ahead : x.Over s t) (ran : System.getChild m ref s = (.ok (), s')) :
    ((x.take (m, ref.kind)).record s').Over s' t := by
  obtain ⟨i, known, -, rfl⟩ := System.getChild_of_ok ran
  obtain ⟨j, known', between⟩ := ahead.of_left known
  have after : (s.setFrame m (.allocated (i.bump ref))).info m = some (i.bump ref) := by
    rw [System.info_setFrame_of_info known, if_pos rfl]
  refine ahead.rewrite m (by simpa using ahead.frameCount)
    (.inr ⟨_, j, after, known', between.take_left after⟩)
    (fun m' other => System.info_setFrame_other other) (fun _ _ => rfl) ?_
    (fun c claimed => (List.mem_cons.mp claimed).imp_left (congrArg Prod.fst))
    fun m' mem => List.mem_cons_of_mem _ (ahead.pins m' mem)
  intro m' i' j' other known'' between'
  refine ((Between.take_other other).mpr between').record ?_
  rw [System.info_setFrame_other other, known'']

/-- A reference given back on the second side. -/
theorem putChild_right (ahead : x.Over s t) (sound : t.Sound)
    (ran : System.putChild m ref t = (.ok (), t')) :
    ((x.take (m, ref.kind)).record s).Over s t' := by
  obtain ⟨j, known, returned, rfl⟩ := System.putChild_of_ok ran
  obtain ⟨i, known', between⟩ := ahead.of_right known
  have after : (t.setFrame m (.allocated (j.drop ref))).info m = some (j.drop ref) := by
    rw [System.info_setFrame_of_info known, if_pos rfl]
  refine ahead.rewrite m (by simpa using ahead.frameCount)
    (.inr ⟨i, _, known', after, between.drop_right (sound.counted known) returned known'⟩)
    (fun _ _ => rfl) (fun m' other => System.info_setFrame_other other) ?_
    (fun c claimed => (List.mem_cons.mp claimed).imp_left (congrArg Prod.fst))
    fun m' mem => List.mem_cons_of_mem _ (ahead.pins m' mem)
  intro m' i' j' other known'' between'
  exact ((Between.take_other other).mpr between').record known''

/-- A reference held on the first side beyond the second can be given back there. -/
theorem putChild_left (x : Excess) (m : Mfn) (ref : ChildRef)
    (ahead : (x.take (m, ref.kind)).Over s t) (sound : t.Sound)
    (pins : ∀ m ∈ x.pins, (m, .table) ∈ x.claims)
    (levelled : ∀ level, ref = .typed (.pageTable level) → x.level m = level) :
    ∃ s', System.putChild m ref s = (.ok (), s') ∧ x.Over s' t := by
  obtain ⟨i, j, known, known', between⟩ := ahead.claimed (List.mem_cons_self ..)
  have returned : i.Returns ref := by
    refine between.returns (sound.counted known') ?_
    rintro level rfl
    rw [← levelled level rfl]
    exact between.stamped (List.mem_cons_self ..)
  refine ⟨_, System.putChild_ok known returned, ?_⟩
  refine ahead.rewrite m (by simpa using ahead.frameCount)
    (.inr ⟨_, j, by rw [System.info_setFrame_of_info known, if_pos rfl], known', between.give⟩)
    (fun m' other => System.info_setFrame_other other) (fun _ _ => rfl) ?_ ?_ pins
  · exact fun m' i' j' other _ between' => (Between.take_other other).mp between'
  · exact fun c claimed => .inr (List.mem_cons_of_mem _ claimed)

end Over

end Excess

end Baleen.P2m
