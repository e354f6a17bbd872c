import Baleen.P2m.Entries

/-!
# The page accounting, counted and checked

The claims of the live entries on a frame, counted by the entries' flags, and the
executable check of the page accounting, which follows from the exact counters.
-/

namespace Baleen

theorem findSome?_range_eq_none {β : Type} {n : Nat} {f : Nat → Option β}
    (clean : ∀ i < n, f i = none) : (List.range n).findSome? f = none :=
  List.findSome?_eq_none_iff.mpr fun i member => clean i (List.mem_range.mp member)

theorem orElse_eq_none {β : Type} {a b : Option β} (first : a = none) (second : b = none) :
    (a <|> b) = none := by
  rw [first, second]
  rfl

namespace P2m

theorem count_linkClaims (ls : List Link) (m : Mfn) (k : Kind) :
    (ls.flatMap Link.claims).count (m, k) =
      (if k = .table then ls.countP fun l => l.parent = m else 0) +
        ls.countP fun l => l.kind = k && l.child = m := by
  induction ls with
  | nil => simp
  | cons l rest ih =>
      have first : (Link.claims l).count (m, k) =
          (if k = .table then (if l.parent = m then 1 else 0) else 0) +
            if l.kind = k ∧ l.child = m then 1 else 0 := by
        simp only [Link.claims, List.count_cons, List.count_nil, beq_iff_eq, Prod.mk.injEq]
        have sides : (if l.parent = m ∧ Kind.table = k then 1 else 0) =
            if k = .table then (if l.parent = m then 1 else 0) else 0 := by
          by_cases table : k = .table
          · simp [table]
          · simp [table, Ne.symm table]
        rw [sides, Nat.zero_add, Nat.add_comm]
        simp only [and_comm]
      simp only [List.flatMap_cons, List.count_append, ih, first, List.countP_cons,
        Bool.and_eq_true, decide_eq_true_eq]
      split_ifs <;> omega

/-- The kind of a well-shaped entry, in terms of its flags. -/
theorem kind_shaped {l : Link} (shaped : l.Shaped) :
    decide (l.kind = .write) = (l.leaf && l.writable) ∧
      decide (l.kind = .exec) = (l.leaf && l.execute) ∧
      decide (l.kind = .table) = !l.leaf ∧
      decide (l.kind = .bare) = (l.leaf && !l.writable && !l.execute) := by
  revert shaped
  unfold Link.Shaped Link.kind
  cases l.leaf <;> cases l.writable <;> cases l.execute <;> simp

theorem countP_kind {ls : List Link} {k : Kind} {test : Link → Bool}
    (same : ∀ l ∈ ls, decide (l.kind = k) = test l) (m : Mfn) :
    (ls.countP fun l => l.kind = k && l.child = m) = ls.countP fun l => test l && l.child = m := by
  refine List.countP_congr fun l member => ?_
  rw [same l member]

namespace System

variable {outside : List Claim} {s : System}

namespace Pages

theorem frameViolation_eq_none (pages : Pages outside s) {m : Mfn} {i : FrameInfo}
    (known : s.info m = some i) (k : Nat) : s.frameViolation k (.allocated i) = none := by
  have balanced := pages.balanced known
  have owned : ¬s.numDomains ≤ i.owner.toNat := Nat.not_le.mpr (pages.owned known)
  have untyped : ¬(0 < i.writableRefs ∧ 0 < i.pagetableRefs) := by
    rintro ⟨written, table⟩
    rw [(pages.exclusive known written).2] at table
    exact Nat.lt_irrefl _ table
  have unexecuted : ¬(0 < i.writableRefs ∧ 0 < i.executableRefs) := by
    rintro ⟨written, executed⟩
    rw [(pages.exclusive known written).1] at executed
    exact Nat.lt_irrefl _ executed
  have counted : ¬i.refs < i.writableRefs + i.executableRefs + i.pagetableRefs := by
    rw [balanced.total_eq]
    omega
  have pinned : ¬(i.pinned = true ∧ i.pagetableRefs = 0) := by
    rintro ⟨pinned, none⟩
    have held := balanced.pagetable
    rw [FrameInfo.pins, if_pos pinned] at held
    omega
  simp only [frameViolation, if_neg owned, if_neg untyped, if_neg unexecuted, if_neg counted,
    if_neg pinned]

theorem currentType_table (pages : Pages outside s) {m : Mfn} {i : FrameInfo}
    (known : s.info m = some i) (table : 0 < i.pagetableRefs) :
    s.currentType m = some (.pageTable i.ptLevel) := by
  have unwritten : ¬0 < i.writableRefs := by
    intro written
    rw [(pages.exclusive known written).2] at table
    exact Nat.lt_irrefl _ table
  simp [currentType, known, FrameInfo.currentType, unwritten, table]

theorem levelled_eq_true (pages : Pages outside s) {l : Link} (isLive : l ∈ s.live) :
    s.levelled l = true := by
  obtain ⟨i, knownParent, table⟩ := pages.parent_table isLive
  obtain ⟨j, knownChild⟩ := pages.child_allocated isLive
  obtain ⟨ref, shape, kind, level⟩ := pages.childRef isLive knownParent
  have held : (l.child, ref.kind) ∈ s.claims outside := by
    rw [kind]
    exact mem_claims isLive (by simp [Link.claims])
  have balanced := pages.balanced knownChild
  unfold System.levelled
  rw [pages.currentType_table knownParent table]
  simp only [shape]
  cases ref with
  | bare => simp [isAllocated, knownChild]
  | exec => simp [isAllocated, knownChild]
  | typed ty =>
      cases ty with
      | writable =>
          have written : 0 < j.writableRefs := by
            rw [balanced.writable]
            exact List.count_pos_iff.mpr held
          simp [currentType, knownChild, FrameInfo.currentType, written]
      | pageTable lvl =>
          have typed : 0 < j.pagetableRefs := balanced.pagetable_pos_of_mem held
          rw [pages.currentType_table knownChild typed, level lvl rfl j knownChild]
          simp

theorem heldViolation_eq_none (pages : Pages outside s) {m : Mfn} {i : FrameInfo}
    (known : s.info m = some i) : s.heldViolation m.toNat (.allocated i) = none := by
  have balanced := (pages.balanced known).pagetable
  have links : s.heldOn m.toNat i.pinned ≤ i.pagetableRefs := by
    rw [balanced, claims, List.count_append, count_linkClaims, if_pos rfl, heldOn,
      FrameInfo.pins]
    have parents : (s.links.filter fun l => l.active && l.parent.toNat = m.toNat).length =
        s.live.countP fun l => l.parent = m := by
      unfold System.live Slab.live
      rw [List.countP_filter, List.countP_eq_length_filter]
      congr 1
      refine List.filter_congr fun l _ => ?_
      rw [Bool.and_comm]
      simp only [UInt32.toNat_inj]
    have children :
      (s.links.filter fun l => l.active && l.child.toNat = m.toNat && !l.leaf).length =
        s.live.countP fun l => l.kind = .table && l.child = m := by
      rw [countP_kind (fun l isLive => (kind_shaped (pages.shaped isLive)).2.2.1)]
      unfold System.live Slab.live
      rw [List.countP_filter, List.countP_eq_length_filter]
      congr 1
      refine List.filter_congr fun l _ => ?_
      simp only [UInt32.toNat_inj]
      cases l.active <;> cases l.leaf <;> simp
    rw [parents, children]
    omega
  simp only [heldViolation, if_neg (Nat.not_lt.mpr links)]

theorem invariantsHold (pages : Pages outside s) : s.invariantsHold = true := by
  have scan : ∀ (check : Nat → Frame → Option Violation), (∀ k, check k .free = none) →
      (∀ {m i}, s.info m = some i → check m.toNat (.allocated i) = none) →
      ((List.range s.frames.length).findSome? fun k => s.frames[k]?.bind (check k)) = none := by
    intro check free allocated
    refine findSome?_range_eq_none fun k _ => ?_
    cases present : s.frames[k]? with
    | none => rfl
    | some f =>
        rw [Option.bind_some]
        cases f with
        | free => exact free k
        | allocated i =>
            obtain ⟨m, rfl⟩ := pages.placed present
            exact allocated (by rw [info_eq, present]; rfl)
  rw [System.invariantsHold, Option.isNone_iff_eq_none]
  refine orElse_eq_none ?_ (orElse_eq_none ?_ ?_)
  · exact scan s.frameViolation (fun _ => rfl) fun known => pages.frameViolation_eq_none known _
  · refine List.findSome?_eq_none_iff.mpr fun l isLive => ?_
    rw [pages.levelled_eq_true isLive, if_pos rfl]
  · exact scan s.heldViolation (fun _ => rfl) fun known => pages.heldViolation_eq_none known

end Pages

end System

end P2m

end Baleen
