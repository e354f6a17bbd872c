import Baleen.P2m.Model

/-!
# Frame references

All acquires of a frame are one operation, parametrised by the kind of reference
taken; so are all releases.  This module gives the accounting after each, the guard
under which it succeeds, and the specification of the operations in these terms.
-/

namespace Baleen.P2m

namespace FrameInfo

/-- The accounting with one more reference. -/
def bump (i : FrameInfo) : ChildRef → FrameInfo
  | .bare => { i with refs := i.refs + 1 }
  | .exec => { i with refs := i.refs + 1, executableRefs := i.executableRefs + 1 }
  | .typed ty => System.addTyped i ty

/-- The accounting with one reference less. -/
def drop (i : FrameInfo) : ChildRef → FrameInfo
  | .bare => { i with refs := i.refs - 1 }
  | .exec => { i with refs := i.refs - 1, executableRefs := i.executableRefs - 1 }
  | .typed ty => System.dropTyped i ty

/-- The guard of an acquire. -/
def Accepts (i : FrameInfo) : ChildRef → Prop
  | .bare => i.refs + 1 < 2 ^ 32
  | .exec => i.writableRefs = 0 ∧ i.refs + 1 < 2 ^ 32 ∧ i.executableRefs + 1 < 2 ^ 32
  | .typed .writable =>
      i.executableRefs = 0 ∧ i.pagetableRefs = 0 ∧ i.refs + 1 < 2 ^ 32 ∧
        i.writableRefs + 1 < 2 ^ 32
  | .typed (.pageTable level) =>
      i.writableRefs = 0 ∧ (0 < i.pagetableRefs → i.ptLevel = level) ∧ i.refs + 1 < 2 ^ 32 ∧
        i.pagetableRefs + 1 < 2 ^ 32

/-- The guard of a release. -/
def Returns (i : FrameInfo) : ChildRef → Prop
  | .bare => i.refs ≠ 0 ∧ i.writableRefs + i.executableRefs + i.pagetableRefs ≤ i.refs - 1
  | .exec => i.executableRefs ≠ 0
  | .typed .writable => i.writableRefs ≠ 0
  | .typed (.pageTable level) => i.pagetableRefs ≠ 0 ∧ i.ptLevel = level

instance (i : FrameInfo) (ref : ChildRef) : Decidable (i.Accepts ref) := by
  unfold Accepts; split <;> infer_instance

instance (i : FrameInfo) (ref : ChildRef) : Decidable (i.Returns ref) := by
  unfold Returns; split <;> infer_instance

@[simp]
theorem bump_owner (i : FrameInfo) (ref : ChildRef) : (i.bump ref).owner = i.owner := by
  rcases ref with _ | _ | (_ | _) <;> rfl

@[simp]
theorem bump_pinned (i : FrameInfo) (ref : ChildRef) : (i.bump ref).pinned = i.pinned := by
  rcases ref with _ | _ | (_ | _) <;> rfl

@[simp]
theorem drop_owner (i : FrameInfo) (ref : ChildRef) : (i.drop ref).owner = i.owner := by
  rcases ref with _ | _ | (_ | _) <;> rfl

@[simp]
theorem drop_pinned (i : FrameInfo) (ref : ChildRef) : (i.drop ref).pinned = i.pinned := by
  rcases ref with _ | _ | (_ | _) <;> rfl

@[simp]
theorem drop_ptLevel (i : FrameInfo) (ref : ChildRef) : (i.drop ref).ptLevel = i.ptLevel := by
  rcases ref with _ | _ | (_ | _) <;> rfl

/-- The level moves only when the first page-table reference is taken. -/
theorem bump_ptLevel {i : FrameInfo} (typed : i.pagetableRefs ≠ 0) (ref : ChildRef) :
    (i.bump ref).ptLevel = i.ptLevel := by
  rcases ref with _ | _ | (_ | _)
  · rfl
  · rfl
  · rfl
  · simp [bump, System.addTyped, typed]

end FrameInfo

namespace System

theorem toNat_eq_iff {m m' : Mfn} : m.toNat = m'.toNat ↔ m = m' := UInt32.toNat_inj

/-- The accounting in a frame, if it is allocated. -/
def infoOf : Frame → Option FrameInfo
  | .free => none
  | .allocated i => some i

theorem info_eq (s : System) (m : Mfn) : s.info m = (s.frames[m.toNat]?).bind infoOf := by
  unfold info
  rcases s.frames[m.toNat]? with _ | (_ | i) <;> rfl

theorem info_setFrame (s : System) (m m' : Mfn) (f : Frame) :
    (s.setFrame m f).info m' =
      if m = m' then (s.frames[m.toNat]?).bind fun _ => infoOf f else s.info m' := by
  rw [info_eq, info_eq]
  simp only [setFrame, List.getElem?_set, toNat_eq_iff]
  by_cases same : m = m'
  · subst same
    by_cases inside : m.toNat < s.frames.length <;> simp [inside]
  · simp [same]

theorem getElem?_of_info {s : System} {m : Mfn} {i : FrameInfo} (known : s.info m = some i) :
    s.frames[m.toNat]? = some (.allocated i) := by
  unfold info at known
  split at known
  · simp_all
  · cases known

theorem info_setFrame_of_info {s : System} {m m' : Mfn} {i i' : FrameInfo}
    (known : s.info m = some i) :
    (s.setFrame m (.allocated i')).info m' = if m = m' then some i' else s.info m' := by
  rw [info_setFrame, getElem?_of_info known]
  rfl

theorem info_setFrame_other {s : System} {m m' : Mfn} {f : Frame} (other : m ≠ m') :
    (s.setFrame m f).info m' = s.info m' := by
  rw [info_setFrame, if_neg other]

@[simp]
theorem live_setFrame (s : System) (m : Mfn) (f : Frame) : (s.setFrame m f).live = s.live := rfl

@[simp]
theorem links_setFrame (s : System) (m : Mfn) (f : Frame) : (s.setFrame m f).links = s.links := rfl

@[simp]
theorem numDomains_setFrame (s : System) (m : Mfn) (f : Frame) :
    (s.setFrame m f).numDomains = s.numDomains := rfl

@[simp]
theorem frameCount_setFrame (s : System) (m : Mfn) (f : Frame) :
    (s.setFrame m f).frameCount = s.frameCount := by
  simp [setFrame, frameCount]

theorem allocated_eq (s : System) (m : Mfn) :
    s.allocated m = match s.frames[m.toNat]? with
      | none => .error .badFrame
      | some .free => .error .wrongState
      | some (.allocated i) => .ok i := by
  unfold allocated frame
  rcases s.frames[m.toNat]? with _ | (_ | i) <;> rfl

/-- A failed lookup fails because the frame is not allocated. -/
theorem allocated_cases (s : System) (m : Mfn) :
    (∃ i, s.info m = some i ∧ s.allocated m = .ok i) ∨
      (s.info m = none ∧ ∃ e, s.allocated m = .error e) := by
  rw [info_eq, allocated_eq]
  rcases s.frames[m.toNat]? with _ | (_ | i)
  · exact .inr ⟨rfl, _, rfl⟩
  · exact .inr ⟨rfl, _, rfl⟩
  · exact .inl ⟨i, rfl, rfl⟩

theorem allocated_of_info {s : System} {m : Mfn} {i : FrameInfo} (known : s.info m = some i) :
    s.allocated m = .ok i := by
  rw [allocated_eq, getElem?_of_info known]

theorem info_of_allocated {s : System} {m : Mfn} {i : FrameInfo} (found : s.allocated m = .ok i) :
    s.info m = some i := by
  rcases allocated_cases s m with ⟨i', known, found'⟩ | ⟨-, e, failed⟩
  · obtain rfl : i' = i := Except.ok.inj (found'.symm.trans found)
    exact known
  · rw [failed] at found
    cases found

theorem ownerOf_of_info {s : System} {m : Mfn} {i : FrameInfo} (known : s.info m = some i) :
    s.ownerOf m = some i.owner := by
  simp [ownerOf, known]

theorem ownerOf_eq_some {s : System} {m : Mfn} {owner : DomId} :
    s.ownerOf m = some owner ↔ ∃ i, s.info m = some i ∧ i.owner = owner := by
  simp [ownerOf]

/-- A write that keeps the owner keeps every owner. -/
theorem ownerOf_setFrame {s : System} {m m' : Mfn} {i i' : FrameInfo}
    (known : s.info m = some i) (same : i'.owner = i.owner) :
    (s.setFrame m (.allocated i')).ownerOf m' = s.ownerOf m' := by
  unfold ownerOf
  rw [info_setFrame_of_info known]
  split_ifs with eq
  · subst eq
    simp [known, same]
  · rfl

theorem canAcquire_cases (s : System) (m : Mfn) (ty : Option PageType) :
    (∃ i, s.info m = some i ∧ s.canAcquire m ty = acquireAllocated i ty) ∨
      (s.info m = none ∧ ∃ e, s.canAcquire m ty = .error e) := by
  rw [info_eq]
  unfold canAcquire frame
  rcases s.frames[m.toNat]? with _ | (_ | i)
  · exact .inr ⟨rfl, _, rfl⟩
  · exact .inr ⟨rfl, _, rfl⟩
  · exact .inl ⟨i, rfl, rfl⟩

/-- The reference an acquire of this type takes. -/
def refOf : Option PageType → ChildRef
  | none => .bare
  | some ty => .typed ty

theorem acquireAllocated_ok_iff (i : FrameInfo) (ty : Option PageType) :
    acquireAllocated i ty = .ok () ↔ i.Accepts (refOf ty) := by
  rcases ty with _ | (_ | level)
  · simp only [acquireAllocated, Option.bind_none, refOf, FrameInfo.Accepts]
    split_ifs <;> simp <;> omega
  · simp only [acquireAllocated, Option.bind_some, typeConflict, typedCount, refOf,
      FrameInfo.Accepts]
    by_cases executable : 0 < i.executableRefs
    · simp [executable]
      omega
    · by_cases table : 0 < i.pagetableRefs
      · simp [executable, table]
        omega
      · simp only [executable, table, if_false]
        split_ifs <;> simp <;> omega
  · simp only [acquireAllocated, Option.bind_some, typeConflict, typedCount, refOf,
      FrameInfo.Accepts]
    by_cases conflict : 0 < i.writableRefs ∨ (0 < i.pagetableRefs ∧ i.ptLevel ≠ level)
    · simp only [conflict, if_true, reduceCtorEq, false_iff]
      rintro ⟨unwritten, levelled, -⟩
      rcases conflict with written | ⟨table, other⟩
      · omega
      · exact other (levelled table)
    · simp only [conflict, if_false]
      push Not at conflict
      have unwritten : i.writableRefs = 0 := by omega
      by_cases ofEntry : 2 ^ 32 ≤ i.refs + 1
      · simp only [ofEntry, if_true, reduceCtorEq, false_iff]
        omega
      · by_cases typedOver : 2 ^ 32 ≤ i.pagetableRefs + 1
        · simp only [ofEntry, typedOver, if_true, if_false, reduceCtorEq, false_iff]
          omega
        · simp only [ofEntry, typedOver, if_false, true_iff]
          exact ⟨unwritten, conflict.2, by omega, by omega⟩

theorem getChild_ok {s : System} {m : Mfn} {i : FrameInfo} {ref : ChildRef}
    (known : s.info m = some i) (accepted : i.Accepts ref) :
    getChild m ref s = (.ok (), s.setFrame m (.allocated (i.bump ref))) := by
  have acquire : ∀ ty, refOf ty = ref → s.canAcquire m ty = .ok () := by
    rintro ty rfl
    rcases canAcquire_cases s m ty with ⟨j, known', same⟩ | ⟨missing, -⟩
    · obtain rfl : j = i := by simpa [known] using known'.symm
      rw [same, acquireAllocated_ok_iff]
      exact accepted
    · simp [known] at missing
  rcases ref with _ | _ | ty
  · simp [getChild, get, acquire none rfl, allocated_of_info known, FrameInfo.bump]
  · obtain ⟨unwritten, room, room'⟩ := accepted
    simp only [getChild, getExec, Op.query_bind_apply, allocated_of_info known,
      Op.ensure_bind_apply, FrameInfo.bump, unwritten, decide_eq_true room, decide_eq_true room',
      decide_true, if_true]
    rfl
  · simp [getChild, getType, acquire (some ty) rfl, allocated_of_info known, FrameInfo.bump]

theorem getChild_error {s : System} {m : Mfn} {ref : ChildRef}
    (refused : ∀ i, s.info m = some i → ¬i.Accepts ref) :
    ∃ e, getChild m ref s = (.error e, s) := by
  have acquire : ∀ ty, refOf ty = ref → ∃ e, s.canAcquire m ty = .error e := by
    rintro ty rfl
    rcases canAcquire_cases s m ty with ⟨i, known, same⟩ | ⟨-, missing⟩
    · have bad := refused i known
      rw [← acquireAllocated_ok_iff, ← same] at bad
      cases outcome : s.canAcquire m ty with
      | error e => exact ⟨e, rfl⟩
      | ok u => exact absurd outcome bad
    · exact missing
  rcases ref with _ | _ | ty
  · obtain ⟨e, failed⟩ := acquire none rfl
    exact ⟨e, by simp [getChild, get, failed]⟩
  · rcases allocated_cases s m with ⟨i, known, found⟩ | ⟨-, e, failed⟩
    · have bad := refused i known
      simp only [FrameInfo.Accepts, not_and_or] at bad
      by_cases unwritten : i.writableRefs = 0
      · by_cases room : i.refs + 1 < 2 ^ 32
        · have full : ¬(i.executableRefs + 1 < 2 ^ 32) := by
            rcases bad with h | h | h
            exacts [absurd unwritten h, absurd room h, h]
          exact ⟨.overflow, by simp only [getChild, getExec, Op.query_bind_apply, found,
            Op.ensure_bind_apply, unwritten, room, full, decide_true, decide_false, if_true,
            Bool.false_eq_true, if_false]⟩
        · exact ⟨.overflow, by simp only [getChild, getExec, Op.query_bind_apply, found,
            Op.ensure_bind_apply, unwritten, room, decide_true, decide_false, if_true,
            Bool.false_eq_true, if_false]⟩
      · exact ⟨.wxConflict, by simp [getChild, getExec, found, unwritten]⟩
    · exact ⟨e, by simp [getChild, getExec, failed]⟩
  · obtain ⟨e, failed⟩ := acquire (some ty) rfl
    exact ⟨e, by simp [getChild, getType, failed]⟩

/-- An acquire takes its reference or leaves the frames alone. -/
theorem getChild_cases (s : System) (m : Mfn) (ref : ChildRef) :
    (∃ i, s.info m = some i ∧ i.Accepts ref ∧
        getChild m ref s = (.ok (), s.setFrame m (.allocated (i.bump ref)))) ∨
      ∃ e, getChild m ref s = (.error e, s) := by
  by_cases accepted : ∃ i, s.info m = some i ∧ i.Accepts ref
  · obtain ⟨i, known, accepted⟩ := accepted
    exact .inl ⟨i, known, accepted, getChild_ok known accepted⟩
  · exact .inr (getChild_error fun i known yes => accepted ⟨i, known, yes⟩)

/-- What a successful acquire did. -/
theorem getChild_of_ok {s s' : System} {m : Mfn} {ref : ChildRef}
    (ran : getChild m ref s = (.ok (), s')) :
    ∃ i, s.info m = some i ∧ i.Accepts ref ∧ s' = s.setFrame m (.allocated (i.bump ref)) := by
  rcases getChild_cases s m ref with ⟨i, known, accepted, took⟩ | ⟨e, failed⟩
  · exact ⟨i, known, accepted, by simpa [took] using ran.symm⟩
  · rw [failed] at ran
    cases ran

theorem holdsTyped_iff (i : FrameInfo) (ty : PageType) :
    holdsTyped i ty = true ↔ i.Returns (.typed ty) := by
  rcases ty with _ | level <;> simp [holdsTyped, FrameInfo.Returns]

theorem putChild_ok {s : System} {m : Mfn} {i : FrameInfo} {ref : ChildRef}
    (known : s.info m = some i) (returned : i.Returns ref) :
    putChild m ref s = (.ok (), s.setFrame m (.allocated (i.drop ref))) := by
  rcases ref with _ | _ | ty
  · obtain ⟨some', spare⟩ := returned
    simp [putChild, put, allocated_of_info known, FrameInfo.drop, some', spare]
  · simp [putChild, putExec, allocated_of_info known, FrameInfo.drop, show i.executableRefs ≠ 0
      from returned]
  · simp [putChild, putType, allocated_of_info known, FrameInfo.drop,
      (holdsTyped_iff i ty).mpr returned]

theorem putChild_error {s : System} {m : Mfn} {ref : ChildRef}
    (refused : ∀ i, s.info m = some i → ¬i.Returns ref) :
    ∃ e, putChild m ref s = (.error e, s) := by
  rcases allocated_cases s m with ⟨i, known, found⟩ | ⟨-, e, failed⟩
  · have bad := refused i known
    rcases ref with _ | _ | ty
    · by_cases none' : i.refs = 0
      · exact ⟨.wrongState, by simp [putChild, put, found, none']⟩
      · have tight : ¬(i.writableRefs + i.executableRefs + i.pagetableRefs ≤ i.refs - 1) :=
          fun spare => bad ⟨none', spare⟩
        exact ⟨.inUse, by simp [putChild, put, found, none', tight]⟩
    · have none' : i.executableRefs = 0 := by
        simpa only [FrameInfo.Returns, not_not] using bad
      exact ⟨.wrongState, by simp [putChild, putExec, found, none']⟩
    · have none' : holdsTyped i ty = false := by
        rw [← holdsTyped_iff] at bad
        simpa using bad
      exact ⟨.wrongState, by simp [putChild, putType, found, none']⟩
  · refine ⟨e, ?_⟩
    rcases ref with _ | _ | ty
    · simp [putChild, put, failed]
    · simp [putChild, putExec, failed]
    · simp [putChild, putType, failed]

/-- A release gives its reference back or leaves the frames alone. -/
theorem putChild_cases (s : System) (m : Mfn) (ref : ChildRef) :
    (∃ i, s.info m = some i ∧ i.Returns ref ∧
        putChild m ref s = (.ok (), s.setFrame m (.allocated (i.drop ref)))) ∨
      ∃ e, putChild m ref s = (.error e, s) := by
  by_cases returned : ∃ i, s.info m = some i ∧ i.Returns ref
  · obtain ⟨i, known, returned⟩ := returned
    exact .inl ⟨i, known, returned, putChild_ok known returned⟩
  · exact .inr (putChild_error fun i known yes => returned ⟨i, known, yes⟩)

/-- What a successful release did. -/
theorem putChild_of_ok {s s' : System} {m : Mfn} {ref : ChildRef}
    (ran : putChild m ref s = (.ok (), s')) :
    ∃ i, s.info m = some i ∧ i.Returns ref ∧ s' = s.setFrame m (.allocated (i.drop ref)) := by
  rcases putChild_cases s m ref with ⟨i, known, returned, gave⟩ | ⟨e, failed⟩
  · exact ⟨i, known, returned, by simpa [gave] using ran.symm⟩
  · rw [failed] at ran
    cases ran

end System

end Baleen.P2m
