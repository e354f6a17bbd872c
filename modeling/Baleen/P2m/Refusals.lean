import Baleen.P2m.Alike
import Baleen.P2m.Calls

/-!
# What an acquire returns

The outcome of taking a reference, in terms of the accounting of the frame.
-/

namespace Baleen

namespace P2m

theorem writable_of_entryChildRef {level : PtLevel} {leaf writable execute : Bool} {ref : ChildRef}
    (shape : entryChildRef level leaf writable execute = some ref) (asks : ref = .typed .writable) :
    writable = true := by
  subst asks
  cases level <;> cases leaf <;> cases writable <;> cases execute <;>
    simp_all [entryChildRef, PtLevel.interiorChildType]

end P2m

namespace P2m.System

variable {outside outside' : List Claim} {s t : System} {m : Mfn} {i j : FrameInfo}

theorem Pages.counted (pages : Pages outside s) (known : s.info m = some i) : i.Counted := by
  have total := (pages.balanced known).total_eq
  unfold FrameInfo.Counted
  omega

theorem acquireAllocated_cases (i : FrameInfo) (ty : Option PageType) :
    acquireAllocated i ty = .ok () ∨ acquireAllocated i ty = .error .typePinned ∨
      acquireAllocated i ty = .error .wxConflict ∨ acquireAllocated i ty = .error .overflow := by
  unfold acquireAllocated
  cases conflict : ty.bind (typeConflict i) with
  | some e =>
      obtain ⟨ty', -, conflict⟩ := Option.bind_eq_some_iff.mp conflict
      cases ty' <;> simp only [typeConflict] at conflict <;> split_ifs at conflict <;> simp_all
  | none =>
      dsimp only
      split_ifs
      · simp
      · cases ty with
        | none => exact .inl rfl
        | some ty =>
            dsimp only
            split_ifs <;> simp

theorem canAcquire_of_info (known : s.info m = some i) (ty : Option PageType) :
    s.canAcquire m ty = acquireAllocated i ty := by
  rcases canAcquire_cases s m ty with ⟨j, known', same⟩ | ⟨missing, -⟩
  · obtain rfl : i = j := by simpa [known] using known'
    exact same
  · rw [known] at missing
    cases missing

/-- What an acquire of this kind of reference returns. -/
def acquireResult (i : FrameInfo) : ChildRef → Except P2mError Unit
  | .bare => acquireAllocated i none
  | .exec =>
      if i.writableRefs ≠ 0 then .error .wxConflict
      else if 2 ^ 32 ≤ i.refs + 1 ∨ 2 ^ 32 ≤ i.executableRefs + 1 then .error .overflow
      else .ok ()
  | .typed ty => acquireAllocated i (some ty)

theorem getChild_outcome (known : s.info m = some i) (ref : ChildRef) :
    (getChild m ref s).1 = acquireResult i ref := by
  cases ref with
  | bare =>
      simp only [getChild, get, Op.query_bind_apply, canAcquire_of_info known,
        allocated_of_info known, acquireResult]
      cases acquireAllocated i none <;> rfl
  | exec =>
      simp only [getChild, getExec, Op.query_bind_apply, allocated_of_info known,
        Op.ensure_bind_apply, Op.modify_apply, acquireResult, decide_eq_true_eq]
      split_ifs <;> first | rfl | omega
  | typed ty =>
      simp only [getChild, getType, Op.query_bind_apply, canAcquire_of_info known,
        allocated_of_info known, acquireResult]
      cases acquireAllocated i (some ty) <;> rfl

theorem acquireResult_visible (same : i.visible = j.visible) (ref : ChildRef) :
    acquireResult i ref = acquireResult j ref := by
  cases ref with
  | bare => exact acquireAllocated_visible same none
  | exec =>
      obtain ⟨-, refs, writable, executable, -⟩ := FrameInfo.visible_iff.mp same
      simp only [acquireResult, refs, writable, executable]
  | typed ty => exact acquireAllocated_visible same (some ty)

theorem bump_visible (same : i.visible = j.visible) (ref : ChildRef) :
    (i.bump ref).visible = (j.bump ref).visible := by
  cases ref with
  | bare =>
      rw [FrameInfo.visible_iff] at same ⊢
      simpa [FrameInfo.bump] using same
  | exec =>
      rw [FrameInfo.visible_iff] at same ⊢
      simpa [FrameInfo.bump] using same
  | typed ty => exact addTyped_visible same ty

/-- Whether the type of the frame stands against an execute or an interior reference. -/
def refuses (i : FrameInfo) : ChildRef → Bool
  | .exec => i.writableRefs ≠ 0
  | .typed (.pageTable level) => (typeConflict i (.pageTable level)).isSome
  | _ => false

/-- The counts by kind are within the total, so only the total can overflow. -/
theorem acquireAllocated_of_counted (counted : i.Counted) (ty : Option PageType) :
    acquireAllocated i ty = (ty.bind (typeConflict i)).elim (acquireAllocated i none) .error := by
  unfold FrameInfo.Counted at counted
  cases conflict : ty.bind (typeConflict i) with
  | some e => simp only [acquireAllocated, conflict, Option.elim_some]
  | none =>
      simp only [acquireAllocated, conflict, Option.bind_none, Option.elim_none]
      split_ifs with full
      · rfl
      · cases ty with
        | none => rfl
        | some ty =>
            have within : typedCount i ty ≤ i.refs := by
              cases ty <;> simp only [typedCount] <;> omega
            simp only [show ¬2 ^ 32 ≤ typedCount i ty + 1 by omega, if_false]

theorem refuses_visible (same : i.visible = j.visible) (ref : ChildRef) :
    refuses i ref = refuses j ref := by
  rcases ref with _ | _ | (_ | level)
  · rfl
  · simp only [refuses, (FrameInfo.visible_iff.mp same).2.2.1]
  · rfl
  · simp only [refuses, typeConflict_visible same]

/-- The error of such a refusal. -/
def refusal : ChildRef → P2mError
  | .exec => .wxConflict
  | _ => .typePinned

theorem acquireAllocated_plain (i : FrameInfo) : acquireAllocated i none =
    if 2 ^ 32 ≤ i.refs + 1 then .error .overflow else .ok () := rfl

theorem plain_ne_refusal (i : FrameInfo) (ref : ChildRef) :
    acquireAllocated i none ≠ .error (refusal ref) := by
  rw [acquireAllocated_plain]
  split_ifs
  · rcases ref with _ | _ | _ <;> simp [refusal]
  · simp

/-- Apart from a writable reference, a frame refuses by its type or as it would refuse a
plain reference. -/
theorem acquireResult_eq (counted : i.Counted) {ref : ChildRef} (other : ref ≠ .typed .writable) :
    acquireResult i ref =
      if refuses i ref then .error (refusal ref) else acquireAllocated i none := by
  cases ref with
  | bare => rfl
  | exec =>
      unfold FrameInfo.Counted at counted
      simp only [acquireResult, refuses, refusal, acquireAllocated, Option.bind_none,
        decide_eq_true_eq]
      split_ifs <;> first | rfl | omega
  | typed ty =>
      cases ty with
      | writable => exact absurd rfl other
      | pageTable level =>
          rw [acquireResult, acquireAllocated_of_counted counted, refuses, Option.bind_some]
          by_cases conflict : 0 < i.writableRefs ∨ (0 < i.pagetableRefs ∧ i.ptLevel ≠ level)
          · simp only [typeConflict, conflict, if_true, Option.isSome_some, refusal,
              Option.elim_some]
          · simp only [typeConflict, conflict, if_false, Option.isSome_none, Bool.false_eq_true,
              Option.elim_none]

/-- Frames of which the outcomes of the plain and of the writable acquire are known to be
the same. -/
structure AcquireAlike (writable : Bool) (i j : FrameInfo) : Prop where
  plain : acquireAllocated i none = acquireAllocated j none
  written : writable = true →
    acquireAllocated i (some .writable) = acquireAllocated j (some .writable)

theorem AcquireAlike.of_visible (same : i.visible = j.visible) (writable : Bool) :
    AcquireAlike writable i j :=
  ⟨acquireAllocated_visible same none, fun _ => acquireAllocated_visible same _⟩

/-- Such frames differ at most in whether they refuse by their type. -/
theorem AcquireAlike.acquireResult {writable : Bool} (alike : AcquireAlike writable i j)
    (counted : i.Counted) (counted' : j.Counted) {ref : ChildRef}
    (written : ref = .typed .writable → writable = true) (same : refuses i ref = refuses j ref) :
    acquireResult i ref = acquireResult j ref := by
  by_cases asks : ref = .typed .writable
  · subst asks
    exact alike.written (written rfl)
  · rw [acquireResult_eq counted asks, acquireResult_eq counted' asks, same, alike.plain]

theorem takeParent_outcome (parent : Mfn) (level : PtLevel) (child : Mfn) (ref : ChildRef)
    (s : System) :
    (takeParent parent level child ref s).1 =
      (getChild parent (.typed (.pageTable level)) s).1 := by
  rw [takeParent, Op.attempt_bind_apply, getType_eq]
  cases (getChild parent (.typed (.pageTable level)) s).1 with
  | ok _ => rfl
  | error e => rfl

/-- What an install returns, from the accounting of the table and of the child. -/
def installResult (i j : FrameInfo) (level : PtLevel) (ref : ChildRef) (same : Bool) :
    Except P2mError Unit :=
  (acquireResult j ref).bind fun _ =>
    acquireResult (if same then j.bump ref else i) (.typed (.pageTable level))

theorem install_outcome {parent child : Mfn} {level : PtLevel} {ref : ChildRef} {l : Link}
    (known : s.info parent = some i) (childKnown : s.info child = some j) :
    ((getChild child ref >>= fun _ => takeParent parent level child ref >>= fun _ =>
        Op.modify (·.allocLink l)) s).1 = installResult i j level ref (child = parent) := by
  unfold installResult
  rw [← getChild_outcome childKnown ref]
  simp only [decide_eq_true_eq]
  match ran : getChild child ref s with
  | (.error e, s') =>
      rw [Op.bind_of_error ran]
      rfl
  | (.ok u, s') =>
      rw [Op.bind_of_ok ran]
      obtain ⟨j', childKnown', -, rfl⟩ := getChild_of_ok ran
      obtain rfl : j = j' := by simpa [childKnown] using childKnown'
      have after : (s.setFrame child (.allocated (j.bump ref))).info parent =
          some (if child = parent then j.bump ref else i) := by
        rw [info_setFrame_of_info childKnown]
        split_ifs
        · rfl
        · exact known
      have took := takeParent_outcome parent level child ref
        (s.setFrame child (.allocated (j.bump ref)))
      rw [getChild_outcome after] at took
      rw [← took]
      exact Op.outcome_then_modify _ _ _

/-- Installs into tables that show the same, with children that a plain and a writable
acquire treat the same: the outcome tells whether the child refuses by its type. -/
theorem installResult_eq_iff {i' j' : FrameInfo} {writable : Bool} {ref : ChildRef} {same : Bool}
    (counted : i.Counted) (childCounted : j.Counted) (childCounted' : j'.Counted)
    (tables : i.visible = i'.visible)
    (untyped : i.writableRefs = 0) (own : same = true → j.visible = j'.visible)
    (alike : AcquireAlike writable j j') (written : ref = .typed .writable → writable = true) :
    installResult i j i.ptLevel ref same = installResult i' j' i.ptLevel ref same ↔
      refuses j ref = refuses j' ref := by
  constructor
  · intro equal
    by_contra differ
    have apart : same = false := by
      by_contra own'
      exact differ (refuses_visible (own (by simpa using own')) ref)
    have asks : ref ≠ .typed .writable := by
      rintro rfl
      exact differ rfl
    have below : refuses i (.typed (.pageTable i.ptLevel)) = false := by
      simp [refuses, typeConflict, untyped]
    have table : acquireResult i (.typed (.pageTable i.ptLevel)) = acquireAllocated i none := by
      rw [acquireResult_eq counted (by simp), below]
      rfl
    -- Where only one child refuses, the other side returns what a plain acquire does.
    have clash : ∀ j : FrameInfo, ((acquireAllocated j none).bind fun _ =>
        acquireAllocated i none) ≠ .error (refusal ref) := by
      intro j
      have fine := plain_ne_refusal j ref
      revert fine
      cases acquireAllocated j none with
      | error e => exact id
      | ok u => exact fun _ => plain_ne_refusal i ref
    simp only [installResult, apart, Bool.false_eq_true, if_false,
      ← acquireResult_visible tables, table, acquireResult_eq childCounted asks,
      acquireResult_eq childCounted' asks] at equal
    cases here : refuses j ref <;> cases there : refuses j' ref <;>
      simp only [here, there, if_true, if_false, Bool.false_eq_true] at equal
    · exact differ (here.trans there.symm)
    · exact clash j equal
    · exact clash j' equal.symm
    · exact differ (here.trans there.symm)
  · intro equal
    have results := alike.acquireResult childCounted childCounted' written equal
    have table : (if same then j.bump ref else i).visible =
        (if same then j'.bump ref else i').visible := by
      split_ifs with here
      · exact bump_visible (own here) ref
      · exact tables
    unfold installResult
    rw [results]
    exact congrArg (acquireResult j' ref).bind (funext fun _ => acquireResult_visible table _)

section Owned

variable {α : Type} {caller : DomId} {x : FrameInfo → Op System P2mError α}

/-- The start of every call on a frame that must be its caller's. -/
def onOwned (caller : DomId) (m : Mfn) (x : FrameInfo → Op System P2mError α) :
    Op System P2mError α := do
  let i ← Op.query (·.allocated m)
  Op.ensure (fun _ => i.owner = caller) .notYours
  x i

theorem onOwned_own (known : s.info m = some i) (mine : i.owner = caller) :
    onOwned caller m x s = x i s := by
  simp [onOwned, allocated_of_info known, mine]

theorem onOwned_other (known : s.info m = some i) (other : i.owner ≠ caller) :
    (onOwned caller m x s).1 = .error .notYours := by
  simp [onOwned, allocated_of_info known, other]

theorem onOwned_none (missing : s.info m = none) : (onOwned caller m x s).1 =
    .error (if m.toNat < s.frameCount then .wrongState else .badFrame) := by
  have failed : s.allocated m =
      .error (if m.toNat < s.frameCount then .wrongState else .badFrame) := by
    unfold System.info at missing
    unfold System.allocated System.frame System.frameCount
    match found : s.frames[m.toNat]? with
    | none => simp [List.getElem?_eq_none_iff.mp found]
    | some .free => simp [(List.getElem?_eq_some_iff.mp found).1]
    | some (.allocated i) => simp [found] at missing
  simp [onOwned, failed]

end Owned

section Link

variable {caller : DomId} {parent child : Mfn} {slot : UInt32} {writable leaf execute : Bool}
  {ref : ChildRef}

/-- The reference that an entry of a table of `caller` takes on its child, if nothing before
that stands against it. -/
def entryRef (s : System) (caller : DomId) (parent : Mfn) (slot : UInt32) (child : Mfn)
    (writable leaf execute : Bool) : Option ChildRef :=
  (s.info parent).bind fun i =>
    if i.owner = caller ∧ s.currentType parent = some (.pageTable i.ptLevel) ∧
        s.isAllocated child ∧ (s.linkIndex parent slot).isNone then
      entryChildRef i.ptLevel leaf writable (execute && leaf)
    else none

def childRefuses (s : System) (child : Mfn) (ref : ChildRef) : Bool :=
  (s.info child).any fun i => refuses i ref

theorem entryRef_eq_some (known : s.info parent = some i) :
    s.entryRef caller parent slot child writable leaf execute = some ref ↔
      (i.owner = caller ∧ s.currentType parent = some (.pageTable i.ptLevel) ∧
          s.isAllocated child = true ∧ (s.linkIndex parent slot).isNone = true) ∧
        entryChildRef i.ptLevel leaf writable (execute && leaf) = some ref := by
  simp only [entryRef, known, Option.bind_some]
  split_ifs with free
  · simp only [free, and_self, true_and]
  · simp only [free, false_and]

/-- A link, from the check of the table's owner on. -/
def enter (parent : Mfn) (slot : UInt32) (child : Mfn) (writable leaf execute : Bool)
    (i : FrameInfo) : Op System P2mError Unit := do
  Op.ensure (fun s => s.currentType parent = some (.pageTable i.ptLevel)) .wrongState
  Op.ensure (·.isAllocated child) .wrongState
  Op.ensure (fun s => (s.linkIndex parent slot).isNone) .wrongState
  let ref ← Op.query fun _ =>
    match entryChildRef i.ptLevel leaf writable (execute && leaf) with
    | some ref => .ok ref
    | none => .error .wrongState
  getChild child ref
  takeParent parent i.ptLevel child ref
  Op.modify (·.allocLink ⟨true, parent, slot, child, writable, leaf, execute && leaf⟩)

theorem link_eq (caller : DomId) (parent : Mfn) (slot : UInt32) (child : Mfn)
    (writable leaf execute : Bool) : link caller parent slot child writable leaf execute =
      (Op.ensure (fun _ => slot.toNat < TABLE_SLOTS) .badSlot >>= fun _ =>
        Op.ensure (fun _ => !(writable && (execute && leaf))) .wxConflict >>= fun _ =>
          onOwned caller parent (enter parent slot child writable leaf execute)) := rfl

/-- Whatever stands against an entry before it takes a reference is answered alike. -/
theorem enter_of_none (known : s.info parent = some i) (mine : i.owner = caller)
    (stands : s.entryRef caller parent slot child writable leaf execute = none) :
    (enter parent slot child writable leaf execute i s).1 = .error .wrongState := by
  simp only [enter, Op.ensure_bind_apply, Op.query_bind_apply, decide_eq_true_eq]
  split_ifs with table present vacant
  · cases shape : entryChildRef i.ptLevel leaf writable (execute && leaf) with
    | none => rfl
    | some ref =>
        rw [(entryRef_eq_some known).mpr ⟨⟨mine, table, present, vacant⟩, shape⟩] at stands
        cases stands
  all_goals rfl

/-- From there on, an entry is refused by the child or by the table. -/
theorem enter_of_some (known : s.info parent = some i) (childKnown : s.info child = some j)
    (asked : s.entryRef caller parent slot child writable leaf execute = some ref) :
    (enter parent slot child writable leaf execute i s).1 =
      installResult i j i.ptLevel ref (child = parent) := by
  obtain ⟨⟨-, table, present, vacant⟩, shape⟩ := (entryRef_eq_some known).mp asked
  simp only [enter, Op.ensure_bind_apply, table, present, vacant, shape, decide_true, if_true,
    Op.query_bind_apply]
  exact install_outcome known childKnown

end Link

end P2m.System

end Baleen
