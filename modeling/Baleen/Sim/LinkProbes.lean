import Baleen.Sim.FrameProbes

/-!
# What a link tells its caller

A grant to the caller is part of its view, with whether its frame can be acquired.  A link
is therefore refused alike up to what it reads of a frame that the caller has consent for:
its type, and of others only whether they are allocated.
-/

namespace Baleen.Noninterference

open Evtchn (Port PortState)
open Grant (GrantRef Access)
open P2m (Mfn PageType FrameInfo P2mError)
open Hypervisor (Reachable Regular)

variable {hv s t : Hypervisor} {a : DomId}

theorem SamePorts.symm {e e' : Evtchn.System} (same : SamePorts a e e') : SamePorts a e' e :=
  ⟨same.count.symm, fun p => (same.chan p).symm⟩

theorem SamePages.symm {p p' : P2m.System} (same : SamePages a p p') : SamePages a p' p where
  frameCount := same.frameCount.symm
  owner m := (same.owner m).symm
  frames m mine := (same.frames m ((same.owner m).mp mine)).symm
  entries l mine := (same.entries l ((same.owner l.parent).mp mine)).symm

theorem SameView.symm (view : SameView a s t) : SameView a t s where
  alive := view.alive.symm
  ports := view.ports.symm
  rows r := (view.rows r).symm
  linked active := (view.linked ((view.rows _).trans active)).symm
  held := view.held.symm
  states v := (view.states v).symm
  pages := view.pages.symm
  mayCreate := view.mayCreate.symm
  controls b := (view.controls b).symm
  lives b := (view.lives b).symm
  invited other := (view.invited other).symm
  caps d r := (view.caps d r).symm
  devices dev := (view.devices dev).symm

/-- Equal counts over one entry, all of whose mappings `a` holds. -/
theorem counts_eq {g g' : Grant.System} (consistent : g.Consistent) (consistent' : g'.Consistent)
    (held : Grant.System.SameHeld a g g') {d : DomId} {r : GrantRef} {x y : Access}
    (active : g.grantEntry d r = some x) (active' : g'.grantEntry d r = some y)
    (mine : x.grantee = a) (mine' : y.grantee = a) :
    x.maps = y.maps ∧ x.writableMaps = y.writableMaps := by
  have grantee : ∀ {g : Grant.System} {x : Access}, g.Consistent → g.grantEntry d r = some x →
      x.grantee = a → ∀ m ∈ g.live, Grant.Mapping.ofEntry d r m = true → m.grantee = a := by
    intro g x consistent active mine m isLive ofEntry
    obtain ⟨rfl, rfl⟩ := Grant.System.ofEntry_iff.mp ofEntry
    obtain ⟨x', active'', addressed, -⟩ := consistent.backed isLive
    rw [active] at active''
    rw [← addressed, ← Option.some.inj active'', mine]
  have same : (g.live.filter (Grant.Mapping.ofEntry d r)).Perm
      (g'.live.filter (Grant.Mapping.ofEntry d r)) := by
    refine (List.perm_ext_iff_of_nodup ((List.Nodup.of_map _ consistent.names).filter _)
      ((List.Nodup.of_map _ consistent'.names).filter _)).mpr fun m => ?_
    rw [List.mem_filter, List.mem_filter]
    constructor
    · rintro ⟨isLive, ofEntry⟩
      exact ⟨(held m (grantee consistent active mine m isLive ofEntry)).mp isLive, ofEntry⟩
    · rintro ⟨isLive, ofEntry⟩
      exact ⟨(held m (grantee consistent' active' mine' m isLive ofEntry)).mpr isLive, ofEntry⟩
  obtain ⟨maps, writableMaps⟩ := consistent.counts active
  obtain ⟨maps', writableMaps'⟩ := consistent'.counts active'
  constructor
  · rw [maps, maps', List.countP_eq_length_filter, List.countP_eq_length_filter, same.length_eq]
  · have narrowed : ∀ l : List Grant.Mapping,
        (l.countP fun m => Grant.Mapping.ofEntry d r m && m.writable) =
          (l.filter (Grant.Mapping.ofEntry d r)).countP (·.writable) := by
      intro l
      rw [List.countP_filter]
      exact List.countP_congr fun m _ => by simp [and_comm]
    rw [writableMaps, writableMaps', narrowed, narrowed, same.countP_eq]

/-- The outcome of an acquire by the grantee, unless the grant is stale. -/
def capTag (hv : Hypervisor) (d : DomId) (frame : Mfn) (ty : Option PageType) : Nat :=
  if hv.p2m.ownerOf frame = some d then acquireTag hv frame ty else 0

theorem readCap_of_grantee {d : DomId} {r : GrantRef} {x : Access}
    (active : hv.grant.grantEntry d r = some x) (mine : x.grantee = a) :
    readCap hv a true d r = some [d.toNat, r.toNat, x.frame.toNat, x.readonly.toNat,
      (decide (hv.p2m.ownerOf x.frame = some d)).toNat, capTag hv d x.frame (some .writable),
      capTag hv d x.frame none] := by
  simp [readCap, active, mine, capTag]

/-- A grant to `a` is the same on both sides, as is whether it is stale; if it is not, its
frame is acquired with the same outcome. -/
theorem SameView.cap (view : SameView a s t) (regular : Regular s) (regular' : Regular t)
    {d : DomId} {r : GrantRef} {x : Access} (active : s.grant.grantEntry d r = some x)
    (mine : x.grantee = a) :
    t.grant.grantEntry d r = some x ∧
      (s.p2m.ownerOf x.frame = some d ↔ t.p2m.ownerOf x.frame = some d) ∧
      (s.p2m.ownerOf x.frame = some d →
        acquireTag s x.frame (some .writable) = acquireTag t x.frame (some .writable) ∧
          acquireTag s x.frame none = acquireTag t x.frame none) := by
  have cap := view.caps d r
  rw [readCap_of_grantee active mine] at cap
  have active' : ∃ y, t.grant.grantEntry d r = some y ∧ y.grantee = a := by
    unfold readCap at cap
    cases active' : t.grant.grantEntry d r with
    | none =>
        rw [active'] at cap
        cases cap
    | some y =>
        simp only [active'] at cap
        split_ifs at cap with mine'
        · exact ⟨y, rfl, mine'⟩
        · exact ⟨y, rfl, mine'⟩
  obtain ⟨y, active', mine'⟩ := active'
  obtain ⟨maps, writableMaps⟩ := counts_eq regular.memory.grants regular'.memory.grants view.held
    active active' mine mine'
  rw [readCap_of_grantee active' mine'] at cap
  simp only [Option.some.injEq, List.cons.injEq, true_and, and_true, UInt32.toNat_inj,
    Enumerate.bool_toNat_injective.eq_iff, decide_eq_decide] at cap
  obtain ⟨frame, readonly, owns, written, plain⟩ := cap
  obtain rfl : x = y := by
    cases x
    cases y
    simp_all
  refine ⟨active', owns, fun owned => ?_⟩
  simp only [capTag, owned, owns.mp owned, if_true] at written plain
  exact ⟨written, plain⟩

/-- An allocated frame refuses for three reasons, which the tag keeps apart. -/
theorem acquireTag_cancel {m : Mfn} {ty : Option PageType} {i j : FrameInfo}
    (known : s.p2m.info m = some i) (known' : t.p2m.info m = some j)
    (same : acquireTag s m ty = acquireTag t m ty) :
    P2m.System.acquireAllocated i ty = P2m.System.acquireAllocated j ty := by
  unfold acquireTag at same
  rw [P2m.System.canAcquire_of_info known, P2m.System.canAcquire_of_info known'] at same
  rcases P2m.System.acquireAllocated_cases i ty with here | here | here | here <;>
    rcases P2m.System.acquireAllocated_cases j ty with there | there | there | there <;>
    rw [here, there] at same ⊢ <;> cases same

/-- Whether an entry of `caller` onto the frame has its owner's consent, or the frame no owner. -/
def consents (hv : Hypervisor) (caller : DomId) (child : Mfn) (writable : Bool) : Bool :=
  match hv.p2m.ownerOf child with
  | some owner => owner = caller || hv.grant.authorizes owner caller child writable
  | none => true

/-- Consent to `a` is shown to it, with the owner and the outcome of an acquire. -/
theorem SameView.consented (view : SameView a s t) (regular : Regular s) (regular' : Regular t)
    {child : Mfn} {writable : Bool} {i : FrameInfo} (known : s.p2m.info child = some i)
    (consent : consents s a child writable = true) :
    ∃ j, t.p2m.info child = some j ∧ consents t a child writable = true ∧
      P2m.System.AcquireAlike writable i j := by
  have owned : s.p2m.ownerOf child = some i.owner := P2m.System.ownerOf_of_info known
  unfold consents at consent ⊢
  simp only [owned, Bool.or_eq_true, decide_eq_true_eq] at consent
  rcases consent with mine | granted
  · have owned' := (view.pages.owner child).mpr (mine ▸ owned)
    obtain ⟨j, known', -⟩ := P2m.System.ownerOf_eq_some.mp owned'
    refine ⟨j, known', by simp [owned'], ?_⟩
    exact P2m.System.AcquireAlike.of_visible (view.pages.visible known known' mine) writable
  · obtain ⟨r, x, active, mine, rfl, permitted⟩ :=
      regular.memory.grants.authorizes_iff.mp granted
    obtain ⟨active', owns, acquires⟩ := view.cap regular regular' active mine
    have owned' := owns.mp owned
    obtain ⟨j, known', -⟩ := P2m.System.ownerOf_eq_some.mp owned'
    refine ⟨j, known', ?_, ?_⟩
    · simp only [owned', Bool.or_eq_true]
      exact .inr (regular'.memory.grants.authorizes_iff.mpr ⟨r, x, active', mine, rfl, permitted⟩)
    · obtain ⟨written, plain⟩ := acquires owned
      exact ⟨acquireTag_cancel known known' plain, fun _ => acquireTag_cancel known known' written⟩

theorem SameView.consents_iff (view : SameView a s t) (regular : Regular s) (regular' : Regular t)
    (child : Mfn) (writable : Bool) : consents s a child writable = consents t a child writable ↔
      s.p2m.isAllocated child = t.p2m.isAllocated child := by
  have unowned : ∀ {hv : Hypervisor}, hv.p2m.info child = none →
      consents hv a child writable = true := by
    intro hv missing
    simp [consents, P2m.System.ownerOf, missing]
  unfold P2m.System.isAllocated
  cases here : s.p2m.info child with
  | none =>
      cases there : t.p2m.info child with
      | none => simp [unowned here, unowned there]
      | some j =>
          have refused : consents t a child writable = false := by
            by_contra consent
            obtain ⟨i, known, -⟩ :=
              view.symm.consented regular' regular there (by simpa using consent)
            rw [here] at known
            cases known
          simp [unowned here, refused]
  | some i =>
      cases there : t.p2m.info child with
      | none =>
          have refused : consents s a child writable = false := by
            by_contra consent
            obtain ⟨j, known, -⟩ := view.consented regular regular' here (by simpa using consent)
            rw [there] at known
            cases known
          simp [unowned there, refused]
      | some j =>
          simp only [Option.isSome_some, iff_true]
          rw [Bool.eq_iff_iff]
          constructor
          · intro consent
            obtain ⟨_, -, consent', -⟩ := view.consented regular regular' here consent
            exact consent'
          · intro consent
            obtain ⟨_, -, consent', -⟩ := view.symm.consented regular' regular there consent
            exact consent'

/-- The outcome of a call on frames as the dispatch returns it. -/
def p2mDone (r : Except P2mError Unit) : Except HvError HvOutcome :=
  (r.mapError .p2m).map fun _ => .done

theorem p2mDone_injective : Function.Injective p2mDone := by
  rintro (e | u) (e' | u') same
  · have same : HvError.p2m e = .p2m e' := Except.error.inj same
    rw [HvError.p2m.inj same]
  · cases same
  · cases same
  · rfl

theorem p2mDone_outcome (x : Op P2m.System P2mError Unit) (hv : Hypervisor) :
    ((Hypervisor.onP2m x >>= fun _ => (pure .done : Op Hypervisor HvError HvOutcome)) hv).1 =
      p2mDone (x hv.p2m).1 := Op.outcome_zoom_return hv

theorem SameView.p2mLink_outcome_iff (view : SameView a s t) (regular : Regular s)
    (regular' : Regular t) (parent : Mfn) (slot : UInt32) (child : Mfn)
    (writable leaf execute : Bool) :
    (Hypervisor.p2mLink a parent slot child writable leaf execute s).1 =
        (Hypervisor.p2mLink a parent slot child writable leaf execute t).1 ↔
      s.p2m.isAllocated child = t.p2m.isAllocated child ∧
        (consents s a child writable = true → slot.toNat < P2m.TABLE_SLOTS →
          (writable && (execute && leaf)) = false →
            s.p2m.isAllocated parent = t.p2m.isAllocated parent ∧
              ∀ ref, s.p2m.entryRef a parent slot child writable leaf execute = some ref →
                s.p2m.childRefuses child ref = t.p2m.childRefuses child ref) := by
  rw [← view.consents_iff regular regular' child writable]
  have start : ∀ hv : Hypervisor, Hypervisor.p2mLink a parent slot child writable leaf execute hv =
      (Op.ensure (fun hv => consents hv a child writable) .unauthorized >>= fun _ =>
        Hypervisor.onP2m (P2m.System.link a parent slot child writable leaf execute) >>= fun _ =>
          pure .done) hv := fun _ => rfl
  have fresh : ∀ r, p2mDone r ≠ .error .unauthorized := by
    rintro (e | u) <;> simp [p2mDone, Except.mapError, Except.map]
  rw [start, start, Op.outcome_fresh_ensure_iff (by rw [p2mDone_outcome]; exact fresh _)
    (by rw [p2mDone_outcome]; exact fresh _), p2mDone_outcome, p2mDone_outcome]
  refine and_congr_right fun same => imp_congr_right fun consent => ?_
  rw [p2mDone_injective.eq_iff]
  have present := (view.consents_iff regular regular' child writable).mp same
  refine view.pages.link_outcome_iff regular.memory.pages regular'.memory.pages parent slot leaf
    execute present fun i j known known' => ?_
  obtain ⟨j', known'', -, alike⟩ := view.consented regular regular' known consent
  obtain rfl : j = j' := by simpa [known'] using known''
  exact alike

end Baleen.Noninterference
