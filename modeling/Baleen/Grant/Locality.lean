import Baleen.Grant.Teardown
import Baleen.Grant.Alike

/-!
# What a domain's handles depend on

Runs of the grant tables alone, and two runs side by side in which one domain does the
same.  The domain's handles and unmaps come out the same, whatever the other domains do in
either run.
-/

namespace Baleen.Grant

/-- The calls that change the tables. -/
inductive GrantCall where
  | grantAccess (grantor : DomId) (gref : GrantRef) (grantee : DomId) (frame : Frame)
      (readonly : Bool)
  | endAccess (grantor : DomId) (gref : GrantRef)
  | map (grantee grantor : DomId) (gref : GrantRef) (writable : Bool)
  | unmap (grantee : DomId) (handle : GrantHandle)
  | drainMapsOf (grantee : DomId)
  | drainForeignMapsOf (target : DomId)
  | revokeAll (grantor : DomId)
  | revokeGrantsTo (grantee : DomId)
  deriving DecidableEq, Repr

namespace System

def perform (s : System) : GrantCall → System
  | .grantAccess grantor gref grantee frame readonly =>
      (grantAccess grantor gref grantee frame readonly s).2
  | .endAccess grantor gref => (endAccess grantor gref s).2
  | .map grantee grantor gref writable => (map grantee grantor gref writable s).2
  | .unmap grantee handle => (unmap grantee handle s).2
  | .drainMapsOf grantee => (drainMapsOf grantee s).2
  | .drainForeignMapsOf target => (drainForeignMapsOf target s).2
  | .revokeAll grantor => (revokeAll grantor s).2
  | .revokeGrantsTo grantee => (revokeGrantsTo grantee s).2

/-- The live mappings that a domain holds. -/
def heldBy (s : System) (d : DomId) : List Mapping := s.live.filter fun m => m.grantee = d

/-- No domain holds as many live mappings as there are handles. -/
def Few (s : System) : Prop := ∀ d, (s.heldBy d).length < 2 ^ 32

/-- The runs in which no domain ever holds `2 ^ 32` live mappings. -/
inductive Reached : System → Prop where
  | new (numDomains entriesPerDomain : Nat) : Reached (new numDomains entriesPerDomain)
  | perform {s : System} (call : GrantCall) : Reached s → Few (s.perform call) →
      Reached (s.perform call)

variable {s s' t : System} {d : DomId}

/-- Withdrawing entries, where a refusal is passed over. -/
theorem revoke_keeps {ι : Type} (consistent : s.Consistent) (slot : ι → DomId × GrantRef)
    (test : Access → Bool) (items : List ι) :
    (Op.sweep (revokeStep slot test) items s).2.Consistent ∧
      (Op.sweep (revokeStep slot test) items s).2.maps = s.maps := by
  have keeps : ∀ i ∈ items, ∀ s₁ r s₂, s₁.Consistent ∧ s₁.maps = s.maps →
      revokeStep slot test i s₁ = some (r, s₂) → (s₂.Consistent ∧ s₂.maps = s.maps) ∧ True := by
    intro i _ s₁ r s₂ holds ran
    refine ⟨?_, trivial⟩
    unfold revokeStep at ran
    split_ifs at ran
    have last : s₂ = (endAccess (slot i).1 (slot i).2 s₁).2 :=
      congrArg Prod.snd (Option.some_inj.mp ran).symm
    rcases endAccess_cases s₁ (slot i).1 (slot i).2 with
      ⟨a, active, unmapped, done⟩ | ⟨-, e, failed⟩
    · rw [last, done]
      exact ⟨holds.1.endAccess active unmapped, holds.2⟩
    · rw [last, failed]
      exact holds
  exact (Op.sweep_keeps keeps ⟨consistent, rfl⟩).1

theorem revokeAll_keeps (consistent : s.Consistent) (grantor : DomId) :
    (revokeAll grantor s).2.Consistent ∧ (revokeAll grantor s).2.maps = s.maps := by
  rw [revokeAll_eq]
  exact revoke_keeps consistent _ _ _

theorem revokeGrantsTo_keeps (consistent : s.Consistent) (grantee : DomId) :
    (revokeGrantsTo grantee s).2.Consistent ∧ (revokeGrantsTo grantee s).2.maps = s.maps := by
  rw [revokeGrantsTo_eq]
  exact revoke_keeps consistent _ _ _

theorem drainMapsOf_drained (consistent : s.Consistent) (grantee : DomId) :
    Drained (fun m => m.grantee = grantee) s (drainMapsOf grantee s).2 := by
  rw [drainMapsOf_eq]
  exact (drain_filter consistent _).2.2.congr fun m => decide_eq_true_iff

theorem drainForeignMapsOf_drained (consistent : s.Consistent) (target : DomId) :
    Drained (fun m => m.grantor = target ∧ m.grantee ≠ target) s
      (drainForeignMapsOf target s).2 := by
  rw [drainForeignMapsOf_eq]
  exact (drain_filter consistent _).2.2.congr fun m => by simp

theorem Consistent.perform (consistent : s.Consistent) (call : GrantCall) :
    (s.perform call).Consistent := by
  cases call with
  | grantAccess grantor gref grantee frame readonly =>
      rcases grantAccess_cases s grantor gref grantee frame readonly with
        ⟨known, free, done⟩ | ⟨e, failed⟩
      · simp only [System.perform, done]
        exact consistent.grantAccess known free
      · simpa only [System.perform, failed] using consistent
  | endAccess grantor gref =>
      rcases endAccess_cases s grantor gref with ⟨a, active, unmapped, done⟩ | ⟨-, e, failed⟩
      · simp only [System.perform, done]
        exact consistent.endAccess active unmapped
      · simpa only [System.perform, failed] using consistent
  | map grantee grantor gref writable =>
      rcases map_cases s grantee grantor gref writable with
        ⟨a, s', -, addressed, permitted, done, mapped⟩ | ⟨e, failed⟩
      · simp only [System.perform, done]
        exact consistent.map addressed permitted mapped
      · simpa only [System.perform, failed] using consistent
  | unmap grantee handle =>
      rcases unmap_cases consistent grantee handle with
        ⟨m, a, s', -, -, done, released⟩ | ⟨-, e, failed⟩
      · simp only [System.perform, done]
        exact released.consistent consistent
      · simpa only [System.perform, failed] using consistent
  | drainMapsOf grantee => exact (drainMapsOf_drained consistent grantee).consistent
  | drainForeignMapsOf target => exact (drainForeignMapsOf_drained consistent target).consistent
  | revokeAll grantor => exact (revokeAll_keeps consistent grantor).1
  | revokeGrantsTo grantee => exact (revokeGrantsTo_keeps consistent grantee).1

theorem Reached.consistent (reached : Reached s) : s.Consistent := by
  induction reached with
  | new numDomains entriesPerDomain => exact Consistent.new numDomains entriesPerDomain
  | perform call _ _ ih => exact ih.perform call

theorem Reached.few (reached : Reached s) : Few s := by
  cases reached with
  | new numDomains entriesPerDomain =>
      intro d
      simp [heldBy, System.new, live]
  | perform call _ few => exact few

/-- The numbers below the free handle are all in use, so there are no more than mappings. -/
theorem freeHandle_le_held (s : System) (d : DomId) : s.freeHandle d ≤ (s.heldBy d).length := by
  have used : List.range (s.freeHandle d) ⊆ (s.heldBy d).map (·.handle) := by
    intro h member
    obtain ⟨m, isLive, name⟩ := freeHandle_least (List.mem_range.mp member)
    refine List.mem_map.mpr ⟨m, List.mem_filter.mpr ⟨isLive, ?_⟩, congrArg Prod.snd name⟩
    exact decide_eq_true (congrArg Prod.fst name)
  have bound := (List.subperm_of_subset List.nodup_range used).length_le
  rwa [List.length_range, List.length_map] at bound

/-- The least handle that no live mapping of the domain has. -/
structure LeastFree (s : System) (d : DomId) (handle : GrantHandle) : Prop where
  free : ∀ m ∈ s.live, m.name ≠ (d, handle)
  least : ∀ h < handle, ∃ m ∈ s.live, m.name = (d, h)

theorem leastFree_freeHandle (s : System) (d : DomId) : LeastFree s d (s.freeHandle d) :=
  ⟨fun _ isLive => freeHandle_fresh s d isLive, fun _ below => freeHandle_least below⟩

theorem map_handle {grantor : DomId} {gref : GrantRef} {writable : Bool} {handle : GrantHandle}
    (mapped : (map d grantor gref writable s).1 = .ok handle) : handle = s.freeHandle d := by
  rcases map_cases s d grantor gref writable with ⟨a, s', -, -, -, done, -⟩ | ⟨e, failed⟩
  · rw [done] at mapped
    exact (Except.ok.inj mapped).symm
  · rw [failed] at mapped
    cases mapped

/-- The domain holds the same mappings, wherever they are stored. -/
def SameHeld (d : DomId) (s t : System) : Prop :=
  ∀ m : Mapping, m.grantee = d → (m ∈ s.live ↔ m ∈ t.live)

namespace SameHeld

theorem symm (same : SameHeld d s t) : SameHeld d t s := fun m mine => (same m mine).symm

theorem trans {u : System} (first : SameHeld d s t) (second : SameHeld d t u) :
    SameHeld d s u := fun m mine => (first m mine).trans (second m mine)

theorem freeHandle_le (same : SameHeld d s t) : s.freeHandle d ≤ t.freeHandle d := by
  by_contra above
  obtain ⟨m, isLive, name⟩ := freeHandle_least (Nat.lt_of_not_le above)
  have there := (same m (congrArg Prod.fst name)).mp isLive
  exact freeHandle_fresh t d there name

theorem freeHandle (same : SameHeld d s t) : s.freeHandle d = t.freeHandle d :=
  Nat.le_antisymm same.freeHandle_le same.symm.freeHandle_le

/-- The same mapping, stored in both. -/
theorem insert (same : SameHeld d s t) {m : Mapping} (active : m.active = true) :
    SameHeld d { s with maps := Slab.insert (·.active) s.maps m }
      { t with maps := Slab.insert (·.active) t.maps m } := by
  intro m' mine
  have joined (u : System) :
      m' ∈ live { u with maps := Slab.insert (·.active) u.maps m } ↔ m' = m ∨ m' ∈ u.live := by
    have perm := @Slab.live_insert_perm _ _ u.maps _ active
    exact perm.mem_iff.trans List.mem_cons
  rw [joined, joined, same m' mine]

theorem map_agree (same : SameHeld d s t) {grantor : DomId} {gref : GrantRef}
    (entry : s.entry grantor gref = t.entry grantor gref) (writable : Bool) :
    Op.Agree (SameHeld d) (SameHeld d) (map d grantor gref writable s)
      (map d grantor gref writable t) := by
  refine Op.agree_query entry same fun e _ => ?_
  cases e with
  | free => exact .error same
  | access a =>
      refine Op.agree_ensure rfl same fun _ => Op.agree_ensure rfl same fun _ => ?_
      refine Op.agree_query rfl same fun counts _ => ?_
      let entered (u : System) := u.setEntry grantor gref
        (.access { a with maps := counts.1, writableMaps := counts.2 })
      have counted : SameHeld d (entered s) (entered t) := same
      have handle := counted.freeHandle
      simp only [entered] at handle
      simp only [Op.modify_bind_apply, allocHandle, Op.read_bind_apply, Op.pure_apply]
      rw [handle]
      exact .ok (counted.insert rfl)

end SameHeld

theorem Released.mem_live_iff {m : Mapping} {a : Access} (released : Released m a s s')
    (consistent : s.Consistent) (m' : Mapping) : m' ∈ s'.live ↔ m' ∈ s.live ∧ m' ≠ m := by
  have distinct := (released.live_perm.map Mapping.name).nodup_iff.mp consistent.names
  have gone : m ∉ s'.live := fun again =>
    (List.nodup_cons.mp distinct).1 (List.mem_map_of_mem again)
  rw [released.live_perm.mem_iff, List.mem_cons]
  constructor
  · intro remains
    exact ⟨.inr remains, fun same => gone (same ▸ remains)⟩
  · rintro ⟨here | remains, other⟩
    · exact absurd here other
    · exact remains

theorem unmap_unnamed {handle : GrantHandle} (absent : ∀ m ∈ s.live, m.name ≠ (d, handle)) :
    unmap d handle s = (.error .badHandle, s) := by
  have search : s.maps.findIdx? (named d handle) = none := by
    rw [List.findIdx?_eq_none_iff]
    intro m stored
    by_contra isNamed
    obtain ⟨active, name⟩ := named_iff.mp (Bool.of_not_eq_false isNamed)
    exact absent m (mem_live_iff.mpr ⟨stored, active⟩) name
  simp [unmap, search]

/-- The entry under the mapping that a handle names. -/
def SameUnder (d : DomId) (handle : GrantHandle) (s t : System) : Prop :=
  ∀ m ∈ s.live, m.name = (d, handle) → s.entry m.grantor m.gref = t.entry m.grantor m.gref

theorem grantEntry_of_entry {grantor : DomId} {gref : GrantRef}
    (entry : s.entry grantor gref = t.entry grantor gref) :
    s.grantEntry grantor gref = t.grantEntry grantor gref := by
  rcases entry_cases s grantor gref with ⟨e, found, ok⟩ | ⟨missing, e, failed⟩
  · rcases entry_cases t grantor gref with ⟨e', found', ok'⟩ | ⟨-, e', failed'⟩
    · rw [ok, ok'] at entry
      cases entry
      unfold grantEntry
      rw [found, found']
    · rw [ok, failed'] at entry
      cases entry
  · rcases entry_cases t grantor gref with ⟨e', -, ok'⟩ | ⟨missing', -⟩
    · rw [failed, ok'] at entry
      cases entry
    · unfold grantEntry
      rw [missing, missing']

theorem SameHeld.unmap_agree (same : SameHeld d s t) (consistent : s.Consistent)
    (consistent' : t.Consistent) {handle : GrantHandle} (under : SameUnder d handle s t) :
    Op.Agree (SameHeld d) (SameHeld d) (unmap d handle s) (unmap d handle t) := by
  by_cases isNamed : ∃ m ∈ s.live, m.name = (d, handle)
  · obtain ⟨m, isLive, name⟩ := isNamed
    have mine : m.grantee = d := congrArg Prod.fst name
    have numbered : m.handle = handle := congrArg Prod.snd name
    obtain ⟨a, s', done, released⟩ := unmap_ok consistent isLive
    obtain ⟨b, t', done', released'⟩ := unmap_ok consistent' ((same m mine).mp isLive)
    have shown := grantEntry_of_entry (under m isLive name)
    rw [released.active, released'.active] at shown
    obtain rfl := Option.some_inj.mp shown
    rw [mine, numbered] at done done'
    rw [done, done']
    refine .ok fun m' mine' => ?_
    rw [released.mem_live_iff consistent, released'.mem_live_iff consistent', same m' mine']
  · have absent : ∀ m ∈ s.live, m.name ≠ (d, handle) :=
      fun m isLive name => isNamed ⟨m, isLive, name⟩
    have absent' : ∀ m ∈ t.live, m.name ≠ (d, handle) := fun m isLive name =>
      absent m ((same m (congrArg Prod.fst name)).mpr isLive) name
    rw [unmap_unnamed absent, unmap_unnamed absent']
    exact .error same

theorem handleSlots_le {n : Nat} :
    s.handleSlots d ≤ n ↔ ∀ m ∈ s.live, m.grantee = d → m.handle < n := by
  have fold : ∀ (hs : List Nat) (top : Nat), hs.foldl max top ≤ n ↔ top ≤ n ∧ ∀ h ∈ hs, h ≤ n := by
    intro hs
    induction hs with
    | nil => simp
    | cons h hs ih =>
        intro top
        simp only [List.foldl_cons, ih, max_le_iff, List.forall_mem_cons, and_assoc]
  unfold handleSlots
  rw [fold, and_iff_right (Nat.zero_le n), List.forall_mem_map]
  simp only [List.mem_filter, Bool.and_eq_true, decide_eq_true_eq, and_imp, mem_live_iff,
    Nat.succ_le_iff]

theorem handleSlots_congr (held : ∀ m : Mapping, m.grantee = d → (m ∈ s'.live ↔ m ∈ s.live)) :
    s'.handleSlots d = s.handleSlots d := by
  refine eq_of_forall_ge_iff fun n => ?_
  rw [handleSlots_le, handleSlots_le]
  constructor
  · exact fun bound m isLive mine => bound m ((held m mine).mpr isLive) mine
  · exact fun bound m isLive mine => bound m ((held m mine).mp isLive) mine

theorem lt_handleSlots {m : Mapping} (isLive : m ∈ s.live) : m.handle < s.handleSlots m.grantee :=
  handleSlots_le.mp le_rfl m isLive rfl

/-- A handle of a domain names at most one live mapping. -/
theorem mappingAt_eq_some (consistent : s.Consistent) {h : GrantHandle}
    {x : DomId × GrantRef × Bool} :
    s.mappingAt d h = some x ↔
      ∃ m ∈ s.live, m.name = (d, h) ∧ (m.grantor, m.gref, m.writable) = x := by
  unfold mappingAt
  rw [Option.map_eq_some_iff]
  constructor
  · rintro ⟨m, found, same⟩
    obtain ⟨active, named⟩ := named_iff.mp (List.find?_some found)
    exact ⟨m, mem_live_iff.mpr ⟨List.mem_of_find?_eq_some found, active⟩, named, same⟩
  · rintro ⟨m, isLive, named, same⟩
    obtain ⟨stored, active⟩ := mem_live_iff.mp isLive
    cases found : s.maps.find? (System.named d h) with
    | none =>
        have absent := List.find?_eq_none.mp found m stored
        exact absurd (named_iff.mpr ⟨active, named⟩) absent
    | some m' =>
        obtain ⟨active', named'⟩ := named_iff.mp (List.find?_some found)
        have isLive' := mem_live_iff.mpr ⟨List.mem_of_find?_eq_some found, active'⟩
        have one := List.inj_on_of_nodup_map consistent.names isLive' isLive
          (named'.trans named.symm)
        exact ⟨m', rfl, one ▸ same⟩

theorem mappingAt_congr (consistent : s.Consistent) (consistent' : s'.Consistent)
    (held : ∀ m : Mapping, m.grantee = d → (m ∈ s'.live ↔ m ∈ s.live)) (h : GrantHandle) :
    s'.mappingAt d h = s.mappingAt d h := by
  refine Option.ext fun x => ?_
  rw [mappingAt_eq_some consistent, mappingAt_eq_some consistent']
  constructor
  · rintro ⟨m, isLive, named, same⟩
    exact ⟨m, (held m (congrArg Prod.fst named)).mp isLive, named, same⟩
  · rintro ⟨m, isLive, named, same⟩
    exact ⟨m, (held m (congrArg Prod.fst named)).mpr isLive, named, same⟩

/-- A call that leaves the mappings of `d` alone. -/
def Spares (d : DomId) (s : System) : GrantCall → Prop
  | .map grantee _ _ _ => grantee ≠ d
  | .unmap grantee _ => grantee ≠ d
  | .drainMapsOf grantee => grantee ≠ d
  | .drainForeignMapsOf target => ∀ m ∈ s.live, m.grantee = d → m.grantor = target → d = target
  | .grantAccess .. => True
  | .endAccess .. => True
  | .revokeAll .. => True
  | .revokeGrantsTo .. => True

theorem sameHeld_of_spares (consistent : s.Consistent) {call : GrantCall}
    (spares : Spares d s call) : SameHeld d (s.perform call) s := by
  intro m mine
  cases call with
  | grantAccess grantor gref grantee frame readonly =>
      rcases grantAccess_cases s grantor gref grantee frame readonly with
        ⟨-, -, done⟩ | ⟨e, failed⟩
      · simp only [perform, done, live_setEntry]
      · simp only [perform, failed]
  | endAccess grantor gref =>
      rcases endAccess_cases s grantor gref with ⟨a, -, -, done⟩ | ⟨-, e, failed⟩
      · simp only [perform, done, live_setEntry]
      · simp only [perform, failed]
  | map grantee grantor gref writable =>
      rcases map_cases s grantee grantor gref writable with
        ⟨a, s', -, -, -, done, mapped⟩ | ⟨e, failed⟩
      · simp only [perform, done]
        rw [mapped.live_perm.mem_iff, List.mem_cons, or_iff_right]
        rintro rfl
        exact spares mine
      · simp only [perform, failed]
  | unmap grantee handle =>
      rcases unmap_cases consistent grantee handle with
        ⟨m', a, s', -, name, done, released⟩ | ⟨-, e, failed⟩
      · simp only [perform, done]
        rw [released.mem_live_iff consistent, and_iff_left]
        rintro rfl
        exact spares ((congrArg Prod.fst name).symm.trans mine)
      · simp only [perform, failed]
  | drainMapsOf grantee =>
      simp only [perform]
      rw [(drainMapsOf_drained consistent grantee).live, and_iff_left]
      exact fun theirs => spares (theirs.symm.trans mine)
  | drainForeignMapsOf target =>
      simp only [perform]
      rw [(drainForeignMapsOf_drained consistent target).live, and_iff_left_iff_imp]
      rintro isLive ⟨offers, foreign⟩
      exact foreign (mine.trans (spares m isLive mine offers))
  | revokeAll grantor =>
      simp only [perform, live, (revokeAll_keeps consistent grantor).2]
  | revokeGrantsTo grantee =>
      simp only [perform, live, (revokeGrantsTo_keeps consistent grantee).2]

/-- The calls that concern `d`, with what they name the same in both states. -/
inductive Concerns (d : DomId) (s t : System) : GrantCall → Prop where
  | map (grantor : DomId) (gref : GrantRef) (writable : Bool) :
      s.entry grantor gref = t.entry grantor gref → Concerns d s t (.map d grantor gref writable)
  | unmap (handle : GrantHandle) : SameUnder d handle s t → Concerns d s t (.unmap d handle)
  | drainMapsOf : Concerns d s t (.drainMapsOf d)
  | drainForeignMapsOf (target : DomId) : Concerns d s t (.drainForeignMapsOf target)

theorem SameHeld.perform (same : SameHeld d s t) (consistent : s.Consistent)
    (consistent' : t.Consistent) {call : GrantCall} (concerns : Concerns d s t call) :
    SameHeld d (s.perform call) (t.perform call) := by
  cases concerns with
  | map grantor gref writable entry => exact (same.map_agree entry writable).state
  | unmap handle under => exact (same.unmap_agree consistent consistent' under).state
  | drainMapsOf =>
      intro m mine
      simp only [System.perform]
      rw [(drainMapsOf_drained consistent d).live, (drainMapsOf_drained consistent' d).live,
        same m mine]
  | drainForeignMapsOf target =>
      intro m mine
      simp only [System.perform]
      rw [(drainForeignMapsOf_drained consistent target).live,
        (drainForeignMapsOf_drained consistent' target).live, same m mine]

/-- Two runs from states that agree on what `d` holds: in both, the calls that concern `d`;
in either, any calls that spare it. -/
inductive Beside (d : DomId) : System → System → Prop where
  | start {s t : System} : Reached s → Reached t → SameHeld d s t → Beside d s t
  | left {s t : System} (call : GrantCall) : Beside d s t → Spares d s call →
      Few (s.perform call) → Beside d (s.perform call) t
  | right {s t : System} (call : GrantCall) : Beside d s t → Spares d t call →
      Few (t.perform call) → Beside d s (t.perform call)
  | both {s t : System} (call : GrantCall) : Beside d s t → Concerns d s t call →
      Few (s.perform call) → Few (t.perform call) → Beside d (s.perform call) (t.perform call)

theorem Beside.agrees (beside : Beside d s t) : Reached s ∧ Reached t ∧ SameHeld d s t := by
  induction beside with
  | start reached reached' same => exact ⟨reached, reached', same⟩
  | left call _ spares few ih =>
      obtain ⟨reached, reached', same⟩ := ih
      refine ⟨reached.perform call few, reached', ?_⟩
      exact (sameHeld_of_spares reached.consistent spares).trans same
  | right call _ spares few ih =>
      obtain ⟨reached, reached', same⟩ := ih
      refine ⟨reached, reached'.perform call few, ?_⟩
      exact same.trans (sameHeld_of_spares reached'.consistent spares).symm
  | both call _ concerns few few' ih =>
      obtain ⟨reached, reached', same⟩ := ih
      exact ⟨reached.perform call few, reached'.perform call few',
        same.perform reached.consistent reached'.consistent concerns⟩

/-- Handles are a domain's own affair. -/
theorem handles_are_local (beside : Beside d s t) :
    (s.live.map Mapping.name).Nodup ∧
      (∀ grantor gref writable handle, (map d grantor gref writable s).1 = .ok handle →
        LeastFree s d handle ∧ handle < 2 ^ 32) ∧
      (∀ grantor gref writable, s.entry grantor gref = t.entry grantor gref →
        (map d grantor gref writable s).1 = (map d grantor gref writable t).1) ∧
      ∀ handle, s.mappingAt d handle = t.mappingAt d handle ∧
        (SameUnder d handle s t → (unmap d handle s).1 = (unmap d handle t).1) := by
  obtain ⟨reached, reached', same⟩ := beside.agrees
  refine ⟨reached.consistent.names, ?_, ?_, ?_⟩
  · intro grantor gref writable handle mapped
    rw [map_handle mapped]
    refine ⟨leastFree_freeHandle s d, ?_⟩
    exact Nat.lt_of_le_of_lt (freeHandle_le_held s d) (reached.few d)
  · exact fun grantor gref writable entry => (same.map_agree entry writable).outcome
  · intro handle
    refine ⟨mappingAt_congr reached'.consistent reached.consistent same handle, ?_⟩
    exact fun under => (same.unmap_agree reached.consistent reached'.consistent under).outcome

theorem few_of_maps (few : s.maps.length < 2 ^ 32) : Few s := fun _ =>
  Nat.lt_of_le_of_lt (Nat.le_trans (List.length_filter_le _ _) (List.length_filter_le _ _)) few

/-- Two permits of domain 0, with no mapping over either. -/
def offered : System :=
  ((new 3 2).perform (.grantAccess 0 0 1 7 false)).perform (.grantAccess 0 1 2 8 false)

/-- Domain 1 maps its permit under the same handle, whether domain 2 mapped first or not. -/
theorem handles_are_local_offered :
    (offered.perform (.map 2 0 1 true)).maps ≠ offered.maps ∧
      (map 1 0 0 false (offered.perform (.map 2 0 1 true))).1 = (map 1 0 0 false offered).1 := by
  have reached : Reached offered :=
    .perform _ (.perform _ (.new 3 2) (few_of_maps (by decide))) (few_of_maps (by decide))
  have alone : Beside 1 offered offered := .start reached reached fun _ _ => Iff.rfl
  have crowded : Beside 1 (offered.perform (.map 2 0 1 true)) offered :=
    .left _ alone (show (2 : DomId) ≠ 1 by decide) (few_of_maps (by decide))
  exact ⟨by decide, (handles_are_local crowded).2.2.1 0 0 false (by decide)⟩

end System

end Baleen.Grant
