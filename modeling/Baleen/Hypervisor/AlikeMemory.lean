import Baleen.Hypervisor.Runs
import Baleen.Grant.Alike
import Baleen.P2m.Alike
import Baleen.P2m.Levels

/-!
# A teardown does not see how memory is stored

Two teardowns over tables stored in different orders visit mappings and entries in
different orders.  What they leave is determined all the same: the entries by what each
grants, the counters by the live mappings and entries.
-/

namespace Baleen

open Grant (Unmapped Mapping Access GrantRef GrantEntry)
open P2m (Mfn FrameInfo Frame Claim Kind Link)

namespace Grant.System

variable {s t : System}

theorem Alike.backing (alike : Alike s t) : s.backing.Perm t.backing := by
  have same : s.backingOf = t.backingOf := by
    funext m
    unfold System.backingOf
    rw [alike.grantedFrame]
  unfold System.backing
  rw [same]
  exact alike.mappings.map _

/-- Two tables of the same size that every domain number and reference can address are the
same if their addressable entries are. -/
theorem domains_ext (domains : s.domainCount < 2 ^ 16) (entries : ∀ d, s.entryCount d < 2 ^ 32)
    (sizes : SameSizes s t) (cells : ∀ d r, s.entryAt d r = t.entryAt d r) :
    s.domains = t.domains :=
  Grid.ext_words domains entries sizes.domainCount.symm cells fun d => (sizes.entryCount d).symm

end Grant.System

namespace P2m.System

variable {s t : System} {outside outside' : List Claim}

/-- Only frames that a frame number can name are allocated, so these show all. -/
theorem visible_ext (here : Pages outside s) (there : Pages outside' t)
    (count : s.frameCount = t.frameCount)
    (infos : ∀ m, (s.info m).map FrameInfo.visible = (t.info m).map FrameInfo.visible) :
    s.frames.map Frame.visible = t.frames.map Frame.visible := by
  have named : ∀ {s t : System} {outside : List Claim}, Pages outside s →
      s.frameCount = t.frameCount →
      (∀ m, (s.info m).map FrameInfo.visible = (t.info m).map FrameInfo.visible) →
      ∀ {k : Nat} {i : FrameInfo}, s.frames[k]? = some (.allocated i) →
        ∃ j, t.frames[k]? = some (.allocated j) ∧ i.visible = j.visible := by
    intro s t outside pages count infos k i stored
    obtain ⟨m, rfl⟩ := pages.placed stored
    have known : s.info m = some i := by rw [info_eq, stored]; rfl
    have same := infos m
    rw [known, Option.map_some, eq_comm, Option.map_eq_some_iff] at same
    obtain ⟨j, known', visible⟩ := same
    exact ⟨j, getElem?_of_info known', visible.symm⟩
  refine List.ext_getElem? fun k => ?_
  rw [List.getElem?_map, List.getElem?_map]
  match cell : s.frames[k]?, cell' : t.frames[k]? with
  | none, none => rfl
  | none, some f =>
      have inside := (List.getElem?_eq_some_iff.mp cell').1
      have outside := List.getElem?_eq_none_iff.mp cell
      unfold frameCount at count
      omega
  | some f, none =>
      have inside := (List.getElem?_eq_some_iff.mp cell).1
      have outside := List.getElem?_eq_none_iff.mp cell'
      unfold frameCount at count
      omega
  | some .free, some .free => rfl
  | some .free, some (.allocated j) =>
      obtain ⟨i, stored, -⟩ := named there count.symm (fun m => (infos m).symm) cell'
      rw [cell] at stored
      cases stored
  | some (.allocated i), some .free =>
      obtain ⟨j, stored, -⟩ := named here count infos cell
      rw [cell'] at stored
      cases stored
  | some (.allocated i), some (.allocated j) =>
      obtain ⟨j', stored, visible⟩ := named here count infos cell
      rw [cell'] at stored
      cases stored
      simp [Frame.visible, visible]

/-- Exact accounts of the same claims show the same. -/
theorem Alike.of_claims (here : Pages outside s) (there : Pages outside' t)
    (claims : outside.Perm outside') (links : s.live.Perm t.live)
    (numDomains : s.numDomains = t.numDomains) (count : s.frameCount = t.frameCount)
    (owners : ∀ m, s.ownerOf m = t.ownerOf m) (pins : ∀ m, s.isPinned m = t.isPinned m)
    (levels : ∀ {m i j}, s.info m = some i → t.info m = some j → 0 < i.pagetableRefs →
      i.ptLevel = j.ptLevel) : Alike s t := by
  refine ⟨numDomains, visible_ext here there count fun m => ?_, links⟩
  have whole : (s.claims outside).Perm (t.claims outside') :=
    (links.flatMap_right Link.claims).append claims
  have owner := owners m
  match known : s.info m, known' : t.info m with
  | none, none => rfl
  | none, some j => simp [System.ownerOf, known, known'] at owner
  | some i, none => simp [System.ownerOf, known, known'] at owner
  | some i, some j =>
      rw [ownerOf_of_info known, ownerOf_of_info known', Option.some.injEq] at owner
      have pinned := pins m
      rw [isPinned_of_info known, isPinned_of_info known'] at pinned
      have pinCount : i.pins = j.pins := by unfold FrameInfo.pins; rw [pinned]
      have balanced := (here.balanced known).perm whole
      have balanced' := there.balanced known'
      refine congrArg some (FrameInfo.visible_iff.mpr ⟨owner, ?_, ?_, ?_, ?_, pinned, ?_⟩)
      · rw [balanced.total, balanced'.total, pinCount]
      · rw [balanced.writable, balanced'.writable]
      · rw [balanced.executable, balanced'.executable]
      · rw [balanced.pagetable, balanced'.pagetable, pinCount]
      · exact levels known known'

end P2m.System

namespace Hypervisor

variable {target : DomId} {g₁ g₂ g₁' g₂' : Grant.System} {p₁ p₂ p₁' p₂' : P2m.System}

/-- What a teardown leaves of an entry. -/
def leftover (target grantor : DomId) : GrantEntry → GrantEntry
  | .free => .free
  | .access a => if grantor = target ∨ a.grantee = target then .free else .access a

namespace Reclaimed

variable {g g' : Grant.System} {p p' : P2m.System}

theorem free_of_none (reclaimed : Reclaimed target g p g' p') {d : DomId} {r : GrantRef}
    {e : GrantEntry} (found : g.entryAt d r = some e) (gone : g'.grantEntry d r = none) :
    g'.entryAt d r = some .free := by
  have inside : r.toNat < g'.entryCount d := by
    rw [reclaimed.sizes.entryCount]
    exact Grid.lt_width_of_get? found
  obtain ⟨e', found'⟩ := Grid.exists_get? inside
  cases e' with
  | free => exact found'
  | access a =>
      have active := Grant.System.grantEntry_eq_some.mpr found'
      rw [gone] at active
      cases active

/-- Every entry is kept or cleared, by what it grants alone. -/
theorem entryAt (reclaimed : Reclaimed target g p g' p') (domains : g.domainCount < 2 ^ 16)
    (entries : ∀ d, g.entryCount d < 2 ^ 32) (d : DomId) (r : GrantRef) :
    g'.entryAt d r = (g.entryAt d r).map (leftover target d) := by
  cases found : g.entryAt d r with
  | none =>
      have outside : g.entryCount d ≤ r.toNat := Grid.get?_eq_none_iff.mp found
      rw [← reclaimed.sizes.entryCount] at outside
      exact Grid.get?_eq_none_iff.mpr outside
  | some e =>
      have column : r ∈ g.grefs d := by
        rw [Grant.System.grefs, Words.mem_range32, Nat.mod_eq_of_lt (entries d)]
        exact Grid.lt_width_of_get? found
      have row : d.toNat < g.domainCount := Grid.lt_length_of_get? found
      have addressed : (d, r) ∈ g.allRefs := by
        refine List.mem_flatMap.mpr ⟨d, ?_, List.mem_map_of_mem column⟩
        rwa [Words.mem_range16, Nat.mod_eq_of_lt domains]
      have inbound := reclaimed.inbound (d, r) addressed
      rw [Option.map_some]
      by_cases mine : d = target
      · subst mine
        have gone := reclaimed.free_of_none found (reclaimed.offers r column)
        cases e <;> simp [leftover, gone]
      cases e with
      | free =>
          have kept := reclaimed.entries d r mine fun a active => by
            rw [Grant.System.grantEntry_eq_some, found] at active
            cases active
          rw [kept, found]
          rfl
      | access a =>
          by_cases toTarget : a.grantee = target
          · have gone : g'.grantEntry d r = none := by
              by_contra present
              obtain ⟨b, active⟩ := Option.ne_none_iff_exists'.mp present
              obtain ⟨a', before, terms⟩ := reclaimed.withdrawn active
              rw [Grant.System.grantEntry_eq_some, found] at before
              cases before
              have grantee : a.grantee = b.grantee := congrArg Prod.fst terms
              apply inbound
              simp [Grant.System.granteeOf, active, ← grantee, toTarget]
            rw [reclaimed.free_of_none found gone]
            simp [leftover, toTarget]
          · have kept := reclaimed.entries d r mine fun a' active => by
              rw [Grant.System.grantEntry_eq_some, found] at active
              cases active
              exact toTarget
            rw [kept, found]
            simp [leftover, mine, toTarget]

/-- The entries and mappings that two teardowns leave. -/
theorem grants_alike (here : Reclaimed target g₁ p₁ g₁' p₁')
    (there : Reclaimed target g₂ p₂ g₂' p₂')
    (alike : g₁.Alike g₂) (domains : g₁.domainCount < 2 ^ 16)
    (entries : ∀ d, g₁.entryCount d < 2 ^ 32) : g₁'.Alike g₂' := by
  have count : g₂.domainCount = g₁.domainCount := by
    rw [Grant.System.domainCount, ← alike.domains]
    rfl
  have counts : ∀ d, g₂.entryCount d = g₁.entryCount d := by
    intro d
    rw [Grant.System.entryCount, ← alike.domains]
    rfl
  constructor
  · refine Grant.System.domains_ext (here.sizes.domainCount.trans_lt domains)
      (fun d => (here.sizes.entryCount d).trans_lt (entries d)) ⟨?_, ?_⟩ ?_
    · rw [there.sizes.domainCount, count, here.sizes.domainCount]
    · intro d
      rw [there.sizes.entryCount, counts, here.sizes.entryCount]
    · intro d r
      rw [here.entryAt domains entries, there.entryAt (count.trans_lt domains)
        fun d => (counts d).trans_lt (entries d)]
      unfold Grant.System.entryAt
      rw [alike.domains]
  · have distinct : ∀ {g : Grant.System}, g.Consistent → g.live.Nodup :=
      fun consistent => List.Nodup.of_map _ consistent.names
    refine (List.perm_ext_iff_of_nodup (distinct here.sound.grants)
      (distinct there.sound.grants)).mpr fun m => ?_
    rw [here.mappings, there.mappings, alike.mappings.mem_iff]

theorem ownerOf (reclaimed : Reclaimed target g p g' p') (frames : p.frameCount < 2 ^ 32)
    (m : Mfn) :
    p'.ownerOf m = if p.ownerOf m = some target then none else p.ownerOf m := by
  split_ifs with mine
  · by_contra present
    obtain ⟨d, owned⟩ := Option.ne_none_iff_exists'.mp present
    have before := reclaimed.lost m d owned
    obtain rfl : target = d := Option.some.inj (mine.symm.trans before)
    refine reclaimed.freed m ?_ owned
    obtain ⟨i, known, -⟩ := P2m.System.ownerOf_eq_some.mp mine
    rw [P2m.System.mfns, Words.mem_range32, Nat.mod_eq_of_lt frames]
    exact (List.getElem?_eq_some_iff.mp (P2m.System.getElem?_of_info known)).1
  · exact reclaimed.owners m mine

/-- A frame that is still typed as a table was typed before. -/
theorem typed_before (reclaimed : Reclaimed target g p g' p') (sound : Sound [] g p)
    (frames : p.frameCount < 2 ^ 32) {m : Mfn} {i i' : FrameInfo} (known : p.info m = some i)
    (known' : p'.info m = some i')
    (typed : 0 < i'.pagetableRefs) : 0 < i.pagetableRefs := by
  have after := (reclaimed.sound.pages.balanced known').pagetable
  have before := (sound.pages.balanced known).pagetable
  by_cases pinned : i'.pinned = true
  · have foreign : p.ownerOf m ≠ some target := by
      intro mine
      have owned := P2m.System.ownerOf_of_info known'
      rw [reclaimed.ownerOf frames, if_pos mine] at owned
      cases owned
    have pins := reclaimed.pins m foreign
    rw [P2m.System.isPinned_of_info known', P2m.System.isPinned_of_info known, pinned] at pins
    have one : i.pins = 1 := by simp [FrameInfo.pins, ← pins]
    omega
  · have none' : i'.pins = 0 := by simp [FrameInfo.pins, pinned]
    have held : (m, Kind.table) ∈ p'.claims (List.map Unmapped.claim (g'.backing ++ [])) := by
      apply List.count_pos_iff.mp
      omega
    rcases List.mem_append.mp held with byEntry | byMapping
    · obtain ⟨l, isLive, member⟩ := List.mem_flatMap.mp byEntry
      rw [reclaimed.links] at isLive
      have old := (List.mem_filter.mp isLive).1
      exact (sound.pages.balanced known).pagetable_pos_of_mem
        (P2m.System.Pages.mem_claims old member)
    · have absent := count_backing_other (g'.backing ++ []) m (k := .table) (by decide) (by decide)
      exact absurd byMapping (List.count_eq_zero.mp absent)

/-- The frames and entries that two teardowns leave. -/
theorem p2m_alike (here : Reclaimed target g₁ p₁ g₁' p₁') (there : Reclaimed target g₂ p₂ g₂' p₂')
    (sound : Sound [] g₁ p₁) (grants : g₁'.Alike g₂')
    (alike : p₁.Alike p₂) (frames : p₁.frameCount < 2 ^ 32) (levels : p₁.KeepsLevels p₁')
    (levels' : p₂.KeepsLevels p₂') : p₁'.Alike p₂' := by
  have frames' : p₂.frameCount < 2 ^ 32 := alike.frameCount ▸ frames
  have owners : ∀ m, p₁'.ownerOf m = p₂'.ownerOf m := by
    intro m
    rw [here.ownerOf frames, there.ownerOf frames', alike.ownerOf]
  refine P2m.System.Alike.of_claims here.sound.pages there.sound.pages ?_ ?_ ?_ ?_ owners ?_ ?_
  · simp only [List.append_nil]
    exact grants.backing.map Unmapped.claim
  · have straddling : straddles p₁ target = straddles p₂ target := by
      funext l
      simp only [straddles, alike.ownerOf]
    rw [here.links, there.links, straddling]
    exact alike.links.filter _
  · rw [levels.numDomains, levels'.numDomains, alike.numDomains]
  · rw [here.frameCount, there.frameCount, alike.frameCount]
  · intro m
    by_cases mine : p₁.ownerOf m = some target
    · have unknown : ∀ {p : P2m.System}, p.ownerOf m = none → p.isPinned m = false := by
        intro p none'
        simp only [P2m.System.ownerOf, Option.map_eq_none_iff] at none'
        simp [P2m.System.isPinned, none']
      have gone : p₁'.ownerOf m = none := by rw [here.ownerOf frames, if_pos mine]
      rw [unknown gone, unknown ((owners m).symm.trans gone)]
    · rw [here.pins m mine, there.pins m (alike.ownerOf m ▸ mine), alike.isPinned]
  · intro m i j known known' typed
    obtain ⟨i₀, before, level⟩ := levels.level known
    obtain ⟨j₀, before', level'⟩ := levels'.level known'
    have visible := alike.info m
    rw [before, before', Option.map_some, Option.map_some, Option.some.injEq,
      FrameInfo.visible_iff] at visible
    have typed₀ := here.typed_before sound frames before known typed
    rw [level, level', visible.2.2.2.2.2.2 typed₀]

end Reclaimed

theorem mirror_keepsLevels {start p : P2m.System} (keeps : start.KeepsLevels p)
    (released : List (Except Grant.GrantError Unmapped)) :
    start.KeepsLevels (mirror released p).2 := by
  refine Op.Keeps.sweep ?_ _ keeps
  intro r p result keeps ran
  cases r with
  | error e => cases ran
  | ok u =>
      simp only [Option.some.injEq] at ran
      rw [← ran, releasePage_eq]
      exact P2m.System.putChild_keepsLevels u.frame u.ref p keeps

theorem teardown_keepsLevels (target : DomId) (now : Ticks) (hv : Hypervisor) :
    hv.p2m.KeepsLevels (hv.teardown target now).2.p2m := by
  rw [teardown_p2m]
  apply P2m.System.freeAll_keepsLevels
  apply P2m.System.unpinAll_keepsLevels
  apply P2m.System.unlinkAll_keepsLevels
  apply mirror_keepsLevels
  apply P2m.System.unlinkAllInto_keepsLevels
  exact mirror_keepsLevels (.refl _) _

end Hypervisor

end Baleen
