import Baleen.Hypervisor.Model
import Baleen.Grant.Teardown
import Baleen.P2m.Teardown

/-!
# The grant and page-type seam

`Sound pending g p` relates the grant tables to the page accounting: every live
mapping stands on a page reference, every foreign page-table entry on a grant, and the
counters of every frame are exact.  The `pending` references belong to mappings that
are already gone while their page references are still to be given back.
-/

namespace Baleen

open Grant (Unmapped Mapping Access GrantRef)
open P2m (Mfn Claim Kind ChildRef FrameInfo Link)

/-- The page reference behind a mapping, as a claim. -/
def Grant.Unmapped.claim (u : Unmapped) : Claim :=
  (u.frame, if u.writable then .write else .bare)

/-- The reference that `acquirePage` takes. -/
def Grant.Unmapped.ref (u : Unmapped) : ChildRef := if u.writable then .typed .writable else .bare

theorem Grant.Unmapped.ref_kind (u : Unmapped) : (u.frame, u.ref.kind) = u.claim := by
  unfold claim ref
  split_ifs <;> rfl

namespace Hypervisor

variable {pending : List Unmapped} {g g' : Grant.System} {p p' : P2m.System}

structure Sound (pending : List Unmapped) (g : Grant.System) (p : P2m.System) : Prop where
  grants : g.Consistent
  pages : p.Pages ((g.backing ++ pending).map Unmapped.claim)
  owned : ∀ {m}, m ∈ g.live → ∀ {a}, g.grantEntry m.grantor m.gref = some a →
    p.ownerOf a.frame = some m.grantor
  consent : ∀ {l}, l ∈ p.live → ∀ {co po}, p.ownerOf l.child = some co →
    p.ownerOf l.parent = some po → co ≠ po → g.authorizes co po l.child l.writable = true

theorem acquirePage_eq (frame : Mfn) (writable : Bool) :
    acquirePage frame writable = P2m.System.getChild frame (Unmapped.ref ⟨frame, writable⟩) := by
  cases writable <;> rfl

theorem releasePage_eq (u : Unmapped) : releasePage u = P2m.System.putChild u.frame u.ref := by
  unfold releasePage Unmapped.ref
  split_ifs <;> rfl

namespace Sound

theorem new (numDomains entriesPerDomain numFrames : Nat) :
    Sound [] (Grant.System.new numDomains entriesPerDomain)
      (P2m.System.new numDomains numFrames) where
  grants := .new numDomains entriesPerDomain
  pages := .new numDomains numFrames
  owned := by simp [Grant.System.live, Grant.System.new]
  consent := by simp [P2m.System.live, P2m.System.new]

theorem sameGrants (sound : Sound pending g p) (entries : g'.domains = g.domains)
    (mappings : g'.live = g.live) : Sound pending g' p := by
  have grants := sound.grants.congr entries mappings
  obtain ⟨domains, maps⟩ := g'
  obtain rfl : domains = g.domains := entries
  refine ⟨grants, ?_, ?_, sound.consent⟩
  · have backing : Grant.System.backing ⟨g.domains, maps⟩ = g.backing := by
      unfold Grant.System.backing
      rw [mappings]
      rfl
    rw [backing]
    exact sound.pages
  · rw [mappings]
    exact sound.owned

theorem authorizes_of_sameTerms (consistent : g.Consistent) (consistent' : g'.Consistent)
    (terms : Grant.System.SameTerms g g') {d d' : DomId} {frame : Mfn} {writable : Bool}
    (granted : g.authorizes d d' frame writable = true) :
    g'.authorizes d d' frame writable = true := by
  obtain ⟨gref, a, active, rfl, rfl, permitted⟩ := consistent.authorizes_iff.mp granted
  have same := terms d gref
  rw [active, Option.map_some, Option.map_eq_some_iff] at same
  obtain ⟨b, active', equal⟩ := same
  simp only [Access.terms, Prod.mk.injEq] at equal
  obtain ⟨grantee, frame, readonly⟩ := equal
  refine consistent'.authorizes_iff.mpr ⟨gref, b, active', grantee, frame, ?_⟩
  rw [readonly]
  exact permitted

/-- A frame that backs a live mapping is allocated. -/
theorem backing_claimed {m : Mapping} (isLive : m ∈ g.live) {a : Access}
    (active : g.grantEntry m.grantor m.gref = some a) (pending : List Unmapped)
    (p : P2m.System) : Unmapped.claim ⟨a.frame, m.writable⟩ ∈
      p.claims ((g.backing ++ pending).map Unmapped.claim) := by
  refine List.mem_append_right _ (List.mem_map_of_mem (List.mem_append_left _ ?_))
  rw [← Grant.System.backingOf_of_active active]
  exact List.mem_map_of_mem isLive

theorem parent_claimed {l : Link} (isLive : l ∈ p.live) (outside : List Claim) :
    (l.parent, Kind.table) ∈ p.claims outside :=
  P2m.System.Pages.mem_claims isLive (by simp [Link.claims])

theorem child_claimed {l : Link} (isLive : l ∈ p.live) (outside : List Claim) :
    (l.child, l.kind) ∈ p.claims outside :=
  P2m.System.Pages.mem_claims isLive (by simp [Link.claims])

theorem backing_setEntry {grantor : DomId} {gref : GrantRef} {e : Grant.GrantEntry}
    (apart : ∀ m ∈ g.live, ¬(m.grantor = grantor ∧ m.gref = gref)) :
    (g.setEntry grantor gref e).backing = g.backing := by
  unfold Grant.System.backing
  refine List.map_congr_left ?_
  intro m isLive
  have other : ¬(grantor = m.grantor ∧ gref = m.gref) :=
    fun here => apart m isLive ⟨here.1.symm, here.2.symm⟩
  unfold Grant.System.backingOf Grant.System.grantedFrame Grant.System.grantEntry
  rw [Grant.System.entryAt_setEntry, if_neg other]

theorem grantAccess (sound : Sound pending g p) {grantor grantee : DomId} {gref : GrantRef}
    {frame : Mfn} {readonly : Bool} (known : grantee.toNat < g.domainCount)
    (free : g.entryAt grantor gref = some .free) :
    Sound pending (g.setEntry grantor gref (.access ⟨grantee, frame, readonly, 0, 0⟩)) p := by
  have missing : g.grantEntry grantor gref = none := by simp [Grant.System.grantEntry, free]
  have grants : (g.setEntry grantor gref (.access ⟨grantee, frame, readonly, 0, 0⟩)).Consistent :=
    sound.grants.grantAccess known free
  have apart : ∀ m ∈ g.live, ¬(m.grantor = grantor ∧ m.gref = gref) :=
    fun m isLive => sound.grants.not_ofEntry_free missing isLive
  refine ⟨grants, ?_, ?_, ?_⟩
  · rw [backing_setEntry apart]
    exact sound.pages
  · intro m isLive a active
    rw [Grant.System.grantEntry_setEntry free, if_neg] at active
    · exact sound.owned isLive active
    · exact fun here => apart m isLive ⟨here.1.symm, here.2.symm⟩
  · intro l isLive co po childOwner parentOwner foreign
    have before := sound.consent isLive childOwner parentOwner foreign
    obtain ⟨r, a, active, fits⟩ := sound.grants.authorizes_iff.mp before
    refine grants.authorizes_iff.mpr ⟨r, a, ?_, fits⟩
    rw [Grant.System.grantEntry_setEntry free, if_neg, active]
    rintro ⟨rfl, rfl⟩
    simp [missing] at active

/-- A grant that no foreign entry relies on can be withdrawn. -/
theorem endAccess (sound : Sound pending g p) {grantor : DomId} {gref : GrantRef} {a : Access}
    (active : g.grantEntry grantor gref = some a) (unmapped : a.maps = 0)
    (unused : ∀ l ∈ p.live, p.ownerOf l.child = some grantor → p.ownerOf l.parent ≠ some grantor →
      p.ownerOf l.parent = some a.grantee → l.child ≠ a.frame) :
    Sound pending (g.setEntry grantor gref .free) p := by
  have found := Grant.System.grantEntry_eq_some.mp active
  have grants := sound.grants.endAccess active unmapped
  have apart : ∀ m ∈ g.live, ¬(m.grantor = grantor ∧ m.gref = gref) :=
    fun m isLive => sound.grants.not_ofEntry active unmapped isLive
  refine ⟨grants, ?_, ?_, ?_⟩
  · rw [backing_setEntry apart]
    exact sound.pages
  · intro m isLive b active'
    rw [Grant.System.grantEntry_setEntry found] at active'
    split_ifs at active'
    exact sound.owned isLive active'
  · intro l isLive co po childOwner parentOwner foreign
    have before := sound.consent isLive childOwner parentOwner foreign
    obtain ⟨r, b, active', grantee, frame, permitted⟩ := sound.grants.authorizes_iff.mp before
    refine grants.authorizes_iff.mpr ⟨r, b, ?_, grantee, frame, permitted⟩
    rw [Grant.System.grantEntry_setEntry found, if_neg, active']
    rintro ⟨rfl, rfl⟩
    obtain rfl : a = b := by simpa [active] using active'
    refine unused l isLive childOwner ?_ ?_ frame.symm
    · rw [parentOwner]
      exact fun same => foreign (by simpa using same.symm)
    · rw [parentOwner, grantee]

/-- A mapping and its page reference are taken together. -/
theorem map (sound : Sound pending g p) {m : Mapping} {a : Access} {i : FrameInfo}
    (mapped : Grant.System.Mapped m a g g') (grants : g'.Consistent)
    (known : p.info a.frame = some i) (owner : i.owner = m.grantor)
    (accepted : i.Accepts (Unmapped.ref ⟨a.frame, m.writable⟩)) :
    Sound pending g' (p.setFrame a.frame
      (.allocated (i.bump (Unmapped.ref ⟨a.frame, m.writable⟩)))) := by
  have owners : ∀ f, (p.setFrame a.frame
      (.allocated (i.bump (Unmapped.ref ⟨a.frame, m.writable⟩)))).ownerOf f = p.ownerOf f :=
    fun f => P2m.System.ownerOf_setFrame known (FrameInfo.bump_owner _ _)
  refine ⟨grants, ?_, ?_, ?_⟩
  · have taken : P2m.System.Pages (Unmapped.claim ⟨a.frame, m.writable⟩ ::
        (g.backing ++ pending).map Unmapped.claim) (p.setFrame a.frame
          (.allocated (i.bump (Unmapped.ref ⟨a.frame, m.writable⟩)))) := by
      rw [← Unmapped.ref_kind]
      exact sound.pages.bump known accepted
    refine taken.perm ?_
    have backing := (mapped.backing.append_right pending).map Unmapped.claim
    exact backing.symm
  · intro m' isLive b active
    rw [owners]
    rcases List.mem_cons.mp (mapped.live_perm.mem_iff.mp isLive) with rfl | old
    · rw [mapped.grantEntry, if_pos ⟨rfl, rfl⟩] at active
      cases active
      exact (P2m.System.ownerOf_of_info known).trans (by rw [owner])
    · rw [mapped.grantEntry] at active
      split_ifs at active with here
      · cases active
        obtain ⟨h₁, h₂⟩ := here
        have active : g.grantEntry m'.grantor m'.gref = some a := by
          rw [← h₁, ← h₂]
          exact mapped.active
        exact sound.owned (a := a) old active
      · exact sound.owned old active
  · intro l isLive co po childOwner parentOwner foreign
    rw [owners] at childOwner parentOwner
    exact authorizes_of_sameTerms sound.grants grants mapped.sameTerms
      (sound.consent isLive childOwner parentOwner foreign)

theorem unmap (sound : Sound pending g p) {m : Mapping} {a : Access}
    (released : Grant.System.Released m a g g') :
    Sound (⟨a.frame, m.writable⟩ :: pending) g' p := by
  have grants := released.consistent sound.grants
  refine ⟨grants, ?_, ?_, ?_⟩
  · refine sound.pages.perm (List.Perm.map _ ?_)
    refine (released.backing.append_right pending).trans ?_
    exact List.perm_middle.symm
  · intro m' isLive b active
    have old := released.live_perm.mem_iff.mpr (List.mem_cons_of_mem m isLive)
    rw [released.grantEntry] at active
    split_ifs at active with here
    · cases active
      obtain ⟨h₁, h₂⟩ := here
      have active : g.grantEntry m'.grantor m'.gref = some a := by
        rw [← h₁, ← h₂]
        exact released.active
      exact sound.owned (a := a) old active
    · exact sound.owned old active
  · intro l isLive co po childOwner parentOwner foreign
    exact authorizes_of_sameTerms sound.grants grants released.sameTerms
      (sound.consent isLive childOwner parentOwner foreign)

/-- Replacing the page accounting, where claimed frames keep their owners and new entries
have consent. -/
theorem repage (sound : Sound pending g p)
    (pages : p'.Pages ((g.backing ++ pending).map Unmapped.claim))
    (owners : ∀ c ∈ p.claims ((g.backing ++ pending).map Unmapped.claim),
      p'.ownerOf c.1 = p.ownerOf c.1)
    (entries : ∀ l ∈ p'.live, l ∈ p.live ∨ ∀ co po, p'.ownerOf l.child = some co →
      p'.ownerOf l.parent = some po → co ≠ po → g.authorizes co po l.child l.writable = true) :
    Sound pending g p' where
  grants := sound.grants
  pages := pages
  owned := by
    intro m isLive a active
    have same := owners _ (backing_claimed isLive active pending p)
    exact same.trans (sound.owned isLive active)
  consent := by
    intro l isLive co po childOwner parentOwner foreign
    rcases entries l isLive with old | granted
    · have child := owners _ (child_claimed old _)
      have parent := owners _ (parent_claimed old _)
      rw [child] at childOwner
      rw [parent] at parentOwner
      exact sound.consent old childOwner parentOwner foreign
    · exact granted co po childOwner parentOwner foreign

/-- Giving back a pending page reference. -/
theorem release {u : Unmapped} (sound : Sound (u :: pending) g p) :
    ∃ p', releasePage u p = (.ok (), p') ∧ Sound pending g p' ∧
      P2m.System.Kept (· = u.frame) p p' ∧ p'.links = p.links := by
  have pages : p.Pages ((u.frame, u.ref.kind) ::
      (g.backing ++ pending).map Unmapped.claim) := by
    refine sound.pages.perm ?_
    rw [Unmapped.ref_kind]
    exact List.perm_middle.map Unmapped.claim
  obtain ⟨i, known, dropped, pages'⟩ := pages.putChild (by
    intro level same
    unfold Unmapped.ref at same
    split_ifs at same
    cases same)
  refine ⟨p.setFrame u.frame (.allocated (i.drop u.ref)), by rw [releasePage_eq, dropped], ?_, ?_,
    rfl⟩
  · have owners : ∀ f, (p.setFrame u.frame (.allocated (i.drop u.ref))).ownerOf f = p.ownerOf f :=
      fun f => P2m.System.ownerOf_setFrame known (FrameInfo.drop_owner _ _)
    exact {
      grants := sound.grants
      pages := pages'
      owned := fun isLive _ active => (owners _).trans (sound.owned isLive active)
      consent := by
        intro l isLive co po childOwner parentOwner
        rw [owners] at childOwner parentOwner
        exact sound.consent isLive childOwner parentOwner }
  · exact P2m.System.Kept.setFrame known (by simp) (by simp) rfl

end Sound

end Hypervisor

end Baleen
