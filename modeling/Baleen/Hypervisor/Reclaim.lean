import Baleen.Hypervisor.Memory

/-!
# Reclaiming a domain's memory

The memory part of a teardown, stage by stage.  Each stage keeps the seam sound and
establishes what the next one needs: foreign mappings and entries go before the grants
that permit them, entries before pins, pins before frames.
-/

namespace Baleen.Hypervisor

open Grant (Unmapped Mapping Access GrantRef GrantError)
open Grant.System (Drained Revoked SameTerms SameSizes)
open P2m (Mfn Claim Kind Link P2mError)
open P2m.System (Kept Spared Touched)

variable {pending us : List Unmapped} {g g' : Grant.System} {p p' : P2m.System}

namespace Sound

theorem drained {gone : Mapping → Prop} (sound : Sound [] g p)
    (backing : g.backing.Perm (us ++ g'.backing)) (drained : Drained gone g g') :
    Sound us g' p := by
  refine ⟨drained.consistent, ?_, ?_, ?_⟩
  · refine sound.pages.perm (List.Perm.map _ ?_)
    rw [List.append_nil]
    exact backing.trans List.perm_append_comm
  · intro m isLive a active
    have old := ((drained.live m).mp isLive).1
    have terms := drained.terms m.grantor m.gref
    rw [active, Option.map_some, eq_comm, Option.map_eq_some_iff] at terms
    obtain ⟨b, active', same⟩ := terms
    have frame : b.frame = a.frame := congrArg (fun t => t.2.1) same
    rw [← frame]
    exact sound.owned old active'
  · intro l isLive co po childOwner parentOwner foreign
    exact authorizes_of_sameTerms sound.grants drained.consistent drained.terms
      (sound.consent isLive childOwner parentOwner foreign)

/-- Withdrawing grants that no foreign entry relies on. -/
theorem revoked {gone : DomId → GrantRef → Prop} (sound : Sound pending g p)
    (revoked : Revoked gone g g')
    (unused : ∀ l ∈ p.live, ∀ co po, p.ownerOf l.child = some co → p.ownerOf l.parent = some po →
      co ≠ po → ∀ r a, g.grantEntry co r = some a → a.grantee = po → ¬gone co r) :
    Sound pending g' p := by
  have backing : g'.backing = g.backing := by
    unfold Grant.System.backing
    rw [revoked.live]
    refine List.map_congr_left ?_
    intro m isLive
    obtain ⟨a, active, -⟩ := revoked.consistent.backed (by rw [revoked.live]; exact isLive)
    rw [Grant.System.backingOf_of_active active,
      Grant.System.backingOf_of_active (revoked.grantEntry active)]
  refine ⟨revoked.consistent, ?_, ?_, ?_⟩
  · rw [backing]
    exact sound.pages
  · intro m isLive a active
    rw [revoked.live] at isLive
    exact sound.owned isLive (revoked.grantEntry active)
  · intro l isLive co po childOwner parentOwner foreign
    have before := sound.consent isLive childOwner parentOwner foreign
    obtain ⟨r, a, active, grantee, fits⟩ := sound.grants.authorizes_iff.mp before
    refine revoked.consistent.authorizes_iff.mpr ⟨r, a, ?_, grantee, fits⟩
    rcases revoked.entries co r with same | ⟨-, withdrawn, -⟩
    · rw [Grant.System.grantEntry_eq_some, same]
      exact Grant.System.grantEntry_eq_some.mp active
    · exact absurd withdrawn
        (unused l isLive co po childOwner parentOwner foreign r a active grantee)

/-- Removing entries. -/
theorem unlinked {touched : Mfn → Prop} {test : Link → Bool} (sound : Sound pending g p)
    (pages : p'.Pages ((g.backing ++ pending).map Unmapped.claim)) (kept : Kept touched p p')
    (live : p'.live = p.live.filter test) : Sound pending g p' := by
  refine sound.repage pages (fun c _ => kept.owner c.1) ?_
  intro l isLive
  rw [live] at isLive
  exact .inl (List.mem_filter.mp isLive).1

/-- Changing frames that carry no claim. -/
theorem spared {target : DomId} (sound : Sound pending g p)
    (pages : p'.Pages ((g.backing ++ pending).map Unmapped.claim)) (spared : Spared target p p')
    (unclaimed : ∀ c ∈ p.claims ((g.backing ++ pending).map Unmapped.claim),
      p.ownerOf c.1 ≠ some target) : Sound pending g p' := by
  refine sound.repage pages ?_ ?_
  · intro c held
    unfold P2m.System.ownerOf
    rw [spared.other c.1 (unclaimed c held)]
  · intro l isLive
    rw [spared.live] at isLive
    exact .inl isLive

end Sound

theorem mirror_spec (sound : Sound (us ++ pending) g p) :
    (∀ r ∈ (mirror (us.map .ok) p).1, r = .ok ()) ∧ Sound pending g (mirror (us.map .ok) p).2 ∧
      Kept (fun m => ∃ u ∈ us, u.frame = m) p (mirror (us.map .ok) p).2 ∧
      (mirror (us.map .ok) p).2.links = p.links := by
  induction us generalizing p with
  | nil => exact ⟨by simp [mirror, Op.sweep], sound, Kept.refl _ p, rfl⟩
  | cons u rest ih =>
      obtain ⟨p₁, ran, sound₁, kept, links⟩ := Sound.release sound
      obtain ⟨fine, sound₂, kept₂, links₂⟩ := ih sound₁
      have step : mirror ((u :: rest).map .ok) p =
          (.ok () :: (mirror (rest.map .ok) p₁).1, (mirror (rest.map .ok) p₁).2) := by
        simp only [mirror, List.map_cons, Op.sweep, ran]
      rw [step]
      refine ⟨?_, sound₂, ?_, links₂.trans links⟩
      · rintro r (_ | ⟨_, member⟩)
        · rfl
        · exact fine r member
      · refine (kept.mono ?_).trans (kept₂.mono ?_)
        · rintro m rfl
          exact ⟨u, List.mem_cons_self .., rfl⟩
        · rintro m ⟨u', member, same⟩
          exact ⟨u', List.mem_cons_of_mem _ member, same⟩

/-- A mapping that teardown of `target` breaks: one over its frames, or one it holds. -/
def Involves (target : DomId) (m : Mapping) : Prop := m.grantor = target ∨ m.grantee = target

/-- An entry that teardown of `target` removes: one end belongs to `target`. -/
def straddles (p : P2m.System) (target : DomId) (l : Link) : Bool :=
  p.ownerOf l.parent = some target || p.ownerOf l.child = some target

/-- The memory of `target` has been reclaimed, and nothing else was touched. -/
structure Reclaimed (target : DomId) (g : Grant.System) (p : P2m.System) (g' : Grant.System)
    (p' : P2m.System) : Prop where
  sound : Sound [] g' p'
  sizes : SameSizes g g'
  mappings : ∀ m, m ∈ g'.live ↔ m ∈ g.live ∧ ¬Involves target m
  entries : ∀ d r, d ≠ target → (∀ a, g.grantEntry d r = some a → a.grantee ≠ target) →
    g'.entryAt d r = g.entryAt d r
  withdrawn : ∀ {d r a}, g'.grantEntry d r = some a →
    ∃ b, g.grantEntry d r = some b ∧ b.terms = a.terms
  offers : ∀ r ∈ g.grefs target, g'.grantEntry target r = none
  inbound : ∀ slot ∈ g.allRefs, g'.granteeOf slot.1 slot.2 ≠ some target
  frameCount : p'.frameCount = p.frameCount
  links : p'.live = p.live.filter fun l => !straddles p target l
  owners : ∀ m, p.ownerOf m ≠ some target → p'.ownerOf m = p.ownerOf m
  pins : ∀ m, p.ownerOf m ≠ some target → p'.isPinned m = p.isPinned m
  lost : ∀ m d, p'.ownerOf m = some d → p.ownerOf m = some d
  freed : ∀ m ∈ p.mfns, p'.ownerOf m ≠ some target
  frames : ∀ m, p.ownerOf m ≠ some target →
    (∀ l ∈ p.live, straddles p target l = true → m ≠ l.parent ∧ m ≠ l.child) →
    (∀ mp ∈ g.live, Involves target mp → (g.backingOf mp).frame ≠ m) → p'.info m = p.info m

/-- The foreign references are gone. -/
structure Isolated (target : DomId) (g : Grant.System) (p : P2m.System) (g' : Grant.System)
    (p' : P2m.System) : Prop where
  sound : Sound [] g' p'
  drained : Drained (fun m => m.grantor = target ∧ m.grantee ≠ target) g g'
  kept : Kept (fun m => (∃ l ∈ p.live, p.inward target l = true ∧ (m = l.parent ∨ m = l.child)) ∨
    ∃ mp ∈ g.live, Involves target mp ∧ (g.backingOf mp).frame = m) p p'
  live : p'.live = p.live.filter fun l => !p.inward target l

theorem forceReclaim_spec (sound : Sound [] g p) (target : DomId) :
    let reclaimed := forceReclaim target ⟨g, p⟩
    (∃ us : List Unmapped, reclaimed.1.1 = us.map .ok) ∧
      (∀ r ∈ reclaimed.1.2.1, r = .ok ()) ∧ (∀ r ∈ reclaimed.1.2.2, r = .ok ()) ∧
      Isolated target g p reclaimed.2.grant reclaimed.2.p2m := by
  obtain ⟨results, backing, drained⟩ :=
    Grant.System.drain_filter sound.grants fun m => m.grantor = target && m.grantee ≠ target
  rw [← Grant.System.drainForeignMapsOf_eq] at results backing drained
  have pendingSound := sound.drained backing drained
  rw [← List.append_nil (List.map _ _)] at pendingSound
  obtain ⟨mirrored, sound₁, kept₁, links₁⟩ := mirror_spec pendingSound
  rw [← results] at mirrored sound₁ kept₁ links₁
  obtain ⟨unlinked, pages₂, kept₂, live₂⟩ :=
    P2m.System.unlinkAllInto_spec sound₁.pages target
  have live₁ : (mirror (Grant.System.drainForeignMapsOf target g).1 p).2.live = p.live := by
    unfold P2m.System.live
    rw [links₁]
  have inward : (mirror (Grant.System.drainForeignMapsOf target g).1 p).2.inward target =
      p.inward target := by
    funext l
    unfold P2m.System.inward
    rw [kept₁.owner, kept₁.owner]
  refine ⟨⟨_, results⟩, mirrored, unlinked, sound₁.unlinked pages₂ kept₂ live₂, ?_, ?_, ?_⟩
  · exact drained.congr (by simp)
  · refine (kept₁.mono ?_).trans (kept₂.mono ?_)
    · rintro m ⟨u, member, rfl⟩
      obtain ⟨mp, chosen, rfl⟩ := List.mem_map.mp member
      obtain ⟨isLive, test⟩ := List.mem_filter.mp chosen
      have ofEntry : mp.grantor = target := by
        have both := test
        simp only [Bool.and_eq_true, decide_eq_true_eq] at both
        exact both.1
      exact .inr ⟨mp, isLive, .inl ofEntry, rfl⟩
    · rintro m ⟨l, isLive, isDoomed, here⟩
      rw [live₁] at isLive
      rw [inward] at isDoomed
      exact .inl ⟨l, isLive, isDoomed, here⟩
  · have final : (forceReclaim target ⟨g, p⟩).2.p2m.live =
        p.live.filter fun l => !p.inward target l := by
      unfold forceReclaim
      simp only []
      rw [live₂, live₁, inward]
    exact final

/-- No mapping involves the domain any more. -/
structure Detached (target : DomId) (g : Grant.System) (p : P2m.System) (g' : Grant.System)
    (p' : P2m.System) : Prop where
  sound : Sound [] g' p'
  drained : Drained (Involves target) g g'
  kept : Kept (fun m => (∃ l ∈ p.live, p.inward target l = true ∧ (m = l.parent ∨ m = l.child)) ∨
    ∃ mp ∈ g.live, Involves target mp ∧ (g.backingOf mp).frame = m) p p'
  live : p'.live = p.live.filter fun l => !p.inward target l

theorem releaseOwn_spec {g₁ : Grant.System} {p₁ : P2m.System} {target : DomId}
    (isolated : Isolated target g p g₁ p₁) :
    let released := releaseOwn target ⟨g₁, p₁⟩
    (∃ us : List Unmapped, released.1.1 = us.map .ok) ∧ (∀ r ∈ released.1.2, r = .ok ()) ∧
      Detached target g p released.2.grant released.2.p2m := by
  obtain ⟨results, backing, drained⟩ :=
    Grant.System.drain_filter isolated.sound.grants fun m => m.grantee = target
  rw [← Grant.System.drainMapsOf_eq] at results backing drained
  have pendingSound := isolated.sound.drained backing drained
  rw [← List.append_nil (List.map _ _)] at pendingSound
  obtain ⟨mirrored, sound₂, kept₂, links₂⟩ := mirror_spec pendingSound
  rw [← results] at mirrored sound₂ kept₂ links₂
  refine ⟨⟨_, results⟩, mirrored, sound₂, ?_, ?_, ?_⟩
  · refine ⟨drained.consistent, ?_, isolated.drained.sizes.trans drained.sizes, ?_, ?_⟩
    · exact fun d r => (drained.terms d r).trans (isolated.drained.terms d r)
    · intro m
      refine (drained.live m).trans ?_
      rw [isolated.drained.live]
      simp only [Involves, decide_eq_true_eq]
      tauto
    · intro d r apart
      refine (drained.entries d r ?_).trans (isolated.drained.entries d r ?_)
      · intro m isLive held
        refine apart m ((isolated.drained.live m).mp isLive).1 (.inr ?_)
        simpa using held
      · exact fun m isLive foreign => apart m isLive (.inl foreign.1)
  · refine isolated.kept.trans (kept₂.mono ?_)
    rintro m ⟨u, member, rfl⟩
    obtain ⟨mp, chosen, rfl⟩ := List.mem_map.mp member
    obtain ⟨isLive, test⟩ := List.mem_filter.mp chosen
    refine .inr ⟨mp, ((isolated.drained.live mp).mp isLive).1, .inr (by simpa using test), ?_⟩
    rw [isolated.drained.terms.backingOf]
  · have final : (releaseOwn target ⟨g₁, p₁⟩).2.p2m.live = p₁.live := by
      unfold P2m.System.live releaseOwn
      simp only []
      rw [links₂]
    exact final.trans isolated.live

section Frames

variable {target : DomId} {g₂ g₃ g₇ : Grant.System} {p₂ p₄ p₆ : P2m.System}

/-- No foreign entry is left into the frames of the domain. -/
theorem Detached.inward_gone (detached : Detached target g p g₂ p₂) :
    ∀ l ∈ p₂.live, p₂.ownerOf l.child = some target → p₂.ownerOf l.parent = some target := by
  intro l isLive childOwner
  obtain ⟨i, known, -⟩ := detached.sound.pages.parent_table isLive
  rw [detached.live, List.mem_filter] at isLive
  rw [detached.kept.owner] at childOwner
  have parentOwner := P2m.System.ownerOf_of_info known
  rw [detached.kept.owner] at parentOwner ⊢
  by_contra foreign
  have : p.inward target l = true := by
    simp only [P2m.System.inward, childOwner, parentOwner, decide_true, Option.any_some,
      Bool.true_and, decide_eq_true_eq]
    rintro rfl
    exact foreign parentOwner
  simp [this] at isLive

/-- Neither mappings nor entries of the domain are left. -/
structure Severed (target : DomId) (g : Grant.System) (p : P2m.System) : Prop where
  sound : Sound [] g p
  uninvolved : ∀ m ∈ g.live, ¬Involves target m
  gone : ∀ l ∈ p.live, p.ownerOf l.parent ≠ some target ∧ p.ownerOf l.child ≠ some target

theorem Severed.unclaimed (severed : Severed target g p) :
    ∀ c ∈ p.claims ((g.backing ++ []).map Unmapped.claim), p.ownerOf c.1 ≠ some target := by
  intro c held
  rcases List.mem_append.mp held with byEntry | byMapping
  · obtain ⟨l, isLive, member⟩ := List.mem_flatMap.mp byEntry
    simp only [Link.claims, List.mem_cons, List.not_mem_nil, or_false] at member
    rcases member with rfl | rfl
    · exact (severed.gone l isLive).1
    · exact (severed.gone l isLive).2
  · obtain ⟨u, backed, rfl⟩ := List.mem_map.mp byMapping
    rw [List.append_nil] at backed
    obtain ⟨m, isLive, rfl⟩ := List.mem_map.mp backed
    obtain ⟨a, active, -⟩ := severed.sound.grants.backed isLive
    rw [Grant.System.backingOf_of_active active]
    intro mine
    have mine : p.ownerOf a.frame = some target := mine
    rw [severed.sound.owned isLive active] at mine
    exact severed.uninvolved m isLive (.inl (Option.some.inj mine))

/-- Pins and frames go last, and without the entries nothing claims them. -/
theorem Severed.free (severed : Severed target g p) :
    let unpinned := P2m.System.unpinAll target p
    let freed := P2m.System.freeAll target unpinned.2
    (∀ r ∈ unpinned.1, r = .ok ()) ∧ (∀ r ∈ freed.1, r = .ok ()) ∧ Sound [] g freed.2 ∧
      Spared target p freed.2 ∧ ∀ m ∈ p.mfns, freed.2.ownerOf m ≠ some target := by
  intro unpinned freed
  obtain ⟨unpinnedOk, pages, spared, owners, unpinnedAll⟩ :=
    P2m.System.unpinAll_spec severed.sound.pages target
  have sound : Sound [] g unpinned.2 := severed.sound.spared pages spared severed.unclaimed
  have mfns : unpinned.2.mfns = p.mfns := P2m.System.mfns_of_frameCount spared.frameCount
  have severed' : Severed target g unpinned.2 := by
    refine ⟨sound, severed.uninvolved, ?_⟩
    intro l isLive
    rw [spared.live] at isLive
    rw [owners, owners]
    exact severed.gone l isLive
  obtain ⟨freedOk, pages', spared', freedAll⟩ :=
    P2m.System.freeAll_spec sound.pages target severed'.unclaimed (by
      intro m member mine
      rw [mfns] at member
      exact unpinnedAll m member (by rw [← owners]; exact mine))
  refine ⟨unpinnedOk, freedOk, sound.spared pages' spared' severed'.unclaimed,
    spared.trans spared', ?_⟩
  intro m member
  rw [← mfns] at member
  exact freedAll m member

/-- The entries of the domain are gone with those into its frames. -/
theorem Detached.kept_unlinked (detached : Detached target g p g₂ p₂)
    (kept : Kept (fun m => ∃ l ∈ p₂.live, p₂.outward target l = true ∧
      (m = l.parent ∨ m = l.child)) p₂ p₄) :
    Kept (fun m => (∃ l ∈ p.live, straddles p target l = true ∧ (m = l.parent ∨ m = l.child)) ∨
      ∃ mp ∈ g.live, Involves target mp ∧ (g.backingOf mp).frame = m) p p₄ := by
  refine (detached.kept.mono ?_).trans (kept.mono ?_)
  · rintro m (⟨l, isLive, isInward, here⟩ | mapped)
    · have both := isInward
      simp only [P2m.System.inward, Bool.and_eq_true, decide_eq_true_eq] at both
      exact .inl ⟨l, isLive, by simp [straddles, both.1], here⟩
    · exact .inr mapped
  · rintro m ⟨l, isLive, isOutward, here⟩
    rw [detached.live] at isLive
    have mine : p.ownerOf l.parent = some target := by
      rw [← detached.kept.owner]
      simpa [P2m.System.outward] using isOutward
    exact .inl ⟨l, (List.mem_filter.mp isLive).1, by simp [straddles, mine], here⟩

theorem Detached.links_unlinked (sound₀ : Sound [] g p) (detached : Detached target g p g₂ p₂) :
    (p₂.live.filter fun l => !p₂.outward target l) =
      p.live.filter fun l => !straddles p target l := by
  rw [detached.live, List.filter_filter]
  refine List.filter_congr ?_
  intro l isLive
  obtain ⟨i, known, -⟩ := sound₀.pages.parent_table isLive
  have parentOwner := P2m.System.ownerOf_of_info known
  simp only [P2m.System.outward, P2m.System.inward, straddles, detached.kept.owner, parentOwner]
  by_cases mine : i.owner = target <;> by_cases into : p.ownerOf l.child = some target <;>
    simp [mine, into]

/-- Grants by others to others are left alone by all stages. -/
theorem Detached.entries_kept (sound₀ : Sound [] g p) (detached : Detached target g p g₂ p₂)
    (revoked : Revoked (fun d _ => d = target) g₂ g₃)
    (withdrawn : Revoked (fun d r => ∃ a, g₃.grantEntry d r = some a ∧ a.grantee = target) g₃ g₇)
    {d : DomId} {r : GrantRef} (foreign : d ≠ target)
    (notTo : ∀ a, g.grantEntry d r = some a → a.grantee ≠ target) :
    g₇.entryAt d r = g.entryAt d r := by
  have before : g₂.entryAt d r = g.entryAt d r := by
    refine detached.drained.entries d r ?_
    rintro m isLive (ofEntry | held) ⟨rfl, rfl⟩
    · exact foreign ofEntry
    · obtain ⟨a, active, grantee, -⟩ := sound₀.grants.backed isLive
      exact notTo a active (grantee.trans held)
  have middle : g₃.entryAt d r = g₂.entryAt d r :=
    (revoked.entries d r).resolve_right fun bad => foreign bad.2.1
  refine ((withdrawn.entries d r).resolve_right ?_).trans (middle.trans before)
  rintro ⟨-, ⟨a, active, mine⟩, -⟩
  rw [Grant.System.grantEntry_eq_some, middle, before, ← Grant.System.grantEntry_eq_some] at active
  exact notTo a active mine

/-- Grants of the domain are unused: no foreign entry is left into its frames. -/
theorem Detached.sound_revoked (detached : Detached target g p g₂ p₂)
    (revoked : Revoked (fun d _ => d = target) g₂ g₃) : Sound [] g₃ p₂ := by
  refine detached.sound.revoked revoked ?_
  rintro l isLive co po childOwner parentOwner foreign r a active grantee rfl
  exact foreign (by simpa [parentOwner] using (detached.inward_gone l isLive childOwner).symm)

/-- Without its own entries the domain has none. -/
theorem Detached.severed (detached : Detached target g p g₂ p₂) (sound : Sound [] g₃ p₂)
    (same : g₃.live = g₂.live) (pages : p₄.Pages ((g₃.backing ++ []).map Unmapped.claim))
    (kept : Kept (Touched (p₂.outward target) p₂) p₂ p₄)
    (live : p₄.live = p₂.live.filter fun l => !p₂.outward target l) : Severed target g₃ p₄ := by
  refine ⟨sound.unlinked pages kept live, ?_, ?_⟩
  · intro m isLive
    rw [same] at isLive
    exact ((detached.drained.live m).mp isLive).2
  · intro l isLive
    rw [kept.owner, kept.owner]
    rw [live, List.mem_filter] at isLive
    have outward : p₂.ownerOf l.parent ≠ some target := by
      simpa [P2m.System.outward] using isLive.2
    exact ⟨outward, fun into => outward (detached.inward_gone l isLive.1 into)⟩

/-- Grants to the domain are unused: it has no entries left. -/
theorem Severed.sound_withdrawn (severed : Severed target g₃ p₄) (sound : Sound [] g₃ p₆)
    (spared : Spared target p₄ p₆)
    (withdrawn : Revoked (fun d r => ∃ a, g₃.grantEntry d r = some a ∧ a.grantee = target) g₃ g₇) :
    Sound [] g₇ p₆ := by
  refine sound.revoked withdrawn ?_
  rintro l isLive co po childOwner parentOwner foreign r a active grantee ⟨b, active', mine⟩
  obtain rfl : a = b := Option.some.inj (active.symm.trans active')
  rw [spared.live] at isLive
  refine (severed.gone l isLive).1 ?_
  rw [spared.owner _ _ parentOwner, ← grantee, mine]

theorem Detached.offers_gone {gone : DomId → GrantRef → Prop} (detached : Detached target g p g₂ p₂)
    (withdrawn : Revoked gone g₃ g₇)
    (offers : ∀ r ∈ g₂.grefs target, g₃.grantEntry target r = none) :
    ∀ r ∈ g.grefs target, g₇.grantEntry target r = none := by
  intro r member
  by_contra present
  obtain ⟨a, active⟩ := Option.ne_none_iff_exists'.mp present
  have none' := offers r (by rw [detached.drained.sizes.grefs]; exact member)
  rw [withdrawn.grantEntry active] at none'
  cases none'

/-- Every grant that is left has the terms that it had. -/
theorem Detached.terms_kept {gone gone' : DomId → GrantRef → Prop}
    (detached : Detached target g p g₂ p₂) (revoked : Revoked gone g₂ g₃)
    (withdrawn : Revoked gone' g₃ g₇) {d : DomId} {r : GrantRef} {a : Access}
    (active : g₇.grantEntry d r = some a) : ∃ b, g.grantEntry d r = some b ∧ b.terms = a.terms := by
  have terms := detached.drained.terms d r
  rw [revoked.grantEntry (withdrawn.grantEntry active), Option.map_some, eq_comm,
    Option.map_eq_some_iff] at terms
  exact terms

section Others

variable {touched : Mfn → Prop} (kept : Kept touched p p₄) (spared : Spared target p₄ p₆) {m : Mfn}
  (foreign : p.ownerOf m ≠ some target)
include kept spared foreign

/-- The frames of others are as the entries left them. -/
theorem info_others : p₆.info m = p₄.info m :=
  spared.other m (by rw [kept.owner]; exact foreign)

theorem ownerOf_others : p₆.ownerOf m = p.ownerOf m := by
  rw [← kept.owner, P2m.System.ownerOf, P2m.System.ownerOf, info_others kept spared foreign]

theorem isPinned_others : p₆.isPinned m = p.isPinned m := by
  rw [← kept.pinned, P2m.System.isPinned, P2m.System.isPinned, info_others kept spared foreign]

end Others

/-- The stages after the mappings are gone, each by what it does, add up to the reclaiming. -/
theorem Detached.reclaimed (sound₀ : Sound [] g p) (detached : Detached target g p g₂ p₂)
    (revoked : Revoked (fun d _ => d = target) g₂ g₃)
    (withdrawn : Revoked (fun d r => ∃ a, g₃.grantEntry d r = some a ∧ a.grantee = target) g₃ g₇)
    (offers : ∀ r ∈ g₂.grefs target, g₃.grantEntry target r = none)
    (inbound : ∀ slot ∈ g₃.allRefs, g₇.granteeOf slot.1 slot.2 ≠ some target)
    (kept₄ : Kept (Touched (p₂.outward target) p₂) p₂ p₄)
    (live₄ : p₄.live = p₂.live.filter fun l => !p₂.outward target l)
    (spared : Spared target p₄ p₆) (freed : ∀ m ∈ p₄.mfns, p₆.ownerOf m ≠ some target)
    (sound₇ : Sound [] g₇ p₆) : Reclaimed target g p g₇ p₆ := by
  have kept := detached.kept_unlinked kept₄
  exact {
    sound := sound₇
    sizes := detached.drained.sizes.trans (revoked.sizes.trans withdrawn.sizes)
    mappings := by
      intro m
      rw [withdrawn.live, revoked.live]
      exact detached.drained.live m
    entries := fun d r => detached.entries_kept sound₀ revoked withdrawn
    withdrawn := detached.terms_kept revoked withdrawn
    offers := detached.offers_gone withdrawn offers
    inbound := by
      intro slot member
      refine inbound slot ?_
      rw [revoked.sizes.allRefs, detached.drained.sizes.allRefs]
      exact member
    frameCount := spared.frameCount.trans kept.frameCount
    links := by
      rw [spared.live, live₄]
      exact detached.links_unlinked sound₀
    owners := fun m => ownerOf_others kept spared
    pins := fun m => isPinned_others kept spared
    lost := by
      intro m d owned
      rw [← kept.owner]
      exact spared.owner m d owned
    freed := by
      intro m member
      refine freed m ?_
      rw [P2m.System.mfns_of_frameCount kept.frameCount]
      exact member
    frames := by
      intro m foreign unlinkedFrom unmapped
      rw [info_others kept spared foreign]
      refine kept.other m ?_
      rintro (⟨l, isLive, isStraddling, here⟩ | ⟨mp, isLive, involved, here⟩)
      · obtain ⟨notParent, notChild⟩ := unlinkedFrom l isLive isStraddling
        exact here.elim notParent notChild
      · exact unmapped mp isLive involved here }

/-- The teardown of the memory, after the mappings are gone. -/
theorem reclaim_frames (sound₀ : Sound [] g p) (detached : Detached target g p g₂ p₂) :
    let revoked := Grant.System.revokeAll target g₂
    let unlinked := P2m.System.unlinkAll target p₂
    let unpinned := P2m.System.unpinAll target unlinked.2
    let freed := P2m.System.freeAll target unpinned.2
    let withdrawn := Grant.System.revokeGrantsTo target revoked.2
    (∀ r ∈ revoked.1, r = .ok ()) ∧ (∀ r ∈ unlinked.1, r = .ok ()) ∧
      (∀ r ∈ unpinned.1, r = .ok ()) ∧ (∀ r ∈ freed.1, r = .ok ()) ∧
      (∀ r ∈ withdrawn.1, r = .ok ()) ∧ Reclaimed target g p withdrawn.2 freed.2 := by
  intro revoked unlinked unpinned freed withdrawn
  obtain ⟨revokedOk, revokedSpec, offers⟩ :=
    Grant.System.revokeAll_spec detached.sound.grants target
      fun m isLive mine => ((detached.drained.live m).mp isLive).2 (.inl mine)
  have sound₃ := detached.sound_revoked revokedSpec
  obtain ⟨unlinkedOk, pages₄, kept₄, live₄⟩ := P2m.System.unlinkAll_spec sound₃.pages target
  have severed := detached.severed sound₃ revokedSpec.live pages₄ kept₄ live₄
  obtain ⟨unpinnedOk, freedOk, sound₆, spared, freedAll⟩ := severed.free
  obtain ⟨withdrawnOk, withdrawnSpec, inbound⟩ :=
    Grant.System.revokeGrantsTo_spec revokedSpec.consistent target
      fun m isLive mine => severed.uninvolved m isLive (.inr mine)
  exact ⟨revokedOk, unlinkedOk, unpinnedOk, freedOk, withdrawnOk,
    detached.reclaimed sound₀ revokedSpec withdrawnSpec offers inbound kept₄ live₄ spared freedAll
      (severed.sound_withdrawn sound₆ spared withdrawnSpec)⟩

end Frames

end Baleen.Hypervisor
