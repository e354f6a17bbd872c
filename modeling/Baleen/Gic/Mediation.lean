import Baleen.Gic.Counting

/-!
# Mediation over whole runs

Whether an interrupt is enabled is decided by the last accepted write that named its bit in its
own bank.
-/

namespace Baleen.Gic

structure Write where
  ipa : UInt64
  size : UInt64
  value : UInt64
  deriving DecidableEq, Repr

/-- The address of the word that holds the bit of an interrupt, in the registers at `offset`. -/
def GicLayout.wordAddress (layout : GicLayout) (vcpus vcpu intid offset : Nat) : Option Nat :=
  if intid < 32 then
    if vcpu < vcpus then some (layout.gicrRdBase.toNat + vcpu * 0x20000 + 0x10000 + offset)
    else none
  else if intid < 288 ∧ offset + 4 * (intid / 32) < layout.gicdLen.toNat then
    some (layout.gicdBase.toNat + offset + 4 * (intid / 32))
  else none

/-- Whether a write has a one for the interrupt, and sets or clears its enable bit by that. -/
def GicLayout.names (layout : GicLayout) (vcpus vcpu : Nat) (intid : UInt32) (w : Write) :
    Option Bool :=
  if w.value.toNat.testBit (intid.toNat % 32) = false then none
  else if layout.wordAddress vcpus vcpu intid.toNat 0x100 = some w.ipa.toNat then some true
  else if layout.wordAddress vcpus vcpu intid.toNat 0x180 = some w.ipa.toNat then some false
  else none

/-- What the last of the writes that name the interrupt did, if there is one. -/
def GicLayout.lastNamed (layout : GicLayout) (vcpus vcpu : Nat) (intid : UInt32)
    (writes : List Write) : Option Bool :=
  (writes.filterMap (layout.names vcpus vcpu intid)).getLast?

namespace VirtGic

variable {vcpus : Nat} {g g' : VirtGic vcpus} {off value : UInt64} {v n : Nat} {intid : UInt32}
  {frame : GicFrame}

def write (g : VirtGic vcpus) (w : Write) : Except Unhandled Nat × VirtGic vcpus :=
  g.mmioWrite w.ipa w.size w.value

/-- The device after a sequence of writes. -/
def run (g : VirtGic vcpus) (writes : List Write) : VirtGic vcpus :=
  writes.foldl (fun g w => (g.write w).2) g

/-- The frame with the registers of an interrupt. -/
def home (vcpu intid : Nat) : GicFrame := if intid < 32 then .sgi vcpu else .dist

/-- `names` of an address that has been decoded. -/
def namesAt (frame : GicFrame) (off value : UInt64) (vcpu : Nat) (intid : UInt32) : Option Bool :=
  if value.toNat.testBit (intid.toNat % 32) = false then none
  else if intid.toNat < 288 ∧ frame = home vcpu intid.toNat then
    if off.toNat = 0x100 + 4 * (intid.toNat / 32) then some true
    else if off.toNat = 0x180 + 4 * (intid.toNat / 32) then some false
    else none
  else none

theorem namesAt_foreign (foreign : frame ≠ home v intid.toNat) :
    namesAt frame off value v intid = none := by
  unfold namesAt
  split_ifs with bit own
  · rfl
  · exact absurd own.2 foreign
  · exact absurd own.2 foreign
  · exact absurd own.2 foreign
  · rfl

theorem namesAt_outside (outside : 288 ≤ intid.toNat) :
    namesAt frame off value v intid = none := by
  unfold namesAt
  split_ifs with bit own
  all_goals first | rfl | exact absurd own.1 (Nat.not_lt.mpr outside)

theorem namesAt_elsewhere (set : off.toNat ≠ 0x100 + 4 * (intid.toNat / 32))
    (clear : off.toNat ≠ 0x180 + 4 * (intid.toNat / 32)) :
    namesAt frame off value v intid = none := by
  unfold namesAt
  split_ifs <;> rfl

theorem namesAt_set (inside : intid.toNat < 288) (own : frame = home v intid.toNat)
    (place : off.toNat = 0x100 + 4 * (intid.toNat / 32)) :
    namesAt frame off value v intid =
      if value.toNat.testBit (intid.toNat % 32) then some true else none := by
  simp only [namesAt, if_pos (And.intro inside own), if_pos place]
  cases value.toNat.testBit (intid.toNat % 32) <;> rfl

theorem namesAt_clear (inside : intid.toNat < 288) (own : frame = home v intid.toNat)
    (place : off.toNat = 0x180 + 4 * (intid.toNat / 32)) :
    namesAt frame off value v intid =
      if value.toNat.testBit (intid.toNat % 32) then some false else none := by
  have other : off.toNat ≠ 0x100 + 4 * (intid.toNat / 32) := by omega
  simp only [namesAt, if_pos (And.intro inside own), if_neg other, if_pos place]
  cases value.toNat.testBit (intid.toNat % 32) <;> rfl

theorem home_banked (banked : intid.toNat < 32) : home v intid.toNat = .sgi v := if_pos banked

theorem home_shared (low : 32 ≤ intid.toNat) : home v intid.toNat = .dist :=
  if_neg (Nat.not_lt.mpr low)

theorem DistEffect.isEnabled_eq {result : Option Nat × VirtGic vcpus}
    (effect : DistEffect g off value result) (v : Nat) (intid : UInt32) :
    result.2.isEnabled v intid =
      (namesAt .dist off value v intid).getD (g.isEnabled v intid) := by
  have small : intid.toNat % 32 < 32 := Nat.mod_lt _ (by decide)
  rcases Nat.lt_or_ge intid.toNat 32 with banked | low
  · -- The banks of the vCPUs are out of reach.
    have foreign : GicFrame.dist ≠ home v intid.toNat := by simp [home_banked banked]
    rw [namesAt_foreign foreign, Option.getD_none]
    cases effect with
    | set w index place => rw [isEnabled_setShared index, if_neg (by have := index.1; omega)]
    | clear w index place => rw [isEnabled_setShared index, if_neg (by have := index.1; omega)]
    | other g' elsewhere same => exact same.isEnabled_eq v intid
    | refused elsewhere => rfl
  rcases Nat.lt_or_ge intid.toNat 288 with high | outside
  case inr =>
    rw [namesAt_outside outside, Option.getD_none, isEnabled_outside outside,
      isEnabled_outside outside]
  have own : GicFrame.dist = home v intid.toNat := (home_shared low).symm
  have index' : SharedIndex (intid.toNat / 32) := ⟨by omega, by omega⟩
  cases effect with
  | set w index place =>
      rw [isEnabled_setShared index]
      split_ifs with here
      · rw [namesAt_set high own (by omega), isEnabled_shared low high, here, bitSet_or small,
          bitSet_toUInt32 small]
        cases value.toNat.testBit (intid.toNat % 32) <;> simp
      · obtain ⟨first, last⟩ := index
        rw [namesAt_elsewhere (by omega) (by omega), Option.getD_none]
  | clear w index place =>
      rw [isEnabled_setShared index]
      split_ifs with here
      · rw [namesAt_clear high own (by omega), isEnabled_shared low high, here,
          bitSet_and_not small, bitSet_toUInt32 small]
        cases value.toNat.testBit (intid.toNat % 32) <;> simp
      · obtain ⟨first, last⟩ := index
        rw [namesAt_elsewhere (by omega) (by omega), Option.getD_none]
  | other g' elsewhere same =>
      rw [namesAt_elsewhere (elsewhere _ index').1 (elsewhere _ index').2, Option.getD_none]
      exact same.isEnabled_eq v intid
  | refused elsewhere =>
      rw [namesAt_elsewhere (elsewhere _ index').1 (elsewhere _ index').2, Option.getD_none]

theorem SgiEffect.isEnabled_eq {result : Option Nat × VirtGic vcpus}
    (effect : SgiEffect g n off value.toUInt32 result) (known : n < vcpus) (v : Nat)
    (intid : UInt32) : result.2.isEnabled v intid =
      (namesAt (.sgi n) off value v intid).getD (g.isEnabled v intid) := by
  by_cases own : GicFrame.sgi n = home v intid.toNat
  case neg =>
    rw [namesAt_foreign own, Option.getD_none]
    have other : ¬(intid.toNat < 32 ∧ v = n) := by
      rintro ⟨banked, rfl⟩
      exact own (home_banked banked).symm
    cases effect with
    | set bank present place => rw [isEnabled_setBank present, if_neg other]
    | clear bank present place => rw [isEnabled_setBank present, if_neg other]
    | other g' elsewhere same => exact same.isEnabled_eq v intid
    | refused elsewhere => rfl
  obtain ⟨banked, rfl⟩ : intid.toNat < 32 ∧ v = n := by
    unfold home at own
    split_ifs at own with banked
    exact ⟨banked, (GicFrame.sgi.inj own).symm⟩
  have inside : intid.toNat < 288 := banked.trans (by decide)
  have word : intid.toNat / 32 = 0 := Nat.div_eq_of_lt banked
  have bit : intid.toNat % 32 = intid.toNat := Nat.mod_eq_of_lt banked
  cases effect with
  | set bank present place =>
      rw [isEnabled_setBank present, if_pos ⟨banked, rfl⟩, namesAt_set inside own (by omega),
        isEnabled_banked banked, bankWord, present, bitSet_or banked, bitSet_toUInt32 banked, bit]
      cases value.toNat.testBit intid.toNat <;> simp
  | clear bank present place =>
      rw [isEnabled_setBank present, if_pos ⟨banked, rfl⟩, namesAt_clear inside own (by omega),
        isEnabled_banked banked, bankWord, present, bitSet_and_not banked, bitSet_toUInt32 banked,
          bit]
      cases value.toNat.testBit intid.toNat <;> simp
  | other g' elsewhere same =>
      rw [namesAt_elsewhere (by omega) (by omega), Option.getD_none]
      exact same.isEnabled_eq v intid
  | refused elsewhere =>
      rcases elsewhere with absent | elsewhere
      · rw [Vector.getElem?_eq_getElem known] at absent
        cases absent
      · rw [namesAt_elsewhere (by omega) (by omega), Option.getD_none]

theorem isEnabled_redistWrite (g : VirtGic vcpus) (n : Nat) (off : UInt64) (value : UInt32)
    (v : Nat)
    (intid : UInt32) : (g.redistWrite n off value).2.isEnabled v intid = g.isEnabled v intid := by
  rcases g.redistWrite_cases n off value with refused | ⟨g', done, same⟩
  · rw [refused]
  · rw [done]
    exact same.isEnabled_eq v intid

/-- A decoded write sets or clears what it names, and nothing else. -/
theorem isEnabled_frameWrite (g : VirtGic vcpus) (known : GicLayout.HasFrame vcpus frame)
    (off value : UInt64) (v : Nat) (intid : UInt32) :
    (g.frameWrite frame off value).2.isEnabled v intid =
      (namesAt frame off value v intid).getD (g.isEnabled v intid) := by
  cases frame with
  | dist => exact (g.distWrite_effect off value).isEnabled_eq v intid
  | redist n =>
      have foreign : GicFrame.redist n ≠ home v intid.toNat := by
        unfold home
        split_ifs <;> exact nofun
      rw [namesAt_foreign foreign]
      exact g.isEnabled_redistWrite n off value.toUInt32 v intid
  | sgi n => exact (g.sgiWrite_effect n off value.toUInt32).isEnabled_eq known v intid

theorem DistEffect.unnamed (effect : DistEffect g off value (none, g')) (v : Nat)
    (intid : UInt32) : namesAt .dist off value v intid = none := by
  cases effect with
  | refused elsewhere =>
      rcases Nat.lt_or_ge intid.toNat 32 with banked | low
      · exact namesAt_foreign (by simp [home_banked banked])
      · rcases Nat.lt_or_ge intid.toNat 288 with high | outside
        · have apart := elsewhere (intid.toNat / 32) ⟨by omega, by omega⟩
          exact namesAt_elsewhere apart.1 apart.2
        · exact namesAt_outside outside

theorem SgiEffect.unnamed {bits : UInt32} (effect : SgiEffect g n off bits (none, g'))
    (known : n < vcpus) (v : Nat) (intid : UInt32) : namesAt (.sgi n) off value v intid = none := by
  cases effect with
  | refused elsewhere =>
      rcases elsewhere with absent | apart
      · rw [Vector.getElem?_eq_getElem known] at absent
        cases absent
      · by_cases own : GicFrame.sgi n = home v intid.toNat
        · have banked : intid.toNat < 32 := by
            unfold home at own
            split_ifs at own with banked
            exact banked
          exact namesAt_elsewhere (by omega) (by omega)
        · exact namesAt_foreign own

/-- What no register claims names no interrupt. -/
theorem namesAt_of_refused (known : GicLayout.HasFrame vcpus frame)
    (refused : g.frameWrite frame off value = (none, g')) (v : Nat) (intid : UInt32) :
    namesAt frame off value v intid = none := by
  cases frame with
  | dist =>
      have effect := g.distWrite_effect off value
      rw [show g.distWrite off value = (none, g') from refused] at effect
      exact effect.unnamed v intid
  | redist n =>
      refine namesAt_foreign ?_
      unfold home
      split_ifs <;> exact nofun
  | sgi n =>
      have effect := g.sgiWrite_effect n off value.toUInt32
      rw [show g.sgiWrite n off value.toUInt32 = (none, g') from refused] at effect
      exact effect.unnamed known v intid

section

variable {layout : GicLayout} {ipa : UInt64}

theorem wordAddress_eq_some (valid : layout.Valid vcpus) (few : vcpus ≤ 255) {i offset : Nat}
    (small : offset < 0x1000) : layout.wordAddress vcpus v i offset = some ipa.toNat ↔
      i < 288 ∧ ∃ off, layout.frameOf ipa vcpus = some (home v i, off) ∧
        off.toNat = offset + 4 * (i / 32) := by
  simp only [GicLayout.frameOf_eq_some valid few]
  unfold GicLayout.wordAddress home
  by_cases banked : i < 32
  · have word : i / 32 = 0 := Nat.div_eq_of_lt banked
    have bits : (UInt64.ofNat offset).toNat = offset :=
      UInt64.toNat_ofNat_of_lt' (show offset < 2 ^ 64 by omega)
    simp only [if_pos banked, GicLayout.HasFrame, GicLayout.frameSize, GicLayout.frameStart, word]
    constructor
    · intro found
      split_ifs at found with known
      have place := Option.some.inj found
      exact ⟨by omega, UInt64.ofNat offset, ⟨known, by omega, by omega⟩, by omega⟩
    · rintro ⟨-, off, ⟨known, -, place⟩, named⟩
      rw [if_pos known, Option.some.injEq]
      omega
  · simp only [if_neg banked, GicLayout.HasFrame, GicLayout.frameSize, GicLayout.frameStart]
    constructor
    · intro found
      split_ifs at found with inside
      have place := Option.some.inj found
      have bits : (UInt64.ofNat (offset + 4 * (i / 32))).toNat = offset + 4 * (i / 32) :=
        UInt64.toNat_ofNat_of_lt' (show offset + 4 * (i / 32) < 2 ^ 64 by omega)
      exact ⟨inside.1, UInt64.ofNat (offset + 4 * (i / 32)), ⟨trivial, by omega, by omega⟩, bits⟩
    · rintro ⟨high, off, ⟨-, room, place⟩, named⟩
      rw [if_pos ⟨high, by omega⟩, Option.some.injEq]
      omega

/-- Where an address is decoded, naming is naming in the frame. -/
theorem names_eq (valid : layout.Valid vcpus) (few : vcpus ≤ 255) (w : Write) :
    layout.names vcpus v intid w = (layout.frameOf w.ipa vcpus).bind fun (frame, off) =>
      namesAt frame off w.value v intid := by
  have set := @wordAddress_eq_some vcpus v layout w.ipa valid few intid.toNat 0x100 (by decide)
  have clear := @wordAddress_eq_some vcpus v layout w.ipa valid few intid.toNat 0x180 (by decide)
  unfold GicLayout.names
  cases decoded : layout.frameOf w.ipa vcpus with
  | none =>
      simp only [decoded, reduceCtorEq, false_and, exists_false, and_false, iff_false] at set clear
      simp [set, clear]
  | some place =>
      obtain ⟨frame, off⟩ := place
      have here : ∀ o : Nat, (intid.toNat < 288 ∧ ∃ off', some (frame, off) =
          some (home v intid.toNat, off') ∧ off'.toNat = o) ↔
          (intid.toNat < 288 ∧ frame = home v intid.toNat) ∧ off.toNat = o := by
        intro o
        constructor
        · rintro ⟨high, off', same, named⟩
          cases same
          exact ⟨⟨high, rfl⟩, named⟩
        · rintro ⟨⟨high, rfl⟩, named⟩
          exact ⟨high, off, rfl, named⟩
      rw [decoded, here] at set clear
      rw [Option.bind_some]
      unfold namesAt
      simp only [set, clear]
      by_cases own : intid.toNat < 288 ∧ frame = home v intid.toNat
      · simp only [own, true_and, and_self, if_true]
      · simp only [own, false_and, if_false]

end

section

variable {layout : GicLayout}

/-- One write to the device. -/
theorem write_spec (valid : layout.Valid vcpus) (few : vcpus ≤ 255) (own : g.layout = layout)
    (w : Write) : (g.write w).2.layout = layout ∧
      (∀ v intid, (g.write w).2.isEnabled v intid =
        (layout.names vcpus v intid w).getD (g.isEnabled v intid)) ∧
      match g.write w with
      | (.ok newly, g') => newly = turnedOn g g'
      | (.error _, g') => g' = g ∧ ∀ v intid, layout.names vcpus v intid w = none := by
  subst own
  unfold write mmioWrite
  cases decoded : g.layout.frameOf w.ipa vcpus with
  | none =>
      have unnamed : ∀ v intid, g.layout.names vcpus v intid w = none := by
        intro v intid
        rw [names_eq valid few, decoded, Option.bind_none]
      exact ⟨rfl, fun v intid => by rw [unnamed]; rfl, rfl, unnamed⟩
  | some place =>
      obtain ⟨frame, off⟩ := place
      have known := ((GicLayout.frameOf_eq_some valid few).mp decoded).1
      have named : ∀ v intid, g.layout.names vcpus v intid w =
        namesAt frame off w.value v intid := by
        intro v intid
        rw [names_eq valid few, decoded, Option.bind_some]
      have bits := fun v intid => g.isEnabled_frameWrite known off w.value v intid
      have accounted := g.frameWrite_accounted frame off w.value
      simp only [named]
      cases result : g.frameWrite frame off w.value with
      | mk answer g' =>
          rw [result] at bits accounted
          cases answer with
          | some newly => exact ⟨accounted.1, bits, accounted.2⟩
          | none => exact ⟨accounted.1, bits, accounted.2, namesAt_of_refused known result⟩

theorem isEnabled_new (layout : GicLayout) (v : Nat) (intid : UInt32) :
    (new layout : VirtGic vcpus).isEnabled v intid = false := by
  have small : intid.toNat % 32 < 32 := Nat.mod_lt _ (by decide)
  rcases Nat.lt_or_ge intid.toNat 32 with banked | low
  · rw [isEnabled_banked banked, bankWord, new, Vector.getElem?_replicate]
    split_ifs
    · exact bitSet_zero banked
    · rfl
  · rcases Nat.lt_or_ge intid.toNat 288 with high | outside
    · rw [isEnabled_shared low high, sharedWord, new, Vector.getElem?_replicate]
      split_ifs <;> exact bitSet_zero small
    · exact isEnabled_outside outside

/-- The enable bits after a run are what the last writes that named them left. -/
theorem run_spec (valid : layout.Valid vcpus) (few : vcpus ≤ 255) (writes : List Write) :
    (run (new layout : VirtGic vcpus) writes).layout = layout ∧
      ∀ v intid, (run (new layout : VirtGic vcpus) writes).isEnabled v intid =
        (layout.lastNamed vcpus v intid writes).getD false := by
  induction writes using List.reverseRecOn with
  | nil =>
      exact ⟨rfl, fun v intid => isEnabled_new layout v intid⟩
  | append_singleton writes w ih =>
      obtain ⟨own, bits⟩ := ih
      obtain ⟨own', bits', -⟩ := write_spec valid few own w
      have last : run (new layout : VirtGic vcpus) (writes ++ [w]) =
          ((run (new layout : VirtGic vcpus) writes).write w).2 := by
        simp only [run, List.foldl_append, List.foldl_cons, List.foldl_nil]
      rw [last]
      refine ⟨own', fun v intid => ?_⟩
      rw [bits', bits, GicLayout.lastNamed, GicLayout.lastNamed, List.filterMap_append]
      cases named : layout.names vcpus v intid w with
      | none => simp [named]
      | some b => simp [named]

/-- An interrupt is enabled exactly when the last write that named its bit in its own bank was
one to a set-enable register.  Such writes are accepted, other writes leave the bit alone, the
count is that of the bits turned on, and a refused write changes nothing. -/
theorem run_mediates (few : vcpus ≤ 255) (accepted : layout.validate vcpus = true)
    (writes : List Write) :
    (∀ v intid, (run (new layout : VirtGic vcpus) writes).isEnabled v intid = true ↔
        layout.lastNamed vcpus v intid writes = some true) ∧
      ∀ w : Write,
        (∀ v intid, layout.names vcpus v intid w = none →
          ((run (new layout : VirtGic vcpus) writes).write w).2.isEnabled v intid =
            (run (new layout : VirtGic vcpus) writes).isEnabled v intid) ∧
        (∀ v intid n off, n ≠ v → layout.frameOf w.ipa vcpus = some (.redist n, off) ∨
            layout.frameOf w.ipa vcpus = some (.sgi n, off) →
          layout.names vcpus v intid w = none) ∧
        match (run (new layout : VirtGic vcpus) writes).write w with
        | (.ok newly, g') => newly = turnedOn (run (new layout : VirtGic vcpus) writes) g'
        | (.error _, g') => g' = run (new layout : VirtGic vcpus) writes ∧
            ∀ v intid, layout.names vcpus v intid w = none := by
  have valid := GicLayout.valid_of_validate accepted
  obtain ⟨own, bits⟩ := run_spec valid few writes
  refine ⟨fun v intid => ?_, fun w => ?_⟩
  · rw [bits]
    cases layout.lastNamed vcpus v intid writes <;> simp
  · obtain ⟨-, bits', result⟩ := write_spec valid few own w
    refine ⟨fun v intid unnamed => ?_, fun v intid n off other place => ?_, result⟩
    · rw [bits', unnamed, Option.getD_none]
    · rw [names_eq valid few]
      rcases place with decoded | decoded
      · rw [decoded, Option.bind_some]
        refine namesAt_foreign ?_
        unfold home
        split_ifs <;> exact nofun
      · rw [decoded, Option.bind_some]
        refine namesAt_foreign ?_
        unfold home
        split_ifs with banked
        · exact fun same => other (GicFrame.sgi.inj same)
        · exact nofun

end

/-- A board with room for two redistributors. -/
def board : GicLayout := ⟨0x08000000, 0x10000, 0x080a0000, 0x09000000⟩

/-- The second vCPU enables its timer, and disables another interrupt. -/
theorem run_mediates_board : (run (new board : VirtGic 2)
    [⟨0x080d0100, 4, 0x08000000⟩, ⟨0x080d0180, 4, 0x00000001⟩]).isEnabled 1 27 = true :=
  ((run_mediates (by decide) (by decide) _).1 1 27).mpr (by decide)

end VirtGic

end Baleen.Gic
