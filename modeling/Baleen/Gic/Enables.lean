import Mathlib.Data.Nat.Bitwise
import Baleen.Gic.Decode

/-!
# Enable bits

An interrupt has one enable bit: in the bank of its own vCPU below 32, else in a word that the
vCPUs share.  It is set by a write to the one register and cleared by a write to another, and
no other write changes it.
-/

namespace Baleen.Gic.VirtGic

variable {vcpus : Nat} {g g' : VirtGic vcpus} {x y intid : UInt32} {off value : UInt64}
    {k n v : Nat}

theorem bitSet_eq (small : k < 32) (x : UInt32) : bitSet x k = x.toNat.testBit k := by
  have position : ((1 : UInt32) <<< UInt32.ofNat k).toNat = 2 ^ k := by
    rw [UInt32.toNat_shiftLeft, UInt32.toNat_ofNat_of_lt' (show k < 2 ^ 32 by omega),
      Nat.mod_eq_of_lt small]
    change 1 <<< k % 2 ^ 32 = 2 ^ k
    rw [Nat.one_shiftLeft]
    exact Nat.mod_eq_of_lt (Nat.pow_lt_pow_right (by decide) small)
  have present : (x &&& ((1 : UInt32) <<< UInt32.ofNat k) ≠ 0) ↔ x.toNat.testBit k = true := by
    rw [ne_eq, ← UInt32.toNat_inj, UInt32.toNat_and, position, Nat.and_two_pow]
    cases x.toNat.testBit k <;> simp
  rw [bitSet, Bool.eq_iff_iff, decide_eq_true_iff, present]

theorem bitSet_or (small : k < 32) : bitSet (x ||| y) k = (bitSet x k || bitSet y k) := by
  simp only [bitSet_eq small, UInt32.toNat_or, Nat.testBit_or]

theorem bitSet_and_not (small : k < 32) :
    bitSet (x &&& ~~~y) k = (bitSet x k && !bitSet y k) := by
  simp only [bitSet_eq small]
  change (x.toBitVec &&& ~~~y.toBitVec).getLsbD k = (x.toBitVec.getLsbD k && !y.toBitVec.getLsbD k)
  simp [small]

theorem bitSet_toUInt32 (small : k < 32) (value : UInt64) :
    bitSet value.toUInt32 k = value.toNat.testBit k := by
  rw [bitSet_eq small, UInt64.toNat_toUInt32, Nat.testBit_mod_two_pow]
  simp [small]

theorem bitSet_zero (small : k < 32) : bitSet 0 k = false := by
  rw [bitSet_eq small]
  exact Nat.zero_testBit k

/-- The shared word at an index. -/
def sharedWord (g : VirtGic vcpus) (w : Nat) : UInt32 := g.enabled[w]?.getD 0

/-- The word of a vCPU's own enable bits. -/
def bankWord (g : VirtGic vcpus) (v : Nat) : Option UInt32 := g.redist[v]?.map RedistBank.enabled

/-- Neither the enable bits nor the address map change. -/
structure SameEnables (g g' : VirtGic vcpus) : Prop where
  layout : g'.layout = g.layout
  shared : g'.enabled = g.enabled
  banked : ∀ v, g'.bankWord v = g.bankWord v

theorem SameEnables.refl (g : VirtGic vcpus) : SameEnables g g := ⟨rfl, rfl, fun _ => rfl⟩

/-- A new value for a word of shared enable bits. -/
def setShared (g : VirtGic vcpus) (w : Nat) (word : UInt32) : VirtGic vcpus :=
  { g with enabled := g.enabled.setIfInBounds w word }

/-- A word that holds the enable bits of shared interrupts. -/
def SharedIndex (w : Nat) : Prop := 1 ≤ w ∧ w < 9

/-- An offset of no register for shared enable bits. -/
def NoSharedEnable (off : UInt64) : Prop :=
  ∀ w, SharedIndex w → off.toNat ≠ 0x100 + 4 * w ∧ off.toNat ≠ 0x180 + 4 * w

theorem noSharedEnable (set : off.toNat < 0x104 ∨ 0x120 < off.toNat)
    (clear : off.toNat < 0x184 ∨ 0x1a0 < off.toNat) : NoSharedEnable off := by
  rintro w ⟨low, high⟩
  omega

theorem noSharedEnable_of_res0 (banked : distBankedRes0 off = true) : NoSharedEnable off := by
  rcases distBankedRes0_offset banked with listed | bytes
  · have apart : ∀ o ∈ BANKED_OFFSETS, (o < 0x104 ∨ 0x120 < o) ∧ (o < 0x184 ∨ 0x1a0 < o) := by
      decide
    exact noSharedEnable (apart _ listed).1 (apart _ listed).2
  · exact noSharedEnable (by omega) (by omega)

theorem distConfigWrite_cases (g : VirtGic vcpus) (off value : UInt64) :
    g.distConfigWrite off value = (none, g) ∨
      ∃ g', g.distConfigWrite off value = (some 0, g') ∧ SameEnables g g' := by
  unfold distConfigWrite
  split
  · exact .inr ⟨g, rfl, SameEnables.refl g⟩
  · split
    · exact .inr ⟨_, rfl, rfl, rfl, fun _ => rfl⟩
    · split
      · exact .inr ⟨_, rfl, rfl, rfl, fun _ => rfl⟩
      · exact .inl rfl

/-- What a write to the distributor can do to the shared enable bits. -/
inductive DistEffect (g : VirtGic vcpus) (off value : UInt64) :
    Option Nat × VirtGic vcpus → Prop where
  | set (w : Nat) (index : SharedIndex w) (place : off.toNat = 0x100 + 4 * w) :
      DistEffect g off value (some (countOnes (value.toUInt32 &&& ~~~g.sharedWord w)),
        g.setShared w (g.sharedWord w ||| value.toUInt32))
  | clear (w : Nat) (index : SharedIndex w) (place : off.toNat = 0x180 + 4 * w) :
      DistEffect g off value (some 0, g.setShared w (g.sharedWord w &&& ~~~value.toUInt32))
  | other (g' : VirtGic vcpus) (elsewhere : NoSharedEnable off) (same : SameEnables g g') :
      DistEffect g off value (some 0, g')
  | refused (elsewhere : NoSharedEnable off) : DistEffect g off value (none, g)

theorem distBankWrite_effect (g : VirtGic vcpus) (off value : UInt64) :
    DistEffect g off value (g.distBankWrite off value) := by
  unfold distBankWrite
  dsimp only
  by_cases res0 : distBankedRes0 off = true
  · rw [if_pos res0]
    exact .other g (noSharedEnable_of_res0 res0) (SameEnables.refl g)
  rw [if_neg res0]
  cases group : distWordIndex off GICD_IGROUPR WORDS 32 with
  | some w =>
      obtain ⟨-, high, place⟩ := (distWordIndex_eq_some (by decide) (by decide)).mp group
      have bank : off.toNat = 0x80 + 4 * w := place
      have few : w < 9 := high
      exact .other _ (noSharedEnable (by omega) (by omega)) ⟨rfl, rfl, fun _ => rfl⟩
  | none =>
      dsimp only
      cases set : distWordIndex off GICD_ISENABLER WORDS 32 with
      | some w =>
          obtain ⟨low, high, place⟩ := (distWordIndex_eq_some (by decide) (by decide)).mp set
          exact .set w ⟨low, high⟩ place
      | none =>
          dsimp only
          cases clear : distWordIndex off GICD_ICENABLER WORDS 32 with
          | some w =>
              obtain ⟨low, high, place⟩ := (distWordIndex_eq_some (by decide) (by decide)).mp clear
              exact .clear w ⟨low, high⟩ place
          | none =>
              have elsewhere : NoSharedEnable off := by
                rintro w ⟨low, high⟩
                constructor
                · intro place
                  have named : distWordIndex off GICD_ISENABLER WORDS 32 = some w :=
                    (distWordIndex_eq_some (by decide) (by decide)).mpr ⟨low, high, place⟩
                  cases set.symm.trans named
                · intro place
                  have named : distWordIndex off GICD_ICENABLER WORDS 32 = some w :=
                    (distWordIndex_eq_some (by decide) (by decide)).mpr ⟨low, high, place⟩
                  cases clear.symm.trans named
              rcases g.distConfigWrite_cases off value with refused | ⟨g', done, same⟩
              · dsimp only
                rw [refused]
                exact .refused elsewhere
              · dsimp only
                rw [done]
                exact .other g' elsewhere same

theorem distWrite_effect (g : VirtGic vcpus) (off value : UInt64) :
    DistEffect g off value (g.distWrite off value) := by
  unfold distWrite
  cases router : irouterIndex off with
  | some i =>
      have far := irouterIndex_offset router
      exact .other _ (noSharedEnable (by omega) (by omega)) ⟨rfl, rfl, fun _ => rfl⟩
  | none =>
      dsimp only
      split_ifs with control identity
      · subst control
        exact .other _ (noSharedEnable (by decide) (by decide)) ⟨rfl, rfl, fun _ => rfl⟩
      · refine .other g ?_ (SameEnables.refl g)
        rcases identity with rfl | rfl | rfl | rfl <;> exact noSharedEnable (by decide) (by decide)
      · exact g.distBankWrite_effect off value

theorem bankWord_setBank {bank : RedistBank} (present : g.redist[n]? = some bank)
    (bank' : RedistBank) (v : Nat) :
    (g.setBank n bank').bankWord v = if n = v then some bank'.enabled else g.bankWord v := by
  have inside : n < vcpus := (Vector.getElem?_eq_some_iff.mp present).1
  unfold bankWord setBank
  rw [Vector.getElem?_setIfInBounds]
  split_ifs <;> rfl

/-- A register of a bank other than its enable bits. -/
theorem sameEnables_setBank {bank bank' : RedistBank} (present : g.redist[n]? = some bank)
    (same : bank'.enabled = bank.enabled) : SameEnables g (g.setBank n bank') := by
  refine ⟨rfl, rfl, fun v => ?_⟩
  rw [bankWord_setBank present]
  split_ifs with here
  · rw [← here, bankWord, present, Option.map_some, same]
  · rfl

/-- What a write to a redistributor can do to the enable bits of its bank. -/
inductive SgiEffect (g : VirtGic vcpus) (n : Nat) (off : UInt64) (value : UInt32) :
    Option Nat × VirtGic vcpus → Prop where
  | set (bank : RedistBank) (present : g.redist[n]? = some bank) (place : off.toNat = 0x100) :
      SgiEffect g n off value (some (countOnes (value &&& ~~~bank.enabled)),
        g.setBank n { bank with enabled := bank.enabled ||| value })
  | clear (bank : RedistBank) (present : g.redist[n]? = some bank) (place : off.toNat = 0x180) :
      SgiEffect g n off value
        (some 0, g.setBank n { bank with enabled := bank.enabled &&& ~~~value })
  | other (g' : VirtGic vcpus) (elsewhere : off.toNat ≠ 0x100 ∧ off.toNat ≠ 0x180)
      (same : SameEnables g g') : SgiEffect g n off value (some 0, g')
  | refused (elsewhere : g.redist[n]? = none ∨ (off.toNat ≠ 0x100 ∧ off.toNat ≠ 0x180)) :
      SgiEffect g n off value (none, g)

theorem sgiWrite_effect (g : VirtGic vcpus) (n : Nat) (off : UInt64) (value : UInt32) :
    SgiEffect g n off value (g.sgiWrite n off value) := by
  unfold sgiWrite
  cases present : g.redist[n]? with
  | none => exact .refused (.inl present)
  | some bank =>
      dsimp only
      by_cases group : off = GICR_IGROUPR0
      · subst group
        rw [if_pos rfl]
        exact .other _ (by decide) (sameEnables_setBank present rfl)
      rw [if_neg group]
      by_cases set : off = GICR_ISENABLER0
      · subst set
        rw [if_pos rfl]
        exact .set bank present rfl
      rw [if_neg set]
      by_cases clear : off = GICR_ICENABLER0
      · subst clear
        rw [if_pos rfl]
        exact .clear bank present rfl
      rw [if_neg clear]
      have elsewhere : off.toNat ≠ 0x100 ∧ off.toNat ≠ 0x180 :=
        ⟨fun place => set (UInt64.toNat_inj.mp place), fun place =>
          clear (UInt64.toNat_inj.mp place)⟩
      split_ifs
      · exact .other g elsewhere (SameEnables.refl g)
      · exact .other _ elsewhere (sameEnables_setBank present rfl)
      · exact .other _ elsewhere (sameEnables_setBank present rfl)
      · exact .other _ elsewhere (sameEnables_setBank present rfl)
      · exact .refused (.inr elsewhere)

theorem redistWrite_cases (g : VirtGic vcpus) (n : Nat) (off : UInt64) (value : UInt32) :
    g.redistWrite n off value = (none, g) ∨
      ∃ g', g.redistWrite n off value = (some 0, g') ∧ SameEnables g g' := by
  unfold redistWrite
  cases present : g.redist[n]? with
  | none => exact .inl rfl
  | some bank =>
      dsimp only
      split_ifs
      · exact .inr ⟨_, rfl, sameEnables_setBank present rfl⟩
      · exact .inr ⟨g, rfl, SameEnables.refl g⟩
      · exact .inl rfl

theorem isEnabled_banked (banked : intid.toNat < 32) :
    g.isEnabled v intid = ((g.bankWord v).map (bitSet · intid.toNat)).getD false := by
  have inside : ¬NUM_INTIDS ≤ intid.toNat := Nat.not_le.mpr (banked.trans (by decide))
  unfold isEnabled bankWord
  dsimp only
  rw [if_neg inside, if_pos (show intid.toNat < FIRST_SPI from banked)]
  cases g.redist[v]? <;> rfl

theorem isEnabled_shared (low : 32 ≤ intid.toNat) (high : intid.toNat < 288) :
    g.isEnabled v intid = bitSet (g.sharedWord (intid.toNat / 32)) (intid.toNat % 32) := by
  unfold isEnabled sharedWord
  dsimp only
  rw [if_neg (show ¬NUM_INTIDS ≤ intid.toNat from Nat.not_le.mpr high),
    if_neg (show ¬intid.toNat < FIRST_SPI from Nat.not_lt.mpr low)]

theorem isEnabled_outside (outside : 288 ≤ intid.toNat) : g.isEnabled v intid = false := by
  unfold isEnabled
  exact if_pos outside

theorem SameEnables.isEnabled_eq (same : SameEnables g g') (v : Nat) (intid : UInt32) :
    g'.isEnabled v intid = g.isEnabled v intid := by
  rcases Nat.lt_or_ge intid.toNat 32 with banked | low
  · rw [isEnabled_banked banked, isEnabled_banked banked, same.banked]
  · rcases Nat.lt_or_ge intid.toNat 288 with high | outside
    · rw [isEnabled_shared low high, isEnabled_shared low high, sharedWord, same.shared]
      rfl
    · rw [isEnabled_outside outside, isEnabled_outside outside]

theorem sharedWord_setShared {w : Nat} (index : SharedIndex w) (word : UInt32) (w' : Nat) :
    (g.setShared w word).sharedWord w' = if w = w' then word else g.sharedWord w' := by
  have inside : w < WORDS := index.2
  unfold sharedWord setShared
  rw [Vector.getElem?_setIfInBounds]
  split_ifs <;> rfl

theorem isEnabled_setShared {w : Nat} (index : SharedIndex w) (word : UInt32) :
    (g.setShared w word).isEnabled v intid =
      if intid.toNat / 32 = w then bitSet word (intid.toNat % 32) else g.isEnabled v intid := by
  obtain ⟨first, last⟩ := id index
  rcases Nat.lt_or_ge intid.toNat 32 with banked | low
  · rw [if_neg (by omega), isEnabled_banked banked, isEnabled_banked banked]
    rfl
  · rcases Nat.lt_or_ge intid.toNat 288 with high | outside
    · rw [isEnabled_shared low high, isEnabled_shared low high, sharedWord_setShared index]
      split_ifs with here there there
      · rfl
      · exact absurd here.symm there
      · exact absurd there.symm here
      · rfl
    · rw [if_neg (by omega), isEnabled_outside outside, isEnabled_outside outside]

theorem isEnabled_setBank {bank : RedistBank} (present : g.redist[n]? = some bank)
    (bank' : RedistBank) : (g.setBank n bank').isEnabled v intid =
      if intid.toNat < 32 ∧ v = n then bitSet bank'.enabled intid.toNat
      else g.isEnabled v intid := by
  rcases Nat.lt_or_ge intid.toNat 32 with banked | low
  · rw [isEnabled_banked banked, isEnabled_banked banked, bankWord_setBank present]
    by_cases own : v = n
    · rw [if_pos own.symm, if_pos ⟨banked, own⟩]
      rfl
    · rw [if_neg (Ne.symm own), if_neg fun both => own both.2]
  · rw [if_neg fun both => absurd both.1 (Nat.not_lt.mpr low)]
    rcases Nat.lt_or_ge intid.toNat 288 with high | outside
    · rw [isEnabled_shared low high, isEnabled_shared low high]
      rfl
    · rw [isEnabled_outside outside, isEnabled_outside outside]

end Baleen.Gic.VirtGic
