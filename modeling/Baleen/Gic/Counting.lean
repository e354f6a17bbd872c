import Mathlib.Data.Finset.Prod
import Mathlib.Order.Interval.Finset.Nat
import Baleen.Gic.Enables

/-!
# Counting what is turned on

An accepted write answers with the number of enable bits that it turned on, and a refused one
leaves the device as it was.
-/

namespace Baleen.Gic.VirtGic

variable {vcpus : Nat} {g g' : VirtGic vcpus} {off value : UInt64} {n : Nat}

/-- The enable bits that are off before and on after: of each vCPU's own, and of the shared. -/
def turnedOn (g g' : VirtGic vcpus) : Nat :=
  ((Finset.range vcpus ×ˢ Finset.range 32).filter fun (v, i) =>
      g.isEnabled v (UInt32.ofNat i) = false ∧ g'.isEnabled v (UInt32.ofNat i) = true).card +
    ((Finset.Ico 32 288).filter fun i =>
      g.isEnabled 0 (UInt32.ofNat i) = false ∧ g'.isEnabled 0 (UInt32.ofNat i) = true).card

theorem countOnes_eq_card (x : UInt32) :
    countOnes x = ((Finset.range 32).filter fun k => bitSet x k = true).card := by
  have same : (List.range 32).countP (fun k => x.toNat.testBit k) =
      (List.range 32).countP fun k => bitSet x k := by
    refine List.countP_congr fun k member => ?_
    rw [bitSet_eq (List.mem_range.mp member)]
  rw [countOnes, same, List.countP_eq_length_filter,
    ← List.toFinset_card_of_nodup (List.nodup_range.filter _), List.toFinset_filter,
    List.toFinset_range]

/-- Nothing is turned on when everything on was on before. -/
theorem turnedOn_eq_zero (kept : ∀ v i, g'.isEnabled v i = true → g.isEnabled v i = true) :
    turnedOn g g' = 0 := by
  have never : ∀ v i, ¬(g.isEnabled v i = false ∧ g'.isEnabled v i = true) := by
    rintro v i ⟨off, on⟩
    rw [kept v i on] at off
    cases off
  simp [turnedOn, never]

/-- A bit that is off and then on is a new one of the bits that were set. -/
theorem bitSet_new (small : n < 32) (old bits : UInt32) :
    (bitSet old n = false ∧ bitSet (old ||| bits) n = true) ↔
    bitSet (bits &&& ~~~old) n = true := by
  rw [bitSet_or small, bitSet_and_not small]
  cases bitSet old n <;> simp

theorem turnedOn_setShared {w : Nat} (index : SharedIndex w) (bits : UInt32) :
    turnedOn g (g.setShared w (g.sharedWord w ||| bits)) =
    countOnes (bits &&& ~~~g.sharedWord w) := by
  obtain ⟨first, last⟩ := id index
  have banked : ((Finset.range vcpus ×ˢ Finset.range 32).filter fun (v, i) =>
      g.isEnabled v (UInt32.ofNat i) = false ∧ (g.setShared w (g.sharedWord w ||| bits)).isEnabled v
        (UInt32.ofNat i) = true) = ∅ := by
    refine Finset.filter_false_of_mem ?_
    rintro ⟨v, i⟩ member ⟨off, on⟩
    have small : i < 32 := Finset.mem_range.mp (Finset.mem_product.mp member).2
    have value : (UInt32.ofNat i).toNat = i := Words.toNat_ofNat32 (by omega)
    rw [isEnabled_setShared index, value, if_neg (by omega), off] at on
    cases on
  have shared : ((Finset.Ico 32 288).filter fun i => g.isEnabled 0 (UInt32.ofNat i) = false ∧
      (g.setShared w (g.sharedWord w ||| bits)).isEnabled 0 (UInt32.ofNat i) = true) =
      ((Finset.range 32).filter fun k => bitSet (bits &&& ~~~g.sharedWord w) k = true).image
        (32 * w + ·) := by
    ext i
    simp only [Finset.mem_filter, Finset.mem_Ico, Finset.mem_image, Finset.mem_range]
    constructor
    · rintro ⟨⟨low, high⟩, off, on⟩
      have value : (UInt32.ofNat i).toNat = i := Words.toNat_ofNat32 (by omega)
      have small : i % 32 < 32 := Nat.mod_lt _ (by decide)
      rw [isEnabled_setShared index, value] at on
      split_ifs at on with here
      · rw [isEnabled_shared (by omega) (by omega), value, here] at off
        exact ⟨i % 32, ⟨small, (bitSet_new small _ _).mp ⟨off, on⟩⟩, by omega⟩
      · rw [off] at on
        cases on
    · rintro ⟨k, ⟨small, new⟩, rfl⟩
      have value : (UInt32.ofNat (32 * w + k)).toNat = 32 * w + k := Words.toNat_ofNat32 (by omega)
      have word : (32 * w + k) / 32 = w := by omega
      have bit : (32 * w + k) % 32 = k := by omega
      obtain ⟨off, on⟩ := (bitSet_new small _ _).mpr new
      refine ⟨⟨by omega, by omega⟩, ?_, ?_⟩
      · rw [isEnabled_shared (by omega) (by omega), value, word, bit, off]
      · rw [isEnabled_setShared index, value, if_pos word, bit, on]
  unfold turnedOn
  rw [banked, shared, Finset.card_image_of_injective _ (add_right_injective _), Finset.card_empty,
    Nat.zero_add, countOnes_eq_card]

theorem turnedOn_setBank {bank : RedistBank} (present : g.redist[n]? = some bank) (bits : UInt32) :
    turnedOn g (g.setBank n { bank with enabled := bank.enabled ||| bits }) =
      countOnes (bits &&& ~~~bank.enabled) := by
  have known : n < vcpus := (Vector.getElem?_eq_some_iff.mp present).1
  have shared : ((Finset.Ico 32 288).filter fun i => g.isEnabled 0 (UInt32.ofNat i) = false ∧
      (g.setBank n { bank with enabled := bank.enabled ||| bits }).isEnabled 0 (UInt32.ofNat i) =
        true) = ∅ := by
    refine Finset.filter_false_of_mem ?_
    rintro i member ⟨off, on⟩
    obtain ⟨low, high⟩ := Finset.mem_Ico.mp member
    have value : (UInt32.ofNat i).toNat = i := Words.toNat_ofNat32 (by omega)
    rw [isEnabled_setBank present, value, if_neg (by omega), off] at on
    cases on
  have banked : ((Finset.range vcpus ×ˢ Finset.range 32).filter fun (v, i) =>
      g.isEnabled v (UInt32.ofNat i) = false ∧
        (g.setBank n { bank with enabled := bank.enabled ||| bits }).isEnabled v (UInt32.ofNat i) =
          true) =
      ((Finset.range 32).filter fun k => bitSet (bits &&& ~~~bank.enabled) k = true).image
        (n, ·) := by
    ext ⟨v, i⟩
    simp only [Finset.mem_filter, Finset.mem_product, Finset.mem_range, Finset.mem_image,
      Prod.mk.injEq]
    constructor
    · rintro ⟨⟨-, small⟩, off, on⟩
      have value : (UInt32.ofNat i).toNat = i := Words.toNat_ofNat32 (by omega)
      rw [isEnabled_setBank present, value] at on
      split_ifs at on with here
      · obtain ⟨-, rfl⟩ := here
        rw [isEnabled_banked (by omega), bankWord, present, value] at off
        exact ⟨i, ⟨small, (bitSet_new small _ _).mp ⟨off, on⟩⟩, rfl, rfl⟩
      · rw [off] at on
        cases on
    · rintro ⟨k, ⟨small, new⟩, rfl, rfl⟩
      have value : (UInt32.ofNat k).toNat = k := Words.toNat_ofNat32 (by omega)
      obtain ⟨off, on⟩ := (bitSet_new small _ _).mpr new
      refine ⟨⟨known, small⟩, ?_, ?_⟩
      · rw [isEnabled_banked (by omega), bankWord, present, value]
        exact off
      · rw [isEnabled_setBank present, value, if_pos ⟨small, rfl⟩]
        exact on
  unfold turnedOn
  rw [banked, shared, Finset.card_image_of_injective _ (Prod.mk_right_injective n),
    Finset.card_empty, Nat.add_zero, countOnes_eq_card]

/-- A refused write changes nothing, an accepted one counts what it turns on. -/
def Accounted (g : VirtGic vcpus) (result : Option Nat × VirtGic vcpus) : Prop :=
  result.2.layout = g.layout ∧
    match result.1 with
    | some newly => newly = turnedOn g result.2
    | none => result.2 = g

theorem SameEnables.accounted (same : SameEnables g g') : Accounted g (some 0, g') := by
  refine ⟨same.layout, (turnedOn_eq_zero fun v i on => ?_).symm⟩
  rwa [same.isEnabled_eq] at on

theorem DistEffect.accounted {result : Option Nat × VirtGic vcpus}
    (effect : DistEffect g off value result) : Accounted g result := by
  cases effect with
  | set w index place => exact ⟨rfl, (turnedOn_setShared index value.toUInt32).symm⟩
  | clear w index place =>
      refine ⟨rfl, (turnedOn_eq_zero fun v intid on => ?_).symm⟩
      have small : intid.toNat % 32 < 32 := Nat.mod_lt _ (by decide)
      rw [isEnabled_setShared index] at on
      split_ifs at on with here
      · obtain ⟨first, last⟩ := index
        rw [bitSet_and_not small, Bool.and_eq_true] at on
        rw [isEnabled_shared (by omega) (by omega), here]
        exact on.1
      · exact on
  | other g' elsewhere same => exact same.accounted
  | refused elsewhere => exact ⟨rfl, rfl⟩

theorem SgiEffect.accounted {bits : UInt32} {result : Option Nat × VirtGic vcpus}
    (effect : SgiEffect g n off bits result) : Accounted g result := by
  cases effect with
  | set bank present place => exact ⟨rfl, (turnedOn_setBank present bits).symm⟩
  | clear bank present place =>
      refine ⟨rfl, (turnedOn_eq_zero fun v intid on => ?_).symm⟩
      rw [isEnabled_setBank present] at on
      split_ifs at on with here
      · obtain ⟨banked, rfl⟩ := here
        rw [bitSet_and_not banked, Bool.and_eq_true] at on
        rw [isEnabled_banked banked, bankWord, present]
        exact on.1
      · exact on
  | other g' elsewhere same => exact same.accounted
  | refused elsewhere => exact ⟨rfl, rfl⟩

theorem frameWrite_accounted (g : VirtGic vcpus) (frame : GicFrame) (off value : UInt64) :
    Accounted g (g.frameWrite frame off value) := by
  cases frame with
  | dist => exact (g.distWrite_effect off value).accounted
  | redist n =>
      rcases g.redistWrite_cases n off value.toUInt32 with refused | ⟨g', done, same⟩
      · rw [frameWrite, refused]
        exact ⟨rfl, rfl⟩
      · rw [frameWrite, done]
        exact same.accounted
  | sgi n => exact (g.sgiWrite_effect n off value.toUInt32).accounted

end Baleen.Gic.VirtGic
