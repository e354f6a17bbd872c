import Baleen.Arm64.Windows

/-!
# The walk lands where the windows say

The tables carry a skeleton that leads an address to the slot of its window.  What the
slot holds decides the walk, and a slot without a leaf must be one the walker cannot
follow.
-/

namespace Baleen.Arm64

open Stage2 (Perm TABLE_ENTRIES)

variable {l : Layout} {leaves supers : List (Option Perm)} {t : Tables} {ipa : UInt64}
  {fetch : UInt64 → UInt64 → UInt64}

/-- The `L1` slots of the regions that are present. -/
def Rooted (l : Layout) (i : Nat) : Prop :=
  i = l.dataL1 ∨ i = l.supL1 ∨ l.codeL1 = some i ∨ l.devL1 = some i

/-- What the tables say above and at the leaves, up to slots without a leaf. -/
structure Skeleton (l : Layout) (leaves supers : List (Option Perm)) (t : Tables) : Prop where
  dataRoot : decodeTable (t.l1.word l.dataL1) = some l.l2DataPa
  supRoot : decodeTable (t.l1.word l.supL1) = some l.l2SupPa
  codeRoot : ∀ i, l.codeL1 = some i → decodeTable (t.l1.word i) = some l.l2CodePa
  devRoot : ∀ i, l.devL1 = some i → decodeTable (t.l1.word i) = some l.l2DevPa
  root : ∀ i < TABLE_ENTRIES, ¬Rooted l i → t.l1.word i = 0
  image : ∀ pa, l.guestImagePa = some pa →
    decodeBlock (t.l2Code.word (indexOf 21 pa)) = some ⟨pa, .ro, false⟩
  code : ∀ i < TABLE_ENTRIES, l.codeL2 ≠ some i → t.l2Code.word i = 0
  table : decodeTable (t.l2Data.word l.dataL2) = some l.l3DataPa
  data : ∀ i < TABLE_ENTRIES, i ≠ l.dataL2 → t.l2Data.word i = 0
  pages : ∀ m < TABLE_ENTRIES, decodePage (t.l3Data.word m) =
    wantedLeaf leaves l.framePa Desc.ADDR_4K false m
  blocks : ∀ m < TABLE_ENTRIES, decodeBlock (t.l2Sup.word (superIndex l m)) =
    wantedLeaf supers l.superPa Desc.ADDR_2M l.supWxExempt m

/-- Memory holds the tables at their addresses. -/
structure Reads (fetch : UInt64 → UInt64 → UInt64) (l : Layout) (t : Tables) : Prop where
  l1 : ∀ i, fetch l.l1Pa i = t.l1.word i.toNat
  l2Code : ∀ i, fetch l.l2CodePa i = t.l2Code.word i.toNat
  l2Data : ∀ i, fetch l.l2DataPa i = t.l2Data.word i.toNat
  l3Data : ∀ i, fetch l.l3DataPa i = t.l3Data.word i.toNat
  l2Sup : ∀ i, fetch l.l2SupPa i = t.l2Sup.word i.toNat
  l2Dev : ∀ i, fetch l.l2DevPa i = t.l2Dev.word i.toNat

theorem Tables.reads (t : Tables) (distinct : l.tablePas.Nodup) : Reads (t.fetch l) l t := by
  simp only [Layout.tablePas, List.nodup_cons, List.mem_cons, List.not_mem_nil, or_false,
    not_or] at distinct
  obtain ⟨⟨n1, n2, n3, n4, n5⟩, ⟨n6, n7, n8, n9⟩, ⟨n10, n11, n12⟩, ⟨n13, n14⟩, n15, -⟩ := distinct
  constructor <;> intro i <;> simp_all [Tables.fetch, eq_comm]

/-- The walk below a second-level descriptor. -/
def resolve (fetch : UInt64 → UInt64 → UInt64) (ipa d : UInt64) : Option Reach :=
  match decodeBlock d with
  | some block => some (leafTo BLOCK_SIZE ipa block)
  | none =>
      match decodeTable d with
      | none => none
      | some l3Pa => (decodePage (fetch l3Pa ((ipa >>> 12) &&& 0x1ff))).map (leafTo PAGE_SIZE ipa)

@[simp]
theorem resolve_zero : resolve fetch ipa 0 = none := rfl

theorem resolve_block {d : UInt64} {block : Decoded} (decoded : decodeBlock d = some block) :
    resolve fetch ipa d = some (leafTo BLOCK_SIZE ipa block) := by
  rw [resolve, decoded]

theorem walk_high (high : 2 ^ 39 ≤ ipa.toNat) {l1Pa : UInt64} : walk l1Pa ipa fetch = none := by
  rw [walk, if_pos]
  rw [UInt64.le_iff_toNat_le]
  exact high

theorem walk_dead (low : ipa.toNat < 2 ^ 39) {l1Pa : UInt64}
    (dead : fetch l1Pa ((ipa >>> 30) &&& 0x1ff) = 0) : walk l1Pa ipa fetch = none := by
  rw [walk, if_neg, dead, decodeTable_zero]
  rw [UInt64.le_iff_toNat_le]
  exact Nat.not_le.mpr low

theorem walk_table (low : ipa.toNat < 2 ^ 39) {l1Pa l2Pa : UInt64}
    (entry : decodeTable (fetch l1Pa ((ipa >>> 30) &&& 0x1ff)) = some l2Pa) :
    walk l1Pa ipa fetch = resolve fetch ipa (fetch l2Pa ((ipa >>> 21) &&& 0x1ff)) := by
  rw [walk, if_neg, entry]
  · rfl
  · rw [UInt64.le_iff_toNat_le]
    exact Nat.not_le.mpr low

/-- A descriptor the walker cannot follow to a page. -/
def DeadEnd (fetch : UInt64 → UInt64 → UInt64) (d : UInt64) : Prop :=
  ∀ pa, decodeTable d = some pa → ∀ i : UInt64, i.toNat < TABLE_ENTRIES →
    decodePage (fetch pa i) = none

theorem DeadEnd.resolve {d : UInt64} (dead : DeadEnd fetch d) (unblocked : decodeBlock d = none) :
    resolve fetch ipa d = none := by
  rw [Arm64.resolve, unblocked]
  cases table : decodeTable d with
  | none => rfl
  | some pa =>
      have small : ((ipa >>> 12) &&& 0x1ff).toNat < TABLE_ENTRIES := indexOf_lt 12 ipa
      simp only [dead pa table _ small, Option.map_none]

section Walks

variable (valid : Valid l) (bounded : l.Bounded) (reads : Reads fetch l t)
  (skeleton : Skeleton l leaves supers t) (low : ipa.toNat < 2 ^ 39)
include valid reads skeleton low

theorem walk_image {pa : UInt64} (present : l.guestImagePa = some pa)
    (same : indexOf 30 ipa = indexOf 30 pa) :
    walk l.l1Pa ipa fetch = windowReach l leaves supers ipa := by
  have entry : decodeTable (fetch l.l1Pa ((ipa >>> 30) &&& 0x1ff)) = some l.l2CodePa := by
    rw [reads.l1]
    apply skeleton.codeRoot
    rw [Layout.codeL1, present, Option.map_some, ← same, indexOf]
  rw [walk_table low entry, reads.l2Code, valid.windowReach_image present low same]
  split_ifs with here
  · have block : decodeBlock (t.l2Code.word ((ipa >>> 21) &&& 0x1ff).toNat) =
      some ⟨pa, .ro, false⟩ := by
      rw [← indexOf, here]
      exact skeleton.image pa present
    rw [resolve_block block, leafTo]
    simp only [Option.some.injEq, Reach.mk.injEq, and_true]
    have aligned := valid.image pa present
    have placed : pa.toNat < 2 ^ 39 := (valid.imagePlaced present).low
    rw [indexOf_30, indexOf_30] at same
    rw [indexOf_21, indexOf_21] at here
    apply UInt64.toNat_inj.mp
    rw [Bits.toNat_or_low (Nat.dvd_of_mod_eq_zero aligned) (by decide)]
    omega
  · have dead : t.l2Code.word ((ipa >>> 21) &&& 0x1ff).toNat = 0 := by
      apply skeleton.code _ (indexOf_lt _ _)
      rw [Layout.codeL2, present]
      exact fun found => here (Option.some.inj found).symm
    rw [dead, resolve_zero]

include bounded in
theorem walk_data (same : indexOf 30 ipa = l.dataL1) :
    walk l.l1Pa ipa fetch = windowReach l leaves supers ipa := by
  have entry : decodeTable (fetch l.l1Pa ((ipa >>> 30) &&& 0x1ff)) = some l.l2DataPa := by
    rw [reads.l1, ← indexOf, same]
    exact skeleton.dataRoot
  rw [walk_table low entry, reads.l2Data, valid.windowReach_data bounded low same]
  split_ifs with here
  · have table : decodeTable (t.l2Data.word ((ipa >>> 21) &&& 0x1ff).toNat) = some l.l3DataPa := by
      rw [← indexOf, here]
      exact skeleton.table
    have page : decodePage (fetch l.l3DataPa ((ipa >>> 12) &&& 0x1ff)) =
        wantedLeaf leaves l.framePa Desc.ADDR_4K false (indexOf 12 ipa) := by
      rw [reads.l3Data]
      exact skeleton.pages _ (indexOf_lt _ _)
    rw [resolve, decodeBlock_of_table table, table]
    simp only [page]
  · have dead : t.l2Data.word ((ipa >>> 21) &&& 0x1ff).toNat = 0 :=
      skeleton.data _ (indexOf_lt _ _) here
    rw [dead, resolve_zero]

theorem walk_outside (unrooted : ¬Rooted l (indexOf 30 ipa)) :
    walk l.l1Pa ipa fetch = windowReach l leaves supers ipa := by
  have dead : fetch l.l1Pa ((ipa >>> 30) &&& 0x1ff) = 0 := by
    rw [reads.l1]
    exact skeleton.root _ (indexOf_lt _ _) unrooted
  simp only [Rooted, not_or] at unrooted
  obtain ⟨noData, noSup, noImage, noDevice⟩ := unrooted
  rw [walk_dead low dead, valid.windowReach_outside ?_ noData noSup ?_]
  · intro pa present same
    rw [Layout.codeL1, present, same] at noImage
    exact noImage rfl
  · intro long same
    rw [Layout.devL1, if_pos long, same] at noDevice
    exact noDevice rfl

include bounded in
/-- Under the index of the super window the walk is right unless it follows a hole. -/
theorem walk_sup (backed : ∀ m, l.supFrames.toNat ≤ m → (supers[m]?).join = none)
    (same : indexOf 30 ipa = l.supL1) :
    ∃ m < TABLE_ENTRIES, superIndex l m = indexOf 21 ipa ∧
      walk l.l1Pa ipa fetch = resolve fetch ipa (t.l2Sup.word (superIndex l m)) ∧
      windowReach l leaves supers ipa =
        (decodeBlock (t.l2Sup.word (superIndex l m))).map (leafTo BLOCK_SIZE ipa) := by
  have entry : decodeTable (fetch l.l1Pa ((ipa >>> 30) &&& 0x1ff)) = some l.l2SupPa := by
    rw [reads.l1, ← indexOf, same]
    exact skeleton.supRoot
  obtain ⟨m, small, slot, window⟩ :=
    @Valid.windowReach_sup l leaves supers ipa valid bounded backed low same
  refine ⟨m, small, slot, ?_, ?_⟩
  · rw [walk_table low entry, reads.l2Sup, slot, indexOf]
  · rw [window, skeleton.blocks m small]

omit valid in
/-- Under the index of the device window the slot decides. -/
theorem walk_dev (long : 0 < l.deviceLen) (same : indexOf 30 ipa = indexOf 30 l.deviceBase) :
    walk l.l1Pa ipa fetch = resolve fetch ipa (t.l2Dev.word (indexOf 21 ipa)) := by
  have entry : decodeTable (fetch l.l1Pa ((ipa >>> 30) &&& 0x1ff)) = some l.l2DevPa := by
    rw [reads.l1, ← indexOf, same]
    apply skeleton.devRoot
    rw [Layout.devL1, if_pos long]
  rw [walk_table low entry, reads.l2Dev, indexOf]

end Walks

/-- Every slot without a leaf is a dead end, and the device blocks are what the window says. -/
structure Sealed (fetch : UInt64 → UInt64 → UInt64) (l : Layout) (supers : List (Option Perm))
    (t : Tables) : Prop where
  supers : ∀ m < TABLE_ENTRIES, (supers[m]?).join = none →
    DeadEnd fetch (t.l2Sup.word (superIndex l m))
  devices : 0 < l.deviceLen → ∀ i < TABLE_ENTRIES,
    decodeBlock (t.l2Dev.word i) = (wantedDevice l i).map fun d => ⟨d.pa, .rw, d.xn⟩
  holes : 0 < l.deviceLen → ∀ i < TABLE_ENTRIES, wantedDevice l i = none →
    DeadEnd fetch (t.l2Dev.word i)

/-- The walk agrees with the windows on every address. -/
theorem walk_eq_windowReach (valid : Valid l) (bounded : l.Bounded) (reads : Reads fetch l t)
    (skeleton : Skeleton l leaves supers t) (sealing : Sealed fetch l supers t)
    (backed : ∀ m, l.supFrames.toNat ≤ m → (supers[m]?).join = none) (ipa : UInt64) :
    walk l.l1Pa ipa fetch = windowReach l leaves supers ipa := by
  by_cases high : 2 ^ 39 ≤ ipa.toNat
  · rw [walk_high high, valid.windowReach_high high]
  have low : ipa.toNat < 2 ^ 39 := Nat.not_le.mp high
  by_cases rooted : Rooted l (indexOf 30 ipa)
  · rcases rooted with data | sup | image | device
    · exact walk_data valid bounded reads skeleton low data
    · obtain ⟨m, small, -, walked, window⟩ :=
        walk_sup valid bounded reads skeleton low backed sup
      rw [walked, window]
      cases block : decodeBlock (t.l2Sup.word (superIndex l m)) with
      | some b => exact resolve_block block
      | none =>
          refine (sealing.supers m small ?_).resolve block
          rw [skeleton.blocks m small, wantedLeaf, Option.map_eq_none_iff] at block
          exact block
    · obtain ⟨pa, present, same⟩ := Option.map_eq_some_iff.mp image
      exact walk_image valid reads skeleton low present same.symm
    · rw [Layout.devL1] at device
      split_ifs at device with long
      have same : indexOf 30 ipa = indexOf 30 l.deviceBase := (Option.some.inj device).symm
      have small : indexOf 21 ipa < TABLE_ENTRIES := indexOf_lt _ _
      have slot := sealing.devices long _ small
      rw [walk_dev reads skeleton low long same, valid.windowReach_dev long low same]
      cases wanted : wantedDevice l (indexOf 21 ipa) with
      | some d =>
          rw [wanted] at slot
          exact resolve_block slot
      | none =>
          rw [wanted] at slot
          exact (sealing.holes long _ small wanted).resolve slot
  · exact walk_outside valid reads skeleton low rooted

end Baleen.Arm64
