import Baleen.Arm64.Tables

/-!
# The windows of a validated layout

Each present region lies in one `L1` entry, and no two share theirs.  So the `L1` index
of an address names the one window that can cover it.
-/

namespace Baleen.Arm64

open Stage2 (Perm TABLE_ENTRIES)

theorem toNat_blockSize : BLOCK_SIZE.toNat = 2 ^ 21 := rfl

theorem toNat_pageSize : PAGE_SIZE.toNat = 2 ^ 12 := rfl

theorem toNat_l1EntrySize : L1_ENTRY_SIZE.toNat = 2 ^ 30 := rfl

theorem toNat_addressable : ADDRESSABLE.toNat = 2 ^ 39 := rfl

theorem indexOf_eq {shift : UInt64} (small : shift.toNat < 64) (a : UInt64) :
    indexOf shift a = a.toNat / 2 ^ shift.toNat % 512 := Bits.toNat_index a small

theorem indexOf_30 (a : UInt64) : indexOf 30 a = a.toNat / 2 ^ 30 % 512 := indexOf_eq (by decide) a

theorem indexOf_21 (a : UInt64) : indexOf 21 a = a.toNat / 2 ^ 21 % 512 := indexOf_eq (by decide) a

theorem indexOf_12 (a : UInt64) : indexOf 12 a = a.toNat / 2 ^ 12 % 512 := indexOf_eq (by decide) a

theorem indexOf_lt (shift a : UInt64) : indexOf shift a < TABLE_ENTRIES := by
  have below : indexOf shift a ≤ 0x1ff := by
    rw [indexOf, UInt64.toNat_and]
    exact Nat.and_le_right
  exact Nat.lt_succ_of_le below

theorem inWindow_iff {base span ipa : UInt64} :
    inWindow base span ipa ↔ base.toNat ≤ ipa.toNat ∧ ipa.toNat < base.toNat + span.toNat := by
  rw [inWindow, UInt64.le_iff_toNat_le, UInt64.lt_iff_toNat_lt]
  constructor
  · rintro ⟨above, short⟩
    rw [UInt64.toNat_sub_of_le _ _ (UInt64.le_iff_toNat_le.mpr above)] at short
    exact ⟨above, by omega⟩
  · rintro ⟨above, short⟩
    rw [UInt64.toNat_sub_of_le _ _ (UInt64.le_iff_toNat_le.mpr above)]
    exact ⟨above, by omega⟩

/-- A region inside one `L1` entry of the addressable space. -/
structure Placed (r : Region) : Prop where
  low : r.ipa.toNat < 2 ^ 39
  below : r.ipa.toNat + r.span.toNat ≤ 2 ^ 39
  within : r.ipa.toNat % 2 ^ 30 + r.span.toNat ≤ 2 ^ 30

theorem inOneEntry_ok {r : Region} : Layout.inOneEntry r = .ok () ↔ Placed r := by
  rw [Layout.inOneEntry, Checks.require_ok]
  simp only [not_or, UInt64.lt_iff_toNat_lt, UInt64.le_iff_toNat_le, Nat.not_le, Nat.not_lt,
    toNat_addressable, toNat_l1EntrySize]
  constructor
  · rintro ⟨low, below, within⟩
    rw [UInt64.toNat_sub_of_le _ _ (UInt64.le_iff_toNat_le.mpr low.le), toNat_addressable] at below
    have small : r.ipa.toNat % 2 ^ 30 < 2 ^ 30 := Nat.mod_lt _ (by decide)
    rw [UInt64.toNat_add, UInt64.toNat_mod, toNat_l1EntrySize,
      Nat.mod_eq_of_lt (by omega)] at within
    exact ⟨low, by omega, within⟩
  · rintro ⟨low, below, within⟩
    have small : r.ipa.toNat % 2 ^ 30 < 2 ^ 30 := Nat.mod_lt _ (by decide)
    refine ⟨low, ?_, ?_⟩
    · rw [UInt64.toNat_sub_of_le _ _ (UInt64.le_iff_toNat_le.mpr low.le), toNat_addressable]
      omega
    · rw [UInt64.toNat_add, UInt64.toNat_mod, toNat_l1EntrySize, Nat.mod_eq_of_lt (by omega)]
      exact within

/-- Two regions that the validation tells apart. -/
structure Apart (a b : Region) : Prop where
  index : a.l1Index ≠ b.l1Index
  ipa : ¬Layout.overlaps a.ipa a.span b.ipa b.span
  pa : ¬Layout.overlaps a.pa a.span b.pa b.span

theorem apart_ok {a b : Region} : Layout.apart a b = .ok () ↔ Apart a b := by
  simp only [Layout.apart, Checks.seq_ok, Checks.require_ok]
  constructor
  · rintro ⟨index, ipa, pa⟩
    exact ⟨index, ipa, pa⟩
  · rintro ⟨index, ipa, pa⟩
    exact ⟨index, ipa, pa⟩

/-- A base both walkers can name. -/
structure Nameable (pa : UInt64) : Prop where
  bounded : pa.toNat < 2 ^ 48
  aligned : pa.toNat % 2 ^ 12 = 0

theorem nameable_ok {table : String} {pa : UInt64} :
    Layout.nameable table pa = .ok () ↔ Nameable pa := by
  have limit : MAX_TABLE_PA.toNat = 2 ^ 48 := rfl
  rw [Layout.nameable, Checks.require_ok, UInt64.lt_iff_toNat_lt, limit, ← UInt64.toNat_inj,
    UInt64.toNat_mod, toNat_pageSize]
  exact ⟨fun ⟨bounded, aligned⟩ => ⟨bounded, aligned⟩, fun ⟨bounded, aligned⟩ => ⟨bounded, aligned⟩⟩

theorem aligned_ok {window : String} {base align : UInt64} :
    Layout.aligned window base align = .ok () ↔ base.toNat % align.toNat = 0 := by
  rw [Layout.aligned, Checks.require_ok, ← UInt64.toNat_inj, UInt64.toNat_mod]
  rfl

/-- The addresses of the six tables. -/
def Layout.tablePas (l : Layout) : List UInt64 :=
  [l.l1Pa, l.l2CodePa, l.l2DataPa, l.l3DataPa, l.l2SupPa, l.l2DevPa]

/-- What the validation of a layout establishes. -/
structure Valid (l : Layout) : Prop where
  deviceLen : l.deviceLen.toNat % 2 ^ 21 = 0
  frameSize : l.frameSize = PAGE_SIZE
  dataIpa : l.dataIpaBase.toNat % 2 ^ 21 = 0
  dataPa : l.dataPaBase.toNat % 2 ^ 12 = 0
  supIpa : l.supIpaBase.toNat % 2 ^ 21 = 0
  supPa : l.supPaBase.toNat % 2 ^ 21 = 0
  image : ∀ pa, l.guestImagePa = some pa → pa.toNat % 2 ^ 21 = 0
  device : 0 < l.deviceLen → l.deviceBase.toNat % 2 ^ 21 = 0
  tables : ∀ pa ∈ l.tablePas, Nameable pa
  placed : ∀ r ∈ l.present, Placed r
  apart : l.present.Pairwise Apart

theorem valid_of_validate {l : Layout} (accepted : l.validate = .ok ()) : Valid l := by
  simp only [Layout.validate, Checks.seq_ok, Checks.require_ok, aligned_ok, nameable_ok,
    Checks.forM_ok, Checks.pairwise_ok, inOneEntry_ok, apart_ok] at accepted
  obtain ⟨deviceLen, frameSize, dataIpa, dataPa, supIpa, supPa, image, device, l1, l2Code, l2Data,
    l3Data, l2Sup, l2Dev, placed, apart⟩ := accepted
  rw [← UInt64.toNat_inj, UInt64.toNat_mod] at deviceLen
  refine ⟨deviceLen, frameSize, dataIpa, dataPa, supIpa, supPa, ?_, ?_, ?_, placed, apart⟩
  · intro pa present
    rw [Layout.imageAligned, present] at image
    exact aligned_ok.mp image
  · intro long
    rw [Layout.deviceAligned, if_pos long] at device
    exact aligned_ok.mp device
  · intro pa member
    simp only [Layout.tablePas, List.mem_cons, List.not_mem_nil, or_false] at member
    rcases member with rfl | rfl | rfl | rfl | rfl | rfl
    · exact l1
    · exact l2Code
    · exact l2Data
    · exact l3Data
    · exact l2Sup
    · exact l2Dev

/-- The addresses the encoder computes stay inside the output-address fields. -/
structure Layout.Bounded (l : Layout) : Prop where
  data : l.dataPaBase.toNat + TABLE_ENTRIES * l.frameSize.toNat ≤ 2 ^ 48
  sup : l.supPaBase.toNat + l.supFrames.toNat * (TABLE_ENTRIES * l.frameSize.toNat) ≤ 2 ^ 48

theorem Layout.data_mem (l : Layout) : l.dataRegion ∈ l.present := by
  simp [present, regions]

theorem Layout.sup_mem (l : Layout) : l.supRegion ∈ l.present := by
  simp [present, regions]

namespace Valid

variable {l : Layout} (valid : Valid l)
include valid

theorem toNat_frameSize : l.frameSize.toNat = 2 ^ 12 := by
  rw [valid.frameSize]
  rfl

theorem toNat_superSize : l.superSize.toNat = 2 ^ 21 := by
  rw [Layout.superSize, valid.frameSize]
  rfl

theorem toNat_dataSpan : l.dataRegion.span.toNat = 2 ^ 21 := valid.toNat_superSize

theorem dataPlaced : Placed l.dataRegion := valid.placed _ l.data_mem

theorem supPlaced : Placed l.supRegion := valid.placed _ l.sup_mem

theorem imagePlaced {pa : UInt64} (present : l.guestImagePa = some pa) :
    Placed ⟨indexOf 30 pa, pa, pa, BLOCK_SIZE⟩ := by
  apply valid.placed
  simp [Layout.present, Layout.regions, Layout.imageRegion, present]

theorem devPlaced (long : 0 < l.deviceLen) :
    Placed ⟨indexOf 30 l.deviceBase, l.deviceBase, l.deviceBase, l.deviceLen⟩ := by
  apply valid.placed
  simp [Layout.present, Layout.regions, Layout.devRegion, Layout.devL1, long]

theorem tablePa_kept {pa : UInt64} (member : pa ∈ l.tablePas) : pa &&& Desc.ADDR_4K = pa := by
  have mask : Desc.ADDR_4K.toNat = (2 ^ 36 - 1) * 2 ^ 12 := rfl
  obtain ⟨small, aligned⟩ := valid.tables pa member
  exact Bits.and_mask mask (Nat.dvd_of_mod_eq_zero aligned) small

theorem imagePa_kept {pa : UInt64} (present : l.guestImagePa = some pa) :
    pa &&& Desc.ADDR_2M = pa := by
  have mask : Desc.ADDR_2M.toNat = (2 ^ 27 - 1) * 2 ^ 21 := rfl
  have low : pa.toNat < 2 ^ 39 := (valid.imagePlaced present).low
  exact Bits.and_mask mask (Nat.dvd_of_mod_eq_zero (valid.image pa present)) (by omega)

theorem data_apart_sup : Apart l.dataRegion l.supRegion := by
  have apart := valid.apart
  cases image : l.guestImagePa <;> by_cases long : 0 < l.deviceLen <;>
    simp_all [Layout.present, Layout.regions, Layout.imageRegion, Layout.devRegion, Layout.devL1]

theorem image_apart {pa : UInt64} (present : l.guestImagePa = some pa) :
    Apart ⟨indexOf 30 pa, pa, pa, BLOCK_SIZE⟩ l.dataRegion ∧
      Apart ⟨indexOf 30 pa, pa, pa, BLOCK_SIZE⟩ l.supRegion := by
  have apart := valid.apart
  simp only [Layout.present, Layout.regions, Layout.imageRegion, present, Option.map_some,
    List.filterMap_cons, id_eq, List.pairwise_cons, List.mem_cons] at apart
  exact ⟨apart.1 _ (.inl rfl), apart.1 _ (.inr (.inl rfl))⟩

theorem dev_apart (long : 0 < l.deviceLen) :
    Apart l.dataRegion ⟨indexOf 30 l.deviceBase, l.deviceBase, l.deviceBase, l.deviceLen⟩ ∧
      Apart l.supRegion ⟨indexOf 30 l.deviceBase, l.deviceBase, l.deviceBase, l.deviceLen⟩ := by
  have apart := valid.apart
  cases image : l.guestImagePa <;>
    simp_all [Layout.present, Layout.regions, Layout.imageRegion, Layout.devRegion, Layout.devL1]

theorem image_apart_dev {pa : UInt64} (present : l.guestImagePa = some pa)
    (long : 0 < l.deviceLen) :
    Apart ⟨indexOf 30 pa, pa, pa, BLOCK_SIZE⟩
      ⟨indexOf 30 l.deviceBase, l.deviceBase, l.deviceBase, l.deviceLen⟩ := by
  have apart := valid.apart
  simp_all [Layout.present, Layout.regions, Layout.imageRegion, Layout.devRegion, Layout.devL1]

theorem devL1_ne {i : Nat} (present : l.devL1 = some i) : i ≠ l.dataL1 ∧ i ≠ l.supL1 := by
  rw [Layout.devL1] at present
  split_ifs at present with long
  obtain rfl := Option.some.inj present
  obtain ⟨fromData, fromSup⟩ := valid.dev_apart long
  exact ⟨fromData.index.symm, fromSup.index.symm⟩

theorem codeL1_ne {i : Nat} (present : l.codeL1 = some i) :
    i ≠ l.dataL1 ∧ i ≠ l.supL1 ∧ l.devL1 ≠ some i := by
  obtain ⟨pa, image, rfl⟩ := Option.map_eq_some_iff.mp present
  obtain ⟨fromData, fromSup⟩ := valid.image_apart image
  refine ⟨fromData.index, fromSup.index, ?_⟩
  rw [Layout.devL1]
  split_ifs with long
  · exact fun same => (valid.image_apart_dev image long).index (Option.some.inj same).symm
  · exact nofun

end Valid

variable {l : Layout} {leaves supers : List (Option Perm)} {ipa : UInt64}

theorem Placed.index {r : Region} (placed : Placed r) (covered : inWindow r.ipa r.span ipa) :
    ipa.toNat < 2 ^ 39 ∧ indexOf 30 ipa = indexOf 30 r.ipa := by
  obtain ⟨low, below, within⟩ := placed
  obtain ⟨above, short⟩ := inWindow_iff.mp covered
  rw [indexOf_30, indexOf_30]
  omega

theorem Placed.not_covered {r : Region} (placed : Placed r)
    (differs : indexOf 30 ipa ≠ indexOf 30 r.ipa) : ¬inWindow r.ipa r.span ipa :=
  fun covered => differs (placed.index covered).2

/-- The reach of an address through a decoded leaf of `size` bytes. -/
def leafTo (size ipa : UInt64) (d : Decoded) : Reach :=
  ⟨d.pa ||| (ipa &&& (size - 1)), d.perm, d.xn⟩

/-- The leaf that covers an address, read as the slot of its frame. -/
theorem leafReach_eq (mask : UInt64) {base size : UInt64} {paOf : UInt32 → UInt64} {wxExempt : Bool}
    {n : Nat}
    (granule : size.toNat = 2 ^ n) (low : n ≤ 48) (field : mask.toNat = (2 ^ (48 - n) - 1) * 2 ^ n)
    (aligned : base.toNat % 2 ^ n = 0) (above : base.toNat ≤ ipa.toNat)
    (few : (ipa.toNat - base.toNat) / 2 ^ n < 2 ^ 32)
    (backed : ∀ perm, (leaves[(ipa.toNat - base.toNat) / 2 ^ n]?).join = some perm →
      2 ^ n ∣ (paOf (UInt32.ofNat ((ipa.toNat - base.toNat) / 2 ^ n))).toNat ∧
        (paOf (UInt32.ofNat ((ipa.toNat - base.toNat) / 2 ^ n))).toNat < 2 ^ 48) :
    leafReach base size leaves paOf wxExempt ipa =
      (wantedLeaf leaves paOf mask wxExempt ((ipa.toNat - base.toNat) / 2 ^ n)).map
        (leafTo size ipa) := by
  have offset : (ipa - base).toNat = ipa.toNat - base.toNat :=
    UInt64.toNat_sub_of_le _ _ (UInt64.le_iff_toNat_le.mpr above)
  have frame : ((ipa - base) / size).toUInt32 =
      UInt32.ofNat ((ipa.toNat - base.toNat) / 2 ^ n) := by
    apply UInt32.toNat_inj.mp
    rw [UInt64.toNat_toUInt32, UInt64.toNat_div, offset, granule, Words.toNat_ofNat32 few]
    exact Nat.mod_eq_of_lt few
  simp only [leafReach, wantedLeaf, frame, Words.toNat_ofNat32 few]
  cases found : (leaves[(ipa.toNat - base.toNat) / 2 ^ n]?).join with
  | none => rfl
  | some perm =>
      obtain ⟨divides, small⟩ := backed perm found
      have kept : paOf (UInt32.ofNat ((ipa.toNat - base.toNat) / 2 ^ n)) &&& mask =
          paOf (UInt32.ofNat ((ipa.toNat - base.toNat) / 2 ^ n)) :=
        Bits.and_mask field divides (by rwa [Nat.add_sub_cancel' low])
      have ones : (size - 1).toNat = 2 ^ n - 1 := by
        rw [UInt64.toNat_sub_of_le _ _ (UInt64.le_iff_toNat_le.mpr ?_), granule]
        · rfl
        · rw [granule]
          exact Nat.one_le_two_pow
      simp only [Option.map_some, leafTo, kept, Option.some.injEq, Reach.mk.injEq, and_true]
      apply UInt64.toNat_inj.mp
      have remainder : (ipa.toNat - base.toNat) % 2 ^ n = ipa.toNat % 2 ^ n := by
        obtain ⟨q, rows⟩ := Nat.dvd_of_mod_eq_zero aligned
        obtain ⟨d, sum⟩ := Nat.exists_eq_add_of_le above
        rw [sum, Nat.add_sub_cancel_left, rows, Nat.mul_add_mod]
      have bit : ipa.toNat % 2 ^ n < 2 ^ n := Nat.mod_lt _ (Nat.two_pow_pos n)
      have width : 2 ^ n ≤ 2 ^ 48 := Nat.pow_le_pow_right (by decide) low
      rw [Bits.toNat_or_low divides ones, UInt64.toNat_add, UInt64.toNat_mod, offset, granule,
        remainder, Nat.mod_eq_of_lt (by omega)]

namespace Valid

variable (valid : Valid l)
include valid

theorem not_imaged (ipa : UInt64)
    (differs : ∀ pa, l.guestImagePa = some pa → indexOf 30 ipa ≠ indexOf 30 pa) :
    (l.guestImagePa.any fun imagePa => inWindow imagePa BLOCK_SIZE ipa) = false := by
  cases present : l.guestImagePa with
  | none => rfl
  | some pa =>
      rw [Option.any_some, decide_eq_false_iff_not]
      exact (valid.imagePlaced present).not_covered (differs pa present)

theorem not_device (ipa : UInt64)
    (differs : 0 < l.deviceLen → indexOf 30 ipa ≠ indexOf 30 l.deviceBase) :
    ¬(0 < l.deviceLen ∧ inWindow l.deviceBase l.deviceLen ipa) := by
  rintro ⟨long, covered⟩
  exact (valid.devPlaced long).not_covered (differs long) covered

theorem not_data (ipa : UInt64) (differs : indexOf 30 ipa ≠ l.dataL1) :
    ¬inWindow l.dataIpaBase (UInt64.ofNat TABLE_ENTRIES * l.frameSize) ipa :=
  valid.dataPlaced.not_covered differs

theorem not_sup (ipa : UInt64) (differs : indexOf 30 ipa ≠ l.supL1) :
    ¬inWindow l.supIpaBase (l.supFrames * l.superSize) ipa :=
  valid.supPlaced.not_covered differs

theorem windowReach_image {pa : UInt64} (present : l.guestImagePa = some pa)
    (low : ipa.toNat < 2 ^ 39) (same : indexOf 30 ipa = indexOf 30 pa) :
    windowReach l leaves supers ipa =
      if indexOf 21 ipa = indexOf 21 pa then some ⟨ipa, .ro, false⟩ else none := by
  obtain ⟨fromData, fromSup⟩ := valid.image_apart present
  have noData := valid.not_data ipa (same ▸ fromData.index)
  have noSup := valid.not_sup ipa (same ▸ fromSup.index)
  have noDevice := valid.not_device ipa fun long =>
    same ▸ (valid.image_apart_dev present long).index
  have covered : inWindow pa BLOCK_SIZE ipa ↔ indexOf 21 ipa = indexOf 21 pa := by
    have placed := (valid.imagePlaced present).low
    have aligned := valid.image pa present
    simp only at placed
    rw [indexOf_30, indexOf_30] at same
    rw [inWindow_iff, toNat_blockSize, indexOf_21, indexOf_21]
    omega
  rw [windowReach, if_neg noData, if_neg noSup, if_neg noDevice, present, Option.any_some]
  simp only [decide_eq_true_eq, covered]

theorem windowReach_outside
    (noImage : ∀ pa, l.guestImagePa = some pa → indexOf 30 ipa ≠ indexOf 30 pa)
    (noData : indexOf 30 ipa ≠ l.dataL1) (noSup : indexOf 30 ipa ≠ l.supL1)
    (noDevice : 0 < l.deviceLen → indexOf 30 ipa ≠ indexOf 30 l.deviceBase) :
    windowReach l leaves supers ipa = none := by
  rw [windowReach, valid.not_imaged ipa noImage, if_neg (by decide),
    if_neg (valid.not_data ipa noData),
    if_neg (valid.not_sup ipa noSup), if_neg (valid.not_device ipa noDevice)]

theorem windowReach_high (high : 2 ^ 39 ≤ ipa.toNat) : windowReach l leaves supers ipa = none := by
  have noImage : (l.guestImagePa.any fun imagePa => inWindow imagePa BLOCK_SIZE ipa) = false := by
    cases present : l.guestImagePa with
    | none => rfl
    | some pa =>
        rw [Option.any_some, decide_eq_false_iff_not]
        intro covered
        exact absurd ((valid.imagePlaced present).index covered).1 (Nat.not_lt.mpr high)
  rw [windowReach, noImage, if_neg (by decide), if_neg, if_neg, if_neg]
  · rintro ⟨long, covered⟩
    exact absurd ((valid.devPlaced long).index covered).1 (Nat.not_lt.mpr high)
  · intro covered
    exact absurd (valid.supPlaced.index covered).1 (Nat.not_lt.mpr high)
  · intro covered
    exact absurd (valid.dataPlaced.index covered).1 (Nat.not_lt.mpr high)

theorem toNat_framePa {m : Nat} (small : m < TABLE_ENTRIES) (bounded : l.Bounded) :
    (l.framePa (UInt32.ofNat m)).toNat = l.dataPaBase.toNat + m * 2 ^ 12 := by
  have room := bounded.data
  rw [valid.toNat_frameSize] at room
  rw [TABLE_ENTRIES] at small room
  rw [Layout.framePa, frameAddr, UInt64.toNat_add, UInt64.toNat_mul, UInt32.toNat_toUInt64,
    Words.toNat_ofNat32 (by omega), valid.toNat_frameSize]
  omega

/-- Under the index of the data window, the slots of the `L3` table are the leaves. -/
theorem windowReach_data (bounded : l.Bounded) (low : ipa.toNat < 2 ^ 39)
    (same : indexOf 30 ipa = l.dataL1) :
    windowReach l leaves supers ipa =
      if indexOf 21 ipa = l.dataL2 then
        (wantedLeaf leaves l.framePa Desc.ADDR_4K false (indexOf 12 ipa)).map (leafTo PAGE_SIZE ipa)
      else none := by
  have noImage := valid.not_imaged ipa fun pa present =>
    same ▸ (valid.image_apart present).1.index.symm
  have noSup := valid.not_sup ipa (same ▸ valid.data_apart_sup.index)
  have noDevice := valid.not_device ipa fun long =>
    same ▸ (valid.dev_apart long).1.index
  have placed : l.dataIpaBase.toNat < 2 ^ 39 := valid.dataPlaced.low
  have span : (UInt64.ofNat TABLE_ENTRIES * l.frameSize).toNat = 2 ^ 21 := valid.toNat_dataSpan
  have aligned := valid.dataIpa
  rw [Layout.dataL1, indexOf_30, indexOf_30] at same
  have covered : inWindow l.dataIpaBase (UInt64.ofNat TABLE_ENTRIES * l.frameSize) ipa ↔
      indexOf 21 ipa = l.dataL2 := by
    rw [inWindow_iff, span, Layout.dataL2, indexOf_21, indexOf_21]
    omega
  rw [windowReach, noImage, if_neg (by decide), if_neg noSup, if_neg noDevice]
  simp only [covered]
  split_ifs with here
  · obtain ⟨above, short⟩ := inWindow_iff.mp (covered.mpr here)
    rw [span] at short
    have slot : (ipa.toNat - l.dataIpaBase.toNat) / 2 ^ 12 = indexOf 12 ipa := by
      rw [indexOf_12]
      omega
    have inside := indexOf_lt 12 ipa
    have size : l.frameSize.toNat = 2 ^ 12 := valid.toNat_frameSize
    rw [leafReach_eq Desc.ADDR_4K size (by decide) rfl (by omega) above (by omega) ?_, slot,
      valid.frameSize]
    intro perm _
    have room := bounded.data
    have pages := valid.dataPa
    rw [size] at room
    rw [slot, valid.toNat_framePa inside bounded]
    rw [TABLE_ENTRIES] at inside room
    exact ⟨by omega, by omega⟩
  · rfl

theorem toNat_supSpan (bounded : l.Bounded) :
    (l.supFrames * l.superSize).toNat = l.supFrames.toNat * 2 ^ 21 := by
  have room := bounded.sup
  rw [valid.toNat_frameSize, TABLE_ENTRIES] at room
  rw [UInt64.toNat_mul, valid.toNat_superSize]
  omega

theorem supFrames_le (bounded : l.Bounded) :
    l.supIpaBase.toNat / 2 ^ 21 % 512 + l.supFrames.toNat ≤ 512 := by
  have within : l.supIpaBase.toNat % 2 ^ 30 + (l.supFrames * l.superSize).toNat ≤ 2 ^ 30 :=
    valid.supPlaced.within
  rw [valid.toNat_supSpan bounded] at within
  have aligned := valid.supIpa
  omega

theorem toNat_superPa {m : Nat} (backed : m < l.supFrames.toNat) (bounded : l.Bounded) :
    (l.superPa (UInt32.ofNat m)).toNat = l.supPaBase.toNat + m * 2 ^ 21 := by
  have room := bounded.sup
  have few := valid.supFrames_le bounded
  rw [valid.toNat_frameSize, TABLE_ENTRIES] at room
  rw [Layout.superPa, frameAddr, UInt64.toNat_add, UInt64.toNat_mul, UInt32.toNat_toUInt64,
    Words.toNat_ofNat32 (by omega), valid.toNat_superSize]
  omega

/-- The slot of a super frame, counted from the slot of the window's base. -/
theorem superIndex_eq {m : Nat} (small : m < TABLE_ENTRIES) :
    superIndex l m = (l.supIpaBase.toNat / 2 ^ 21 + m) % 512 := by
  have low : l.supIpaBase.toNat < 2 ^ 39 := valid.supPlaced.low
  rw [TABLE_ENTRIES] at small
  rw [superIndex, indexOf_21, Layout.superIpa, frameAddr, UInt64.toNat_add, UInt64.toNat_mul,
    UInt32.toNat_toUInt64, Words.toNat_ofNat32 (by omega), valid.toNat_superSize]
  omega

/-- Under the index of the super window, every slot of its table is one super frame. -/
theorem windowReach_sup (bounded : l.Bounded)
    (backed : ∀ m, l.supFrames.toNat ≤ m → (supers[m]?).join = none) (low : ipa.toNat < 2 ^ 39)
    (same : indexOf 30 ipa = l.supL1) :
    ∃ m < TABLE_ENTRIES, superIndex l m = indexOf 21 ipa ∧
      windowReach l leaves supers ipa =
        (wantedLeaf supers l.superPa Desc.ADDR_2M l.supWxExempt m).map (leafTo BLOCK_SIZE ipa) := by
  have noImage := valid.not_imaged ipa fun pa present =>
    same ▸ (valid.image_apart present).2.index.symm
  have noData := valid.not_data ipa (same ▸ valid.data_apart_sup.index.symm)
  have noDevice := valid.not_device ipa fun long => same ▸ (valid.dev_apart long).2.index
  have placed : l.supIpaBase.toNat < 2 ^ 39 := valid.supPlaced.low
  have span := valid.toNat_supSpan bounded
  have few := valid.supFrames_le bounded
  have aligned := valid.supIpa
  rw [Layout.supL1, indexOf_30, indexOf_30] at same
  have size : l.superSize = BLOCK_SIZE := UInt64.toNat_inj.mp valid.toNat_superSize
  rw [windowReach, noImage, if_neg (by decide), if_neg noData, if_neg noDevice]
  by_cases covered : inWindow l.supIpaBase (l.supFrames * l.superSize) ipa
  · obtain ⟨above, short⟩ := inWindow_iff.mp covered
    rw [span] at short
    have inside : (ipa.toNat - l.supIpaBase.toNat) / 2 ^ 21 < l.supFrames.toNat := by omega
    have small : (ipa.toNat - l.supIpaBase.toNat) / 2 ^ 21 < TABLE_ENTRIES := by
      rw [TABLE_ENTRIES]
      omega
    refine ⟨_, small, ?_, ?_⟩
    · rw [valid.superIndex_eq small, indexOf_21]
      omega
    · rw [if_pos covered, leafReach_eq Desc.ADDR_2M valid.toNat_superSize (by decide) rfl (by omega)
        above (by omega) ?_, size]
      intro perm _
      have room := bounded.sup
      have blocks := valid.supPa
      rw [valid.toNat_frameSize, TABLE_ENTRIES] at room
      rw [valid.toNat_superPa inside bounded]
      exact ⟨by omega, by omega⟩
  · -- Past the backed frames, or before the base: the index counts round the table.
    have hole : ∃ m, m < 512 ∧ l.supFrames.toNat ≤ m ∧
        (l.supIpaBase.toNat / 2 ^ 21 + m) % 512 = ipa.toNat / 2 ^ 21 % 512 := by
      rw [inWindow_iff, span] at covered
      by_cases before : ipa.toNat / 2 ^ 21 % 512 < l.supIpaBase.toNat / 2 ^ 21 % 512
      · exact ⟨ipa.toNat / 2 ^ 21 % 512 + 512 - l.supIpaBase.toNat / 2 ^ 21 % 512,
          by omega, by omega, by omega⟩
      · exact ⟨ipa.toNat / 2 ^ 21 % 512 - l.supIpaBase.toNat / 2 ^ 21 % 512,
          by omega, by omega, by omega⟩
    obtain ⟨m, small, past, round⟩ := hole
    refine ⟨m, small, ?_, ?_⟩
    · rw [valid.superIndex_eq small, indexOf_21]
      exact round
    · rw [if_neg covered, wantedLeaf, backed m past]
      rfl

theorem toNat_deviceSlot (long : 0 < l.deviceLen) {i : Nat} (small : i < TABLE_ENTRIES) :
    (deviceSlot l i).toNat = l.deviceBase.toNat / 2 ^ 30 * 2 ^ 30 + i * 2 ^ 21 := by
  have low : l.deviceBase.toNat < 2 ^ 39 := (valid.devPlaced long).low
  have mask : (~~~(BLOCK_SIZE * UInt64.ofNat TABLE_ENTRIES - 1)).toNat = (2 ^ 34 - 1) * 2 ^ 30 :=
    rfl
  rw [TABLE_ENTRIES] at small
  rw [deviceSlot, UInt64.toNat_add, Bits.toNat_and_mask mask, UInt64.toNat_mul, toNat_blockSize,
    UInt64.toNat_ofNat_of_lt' (show i < 2 ^ 64 by omega)]
  omega

/-- Under the index of the device window, every slot of its table is one device block. -/
theorem windowReach_dev (long : 0 < l.deviceLen) (low : ipa.toNat < 2 ^ 39)
    (same : indexOf 30 ipa = indexOf 30 l.deviceBase) :
    windowReach l leaves supers ipa =
      (wantedDevice l (indexOf 21 ipa)).map fun d =>
        ⟨d.pa ||| (ipa &&& (BLOCK_SIZE - 1)), .rw, d.xn⟩ := by
  obtain ⟨fromData, fromSup⟩ := valid.dev_apart long
  have noImage := valid.not_imaged ipa fun pa present =>
    same ▸ (valid.image_apart_dev present long).index.symm
  have noData := valid.not_data ipa (same ▸ fromData.index.symm)
  have noSup := valid.not_sup ipa (same ▸ fromSup.index.symm)
  have placed : l.deviceBase.toNat < 2 ^ 39 := (valid.devPlaced long).low
  have below : l.deviceBase.toNat + l.deviceLen.toNat ≤ 2 ^ 39 := (valid.devPlaced long).below
  have aligned := valid.device long
  have blocks := valid.deviceLen
  have small := indexOf_lt 21 ipa
  have slot := valid.toNat_deviceSlot long small
  have stop : (l.deviceBase + l.deviceLen).toNat = l.deviceBase.toNat + l.deviceLen.toNat := by
    rw [UInt64.toNat_add]
    omega
  rw [indexOf_30, indexOf_30] at same
  -- The block of the slot is the block of the address.
  have block : l.deviceBase.toNat / 2 ^ 30 * 2 ^ 30 + indexOf 21 ipa * 2 ^ 21 =
      ipa.toNat / 2 ^ 21 * 2 ^ 21 := by
    rw [indexOf_21]
    omega
  rw [block] at slot
  rw [windowReach, noImage, if_neg (by decide), if_neg noData, if_neg noSup]
  simp only [wantedDevice]
  have covered : (0 < l.deviceLen ∧ inWindow l.deviceBase l.deviceLen ipa) ↔
      0 < l.deviceLen ∧ l.deviceBase ≤ deviceSlot l (indexOf 21 ipa) ∧
        deviceSlot l (indexOf 21 ipa) < l.deviceBase + l.deviceLen := by
    rw [inWindow_iff, UInt64.le_iff_toNat_le, UInt64.lt_iff_toNat_lt, UInt64.lt_iff_toNat_lt, slot,
      stop]
    omega
  simp only [← covered]
  split_ifs with here
  · simp only [Option.map_some, Option.some.injEq, Reach.mk.injEq, and_true]
    apply UInt64.toNat_inj.mp
    have divides : 2 ^ 21 ∣ (deviceSlot l (indexOf 21 ipa)).toNat := slot ▸ Nat.dvd_mul_left ..
    have mask : Desc.ADDR_2M.toNat = (2 ^ 27 - 1) * 2 ^ 21 := rfl
    have kept := Bits.and_mask mask divides (by omega)
    rw [kept, Bits.toNat_or_low divides (by decide), slot]
    omega
  · rfl

end Valid

end Baleen.Arm64
