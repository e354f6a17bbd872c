import Baleen.Arm64.Walk

/-!
# The encoder writes what the windows say

Every encode writes the same skeleton and clears the leaf tables before filling them, so
what earlier encodes under the layout left behind does not show.
-/

namespace Baleen.Arm64

open Stage2 (Perm TABLE_ENTRIES)

variable {l : Layout} {leaves supers : List (Option Perm)} {t : Tables} {ipa : UInt64}

namespace Table

@[simp]
theorem word_blank (i : Nat) : blank.word i = 0 := by
  by_cases inside : i < TABLE_ENTRIES
  · simp [word, blank, inside]
  · simp [word, blank, inside]

theorem word_store {t : Table} {i : Nat} (inside : i < TABLE_ENTRIES) (w : UInt64) (j : Nat) :
    (t.store i w).word j = if i = j then w else t.word j := by
  simp only [word, store, Vector.getElem?_setIfInBounds, inside, if_true]
  split_ifs <;> rfl

theorem word_store_ne {t : Table} {i j : Nat} (apart : i ≠ j) (w : UInt64) :
    (t.store i w).word j = t.word j := by
  simp only [word, store, Vector.getElem?_setIfInBounds, apart, if_false]

end Table

section Leaves

variable {index : Nat → Nat} {descriptor : Nat → Perm → UInt64}

theorem word_foldl_untouched {entries : List (Option Perm × Nat)} {t : Table} {j : Nat}
    (apart : ∀ e ∈ entries, e.1 ≠ none → index e.2 ≠ j) :
    (entries.foldl (storeLeaf index descriptor) t).word j = t.word j := by
  induction entries generalizing t with
  | nil => rfl
  | cons e rest ih =>
      rw [List.foldl_cons, ih fun e' member => apart e' (List.mem_cons_of_mem _ member)]
      obtain ⟨leaf, m⟩ := e
      cases leaf with
      | none => rfl
      | some perm => exact Table.word_store_ne (apart _ List.mem_cons_self (by simp)) _

theorem word_foldl_written {entries : List (Option Perm × Nat)} {t : Table} {m : Nat} {perm : Perm}
    (member : (some perm, m) ∈ entries) (inside : index m < TABLE_ENTRIES)
    (only : ∀ e ∈ entries, index e.2 = index m → e = (some perm, m)) :
    (entries.foldl (storeLeaf index descriptor) t).word (index m) = descriptor m perm := by
  induction entries generalizing t with
  | nil => cases member
  | cons e rest ih =>
      have later : ∀ e' ∈ rest, index e'.2 = index m → e' = (some perm, m) :=
        fun e' member' => only e' (List.mem_cons_of_mem _ member')
      rw [List.foldl_cons]
      by_cases again : (some perm, m) ∈ rest
      · exact ih again later
      · obtain rfl : (some perm, m) = e := (List.mem_cons.mp member).resolve_right again
        rw [word_foldl_untouched, storeLeaf, Table.word_store inside, if_pos rfl]
        intro e' member' _ same
        exact again (later e' member' same ▸ member')

theorem mem_leaves {leaf : Option Perm} {m : Nat} :
    (leaf, m) ∈ leaves.zipIdx.take TABLE_ENTRIES ↔ m < TABLE_ENTRIES ∧ leaves[m]? = some leaf := by
  simp only [List.mem_iff_getElem?, List.getElem?_take, List.getElem?_zipIdx, Nat.zero_add]
  constructor
  · rintro ⟨i, found⟩
    split_ifs at found with small
    obtain ⟨x, here, same⟩ := Option.map_eq_some_iff.mp found
    obtain ⟨rfl, rfl⟩ := Prod.mk.inj same
    exact ⟨small, here⟩
  · rintro ⟨small, found⟩
    exact ⟨m, by rw [if_pos small, found, Option.map_some]⟩

/-- With one slot for each frame, a slot holds the leaf of its frame or nothing. -/
theorem word_leaves
    (injective : ∀ m < TABLE_ENTRIES, ∀ m' < TABLE_ENTRIES, index m = index m' → m = m')
    {m : Nat} (small : m < TABLE_ENTRIES) (inside : index m < TABLE_ENTRIES) :
    ((leaves.zipIdx.take TABLE_ENTRIES).foldl (storeLeaf index descriptor) .blank).word (index m) =
      ((leaves[m]?).join.map (descriptor m)).getD 0 := by
  have only : ∀ e ∈ leaves.zipIdx.take TABLE_ENTRIES, index e.2 = index m →
      e.2 = m ∧ leaves[m]? = some e.1 := by
    rintro ⟨leaf, m'⟩ member same
    obtain ⟨small', found⟩ := mem_leaves.mp member
    obtain rfl := injective m' small' m small same
    exact ⟨rfl, found⟩
  cases found : (leaves[m]?).join with
  | none =>
      rw [word_foldl_untouched, Table.word_blank]
      · rfl
      · intro e member written same
        rw [(only e member same).2, Option.join_some] at found
        exact written found
  | some perm =>
      have here : leaves[m]? = some (some perm) := Option.join_eq_some_iff.mp found
      refine word_foldl_written (mem_leaves.mpr ⟨small, here⟩) inside ?_
      rintro ⟨leaf, m'⟩ member same
      obtain ⟨rfl, other⟩ := only _ member same
      rw [here] at other
      rw [Option.some.inj other]

end Leaves

/-- The loop writes the block of every address of one `L1` entry from `a` up to `stop`. -/
theorem word_deviceBlocks {stop : UInt64} {entry : Nat} (inside : entry < 512)
    (upper : stop.toNat ≤ (entry + 1) * 2 ^ 30) {b : UInt64} (here : b.toNat / 2 ^ 30 = entry)
    (aligned : b.toNat % 2 ^ 21 = 0) {fuel : Nat} {a : UInt64} {t : Table}
    (lower : entry * 2 ^ 30 ≤ a.toNat) (start : a.toNat % 2 ^ 21 = 0)
    (enough : stop.toNat ≤ a.toNat + fuel * 2 ^ 21) :
    (deviceBlocks stop fuel a t).word (indexOf 21 b) =
      if a ≤ b ∧ b < stop then b &&& Desc.ADDR_2M ||| Desc.BLOCK_DEVICE
      else t.word (indexOf 21 b) := by
  induction fuel generalizing a t with
  | zero =>
      rw [deviceBlocks, if_neg]
      rw [UInt64.le_iff_toNat_le, UInt64.lt_iff_toNat_lt]
      omega
  | succ fuel ih =>
      rw [deviceBlocks]
      by_cases below : a < stop
      · have before := UInt64.lt_iff_toNat_lt.mp below
        have next : (a + BLOCK_SIZE).toNat = a.toNat + 2 ^ 21 := by
          rw [UInt64.toNat_add, toNat_blockSize]
          omega
        rw [if_pos below, ih (by omega) (by omega) (by omega)]
        have slot : indexOf 21 a < TABLE_ENTRIES := indexOf_lt _ _
        simp only [UInt64.le_iff_toNat_le, UInt64.lt_iff_toNat_lt, next]
        by_cases same : a = b
        · subst same
          rw [if_neg (by omega), if_pos ⟨Nat.le_refl _, before⟩, Table.word_store slot, if_pos rfl]
        · have differs : a.toNat ≠ b.toNat := fun eq => same (UInt64.toNat_inj.mp eq)
          have apart : indexOf 21 a ≠ indexOf 21 b := by
            rw [indexOf_21, indexOf_21]
            omega
          have later : (a.toNat + 2 ^ 21 ≤ b.toNat ∧ b.toNat < stop.toNat) ↔
              a.toNat ≤ b.toNat ∧ b.toNat < stop.toNat := by omega
          rw [Table.word_store_ne apart]
          simp only [later]
      · rw [if_neg below, if_neg]
        rw [UInt64.lt_iff_toNat_lt] at below
        rw [UInt64.le_iff_toNat_le, UInt64.lt_iff_toNat_lt]
        omega

/-- What an encode leaves alone was never written. -/
structure Clean (l : Layout) (t : Tables) : Prop where
  root : ∀ i, ¬Rooted l i → t.l1.word i = 0
  code : ∀ i, l.codeL2 ≠ some i → t.l2Code.word i = 0
  data : ∀ i, i ≠ l.dataL2 → t.l2Data.word i = 0

/-- The tables that encodes under one layout leave, from blank ones on. -/
inductive Left (l : Layout) : Tables → Prop where
  | blank : Left l .blank
  | again {t : Tables} (leaves supers : List (Option Perm)) :
      Left l t → Left l (encode l leaves supers t)

section Stages

theorem encode_l2Code : (encode l leaves supers t).l2Code = (encodeImage l t).l2Code := by
  simp only [encode, encodeDevice, encodeSupers, encodeData]
  split_ifs <;> rfl

theorem encode_l2Data : (encode l leaves supers t).l2Data =
    t.l2Data.store l.dataL2 (tableEntry l.l3DataPa) := by
  simp only [encode, encodeDevice, encodeSupers, encodeData, encodeImage]
  split_ifs <;> split <;> rfl

theorem encode_l3Data : (encode l leaves supers t).l3Data =
    (leaves.zipIdx.take TABLE_ENTRIES).foldl (storeLeaf id (pageDescriptor l)) .blank := by
  simp only [encode, encodeDevice, encodeSupers, encodeData]
  split_ifs <;> rfl

theorem encode_l2Sup : (encode l leaves supers t).l2Sup =
    (supers.zipIdx.take TABLE_ENTRIES).foldl
      (storeLeaf (superIndex l) (superDescriptor l)) .blank := by
  simp only [encode, encodeDevice, encodeSupers]
  split_ifs <;> rfl

theorem encode_l2Dev (long : 0 < l.deviceLen) : (encode l leaves supers t).l2Dev =
    deviceBlocks (l.deviceBase + l.deviceLen) ((l.deviceLen / BLOCK_SIZE).toNat + 1)
      l.deviceBase .blank := by
  simp only [encode, encodeDevice, if_pos long]

theorem encodeImage_root (j : Nat) : (encodeImage l t).l1.word j =
    if l.codeL1 = some j then tableEntry l.l2CodePa else t.l1.word j := by
  cases present : l.guestImagePa with
  | none =>
      rw [encodeImage, Layout.codeL1, present, Option.map_none, if_neg (by simp)]
  | some pa =>
      rw [encodeImage, Layout.codeL1, present, Option.map_some]
      simp only [Table.word_store (indexOf_lt _ _), Option.some.injEq]

/-- The `L1` table is written in the order image, data, super, device. -/
theorem encode_root (j : Nat) : (encode l leaves supers t).l1.word j =
    if l.devL1 = some j then tableEntry l.l2DevPa
    else if l.supL1 = j then tableEntry l.l2SupPa
    else if l.dataL1 = j then tableEntry l.l2DataPa
    else if l.codeL1 = some j then tableEntry l.l2CodePa
    else t.l1.word j := by
  have supSlot : l.supL1 < TABLE_ENTRIES := indexOf_lt _ _
  have dataSlot : l.dataL1 < TABLE_ENTRIES := indexOf_lt _ _
  have below : (encodeSupers l supers (encodeData l leaves (encodeImage l t))).l1.word j =
      if l.supL1 = j then tableEntry l.l2SupPa
      else if l.dataL1 = j then tableEntry l.l2DataPa
      else if l.codeL1 = some j then tableEntry l.l2CodePa
      else t.l1.word j := by
    rw [encodeSupers, encodeData]
    simp only [Table.word_store supSlot, Table.word_store dataSlot, encodeImage_root]
  rw [encode, encodeDevice, Layout.devL1]
  by_cases long : 0 < l.deviceLen
  · simp only [if_pos long, Table.word_store (indexOf_lt _ _), below, Option.some.injEq]
  · simp only [if_neg long, below, reduceCtorEq, if_false]

end Stages

section Encoded

variable (valid : Valid l)
include valid

theorem decodeTable_tableEntry {pa : UInt64} (member : pa ∈ l.tablePas) :
    decodeTable (tableEntry pa) = some pa := by
  rw [tableEntry, decodeTable_word, valid.tablePa_kept member]

theorem superIndex_injective {m m' : Nat} (small : m < TABLE_ENTRIES) (small' : m' < TABLE_ENTRIES)
    (same : superIndex l m = superIndex l m') : m = m' := by
  rw [valid.superIndex_eq small, valid.superIndex_eq small'] at same
  rw [TABLE_ENTRIES] at small small'
  omega

theorem encode_superSlot {m : Nat} (small : m < TABLE_ENTRIES) :
    (encode l leaves supers t).l2Sup.word (superIndex l m) =
      ((supers[m]?).join.map (superDescriptor l m)).getD 0 := by
  rw [encode_l2Sup]
  exact word_leaves (fun m small m' small' => superIndex_injective valid small small') small
    (indexOf_lt _ _)

theorem encode_deviceSlot (long : 0 < l.deviceLen) {i : Nat} (small : i < TABLE_ENTRIES) :
    (encode l leaves supers t).l2Dev.word i =
      if l.deviceBase ≤ deviceSlot l i ∧ deviceSlot l i < l.deviceBase + l.deviceLen then
        deviceSlot l i &&& Desc.ADDR_2M ||| Desc.BLOCK_DEVICE
      else 0 := by
  have low : l.deviceBase.toNat < 2 ^ 39 := (valid.devPlaced long).low
  have below : l.deviceBase.toNat + l.deviceLen.toNat ≤ 2 ^ 39 := (valid.devPlaced long).below
  have within : l.deviceBase.toNat % 2 ^ 30 + l.deviceLen.toNat ≤ 2 ^ 30 :=
    (valid.devPlaced long).within
  have address := valid.toNat_deviceSlot long small
  have stop : (l.deviceBase + l.deviceLen).toNat = l.deviceBase.toNat + l.deviceLen.toNat := by
    rw [UInt64.toNat_add]
    omega
  have fuel : (l.deviceLen / BLOCK_SIZE).toNat = l.deviceLen.toNat / 2 ^ 21 := by
    rw [UInt64.toNat_div, toNat_blockSize]
  rw [TABLE_ENTRIES] at small
  have slot : indexOf 21 (deviceSlot l i) = i := by
    rw [indexOf_21, address]
    omega
  have blocks := @word_deviceBlocks (l.deviceBase + l.deviceLen) (l.deviceBase.toNat / 2 ^ 30)
    (by omega) (by omega) (deviceSlot l i) (by omega) (by omega)
    ((l.deviceLen / BLOCK_SIZE).toNat + 1) l.deviceBase .blank (by omega) (valid.device long)
    (by omega)
  rw [slot, Table.word_blank] at blocks
  rw [encode_l2Dev long, blocks]

/-- Encoding over clean tables writes the skeleton. -/
theorem encode_skeleton (clean : Clean l t) :
    Skeleton l leaves supers (encode l leaves supers t) where
  dataRoot := by
    have fromDevice : l.devL1 ≠ some l.dataL1 := fun same => (valid.devL1_ne same).1 rfl
    have fromSup : l.supL1 ≠ l.dataL1 := valid.data_apart_sup.index.symm
    rw [encode_root, if_neg fromDevice, if_neg fromSup, if_pos rfl]
    exact decodeTable_tableEntry valid (by simp [Layout.tablePas])
  supRoot := by
    have fromDevice : l.devL1 ≠ some l.supL1 := fun same => (valid.devL1_ne same).2 rfl
    rw [encode_root, if_neg fromDevice, if_pos rfl]
    exact decodeTable_tableEntry valid (by simp [Layout.tablePas])
  codeRoot := by
    intro i present
    obtain ⟨noData, noSup, noDevice⟩ := valid.codeL1_ne present
    rw [encode_root, if_neg noDevice, if_neg noSup.symm, if_neg noData.symm, if_pos present]
    exact decodeTable_tableEntry valid (by simp [Layout.tablePas])
  devRoot := by
    intro i present
    rw [encode_root, if_pos present]
    exact decodeTable_tableEntry valid (by simp [Layout.tablePas])
  root := by
    intro i _ unrooted
    have untouched := clean.root i unrooted
    simp only [Rooted, not_or] at unrooted
    obtain ⟨noData, noSup, noImage, noDevice⟩ := unrooted
    rw [encode_root, if_neg noDevice, if_neg (Ne.symm noSup), if_neg (Ne.symm noData),
      if_neg noImage, untouched]
  image := by
    intro pa present
    rw [encode_l2Code, encodeImage, present]
    simp only [Table.word_store (indexOf_lt _ _), if_true, decodeBlock_image]
    rw [valid.imagePa_kept present]
  code := by
    intro i _ other
    rw [encode_l2Code, encodeImage]
    split
    · exact clean.code i other
    · rename_i pa present
      rw [Layout.codeL2, present] at other
      have apart : indexOf 21 pa ≠ i := fun same => other (congrArg some same)
      exact (Table.word_store_ne apart _).trans (clean.code i (by rwa [Layout.codeL2, present]))
  table := by
    have inside : l.dataL2 < TABLE_ENTRIES := indexOf_lt _ _
    rw [encode_l2Data, Table.word_store inside, if_pos rfl]
    exact decodeTable_tableEntry valid (by simp [Layout.tablePas])
  data := by
    intro i _ other
    rw [encode_l2Data, Table.word_store_ne (Ne.symm other)]
    exact clean.data i other
  pages := by
    intro m small
    rw [encode_l3Data]
    have slot := @word_leaves leaves id (pageDescriptor l) (fun _ _ _ _ same => same) m small small
    rw [id] at slot
    rw [slot, wantedLeaf]
    cases (leaves[m]?).join with
    | none => exact decodePage_zero
    | some perm => exact decodePage_word _ perm
  blocks := by
    intro m small
    rw [encode_superSlot valid small, wantedLeaf]
    cases (supers[m]?).join with
    | none => exact decodeBlock_zero
    | some perm => exact decodeBlock_word _ perm l.supWxExempt

/-- Slots without a leaf are zero, so no walker follows them. -/
theorem encode_sealed (fetch : UInt64 → UInt64 → UInt64) :
    Sealed fetch l supers (encode l leaves supers t) where
  supers := by
    intro m small hole pa table
    rw [encode_superSlot valid small, hole, Option.map_none, Option.getD_none,
      decodeTable_zero] at table
    cases table
  devices := by
    intro long i small
    rw [encode_deviceSlot valid long small, wantedDevice]
    simp only [long, true_and]
    split_ifs with covered
    · exact decodeBlock_device _
    · exact decodeBlock_zero
  holes := by
    intro long i small hole pa table
    have outside :
      ¬(l.deviceBase ≤ deviceSlot l i ∧ deviceSlot l i < l.deviceBase + l.deviceLen) := by
      intro covered
      rw [wantedDevice, if_pos ⟨long, covered⟩] at hole
      cases hole
    rw [encode_deviceSlot valid long small, if_neg outside, decodeTable_zero] at table
    cases table

theorem encode_clean (clean : Clean l t) : Clean l (encode l leaves supers t) := by
  have skeleton := @encode_skeleton l leaves supers t valid clean
  have beyond : ∀ (table : Table) i, TABLE_ENTRIES ≤ i → table.word i = 0 := by
    intro table i past
    simp [Table.word, past]
  refine ⟨?_, ?_, ?_⟩
  · intro i unrooted
    by_cases inside : i < TABLE_ENTRIES
    · exact skeleton.root i inside unrooted
    · exact beyond _ i (Nat.le_of_not_lt inside)
  · intro i other
    by_cases inside : i < TABLE_ENTRIES
    · exact skeleton.code i inside other
    · exact beyond _ i (Nat.le_of_not_lt inside)
  · intro i other
    by_cases inside : i < TABLE_ENTRIES
    · exact skeleton.data i inside other
    · exact beyond _ i (Nat.le_of_not_lt inside)

theorem Left.clean {t : Tables} (left : Left l t) : Clean l t := by
  induction left with
  | blank => exact ⟨fun i _ => Table.word_blank i, fun i _ => Table.word_blank i,
      fun i _ => Table.word_blank i⟩
  | again leaves supers _ ih => exact encode_clean valid ih

end Encoded

/-- Over blank or left-over tables, the walk of an encoding is what the windows say. -/
theorem encode_walk (l : Layout) (accepted : l.validate = .ok ()) (bounded : l.Bounded)
    (distinct : l.tablePas.Nodup) (leaves supers : List (Option Perm))
    (backed : ∀ m, l.supFrames.toNat ≤ m → (supers[m]?).join = none) (t : Tables) (left : Left l t)
    (ipa : UInt64) :
    walk l.l1Pa ipa ((encode l leaves supers t).fetch l) = windowReach l leaves supers ipa := by
  have valid := valid_of_validate accepted
  exact walk_eq_windowReach valid bounded (Tables.reads _ distinct)
    (encode_skeleton valid (left.clean valid)) (encode_sealed valid _) backed ipa

/-- A layout with all four regions. -/
def everyRegionLayout : Layout where
  l1Pa := 0x40100000
  l2CodePa := 0x40101000
  l2DataPa := 0x40102000
  l3DataPa := 0x40103000
  l2SupPa := 0x40104000
  l2DevPa := 0x40105000
  guestImagePa := some 0x40400000
  dataIpaBase := 0x80000000
  dataPaBase := 0x40600000
  frameSize := 0x1000
  supIpaBase := 0xC0000000
  supPaBase := 0x80000000
  deviceBase := 0x08000000
  deviceLen := 0x02000000
  supWxExempt := false
  supFrames := 8

theorem everyRegionLayout_accepted : everyRegionLayout.validate = .ok () := by decide +kernel

theorem everyRegionLayout_bounded : everyRegionLayout.Bounded := ⟨by decide, by decide⟩

theorem everyRegionLayout_distinct : everyRegionLayout.tablePas.Nodup := by decide

/-- A second tenant's leaves over the first one's tables. -/
theorem encode_walk_rebuilt :
    walk everyRegionLayout.l1Pa 0x80002123
      ((encode everyRegionLayout [some .rw, none, some .rx] [none, some .rw]
        (encode everyRegionLayout [none, some .ro] [some .rw] .blank)).fetch everyRegionLayout) =
      windowReach everyRegionLayout [some .rw, none, some .rx] [none, some .rw] 0x80002123 := by
  refine encode_walk everyRegionLayout everyRegionLayout_accepted everyRegionLayout_bounded
    everyRegionLayout_distinct _ _ ?_ _ (.again _ _ .blank) 0x80002123
  intro m past
  have short : ([none, some .rw] : List (Option Perm)).length ≤ m := by
    have many : everyRegionLayout.supFrames.toNat = 8 := rfl
    simp only [List.length_cons, List.length_nil]
    omega
  rw [List.getElem?_eq_none short]
  rfl

end Baleen.Arm64
