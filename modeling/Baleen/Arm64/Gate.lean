import Baleen.Arm64.Emit

/-!
# What the validation lets through

The validation of a layout bounds the windows' IPAs and the tables' addresses, but not the
physical addresses of the frames behind the windows.  A descriptor keeps the low 48 bits of an
address: a frame at or beyond `2 ^ 48` is mapped elsewhere, and sums of still larger addresses
wrap around.
-/

namespace Baleen.Arm64

open Stage2 (Perm TABLE_ENTRIES)

variable {l : Layout} {leaves supers : List (Option Perm)} {t : Tables}

/-- No sum or product of 64-bit words wraps around: in the regions, in their checks, in the
addresses of the frames and of the bytes in them, and in the loop over the device blocks.  The
encoder computes the addresses of every super frame it is handed, past the window as well. -/
structure Unwrapped (l : Layout) : Prop where
  superSize : TABLE_ENTRIES * l.frameSize.toNat < 2 ^ 64
  supSpan : l.supFrames.toNat * l.superSize.toNat < 2 ^ 64
  entries : ∀ r ∈ l.present, (r.ipa % L1_ENTRY_SIZE).toNat + r.span.toNat < 2 ^ 64
  windows : ∀ r ∈ l.present, r.ipa.toNat + r.span.toNat < 2 ^ 64 ∧
    r.pa.toNat + r.span.toNat < 2 ^ 64
  frames : ∀ m < TABLE_ENTRIES, ∀ off < l.frameSize.toNat,
    l.dataPaBase.toNat + m * l.frameSize.toNat + off < 2 ^ 64
  slots : ∀ m < TABLE_ENTRIES, l.supIpaBase.toNat + m * l.superSize.toNat < 2 ^ 64 ∧
    l.supPaBase.toNat + m * l.superSize.toNat < 2 ^ 64
  supers : ∀ m < l.supFrames.toNat, ∀ off < l.superSize.toNat,
    l.supIpaBase.toNat + m * l.superSize.toNat + off < 2 ^ 64 ∧
      l.supPaBase.toNat + m * l.superSize.toNat + off < 2 ^ 64
  blocks : 0 < l.deviceLen → ∀ a, l.deviceBase ≤ a → a < l.deviceBase + l.deviceLen →
    a.toNat + BLOCK_SIZE.toNat < 2 ^ 64

/-- The slots of the windows read back as the frames' own addresses. -/
structure Exact (l : Layout) : Prop where
  pages : ∀ leaves supers t m perm, m < TABLE_ENTRIES → leaves[m]? = some (some perm) →
    (decodePage ((encode l leaves supers t).l3Data.word m)).map (·.pa) =
      some (l.framePa (UInt32.ofNat m))
  blocks : ∀ leaves supers t m perm, m < TABLE_ENTRIES → m < l.supFrames.toNat →
    supers[m]? = some (some perm) →
    (decodeBlock ((encode l leaves supers t).l2Sup.word (superIndex l m))).map (·.pa) =
      some (l.superPa (UInt32.ofNat m))

structure Sufficient (l : Layout) : Prop where
  unwrapped : Unwrapped l
  exact : Exact l

/-- Every frame behind a window ends within the output-address field, and a whole table of super
frames fits into the words. -/
structure Representable (l : Layout) : Prop where
  data : l.dataPaBase.toNat + TABLE_ENTRIES * l.frameSize.toNat ≤ 2 ^ 48
  sup : 0 < l.supFrames.toNat →
    l.supPaBase.toNat + l.supFrames.toNat * (TABLE_ENTRIES * l.frameSize.toNat) ≤ 2 ^ 48
  table : l.supPaBase.toNat + (TABLE_ENTRIES - 1) * (TABLE_ENTRIES * l.frameSize.toNat) < 2 ^ 64

theorem Representable.bounded (fits : Representable l) (some : 0 < l.supFrames.toNat) : l.Bounded :=
  ⟨fits.data, fits.sup some⟩

theorem encode_page {m : Nat} {perm : Perm} (small : m < TABLE_ENTRIES)
    (leaf : leaves[m]? = some (some perm)) :
    (decodePage ((encode l leaves supers t).l3Data.word m)).map (·.pa) =
      some (l.framePa (UInt32.ofNat m) &&& Desc.ADDR_4K) := by
  have slot : ((leaves.zipIdx.take TABLE_ENTRIES).foldl
      (storeLeaf id (pageDescriptor l)) .blank).word m = pageDescriptor l m perm := by
    refine (word_leaves (fun _ _ _ _ same => same) small small).trans ?_
    rw [leaf]
    rfl
  rw [encode_l3Data, slot, pageDescriptor, decodePage_word]
  rfl

theorem encode_block (valid : Valid l) {m : Nat} {perm : Perm} (small : m < TABLE_ENTRIES)
    (leaf : supers[m]? = some (some perm)) :
    (decodeBlock ((encode l leaves supers t).l2Sup.word (superIndex l m))).map (·.pa) =
      some (l.superPa (UInt32.ofNat m) &&& Desc.ADDR_2M) := by
  rw [encode_superSlot valid small, leaf, Option.join_some, Option.map_some, Option.getD_some,
    superDescriptor, decodeBlock_word]
  rfl

/-- A mask that reaches up to bit 48 keeps exactly the smaller addresses. -/
theorem lt_of_and_mask {a mask : UInt64} {n : Nat} (low : n ≤ 48)
    (field : mask.toNat = (2 ^ (48 - n) - 1) * 2 ^ n) (kept : a &&& mask = a) :
    a.toNat < 2 ^ 48 := by
  have value := Bits.toNat_and_mask (a := a) field
  rw [kept] at value
  calc a.toNat = a.toNat / 2 ^ n % 2 ^ (48 - n) * 2 ^ n := value
    _ < 2 ^ (48 - n) * 2 ^ n :=
      Nat.mul_lt_mul_of_pos_right (Nat.mod_lt _ (Nat.two_pow_pos _)) (Nat.two_pow_pos n)
    _ = 2 ^ 48 := by rw [← Nat.pow_add, Nat.sub_add_cancel low]

theorem toNat_frameAddr {base size : UInt64} {m : Nat} (small : m < 2 ^ 32)
    (unwrapped : base.toNat + m * size.toNat < 2 ^ 64) :
    (frameAddr base size (UInt32.ofNat m)).toNat = base.toNat + m * size.toNat := by
  rw [frameAddr, UInt64.toNat_add, UInt64.toNat_mul, UInt32.toNat_toUInt64,
    Words.toNat_ofNat32 small,
      Nat.mod_eq_of_lt (Nat.lt_of_le_of_lt (Nat.le_add_left _ _) unwrapped)]
  exact Nat.mod_eq_of_lt unwrapped

namespace Valid

variable (valid : Valid l)
include valid

theorem mem_present {r : Region} (member : r ∈ l.present) :
    (r.pa = r.ipa ∧ Placed r) ∨ r = l.dataRegion ∨ r = l.supRegion := by
  have placed := valid.placed r member
  simp only [Layout.present, Layout.regions, List.mem_filterMap, List.mem_cons, List.not_mem_nil,
    or_false, id_eq] at member
  obtain ⟨region, image | data | sup | dev, rfl⟩ := member
  · obtain ⟨pa, -, rfl⟩ := Option.map_eq_some_iff.mp image.symm
    exact .inl ⟨rfl, placed⟩
  · exact .inr (.inl (Option.some.inj data))
  · exact .inr (.inr (Option.some.inj sup))
  · obtain ⟨l1, -, rfl⟩ := Option.map_eq_some_iff.mp dev.symm
    exact .inl ⟨rfl, placed⟩

theorem pa_below (fits : Representable l) {r : Region} (member : r ∈ l.present) :
    r.pa.toNat + r.span.toNat < 2 ^ 64 := by
  have room := fits.data
  rw [valid.toNat_frameSize, TABLE_ENTRIES] at room
  rcases valid.mem_present member with ⟨same, placed⟩ | rfl | rfl
  · have below := placed.below
    rw [same]
    omega
  · rw [valid.toNat_dataSpan]
    change l.dataPaBase.toNat + 2 ^ 21 < 2 ^ 64
    omega
  · change l.supPaBase.toNat + (l.supFrames * l.superSize).toNat < 2 ^ 64
    rcases Nat.eq_zero_or_pos l.supFrames.toNat with none | some
    · have small := l.supPaBase.toNat_lt
      rw [UInt64.toNat_mul, none]
      omega
    · have sup := fits.sup some
      rw [valid.toNat_frameSize, TABLE_ENTRIES] at sup
      rw [valid.toNat_supSpan (fits.bounded some)]
      omega

theorem unwrapped (fits : Representable l) : Unwrapped l where
  superSize := by
    rw [valid.toNat_frameSize]
    decide
  supSpan := by
    rw [valid.toNat_superSize]
    rcases Nat.eq_zero_or_pos l.supFrames.toNat with none | some
    · rw [none]
      decide
    · have few := valid.supFrames_le (fits.bounded some)
      omega
  entries := by
    intro r member
    have within := (valid.placed r member).within
    rw [UInt64.toNat_mod, toNat_l1EntrySize]
    omega
  windows := by
    intro r member
    have below := (valid.placed r member).below
    exact ⟨by omega, valid.pa_below fits member⟩
  frames := by
    intro m small off inside
    have room := fits.data
    rw [valid.toNat_frameSize] at room inside ⊢
    rw [TABLE_ENTRIES] at room small
    omega
  slots := by
    intro m small
    have low : l.supIpaBase.toNat < 2 ^ 39 := valid.supPlaced.low
    have table := fits.table
    rw [valid.toNat_frameSize] at table
    rw [valid.toNat_superSize]
    rw [TABLE_ENTRIES] at table small
    omega
  supers := by
    intro m backed off inside
    have some : 0 < l.supFrames.toNat := Nat.lt_of_le_of_lt (Nat.zero_le m) backed
    have room := fits.sup some
    have few := valid.supFrames_le (fits.bounded some)
    have low : l.supIpaBase.toNat < 2 ^ 39 := valid.supPlaced.low
    rw [valid.toNat_frameSize, TABLE_ENTRIES] at room
    rw [valid.toNat_superSize] at inside ⊢
    exact ⟨by omega, by omega⟩
  blocks := by
    intro long a _ below
    have end_le : l.deviceBase.toNat + l.deviceLen.toNat ≤ 2 ^ 39 := (valid.devPlaced long).below
    rw [UInt64.lt_iff_toNat_lt, UInt64.toNat_add] at below
    rw [toNat_blockSize]
    omega

theorem exact (fits : Representable l) : Exact l where
  pages := by
    intro leaves supers t m perm small leaf
    have room := fits.data
    rw [valid.toNat_frameSize, TABLE_ENTRIES] at room
    have aligned := valid.dataPa
    have address : (l.framePa (UInt32.ofNat m)).toNat = l.dataPaBase.toNat + m * 2 ^ 12 := by
      rw [TABLE_ENTRIES] at small
      rw [Layout.framePa, toNat_frameAddr (by omega), valid.toNat_frameSize]
      rw [valid.toNat_frameSize]
      omega
    have field : Desc.ADDR_4K.toNat = (2 ^ 36 - 1) * 2 ^ 12 := rfl
    rw [encode_page small leaf, Bits.and_mask field]
    · rw [address]
      omega
    · rw [TABLE_ENTRIES] at small
      rw [address]
      omega
  blocks := by
    intro leaves supers t m perm small backed leaf
    have bounded := fits.bounded (Nat.lt_of_le_of_lt (Nat.zero_le m) backed)
    have room := bounded.sup
    rw [valid.toNat_frameSize, TABLE_ENTRIES] at room
    have aligned := valid.supPa
    have address := valid.toNat_superPa backed bounded
    have field : Desc.ADDR_2M.toNat = (2 ^ 27 - 1) * 2 ^ 21 := rfl
    rw [encode_block valid small leaf, Bits.and_mask field]
    · rw [address]
      omega
    · rw [address]
      omega

end Valid

/-- A map with a leaf in every slot. -/
def everyLeaf : List (Option Perm) := List.replicate TABLE_ENTRIES (some .rw)

theorem everyLeaf_some {m : Nat} (small : m < TABLE_ENTRIES) :
    everyLeaf[m]? = some (some .rw) := by
  rw [everyLeaf, List.getElem?_replicate, if_pos small]

/-- The last page of the data window has an address that its descriptor keeps. -/
theorem Sufficient.data (valid : Valid l) (sufficient : Sufficient l) :
    l.dataPaBase.toNat + TABLE_ENTRIES * l.frameSize.toNat ≤ 2 ^ 48 := by
  have small : 511 < TABLE_ENTRIES := by decide
  have leaf := everyLeaf_some small
  have read := sufficient.exact.pages everyLeaf [] .blank 511 .rw small leaf
  rw [encode_page small leaf, Option.some.injEq] at read
  have low : (l.framePa (UInt32.ofNat 511)).toNat < 2 ^ 48 :=
    @lt_of_and_mask _ _ 12 (by decide) rfl read
  have unwrapped := sufficient.unwrapped.frames 511 small 0 (by rw [valid.toNat_frameSize]; decide)
  have aligned := valid.dataPa
  rw [Layout.framePa, toNat_frameAddr (by decide) unwrapped, valid.toNat_frameSize] at low
  rw [valid.toNat_frameSize, TABLE_ENTRIES]
  omega

/-- So has the last block of the super window, if the window has any. -/
theorem Sufficient.sup (valid : Valid l) (sufficient : Sufficient l)
    (some : 0 < l.supFrames.toNat) :
    l.supPaBase.toNat + l.supFrames.toNat * (TABLE_ENTRIES * l.frameSize.toNat) ≤ 2 ^ 48 := by
  have span := sufficient.unwrapped.supSpan
  have within : l.supIpaBase.toNat % 2 ^ 30 + (l.supFrames * l.superSize).toNat ≤ 2 ^ 30 :=
    valid.supPlaced.within
  rw [UInt64.toNat_mul, Nat.mod_eq_of_lt span, valid.toNat_superSize] at within
  obtain ⟨m, last⟩ := Nat.exists_eq_add_of_lt some
  have backed : m < l.supFrames.toNat := by omega
  have small : m < TABLE_ENTRIES := by
    rw [TABLE_ENTRIES]
    omega
  have leaf := everyLeaf_some small
  have read := sufficient.exact.blocks [] everyLeaf .blank m .rw small backed leaf
  rw [encode_block valid small leaf, Option.some.injEq] at read
  have low : (l.superPa (UInt32.ofNat m)).toNat < 2 ^ 48 :=
    @lt_of_and_mask _ _ 21 (by decide) rfl read
  have positive : 0 < l.superSize.toNat := by
    rw [valid.toNat_superSize]
    decide
  have unwrapped := (sufficient.unwrapped.supers m backed 0 positive).2
  have aligned := valid.supPa
  rw [TABLE_ENTRIES] at small
  rw [Layout.superPa, toNat_frameAddr (by omega) unwrapped, valid.toNat_superSize] at low
  rw [valid.toNat_frameSize, TABLE_ENTRIES]
  omega

/-- The encoder computes the address of the last slot of its table. -/
theorem Sufficient.table (valid : Valid l) (sufficient : Sufficient l) :
    l.supPaBase.toNat + (TABLE_ENTRIES - 1) * (TABLE_ENTRIES * l.frameSize.toNat) < 2 ^ 64 := by
  have last := (sufficient.unwrapped.slots (TABLE_ENTRIES - 1) (by decide)).2
  rw [valid.toNat_superSize] at last
  rw [valid.toNat_frameSize]
  exact last

/-- For an accepted layout nothing wraps around and every slot reads back as its frame exactly when
the frames behind the windows end within the 48 bits of the output-address field, and the encoder's
whole table of super frames within the words. -/
theorem validate_sufficient_iff (l : Layout) (accepted : l.validate = .ok ()) :
    Sufficient l ↔ Representable l := by
  have valid := valid_of_validate accepted
  constructor
  · intro sufficient
    exact ⟨sufficient.data valid, sufficient.sup valid, sufficient.table valid⟩
  · intro fits
    exact ⟨valid.unwrapped fits, valid.exact fits⟩

theorem validate_sufficient_everyRegion :
    Sufficient everyRegionLayout ↔ Representable everyRegionLayout :=
  validate_sufficient_iff everyRegionLayout everyRegionLayout_accepted

/-- The data window backed from `2 ^ 48` on. -/
def farLayout : Layout := { everyRegionLayout with dataPaBase := (1 : UInt64) <<< 48 }

/-- An accepted layout whose first frame is mapped to address 0. -/
theorem far_accepted : farLayout.validate = .ok () ∧
    farLayout.framePa 0 = (1 : UInt64) <<< 48 ∧
    decodePage ((encode farLayout [some .rw] [] .blank).l3Data.word 0) = some ⟨0, .rw, true⟩ ∧
    ¬Sufficient farLayout := by
  have read : decodePage ((encode farLayout [some .rw] [] .blank).l3Data.word 0) =
      some ⟨0, .rw, true⟩ := by decide +kernel
  refine ⟨by decide +kernel, by decide, read, ?_⟩
  intro sufficient
  have kept := sufficient.exact.pages [some .rw] [] .blank 0 .rw (by decide) rfl
  rw [read] at kept
  exact absurd kept (by decide)

end Baleen.Arm64
