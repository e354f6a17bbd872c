import Baleen.Arm64.Emit

/-!
# What the checker of the tables establishes

An accepted table set carries the skeleton.  The checker holds a slot without a leaf
against the decoder of its own kind alone: in the super table a table descriptor passes
for a hole, and in the device table so does any block of normal memory, and the access of
a device block is not compared.
-/

namespace Baleen.Arm64

open Stage2 (Perm TABLE_ENTRIES)

variable {l : Layout} {leaves supers : List (Option Perm)} {t : Tables} {ipa : UInt64}

theorem deadExcept_ok {table : Table} {live : List Nat} {name : String} :
    deadExcept table live name = .ok () ↔ ∀ i < TABLE_ENTRIES, i ∉ live → table.word i = 0 := by
  simp only [deadExcept, Checks.forM_ok, List.mem_range, Checks.require_ok]
  refine forall₂_congr fun i _ => ?_
  exact ⟨fun checked missing => checked.resolve_right missing, fun dead => by
    by_cases listed : i ∈ live
    · exact .inr listed
    · exact .inl (dead listed)⟩

theorem mem_rootEntries {i : Nat} {pa : UInt64} : (i, pa) ∈ rootEntries l ↔
    (i = l.dataL1 ∧ pa = l.l2DataPa &&& Desc.ADDR_4K) ∨
    (i = l.supL1 ∧ pa = l.l2SupPa &&& Desc.ADDR_4K) ∨
      (l.codeL1 = some i ∧ pa = l.l2CodePa &&& Desc.ADDR_4K) ∨
      (l.devL1 = some i ∧ pa = l.l2DevPa &&& Desc.ADDR_4K) := by
  simp only [rootEntries, List.mem_filterMap, List.mem_cons, List.not_mem_nil, or_false, id_eq]
  aesop

theorem mem_rootIndices {i : Nat} : i ∈ (rootEntries l).map Prod.fst ↔ Rooted l i := by
  simp only [List.mem_map, Prod.exists, mem_rootEntries, Rooted]
  aesop

theorem skeleton_of_verify (accepted : verifyEncoding l t leaves supers = .ok ()) :
    Valid l ∧ Skeleton l leaves supers t := by
  simp only [verifyEncoding, verifyRoot, verifyData, verifyLeaves, verifySupers, Checks.seq_ok,
    Checks.forM_ok, names, leafMatches, Checks.require_ok, deadExcept_ok, List.mem_range,
    List.mem_singleton, mem_rootIndices] at accepted
  obtain ⟨validated, ⟨entries, dead⟩, image, ⟨table, others⟩, pages, blocks, -⟩ := accepted
  have valid := valid_of_validate validated
  have image' : (∀ pa, l.guestImagePa = some pa →
      decodeBlock (t.l2Code.word (indexOf 21 pa)) = some ⟨pa &&& Desc.ADDR_2M, .ro, false⟩) ∧
      ∀ i < TABLE_ENTRIES, l.codeL2 ≠ some i → t.l2Code.word i = 0 := by
    rw [verifyImage, Layout.codeL2] at image
    rw [Layout.codeL2]
    cases present : l.guestImagePa with
    | none =>
        simp only [present, Option.map_none, deadExcept_ok, List.not_mem_nil, not_false_eq_true,
          true_imp_iff] at image
        constructor
        · intro pa impossible
          cases impossible
        · intro i small _
          exact image i small
    | some pa =>
        simp only [present, Option.map_some, Checks.seq_ok, Checks.require_ok, deadExcept_ok,
          List.mem_singleton] at image
        refine ⟨?_, fun i small other => image.2 i small fun same =>
          other (congrArg some same.symm)⟩
        intro pa' same
        obtain rfl := Option.some.inj same
        exact image.1
  obtain ⟨block, code⟩ := image'
  refine ⟨valid, ?_, ?_, ?_, ?_, dead, ?_, code, ?_, others, pages, blocks⟩
  · rw [entries _ (mem_rootEntries.mpr (.inl ⟨rfl, rfl⟩)),
      valid.tablePa_kept (by simp [Layout.tablePas])]
  · rw [entries _ (mem_rootEntries.mpr (.inr (.inl ⟨rfl, rfl⟩))),
      valid.tablePa_kept (by simp [Layout.tablePas])]
  · intro i present
    rw [entries _ (mem_rootEntries.mpr (.inr (.inr (.inl ⟨present, rfl⟩)))),
      valid.tablePa_kept (by simp [Layout.tablePas])]
  · intro i present
    rw [entries _ (mem_rootEntries.mpr (.inr (.inr (.inr ⟨present, rfl⟩)))),
      valid.tablePa_kept (by simp [Layout.tablePas])]
  · intro pa present
    rw [block pa present, valid.imagePa_kept present]
  · rw [table, valid.tablePa_kept (by simp [Layout.tablePas])]

theorem devices_of_verify (accepted : verifyEncoding l t leaves supers = .ok ()) {i : Nat}
    (small : i < TABLE_ENTRIES) : decodeDeviceBlock (t.l2Dev.word i) = wantedDevice l i := by
  simp only [verifyEncoding, verifyDevices, Checks.seq_ok, Checks.forM_ok, Checks.require_ok,
    List.mem_range] at accepted
  obtain ⟨-, -, -, -, -, -, devices⟩ := accepted
  exact devices i small

/-- The checker accepts every table set that carries the skeleton and the device blocks. -/
theorem verify_of_skeleton (validated : l.validate = .ok ()) (skeleton : Skeleton l leaves supers t)
    (devices : ∀ i < TABLE_ENTRIES, decodeDeviceBlock (t.l2Dev.word i) = wantedDevice l i) :
    verifyEncoding l t leaves supers = .ok () := by
  have valid := valid_of_validate validated
  simp only [verifyEncoding, verifyRoot, verifyData, verifyLeaves, verifySupers, verifyDevices,
    Checks.seq_ok, Checks.forM_ok, names, leafMatches, Checks.require_ok, deadExcept_ok,
    List.mem_range, List.mem_singleton, mem_rootIndices]
  refine ⟨validated, ⟨?_, skeleton.root⟩, ?_, ⟨?_, skeleton.data⟩, skeleton.pages, skeleton.blocks,
    devices⟩
  · rintro ⟨i, pa⟩ member
    rcases mem_rootEntries.mp member with ⟨rfl, rfl⟩ | ⟨rfl, rfl⟩ | ⟨present, rfl⟩ | ⟨present, rfl⟩
    · rw [skeleton.dataRoot, valid.tablePa_kept (by simp [Layout.tablePas])]
    · rw [skeleton.supRoot, valid.tablePa_kept (by simp [Layout.tablePas])]
    · rw [skeleton.codeRoot i present, valid.tablePa_kept (by simp [Layout.tablePas])]
    · rw [skeleton.devRoot i present, valid.tablePa_kept (by simp [Layout.tablePas])]
  · have code := skeleton.code
    rw [Layout.codeL2] at code
    rw [verifyImage, Layout.codeL2]
    cases present : l.guestImagePa with
    | none =>
        simp only [present, Option.map_none, ne_eq, reduceCtorEq, not_false_eq_true,
          true_imp_iff] at code
        simp only [deadExcept_ok]
        exact fun i small _ => code i small
    | some pa =>
        simp only [present, Option.map_some, ne_eq, Option.some.injEq] at code
        simp only [Option.map_some, Checks.seq_ok, Checks.require_ok, deadExcept_ok,
          List.mem_singleton]
        refine ⟨?_, fun i small other => code i small fun same => other same.symm⟩
        rw [skeleton.image pa present, valid.imagePa_kept present]
  · rw [skeleton.table, valid.tablePa_kept (by simp [Layout.tablePas])]

/-- A device block is a block, whatever access it gives. -/
theorem decodeBlock_of_device {d : UInt64} {block : DecodedDevice}
    (decoded : decodeDeviceBlock d = some block) :
    decodeBlock d = (decodePerm d).map (⟨block.pa, ·, block.xn⟩) ∧ decodeTable d = none := by
  simp only [decodeDeviceBlock, ite_not] at decoded
  split_ifs at decoded with bits attributes
  obtain rfl := Option.some.inj decoded
  constructor
  · rw [decodeBlock, decodeLeaf, bits, if_neg (by simp)]
  · rw [decodeTable, bits, if_pos (by decide)]

/-- The address whose walk reads slot `i` of the table of an `L1` entry, and then slot `j`. -/
def probe (entry i j : Nat) : UInt64 := UInt64.ofNat (entry * 2 ^ 30 + i * 2 ^ 21 + j * 2 ^ 12)

theorem probe_spec {entry i j : Nat} (first : entry < TABLE_ENTRIES) (second : i < TABLE_ENTRIES)
    (third : j < TABLE_ENTRIES) :
    (probe entry i j).toNat < 2 ^ 39 ∧ indexOf 30 (probe entry i j) = entry ∧
      indexOf 21 (probe entry i j) = i ∧ indexOf 12 (probe entry i j) = j := by
  rw [TABLE_ENTRIES] at first second third
  have value : (probe entry i j).toNat = entry * 2 ^ 30 + i * 2 ^ 21 + j * 2 ^ 12 :=
    UInt64.toNat_ofNat_of_lt' (show _ < 2 ^ 64 by omega)
  rw [indexOf_30, indexOf_21, indexOf_12, value]
  omega

/-- A slot that no probe resolves is no block and a dead end. -/
theorem dead_of_probes {fetch : UInt64 → UInt64 → UInt64} {d : UInt64} {entry i : Nat}
    (first : entry < TABLE_ENTRIES) (second : i < TABLE_ENTRIES)
    (silent : ∀ j < TABLE_ENTRIES, resolve fetch (probe entry i j) d = none) :
    decodeBlock d = none ∧ DeadEnd fetch d := by
  have unblocked : decodeBlock d = none := by
    by_contra present
    obtain ⟨block, decoded⟩ := Option.ne_none_iff_exists'.mp present
    have resolved := silent 0 (by decide)
    rw [resolve_block decoded] at resolved
    cases resolved
  refine ⟨unblocked, ?_⟩
  intro pa table k small
  have resolved := silent k.toNat small
  obtain ⟨-, -, -, slot⟩ := probe_spec first second small
  have index : (probe entry i k.toNat >>> 12) &&& 0x1ff = k := UInt64.toNat_inj.mp slot
  rw [resolve, unblocked, table] at resolved
  simp only [index, Option.map_eq_none_iff] at resolved
  exact resolved

/-- The slot lies in the device window. -/
def OnDevice (l : Layout) (i : Nat) : Prop :=
  l.deviceBase ≤ deviceSlot l i ∧ deviceSlot l i < l.deviceBase + l.deviceLen

/-- What the checker leaves open: no slot without a leaf leads anywhere, and the device
blocks are read-write. -/
structure Closed (l : Layout) (supers : List (Option Perm)) (t : Tables) : Prop where
  supers : ∀ m < TABLE_ENTRIES, (supers[m]?).join = none →
    DeadEnd (t.fetch l) (t.l2Sup.word (superIndex l m))
  blocks : 0 < l.deviceLen → ∀ i < TABLE_ENTRIES, OnDevice l i →
    decodePerm (t.l2Dev.word i) = some .rw
  holes : 0 < l.deviceLen → ∀ i < TABLE_ENTRIES, ¬OnDevice l i →
    decodeBlock (t.l2Dev.word i) = none ∧ DeadEnd (t.fetch l) (t.l2Dev.word i)

theorem wantedDevice_on {i : Nat} (long : 0 < l.deviceLen) (covered : OnDevice l i) :
    wantedDevice l i = some ⟨deviceSlot l i &&& Desc.ADDR_2M, true⟩ := if_pos ⟨long, covered⟩

theorem wantedDevice_off {i : Nat} (outside : ¬OnDevice l i) : wantedDevice l i = none :=
  if_neg fun both => outside both.2

section Accepted

variable (distinct : l.tablePas.Nodup) (bounded : l.Bounded)
  (backed : ∀ m, l.supFrames.toNat ≤ m → (supers[m]?).join = none)
  (accepted : verifyEncoding l t leaves supers = .ok ())
include accepted

theorem Closed.sealed (closed : Closed l supers t) : Sealed (t.fetch l) l supers t where
  supers := closed.supers
  devices := by
    intro long i small
    have device := devices_of_verify accepted small
    by_cases covered : OnDevice l i
    · rw [wantedDevice_on long covered] at device ⊢
      rw [(decodeBlock_of_device device).1, closed.blocks long i small covered]
      rfl
    · rw [wantedDevice_off covered]
      exact (closed.holes long i small covered).1
  holes := by
    intro long i small hole
    refine (closed.holes long i small ?_).2
    intro covered
    rw [wantedDevice_on long covered] at hole
    cases hole

include distinct bounded backed in
theorem closed_of_walk
    (agrees : ∀ ipa, walk l.l1Pa ipa (t.fetch l) = windowReach l leaves supers ipa) :
    Closed l supers t := by
  obtain ⟨valid, skeleton⟩ := skeleton_of_verify accepted
  have reads := Tables.reads t distinct
  have device : 0 < l.deviceLen → ∀ i < TABLE_ENTRIES, ∀ j < TABLE_ENTRIES,
      resolve (t.fetch l) (probe (indexOf 30 l.deviceBase) i j) (t.l2Dev.word i) =
        (wantedDevice l i).map fun d =>
          ⟨d.pa ||| (probe (indexOf 30 l.deviceBase) i j &&& (BLOCK_SIZE - 1)), .rw, d.xn⟩ := by
    intro long i small j small'
    obtain ⟨low, root, slot, -⟩ := probe_spec (indexOf_lt 30 l.deviceBase) small small'
    have walked := agrees (probe (indexOf 30 l.deviceBase) i j)
    rw [walk_dev reads skeleton low long root, valid.windowReach_dev long low root, slot] at walked
    exact walked
  refine ⟨?_, ?_, ?_⟩
  · intro m small hole
    have rooted : l.supL1 < TABLE_ENTRIES := indexOf_lt _ _
    have inside : superIndex l m < TABLE_ENTRIES := indexOf_lt _ _
    refine (dead_of_probes rooted inside ?_).2
    intro j small'
    obtain ⟨low, root, slot, -⟩ := probe_spec rooted inside small'
    obtain ⟨m', smallM, same, walked, window⟩ :=
      walk_sup valid bounded reads skeleton low backed root
    obtain rfl := superIndex_injective valid smallM small (same.trans slot)
    rw [← walked, agrees, window, skeleton.blocks m' smallM, wantedLeaf, hole]
    rfl
  · intro long i small covered
    have resolved := device long i small 0 (by decide)
    have decoded := devices_of_verify accepted small
    rw [wantedDevice_on long covered] at resolved decoded
    obtain ⟨block, untabled⟩ := decodeBlock_of_device decoded
    cases access : decodePerm (t.l2Dev.word i) with
    | none =>
        rw [access, Option.map_none] at block
        rw [resolve, block, untabled] at resolved
        cases resolved
    | some perm =>
        rw [access, Option.map_some] at block
        rw [resolve_block block, leafTo] at resolved
        simp only [Option.map_some, Option.some.injEq, Reach.mk.injEq] at resolved
        rw [resolved.2.1]
  · intro long i small outside
    refine dead_of_probes (indexOf_lt 30 l.deviceBase) small fun j small' => ?_
    rw [device long i small j small', wantedDevice_off outside]
    rfl

end Accepted

/-- An accepted table set is walked as the windows say exactly when it is closed. -/
theorem verifyEncoding_walk_iff (l : Layout) (distinct : l.tablePas.Nodup) (bounded : l.Bounded)
    (leaves supers : List (Option Perm))
    (backed : ∀ m, l.supFrames.toNat ≤ m → (supers[m]?).join = none) (t : Tables)
    (accepted : verifyEncoding l t leaves supers = .ok ()) :
    (∀ ipa, walk l.l1Pa ipa (t.fetch l) = windowReach l leaves supers ipa) ↔ Closed l supers t := by
  constructor
  · exact closed_of_walk distinct bounded backed accepted
  · intro closed ipa
    obtain ⟨valid, skeleton⟩ := skeleton_of_verify accepted
    exact walk_eq_windowReach valid bounded (Tables.reads t distinct) skeleton
      (closed.sealed accepted) backed ipa

/-- What the encoder writes passes the checker. -/
theorem encode_verifies (validated : l.validate = .ok ()) (left : Left l t) :
    verifyEncoding l (encode l leaves supers t) leaves supers = .ok () := by
  have valid := valid_of_validate validated
  refine verify_of_skeleton validated (encode_skeleton valid (left.clean valid)) ?_
  intro i small
  by_cases long : 0 < l.deviceLen
  · rw [encode_deviceSlot valid long small, wantedDevice]
    simp only [long, true_and]
    split_ifs with covered
    · exact decodeDeviceBlock_word _
    · exact decodeDeviceBlock_zero
  · have blank : (encode l leaves supers t).l2Dev = .blank := by
      simp only [encode, encodeDevice, if_neg long]
    rw [blank, Table.word_blank, wantedDevice, if_neg fun both => long both.1,
      decodeDeviceBlock_zero]

/-- Whatever the leaf maps, an encoding over zeroed tables is accepted under its own layout. -/
theorem encode_accepted (l : Layout) (validated : l.validate = .ok ())
    (leaves supers : List (Option Perm)) :
    verifyEncoding l (encode l leaves supers .blank) leaves supers = .ok () :=
  encode_verifies validated .blank

/-- Two mapped frames and one super frame. -/
theorem encode_accepted_everyRegion :
    verifyEncoding everyRegionLayout
      (encode everyRegionLayout [some .rw, none, some .rx] [none, some .rw] .blank)
      [some .rw, none, some .rx] [none, some .rw] = .ok () :=
  encode_accepted everyRegionLayout everyRegionLayout_accepted _ _

theorem encode_closed (validated : l.validate = .ok ()) (bounded : l.Bounded)
    (distinct : l.tablePas.Nodup) (backed : ∀ m, l.supFrames.toNat ≤ m → (supers[m]?).join = none)
    (left : Left l t) : Closed l supers (encode l leaves supers t) := by
  have valid := valid_of_validate validated
  exact closed_of_walk distinct bounded backed (encode_verifies validated left) fun ipa =>
    walk_eq_windowReach valid bounded (Tables.reads _ distinct)
      (encode_skeleton valid (left.clean valid)) (encode_sealed valid _) backed ipa

/-- The encoder's own tables are accepted and closed. -/
theorem verifyEncoding_walk_encoded :
    let t := encode everyRegionLayout [some .rw] [] .blank
    Closed everyRegionLayout [] t ∧
    ∀ ipa, walk everyRegionLayout.l1Pa ipa (t.fetch everyRegionLayout) =
      windowReach everyRegionLayout [some .rw] [] ipa := by
  intro t
  have closed : Closed everyRegionLayout [] t := encode_closed everyRegionLayout_accepted
    everyRegionLayout_bounded everyRegionLayout_distinct (fun _ _ => rfl) .blank
  exact ⟨closed, (verifyEncoding_walk_iff everyRegionLayout everyRegionLayout_distinct
    everyRegionLayout_bounded [some .rw] [] (fun _ _ => rfl) t
    (encode_verifies everyRegionLayout_accepted .blank)).mpr closed⟩

/-- A word that is no block may stand in a slot without a super leaf. -/
theorem Skeleton.graft (valid : Valid l) (skeleton : Skeleton l leaves supers t) {m : Nat}
    (small : m < TABLE_ENTRIES) (hole : (supers[m]?).join = none) {d : UInt64}
    (unblocked : decodeBlock d = none) :
    Skeleton l leaves supers { t with l2Sup := t.l2Sup.store (superIndex l m) d } := by
  refine { skeleton with blocks := ?_ }
  intro m' small'
  have inside : superIndex l m < TABLE_ENTRIES := indexOf_lt _ _
  simp only [Table.word_store inside]
  split_ifs with same
  · obtain rfl := superIndex_injective valid small small' same
    rw [unblocked, wantedLeaf, hole]
    rfl
  · exact skeleton.blocks m' small'

/-- A super slot that names the page table of the data window. -/
def graftedTables : Tables :=
  let t := encode everyRegionLayout [some .rw] [] .blank
  { t with l2Sup := t.l2Sup.store (superIndex everyRegionLayout 0) 0x40103003 }

/-- The checker accepts a super slot through which the walker reaches a data frame. -/
theorem verifyEncoding_accepts_alias :
    verifyEncoding everyRegionLayout graftedTables [some .rw] [] = .ok () ∧
      walk everyRegionLayout.l1Pa 0xC0000000 (graftedTables.fetch everyRegionLayout) =
        some ⟨0x40600000, .rw, true⟩ ∧
      windowReach everyRegionLayout [some .rw] [] 0xC0000000 = none := by
  have valid := valid_of_validate everyRegionLayout_accepted
  refine ⟨?_, by decide +kernel, by decide +kernel⟩
  refine verify_of_skeleton everyRegionLayout_accepted
    ((encode_skeleton valid (Left.blank.clean valid)).graft valid (by decide) rfl (by decide)) ?_
  intro i small
  have untouched : graftedTables.l2Dev = (encode everyRegionLayout [some .rw] [] .blank).l2Dev :=
    rfl
  rw [untouched]
  exact devices_of_verify (encode_verifies everyRegionLayout_accepted .blank) small

end Baleen.Arm64
