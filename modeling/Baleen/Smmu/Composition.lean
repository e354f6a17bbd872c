import Baleen.Arm64.Emit
import Baleen.Smmu.Stream
import Baleen.Stage2.Isolation

/-!
# Where the transactions of a device land

The stream table names the tables of a domain, and the walk of those tables is what the
windows of its layout say.  So a device reaches what its holder reaches, and writes only
frames that the model lets the holder write.
-/

namespace Baleen.Arm64

open Stage2 (Perm TABLE_ENTRIES)
open P2m (Mfn)

variable {l : Layout} {leaves supers : List (Option Perm)} {ipa pa : UInt64} {m : Mfn}

/-- The bytes of a model frame, as a page and as a block. -/
def Layout.Backs (l : Layout) (m : Mfn) (pa : UInt64) : Prop :=
  (m.toNat < TABLE_ENTRIES ∧ inWindow (l.framePa m) l.frameSize pa) ∨
    (m.toNat < l.supFrames.toNat ∧ inWindow (l.superPa m) l.superSize pa)

/-- A writable leaf of one of the maps. -/
def WritableLeaf (leaves : List (Option Perm)) (m : Nat) : Prop := leaves[m]? = some (some .rw)

/-- A write through a window of `count` frames, back to back from `start`, lands in the frame
of a writable leaf. -/
theorem writable_leaf {base size : UInt64} {paOf : UInt32 → UInt64} {wxExempt : Bool} {r : Reach}
    {count start width : Nat} (granule : size.toNat = width) (few : count ≤ 2 ^ 32)
    (room : start + count * width ≤ 2 ^ 48) (above : base.toNat ≤ ipa.toNat)
    (below : ipa.toNat < base.toNat + count * width)
    (placed : ∀ k : UInt32, k.toNat < count → (paOf k).toNat = start + k.toNat * width)
    (reached : leafReach base size leaves paOf wxExempt ipa = some r)
    (writable : r.writable = true) :
    ∃ k < count, WritableLeaf leaves k ∧ start + k * width ≤ r.pa.toNat ∧
      r.pa.toNat < start + k * width + width := by
  obtain ⟨perm, found, rfl⟩ := Option.map_eq_some_iff.mp reached
  have access : perm = .rw := by
    cases perm with
    | rw => rfl
    | ro => cases writable
    | rx => cases writable
  have offset : (ipa - base).toNat = ipa.toNat - base.toNat :=
    UInt64.toNat_sub_of_le _ _ (UInt64.le_iff_toNat_le.mpr above)
  have short : ipa.toNat - base.toNat < count * width := by omega
  have positive : 0 < width := Nat.pos_of_ne_zero fun zero => by simp [zero] at short
  have index : (ipa.toNat - base.toNat) / width < count :=
    Nat.div_lt_of_lt_mul (Nat.mul_comm .. ▸ short)
  have frame : ((ipa - base) / size).toUInt32.toNat = (ipa.toNat - base.toNat) / width := by
    rw [UInt64.toNat_toUInt32, UInt64.toNat_div, offset, granule]
    exact Nat.mod_eq_of_lt (index.trans_le few)
  have rest : (ipa.toNat - base.toNat) % width < width := Nat.mod_lt _ positive
  have last : ((ipa.toNat - base.toNat) / width + 1) * width ≤ count * width :=
    Nat.mul_le_mul_right _ index
  have landed : (paOf ((ipa - base) / size).toUInt32 + (ipa - base) % size).toNat =
      start + (ipa.toNat - base.toNat) / width * width +
        (ipa.toNat - base.toNat) % width := by
    rw [Nat.succ_mul] at last
    rw [UInt64.toNat_add, placed _ (frame ▸ index), frame, UInt64.toNat_mod, offset, granule]
    omega
  refine ⟨(ipa.toNat - base.toNat) / width, index, ?_, ?_, ?_⟩
  · rw [frame] at found
    rw [WritableLeaf, Option.join_eq_some_iff.mp found, access]
  · rw [landed]
    omega
  · rw [landed]
    omega

namespace Valid

variable (valid : Valid l) (bounded : l.Bounded)
include valid bounded

theorem toNat_bases :
    (∀ k : Mfn, k.toNat < 512 → (l.framePa k).toNat = l.dataPaBase.toNat + k.toNat * 2 ^ 12) ∧
      ∀ k : Mfn, k.toNat < l.supFrames.toNat →
        (l.superPa k).toNat = l.supPaBase.toNat + k.toNat * 2 ^ 21 := by
  constructor
  · intro k small
    have address := valid.toNat_framePa small bounded
    rwa [UInt32.ofNat_toNat] at address
  · intro k small
    have address := valid.toNat_superPa small bounded
    rwa [UInt32.ofNat_toNat] at address

theorem backs_iff : l.Backs m pa ↔
    (m.toNat < 512 ∧ l.dataPaBase.toNat + m.toNat * 2 ^ 12 ≤ pa.toNat ∧
        pa.toNat < l.dataPaBase.toNat + m.toNat * 2 ^ 12 + 2 ^ 12) ∨
      (m.toNat < l.supFrames.toNat ∧ l.supPaBase.toNat + m.toNat * 2 ^ 21 ≤ pa.toNat ∧
        pa.toNat < l.supPaBase.toNat + m.toNat * 2 ^ 21 + 2 ^ 21) := by
  obtain ⟨framePa, superPa⟩ := valid.toNat_bases bounded
  rw [Layout.Backs, inWindow_iff, inWindow_iff, valid.toNat_frameSize, valid.toNat_superSize]
  refine or_congr (and_congr_right fun small => ?_) (and_congr_right fun small => ?_)
  · rw [framePa m small]
  · rw [superPa m small]

/-- The frames of the two windows and the devices lie at different addresses. -/
theorem windows_apart :
    (l.dataPaBase.toNat + 2 ^ 21 ≤ l.supPaBase.toNat ∨
        l.supPaBase.toNat + l.supFrames.toNat * 2 ^ 21 ≤ l.dataPaBase.toNat) ∧
      (0 < l.deviceLen → inWindow l.deviceBase l.deviceLen pa → ¬l.Backs m pa) := by
  have roomData := bounded.data
  have roomSup := bounded.sup
  rw [valid.toNat_frameSize, TABLE_ENTRIES] at roomData roomSup
  have dataSpan := valid.toNat_dataSpan
  have supSpan : l.supRegion.span.toNat = _ := valid.toNat_supSpan bounded
  have dataEnd : (l.dataPaBase + l.dataRegion.span).toNat = l.dataPaBase.toNat + 2 ^ 21 := by
    rw [UInt64.toNat_add, dataSpan]
    omega
  have supEnd : (l.supPaBase + l.supRegion.span).toNat =
      l.supPaBase.toNat + l.supFrames.toNat * 2 ^ 21 := by
    rw [UInt64.toNat_add, supSpan]
    omega
  constructor
  · have apart : ¬(l.dataPaBase < l.supPaBase + l.supRegion.span ∧
        l.supPaBase < l.dataPaBase + l.dataRegion.span) := valid.data_apart_sup.pa
    rw [UInt64.lt_iff_toNat_lt, UInt64.lt_iff_toNat_lt, dataEnd, supEnd] at apart
    omega
  · intro long covered backs
    have below : l.deviceBase.toNat + l.deviceLen.toNat ≤ 2 ^ 39 := (valid.devPlaced long).below
    have devEnd : (l.deviceBase + l.deviceLen).toNat = l.deviceBase.toNat + l.deviceLen.toNat := by
      rw [UInt64.toNat_add]
      omega
    have fromData : ¬(l.dataPaBase < l.deviceBase + l.deviceLen ∧
        l.deviceBase < l.dataPaBase + l.dataRegion.span) := (valid.dev_apart long).1.pa
    have fromSup : ¬(l.supPaBase < l.deviceBase + l.deviceLen ∧
        l.deviceBase < l.supPaBase + l.supRegion.span) := (valid.dev_apart long).2.pa
    rw [UInt64.lt_iff_toNat_lt, UInt64.lt_iff_toNat_lt, devEnd, dataEnd] at fromData
    rw [UInt64.lt_iff_toNat_lt, UInt64.lt_iff_toNat_lt, devEnd, supEnd] at fromSup
    rw [inWindow_iff] at covered
    rw [valid.backs_iff bounded] at backs
    omega

/-- A write lands in the frame of a writable leaf, or outside every frame. -/
theorem written_frame {r : Reach} (reached : windowReach l leaves supers ipa = some r)
    (writable : r.writable = true) (backs : l.Backs m r.pa) :
    WritableLeaf leaves m.toNat ∨ WritableLeaf supers m.toNat := by
  have apart := (@windows_apart l ipa m valid bounded).1
  have frame := (valid.backs_iff bounded).mp backs
  obtain ⟨framePa, superPa⟩ := valid.toNat_bases bounded
  have roomData := bounded.data
  have roomSup := bounded.sup
  rw [valid.toNat_frameSize, TABLE_ENTRIES] at roomData roomSup
  rw [windowReach] at reached
  split_ifs at reached with image data sup device
  · obtain rfl := Option.some.inj reached
    cases writable
  · left
    rw [inWindow_iff] at data
    have span : (UInt64.ofNat TABLE_ENTRIES * l.frameSize).toNat = 2 ^ 21 := valid.toNat_dataSpan
    obtain ⟨k, small, leaf, landed⟩ :=
      writable_leaf valid.toNat_frameSize (by decide) (by omega) data.1
      (by omega) framePa reached writable
    have same : k = m.toNat := by omega
    rwa [same] at leaf
  · right
    rw [inWindow_iff] at sup
    have span := valid.toNat_supSpan bounded
    have few := valid.supFrames_le bounded
    obtain ⟨k, small, leaf, landed⟩ :=
      writable_leaf valid.toNat_superSize (by omega) (by omega) sup.1
      (by omega) superPa reached writable
    have same : k = m.toNat := by omega
    rwa [same] at leaf
  · obtain rfl := Option.some.inj reached
    exact absurd backs ((valid.windows_apart bounded).2 device.1 device.2)

end Valid

end Baleen.Arm64

namespace Baleen.Smmu

open Arm64 (Layout Tables Reach Reads encode windowReach valid_of_validate)
open Stage2 (Perm leafMap)
open P2m (Mfn)

/-- The layout of a domain with the maps that were encoded over its tables. -/
structure Image where
  layout : Layout
  vmid : UInt64
  leaves : List (Option Perm)
  supers : List (Option Perm)
  before : Tables

namespace Image

def tables (im : Image) : Tables := encode im.layout im.leaves im.supers im.before

/-- The binding that the handles of the layout carry. -/
def binding (im : Image) : Option Stage2Binding :=
  match stage2Handles im.layout im.vmid with
  | .ok handles => some handles.binding
  | .error _ => none

/-- Memory once the tables stand at their addresses. -/
def install (im : Image) (memory : UInt64 → UInt64 → UInt64) (pa i : UInt64) : UInt64 :=
  if pa ∈ im.layout.tablePas then im.tables.fetch im.layout pa i else memory pa i

/-- What the encoder asks of a layout and its maps. -/
structure Ready (im : Image) : Prop where
  accepted : im.layout.validate = .ok ()
  bounded : im.layout.Bounded
  backed : ∀ m, im.layout.supFrames.toNat ≤ m → (im.supers[m]?).join = none
  left : Arm64.Left im.layout im.before

end Image

section Images

variable (images : List (Option Image))

def imageOf (holder : DomId) : Option Image := (images[holder.toNat]?).join

def bindings : List (Option Stage2Binding) := images.map fun im => im.bind Image.binding

def tablePas : List UInt64 := (images.filterMap id).flatMap fun im => im.layout.tablePas

def installed (memory : UInt64 → UInt64 → UInt64) : UInt64 → UInt64 → UInt64 :=
  (images.filterMap id).foldr Image.install memory

end Images

variable {images : List (Option Image)} {memory : UInt64 → UInt64 → UInt64} {im : Image}
  {holder : DomId}

theorem mem_of_imageOf (found : imageOf images holder = some im) : im ∈ images.filterMap id := by
  rw [List.mem_filterMap]
  exact ⟨some im, List.mem_of_getElem? (Option.join_eq_some_iff.mp found), rfl⟩

theorem foldr_install {ims : List Image} (member : im ∈ ims)
    (distinct : (ims.flatMap fun im => im.layout.tablePas).Nodup) {pa : UInt64}
    (own : pa ∈ im.layout.tablePas) (i : UInt64) :
    ims.foldr Image.install memory pa i = im.tables.fetch im.layout pa i := by
  induction ims with
  | nil => cases member
  | cons first rest ih =>
      rw [List.flatMap_cons, List.nodup_append] at distinct
      obtain ⟨-, later, apart⟩ := distinct
      rw [List.foldr_cons, Image.install]
      rcases List.mem_cons.mp member with rfl | behind
      · rw [if_pos own]
      · have elsewhere : pa ∉ first.layout.tablePas := fun here =>
          apart pa here pa (List.mem_flatMap.mpr ⟨im, behind, own⟩) rfl
        rw [if_neg elsewhere]
        exact ih behind later

theorem nodup_of_member {ims : List Image} (member : im ∈ ims)
    (distinct : (ims.flatMap fun im => im.layout.tablePas).Nodup) : im.layout.tablePas.Nodup :=
  (List.nodup_flatMap.mp distinct).1 im member

/-- Every domain's tables stand in memory as they were encoded. -/
theorem installed_reads (found : imageOf images holder = some im)
    (distinct : (tablePas images).Nodup) :
    Reads (installed images memory) im.layout im.tables := by
  have member := mem_of_imageOf found
  have own := im.tables.reads (nodup_of_member member distinct)
  have here : ∀ pa ∈ im.layout.tablePas, ∀ i,
      installed images memory pa i = im.tables.fetch im.layout pa i :=
    fun pa inside i => foldr_install member distinct inside i
  constructor
  · intro i
    rw [here _ (by simp [Layout.tablePas]), own.l1]
  · intro i
    rw [here _ (by simp [Layout.tablePas]), own.l2Code]
  · intro i
    rw [here _ (by simp [Layout.tablePas]), own.l2Data]
  · intro i
    rw [here _ (by simp [Layout.tablePas]), own.l3Data]
  · intro i
    rw [here _ (by simp [Layout.tablePas]), own.l2Sup]
  · intro i
    rw [here _ (by simp [Layout.tablePas]), own.l2Dev]

theorem s2ttb_of_binding {b : Stage2Binding} (handed : im.binding = some b) :
    b.s2ttb = im.layout.l1Pa := by
  rw [Image.binding, stage2Handles] at handed
  split_ifs at handed with wide
  dsimp only at handed
  cases encoded : stage2Ste ⟨im.layout.l1Pa, Arm64.vttbrVmid (Arm64.vttbr im.layout.l1Pa im.vmid)
      Arm64.BALEEN_VMID_BITS, Arm64.BALEEN_STAGE2⟩ with
  | error e =>
      rw [encoded] at handed
      cases handed
  | ok ste =>
      rw [encoded] at handed
      obtain rfl := Option.some.inj handed
      rfl

theorem image_of_binding {b : Stage2Binding}
    (registered : ((bindings images)[holder.toNat]?).join = some b) :
    ∃ im, imageOf images holder = some im ∧ im.binding = some b := by
  rw [bindings, List.getElem?_map, Option.join_eq_some_iff, Option.map_eq_some_iff] at registered
  obtain ⟨image, found, bound⟩ := registered
  obtain ⟨im, rfl, handed⟩ := Option.bind_eq_some_iff.mp bound
  exact ⟨im, by rw [imageOf, found, Option.join_some], handed⟩

/-- Walking a domain's installed tables is what the windows of its layout say. -/
theorem walk_installed (ready : im.Ready) (found : imageOf images holder = some im)
    (distinct : (tablePas images).Nodup) (ipa : UInt64) :
    Arm64.walk im.layout.l1Pa ipa (installed images memory) =
      windowReach im.layout im.leaves im.supers ipa := by
  have valid := valid_of_validate ready.accepted
  exact Arm64.walk_eq_windowReach valid ready.bounded (installed_reads found distinct)
    (Arm64.encode_skeleton valid (ready.left.clean valid)) (Arm64.encode_sealed valid _)
    ready.backed ipa

/-- The maps of the domains are those of the model. -/
def Emitted (hv : Hypervisor) (images : List (Option Image)) : Prop :=
  ∀ holder im, imageOf images holder = some im →
    ∃ out, leafMap hv.p2m holder out = (.ok (), ⟨im.leaves, im.supers⟩)

/-- A domain writes only frames that it owns or was granted for writing. -/
theorem write_authorized {c : Config} {hv : Hypervisor} (reachable : Hypervisor.Reachable c hv)
    (emitted : Emitted hv images) (ready : im.Ready) (found : imageOf images holder = some im)
    {ipa : UInt64} {r : Reach} (reached : windowReach im.layout im.leaves im.supers ipa = some r)
    (writable : r.writable = true) {m : Mfn} (backs : im.layout.Backs m r.pa) :
    ∃ owner, hv.p2m.ownerOf m = some owner ∧
      (owner = holder ∨ hv.grant.authorizes owner holder m true = true) := by
  obtain ⟨out, maps⟩ := emitted holder im found
  have leaf := (valid_of_validate ready.accepted).written_frame ready.bounded reached writable backs
  obtain ⟨span, mapped⟩ : ∃ span, ((⟨im.leaves, im.supers⟩ : Stage2.Maps).leavesOf span)[m.toNat]? =
      some (some .rw) := by
    cases leaf with
    | inl base => exact ⟨.base, base⟩
    | inr sup => exact ⟨.super, sup⟩
  obtain ⟨l, isLive, -, owner, index, -, access⟩ := Stage2.mapped_entry maps mapped
  obtain rfl : l.child = m := UInt32.toNat_inj.mp index
  have authorized := Stage2.child_authorized reachable.regular isLive owner
  rwa [Stage2.writable_of_perm access] at authorized

/-- A device reaches what the windows of its holder say and nothing without a holder, and
writes no frame that its holder may not write. -/
theorem deviceReach_composed (devices : Device.System) (streamOf : List UInt32)
    (images : List (Option Image)) (log2size : UInt32) (words : List UInt64)
    (memory : UInt64 → UInt64 → UInt64) (ready : ∀ im ∈ images.filterMap id, im.Ready)
    (distinct : (tablePas images).Nodup)
    (derived : (deriveStreamTable devices streamOf (bindings images) log2size words).1 = .ok ()) :
    let table := (deriveStreamTable devices streamOf (bindings images) log2size words).2
    let reach := fun sid ipa => deviceReach table log2size sid ipa (installed images memory)
    (∀ sid holder, holderOfStream devices streamOf sid = some holder →
        ∃ im, imageOf images holder = some im ∧
          ∀ ipa, reach sid ipa = windowReach im.layout im.leaves im.supers ipa) ∧
      (∀ sid, holderOfStream devices streamOf sid = none → ∀ ipa, reach sid ipa = none) ∧
      ∀ c hv, Hypervisor.Reachable c hv → Emitted hv images →
        ∀ sid holder im, holderOfStream devices streamOf sid = some holder →
          imageOf images holder = some im → ∀ ipa r, reach sid ipa = some r →
          r.writable = true → ∀ m, im.layout.Backs m r.pa →
          ∃ owner, hv.p2m.ownerOf m = some owner ∧
            (owner = holder ∨ hv.grant.authorizes owner holder m true = true) := by
  intro table reach
  obtain ⟨covers, injective, holds, realized⟩ := derived_of_ok derived
  have landed : ∀ sid holder, holderOfStream devices streamOf sid = some holder →
      ∃ im, imageOf images holder = some im ∧
        ∀ ipa, reach sid ipa = windowReach im.layout im.leaves im.supers ipa := by
    intro sid holder held
    obtain ⟨b, registered, bound, -⟩ := bound_of_holder holds realized held
    obtain ⟨im, found, handed⟩ := image_of_binding registered
    refine ⟨im, found, fun ipa => ?_⟩
    calc reach sid ipa = Arm64.walk b.s2ttb ipa (installed images memory) := by
          simp only [reach, deviceReach, table, bound]
      _ = Arm64.walk im.layout.l1Pa ipa (installed images memory) := by rw [s2ttb_of_binding handed]
      _ = windowReach im.layout im.leaves im.supers ipa :=
          walk_installed (ready im (mem_of_imageOf found)) found distinct ipa
  refine ⟨landed, ?_, ?_⟩
  · intro sid nobody ipa
    obtain ⟨unbound, -⟩ := denied_of_no_holder covers injective holds realized nobody
    simp only [reach, deviceReach, table, unbound]
  · intro c hv reachable emitted sid holder im held found ipa r reached writable m backs
    obtain ⟨im', found', window⟩ := landed sid holder held
    rw [found] at found'
    obtain rfl := Option.some.inj found'
    rw [window ipa] at reached
    exact write_authorized reachable emitted
      (ready im (mem_of_imageOf found)) found reached writable
      backs

/-- Tables for a second domain over the same windows. -/
def secondLayout : Layout :=
  { Arm64.everyRegionLayout with
    l1Pa := 0x40110000
    l2CodePa := 0x40111000
    l2DataPa := 0x40112000
    l3DataPa := 0x40113000
    l2SupPa := 0x40114000
    l2DevPa := 0x40115000 }

/-- The device of a grantee writes the granted frame of another domain. -/
theorem deviceReach_composed_granted :
    let hv := Op.run Hypervisor.apply [.guest 0 (.domainCreate 1 false), .guest 0 (.p2mAllocate 0),
      .guest 0 (.grantAccess 0 1 0 false), .guest 1 (.p2mAllocate 1), .guest 1 (.p2mPin 1 .l1),
      .guest 1 (.p2mLink 1 0 0 true true false), .guest 0 (.deviceAssign 0 1)]
      (Hypervisor.new ⟨2, 1, 1, 1, 1, 2, 2⟩)
    let images := [some ⟨Arm64.everyRegionLayout, 0, [none, none], [none, none], .blank⟩,
      some ⟨secondLayout, 1, [some .rw, none], [none, none], .blank⟩]
    let derived := deriveStreamTable hv.device [7, 3] (bindings images) 3 (List.replicate 64 9)
    let reach := deviceReach derived.2 3 7 0x80000010 (installed images fun _ _ => 0)
    hv.device = ⟨[some 1, none], 2⟩ ∧ derived.1 = .ok () ∧ reach = some ⟨0x40600010, .rw, true⟩ ∧
      ∃ owner, hv.p2m.ownerOf 0 = some owner ∧
        (owner = 1 ∨ hv.grant.authorizes owner 1 0 true = true) := by
  intro hv images derived reach
  have ready : ∀ im ∈ images.filterMap id, im.Ready := by
    have short : ∀ m, 8 ≤ m → (([none, none] : List (Option Perm))[m]?).join = none := by
      intro m past
      rw [List.getElem?_eq_none]
      · rfl
      · exact (by decide : ([none, none] : List (Option Perm)).length ≤ 8).trans past
    intro im member
    simp only [images, List.filterMap_cons, id_eq, List.filterMap_nil, List.mem_cons,
      List.not_mem_nil, or_false] at member
    rcases member with rfl | rfl
    · exact ⟨Arm64.everyRegionLayout_accepted, Arm64.everyRegionLayout_bounded, short, .blank⟩
    · exact ⟨by decide +kernel, ⟨by decide, by decide⟩, short, .blank⟩
  have devices : hv.device = ⟨[some 1, none], 2⟩ := by decide +kernel
  have ran : derived.1 = .ok () := by decide +kernel
  obtain ⟨landed, -, authorized⟩ := deviceReach_composed hv.device [7, 3] images 3
    (List.replicate 64 9) (fun _ _ => 0) ready (by decide) ran
  have held : holderOfStream hv.device [7, 3] 7 = some 1 := by decide +kernel
  have emitted : Emitted hv images := by
    intro holder im found
    have inside : holder.toNat < 2 :=
      (List.getElem?_eq_some_iff.mp (Option.join_eq_some_iff.mp found)).1
    have first : holder = 0 ∨ holder = 1 := by
      rw [← UInt16.toNat_inj, ← UInt16.toNat_inj]
      exact Nat.le_one_iff_eq_zero_or_eq_one.mp (Nat.le_of_lt_succ inside)
    refine ⟨⟨[none, none], [none, none]⟩, ?_⟩
    rcases first with rfl | rfl
    · obtain rfl := Option.some.inj found
      decide +kernel
    · obtain rfl := Option.some.inj found
      decide +kernel
  obtain ⟨im, found, window⟩ := landed 7 1 held
  obtain rfl := Option.some.inj found
  have reached : reach = some ⟨0x40600010, .rw, true⟩ :=
    (window 0x80000010).trans (by decide +kernel)
  refine ⟨devices, ran, reached, ?_⟩
  exact authorized ⟨2, 1, 1, 1, 1, 2, 2⟩ hv ⟨_, rfl⟩ emitted 7 1 _ held rfl _ _ reached rfl 0
    (.inl ⟨by decide, by decide⟩)

end Baleen.Smmu
