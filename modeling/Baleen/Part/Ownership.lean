import Baleen.Lib.Tiling
import Baleen.Lib.Choose
import Baleen.Part.Model

/-!
# Who owns what

A well-formed partition computes every address without wrapping around: the windows, the frames
and the tables of its slots are equal cells, so that none is shared and an address has one owner.
-/

namespace Baleen.Part

open Words

namespace Partition

variable {p : Partition} {s t : UInt64}

/-- What `isWellFormed` checks, as arithmetic without bounds. -/
structure WellFormed (p : Partition) : Prop where
  some_slot : 0 < p.numGuests.toNat
  named : p.numGuests.toNat < 2 ^ 16 - 1
  frame : 0 < p.framesPerGuest.toNat
  byte : 0 < p.windowLen.toNat
  vcpu : 0 < p.vcpusPerGuest.toNat
  halving : p.numGuests.toNat * p.framesPerGuest.toNat = p.numSupFrames.toNat
  fits : p.ramBase.toNat + p.numGuests.toNat * p.windowLen.toNat ≤ p.ramEnd.toNat
  tables : p.numSupFrames.toNat + p.numGuests.toNat * p.tablesPerGuest.toNat < 2 ^ 64

theorem exactHalving_iff :
    p.exactHalving = true ↔ p.numGuests.toNat * p.framesPerGuest.toNat = p.numSupFrames.toNat := by
  rw [← checkedMul_eq_some, exactHalving]
  cases checkedMul p.numGuests p.framesPerGuest with
  | none => exact ⟨nofun, nofun⟩
  | some f => rw [beq_iff_eq, Option.some_inj]

theorem windowFits_iff : p.windowFits = true ↔
    p.ramBase.toNat + p.numGuests.toNat * p.windowLen.toNat ≤ p.ramEnd.toNat := by
  have last := p.ramEnd.toNat_lt
  unfold windowFits
  cases product : checkedMul p.numGuests p.windowLen with
  | none =>
      have large := checkedMul_eq_none.mp product
      exact ⟨nofun, fun fits => by omega⟩
  | some span =>
      rw [checkedMul_eq_some.mp product]
      cases total : checkedAdd p.ramBase span with
      | none =>
          have large := checkedAdd_eq_none.mp total
          simp only [total]
          exact ⟨nofun, fun fits => by omega⟩
      | some finish =>
          simp only [total, decide_eq_true_eq, UInt64.le_iff_toNat_le]
          rw [checkedAdd_eq_some.mp total]

theorem tablesFit_iff : p.tablesFit = true ↔
    p.numSupFrames.toNat + p.numGuests.toNat * p.tablesPerGuest.toNat < 2 ^ 64 := by
  rw [tablesFit]
  cases product : checkedMul p.numGuests p.tablesPerGuest with
  | none =>
      have large := checkedMul_eq_none.mp product
      exact ⟨nofun, fun fits => by omega⟩
  | some t =>
      rw [checkedMul_eq_some.mp product, Option.isSome_iff_ne_none, ne_eq, checkedAdd_eq_none,
        Nat.not_le]

theorem isWellFormed_iff : p.isWellFormed = true ↔ WellFormed p := by
  have largest : DOM_ID_MAX.toUInt64.toNat = 2 ^ 16 - 1 := rfl
  simp only [isWellFormed, Bool.and_eq_true, decide_eq_true_eq, gt_iff_lt, UInt64.lt_iff_toNat_lt,
    UInt64.toNat_zero, largest, exactHalving_iff, windowFits_iff, tablesFit_iff, and_assoc]
  constructor
  · intro ⟨some_slot, named, frame, byte, vcpu, halving, fits, tables⟩
    exact ⟨some_slot, named, frame, byte, vcpu, halving, fits, tables⟩
  · intro wf
    exact ⟨wf.some_slot, wf.named, wf.frame, wf.byte, wf.vcpu, wf.halving, wf.fits, wf.tables⟩

theorem hasSlot_iff : p.hasSlot s = true ↔ s.toNat < p.numGuests.toNat := by
  rw [hasSlot, decide_eq_true_eq, UInt64.lt_iff_toNat_lt]

/-- The cells of a slot end before the machine word does. -/
theorem toNat_edge {base len n s : UInt64}
    (room : base.toNat + n.toNat * len.toNat < 2 ^ 64) (inside : s.toNat < n.toNat) :
    (base + s * len).toNat = Tiling.edge base.toNat len.toNat s.toNat ∧
      (base + s * len + len).toNat = Tiling.edge base.toNat len.toNat (s.toNat + 1) := by
  have below : (s.toNat + 1) * len.toNat ≤ n.toNat * len.toNat :=
    Nat.mul_le_mul_right _ inside
  rw [Nat.add_mul, Nat.one_mul] at below
  have product : (s * len).toNat = s.toNat * len.toNat := toNat_mul_of_lt (by omega)
  have start : (base + s * len).toNat = base.toNat + s.toNat * len.toNat := by
    rw [toNat_add_of_lt (by omega), product]
  refine ⟨start, ?_⟩
  rw [toNat_add_of_lt (by omega), start, Tiling.edge_succ, Tiling.edge, smul_eq_mul]

/-- The derivations of a slot, as arithmetic without bounds. -/
structure Exact (p : Partition) (s : UInt64) : Prop where
  firstFrame : (p.firstFrame s).toNat = s.toNat * p.framesPerGuest.toNat
  framesEnd : (p.framesEnd s).toNat = (p.firstFrame s).toNat + p.framesPerGuest.toNat
  firstTable : (p.firstTable s).toNat = p.numSupFrames.toNat + s.toNat * p.tablesPerGuest.toNat
  tablesEnd : (p.tablesEnd s).toNat = (p.firstTable s).toNat + p.tablesPerGuest.toNat
  windowBase : (p.windowBase s).toNat = p.ramBase.toNat + s.toNat * p.windowLen.toNat
  windowEnd : (p.windowEnd s).toNat = (p.windowBase s).toNat + p.windowLen.toNat

/-- A slot that the partition has. -/
abbrev Slot (p : Partition) := {s : UInt64 // p.hasSlot s = true}

theorem Slot.below (s : p.Slot) : s.val.toNat < p.numGuests.toNat :=
  hasSlot_iff.mp s.property

theorem Slot.toNat_inj {s t : p.Slot} : s.val.toNat = t.val.toNat ↔ s = t := by
  rw [UInt64.toNat_inj, Subtype.ext_iff]

/-- The loops visit the slots. -/
theorem mem_slots : s ∈ span64 0 p.numGuests ↔ p.hasSlot s = true := by
  rw [mem_span64, hasSlot, decide_eq_true_eq]
  exact and_iff_right (UInt64.le_iff_toNat_le.mpr (Nat.zero_le _))

/-- The loops over two slots meet them in order. -/
theorem slots_of_visited {a b : UInt64} (first : a ∈ span64 0 p.numGuests)
    (second : b ∈ span64 (a + 1) p.numGuests) :
    ∃ s t : p.Slot, s.val = a ∧ t.val = b ∧ s.val.toNat < t.val.toNat := by
  have slot := mem_slots.mp first
  have below := hasSlot_iff.mp slot
  have bounded := p.numGuests.toNat_lt
  have later := mem_span64.mp second
  have above := UInt64.le_iff_toNat_le.mp later.1
  rw [toNat_add_of_lt (by rw [UInt64.toNat_one]; omega), UInt64.toNat_one] at above
  exact ⟨⟨a, slot⟩, ⟨b, decide_eq_true later.2⟩, rfl, rfl, above⟩

/-- Runs of which the first ends before the second begins. -/
theorem not_overlapping {low high low' high' : UInt64} (ordered : high.toNat ≤ low'.toNat) :
    (!(decide (low < high') && decide (low' < high))) = true := by
  rw [Bool.not_eq_true', Bool.and_eq_false_iff]
  right
  rw [decide_eq_false_iff_not, UInt64.lt_iff_toNat_lt, Nat.not_lt]
  exact ordered

/-- The addresses of a slot's window. -/
def window (p : Partition) (s : UInt64) : Set ℕ :=
  Set.Ico (p.windowBase s).toNat (p.windowEnd s).toNat

/-- The indices of a slot's model frames. -/
def frames (p : Partition) (s : UInt64) : Set ℕ :=
  Set.Ico (p.firstFrame s).toNat (p.framesEnd s).toNat

/-- The indices of a slot's page tables. -/
def tables (p : Partition) (s : UInt64) : Set ℕ :=
  Set.Ico (p.firstTable s).toNat (p.tablesEnd s).toNat

theorem windowContains_iff {ipa : UInt64} :
    p.windowContains s ipa = true ↔ ipa.toNat ∈ p.window s := by
  simp only [windowContains, window, Bool.and_eq_true, decide_eq_true_eq,
    UInt64.le_iff_toNat_le, UInt64.lt_iff_toNat_lt, Set.mem_Ico]

namespace WellFormed

variable (wf : WellFormed p)

include wf

theorem window_room : p.ramBase.toNat + p.numGuests.toNat * p.windowLen.toNat < 2 ^ 64 :=
  Nat.lt_of_le_of_lt wf.fits p.ramEnd.toNat_lt

theorem frame_room : (0 : UInt64).toNat + p.numGuests.toNat * p.framesPerGuest.toNat < 2 ^ 64 := by
  rw [UInt64.toNat_zero, Nat.zero_add, wf.halving]
  exact p.numSupFrames.toNat_lt

theorem window_edges (s : p.Slot) :
    (p.windowBase s).toNat = Tiling.edge p.ramBase.toNat p.windowLen.toNat s.val.toNat ∧
      (p.windowEnd s).toNat = Tiling.edge p.ramBase.toNat p.windowLen.toNat (s.val.toNat + 1) :=
  toNat_edge wf.window_room s.below

theorem table_edges (s : p.Slot) :
    (p.firstTable s).toNat = Tiling.edge p.numSupFrames.toNat p.tablesPerGuest.toNat s.val.toNat ∧
      (p.tablesEnd s).toNat =
        Tiling.edge p.numSupFrames.toNat p.tablesPerGuest.toNat (s.val.toNat + 1) :=
  toNat_edge wf.tables s.below

theorem frame_edges (s : p.Slot) :
    (p.firstFrame s).toNat = Tiling.edge 0 p.framesPerGuest.toNat s.val.toNat ∧
      (p.framesEnd s).toNat = Tiling.edge 0 p.framesPerGuest.toNat (s.val.toNat + 1) := by
  have edges := toNat_edge wf.frame_room s.below
  rwa [UInt64.zero_add] at edges

theorem derivations (s : p.Slot) : Exact p s := by
  have windows := wf.window_edges s
  have tables := wf.table_edges s
  have frames := wf.frame_edges s
  rw [Tiling.edge_succ] at windows tables frames
  refine ⟨?_, ?_, tables.1, ?_, windows.1, ?_⟩
  · rw [frames.1, Tiling.edge, Nat.zero_add, smul_eq_mul]
  · rw [frames.1, frames.2]
  · rw [tables.1, tables.2]
  · rw [windows.1, windows.2]

theorem window_eq (s : p.Slot) :
    p.window s = Tiling.cell p.ramBase.toNat p.windowLen.toNat s.val.toNat := by
  rw [window, (wf.window_edges s).1, (wf.window_edges s).2, Tiling.cell]

theorem tables_eq (s : p.Slot) :
    p.tables s = Tiling.cell p.numSupFrames.toNat p.tablesPerGuest.toNat s.val.toNat := by
  rw [Partition.tables, (wf.table_edges s).1, (wf.table_edges s).2, Tiling.cell]

theorem frames_eq (s : p.Slot) :
    p.frames s = Tiling.cell 0 p.framesPerGuest.toNat s.val.toNat := by
  rw [frames, (wf.frame_edges s).1, (wf.frame_edges s).2, Tiling.cell]

theorem disjoint_windows {s t : p.Slot} (different : s ≠ t) :
    Disjoint (p.window s) (p.window t) := by
  rw [wf.window_eq, wf.window_eq]
  exact Tiling.disjoint_cells (Nat.zero_le _) (mt Slot.toNat_inj.mp different)

theorem disjoint_frames {s t : p.Slot} (different : s ≠ t) :
    Disjoint (p.frames s) (p.frames t) := by
  rw [wf.frames_eq, wf.frames_eq]
  exact Tiling.disjoint_cells (Nat.zero_le _) (mt Slot.toNat_inj.mp different)

theorem disjoint_tables {s t : p.Slot} (different : s ≠ t) :
    Disjoint (p.tables s) (p.tables t) := by
  rw [wf.tables_eq, wf.tables_eq]
  exact Tiling.disjoint_cells (Nat.zero_le _) (mt Slot.toNat_inj.mp different)

theorem window_subset (s : p.Slot) : p.window s ⊆ Set.Ico p.ramBase.toNat p.ramEnd.toNat := by
  rw [wf.window_eq]
  refine (Tiling.cell_subset (Nat.zero_le _) s.below).trans (Set.Ico_subset_Ico_right ?_)
  exact wf.fits

/-- The frames end where the tables begin. -/
theorem disjoint_frames_tables (s t : p.Slot) : Disjoint (p.frames s) (p.tables t) := by
  have low : p.frames s ⊆ Set.Ico 0 p.numSupFrames.toNat := by
    rw [wf.frames_eq, ← wf.halving]
    have below : Tiling.cell 0 p.framesPerGuest.toNat s.val.toNat ⊆
        Set.Ico 0 (Tiling.edge 0 p.framesPerGuest.toNat p.numGuests.toNat) :=
      Tiling.cell_subset (Nat.zero_le _) s.below
    rwa [Tiling.edge, Nat.zero_add, smul_eq_mul] at below
  have high : p.tables t ⊆ Set.Ici p.numSupFrames.toNat := by
    rw [wf.tables_eq]
    exact (Tiling.cell_subset (Nat.zero_le _) t.below).trans Set.Ico_subset_Ici_self
  refine Set.disjoint_left.mpr fun i frame table => ?_
  exact absurd (low frame).2 (Nat.not_lt.mpr (high table))

theorem ownerOf_eq_some {ipa : UInt64} :
    p.ownerOf ipa = some s ↔ p.hasSlot s = true ∧ p.windowContains s ipa = true := by
  rw [ownerOf, Choose.find?_iff, mem_slots]
  intro s slot t slot' first second
  rw [windowContains_iff, wf.window_eq ⟨s, mem_slots.mp slot⟩] at first
  rw [windowContains_iff, wf.window_eq ⟨t, mem_slots.mp slot'⟩] at second
  exact UInt64.toNat_inj.mp (Tiling.cell_unique (Nat.zero_le _) first second)

/-- An offset into a window stays there. -/
theorem inWindow_mem {offset a : UInt64} (found : p.inWindow s offset = some a) :
    a.toNat = (p.windowBase s).toNat + offset.toNat ∧ a.toNat ∈ p.window s := by
  rw [inWindow] at found
  split at found
  · cases found
  · next passed =>
    simp only [Bool.or_eq_true, Bool.not_eq_true', decide_eq_true_eq, not_or, Bool.not_eq_false,
      ge_iff_le, UInt64.le_iff_toNat_le, Nat.not_le] at passed
    obtain rfl := Option.some_inj.mp found
    have derived : Exact p s := wf.derivations ⟨s, passed.1⟩
    have finish := derived.windowEnd
    have last := (p.windowEnd s).toNat_lt
    have sum : (p.windowBase s + offset).toNat = (p.windowBase s).toNat + offset.toNat :=
      toNat_add_of_lt (by omega)
    refine ⟨sum, ?_⟩
    rw [window, Set.mem_Ico]
    omega

/-- The top of a window, a whole range of it. -/
theorem windowTop_subset {len a : UInt64} (found : p.windowTop s len = some a) :
    a.toNat + len.toNat = (p.windowEnd s).toNat ∧ a.toNat ∈ p.window s ∧
      Set.Ico a.toNat (a.toNat + len.toNat) ⊆ p.window s := by
  rw [windowTop] at found
  split at found
  · cases found
  · next passed =>
    simp only [Bool.or_eq_true, Bool.not_eq_true', decide_eq_true_eq, not_or, Bool.not_eq_false,
      gt_iff_lt, UInt64.lt_iff_toNat_lt, Nat.not_lt, beq_iff_eq, ← UInt64.toNat_inj,
      UInt64.toNat_zero] at passed
    obtain rfl := Option.some_inj.mp found
    have derived : Exact p s := wf.derivations ⟨s, passed.1.1⟩
    have finish := derived.windowEnd
    have rest : (p.windowEnd s - len).toNat = (p.windowEnd s).toNat - len.toNat :=
      UInt64.toNat_sub_of_le _ _ (UInt64.le_iff_toNat_le.mpr (by omega))
    have sum : (p.windowEnd s - len).toNat + len.toNat = (p.windowEnd s).toNat := by omega
    refine ⟨sum, ?_, ?_⟩
    · rw [window, Set.mem_Ico]
      omega
    · rw [sum, window]
      exact Set.Ico_subset_Ico_left (by omega)

theorem toNat_domOf (s : p.Slot) : (p.domOf s).toNat = s.val.toNat + 1 := by
  have few := s.below
  have named := wf.named
  rw [domOf, UInt16.toNat_add, UInt64.toNat_toUInt16, UInt16.toNat_one]
  omega

theorem windowEnd_le (s : p.Slot) : (p.windowEnd s).toNat ≤ p.ramEnd.toNat := by
  calc (p.windowEnd s).toNat = Tiling.edge p.ramBase.toNat p.windowLen.toNat (s.val.toNat + 1) :=
        (wf.window_edges s).2
    _ ≤ Tiling.edge p.ramBase.toNat p.windowLen.toNat p.numGuests.toNat :=
        Tiling.edge_mono (Nat.zero_le _) s.below
    _ ≤ p.ramEnd.toNat := wf.fits

theorem windowsInRange_eq_true : p.windowsInRange = true := by
  rw [windowsInRange, List.all_eq_true]
  intro s visited
  have below := wf.windowEnd_le ⟨s, mem_slots.mp visited⟩
  rw [Bool.not_eq_true', decide_eq_false_iff_not, gt_iff_lt, UInt64.lt_iff_toNat_lt, Nat.not_lt]
  exact below

theorem windowsDisjoint_eq_true : p.windowsDisjoint = true := by
  simp only [windowsDisjoint, List.all_eq_true]
  intro a first b second
  obtain ⟨s, t, rfl, rfl, order⟩ := slots_of_visited first second
  apply not_overlapping
  rw [(wf.window_edges s).2, (wf.window_edges t).1]
  exact Tiling.edge_mono (Nat.zero_le _) order

theorem framesDisjoint_eq_true : p.framesDisjoint = true := by
  simp only [framesDisjoint, List.all_eq_true, Bool.and_eq_true]
  intro a first
  constructor
  · have derived := wf.derivations ⟨a, mem_slots.mp first⟩
    rw [Bool.not_eq_true', decide_eq_false_iff_not, UInt64.lt_iff_toNat_lt, Nat.not_lt,
      derived.firstTable]
    exact Nat.le_add_right _ _
  · intro b second
    obtain ⟨s, t, rfl, rfl, order⟩ := slots_of_visited first second
    constructor
    · apply not_overlapping
      rw [(wf.frame_edges s).2, (wf.frame_edges t).1]
      exact Tiling.edge_mono (Nat.zero_le _) order
    · apply not_overlapping
      rw [(wf.table_edges s).2, (wf.table_edges t).1]
      exact Tiling.edge_mono (Nat.zero_le _) order

end WellFormed

/-- What dividing the machine among its slots has to provide. -/
structure Divided (p : Partition) : Prop where
  derivations : ∀ s : p.Slot, Exact p s
  windows : Pairwise fun s t : p.Slot => Disjoint (p.window s) (p.window t)
  backed : ∀ s : p.Slot, p.window s ⊆ Set.Ico p.ramBase.toNat p.ramEnd.toNat
  frames : Pairwise fun s t : p.Slot => Disjoint (p.frames s) (p.frames t)
  tables : Pairwise fun s t : p.Slot => Disjoint (p.tables s) (p.tables t)
  apart : ∀ s t : p.Slot, Disjoint (p.frames s) (p.tables t)
  owner : ∀ ipa s, p.ownerOf ipa = some s ↔ p.hasSlot s = true ∧ p.windowContains s ipa = true
  within : ∀ s offset a, p.inWindow s offset = some a →
    a.toNat = (p.windowBase s).toNat + offset.toNat ∧ a.toNat ∈ p.window s
  top : ∀ s len a, p.windowTop s len = some a →
    a.toNat + len.toNat = (p.windowEnd s).toNat ∧ a.toNat ∈ p.window s ∧
      Set.Ico a.toNat (a.toNat + len.toNat) ⊆ p.window s
  injective : Function.Injective fun s : p.Slot => p.domOf s
  unprivileged : ∀ s : p.Slot, p.domOf s ≠ DOM0
  checked : p.windowsInRange = true ∧ p.windowsDisjoint = true ∧ p.framesDisjoint = true

theorem divided_of_isWellFormed (p : Partition) (checked : p.isWellFormed = true) : Divided p := by
  have wf := isWellFormed_iff.mp checked
  constructor
  case derivations => exact wf.derivations
  case windows => exact fun s t different => wf.disjoint_windows different
  case backed => exact wf.window_subset
  case frames => exact fun s t different => wf.disjoint_frames different
  case tables => exact fun s t different => wf.disjoint_tables different
  case apart => exact wf.disjoint_frames_tables
  case owner => exact fun ipa s => wf.ownerOf_eq_some
  case within => exact fun s offset a found => wf.inWindow_mem found
  case top => exact fun s len a found => wf.windowTop_subset found
  case injective =>
    intro s t same
    have numbers := congrArg UInt16.toNat same
    rw [wf.toNat_domOf, wf.toNat_domOf, Nat.add_right_cancel_iff] at numbers
    exact Slot.toNat_inj.mp numbers
  case unprivileged =>
    intro s same
    have number := congrArg UInt16.toNat same
    rw [wf.toNat_domOf] at number
    exact absurd number (Nat.succ_ne_zero _)
  case checked =>
    exact ⟨wf.windowsInRange_eq_true, wf.windowsDisjoint_eq_true, wf.framesDisjoint_eq_true⟩

/-- Two guests sharing 896 MiB in blocks of 2 MiB, as the board deploys them. -/
def deployed : Partition where
  numGuests := 2
  framesPerGuest := 224
  windowLen := windowLenFrom 224 0x200000
  ramBase := 0x48000000
  ramEnd := 0x80000000
  numSupFrames := 448
  tablesPerGuest := 28
  vcpusPerGuest := 2

theorem divided_deployed : Divided deployed :=
  divided_of_isWellFormed deployed (by decide +kernel)

end Partition

end Baleen.Part
