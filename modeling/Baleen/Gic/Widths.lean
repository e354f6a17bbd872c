import Baleen.Gic.Mediation
import Baleen.Lib.Bits

/-!
# The width of an access

The registers that a guest may access by the byte: the priorities and the routes.  An access
moves the whole word of priorities, or the whole route, whatever its size, so that it leaves
the neighbouring bytes alone only where they hold its value already.
-/

namespace Baleen.Gic

/-- A byte of a word, the lowest first. -/
def lane (value : UInt64) (k : Nat) : UInt8 := (value >>> UInt64.ofNat (8 * k)).toUInt8

theorem toNat_lane {k : Nat} (small : k < 8) (value : UInt64) :
    (lane value k).toNat = (value.toNat >>> (8 * k)) % 2 ^ 8 := by
  have shift : (UInt64.ofNat (8 * k)).toNat = 8 * k :=
    UInt64.toNat_ofNat_of_lt' (show 8 * k < 2 ^ 64 by omega)
  rw [lane, UInt64.toNat_toUInt8, UInt64.toNat_shiftRight, shift,
    Nat.mod_eq_of_lt (show 8 * k < 64 by omega)]

/-- A byte put back in its place. -/
theorem testBit_lane {k : Nat} (small : k < 8) (value : UInt64) (i : Nat) :
    ((lane value k).toUInt64 <<< UInt64.ofNat (8 * k)).toNat.testBit i =
      (decide (8 * k ≤ i) && decide (i < 8 * k + 8) && value.toNat.testBit i) := by
  have shift : (UInt64.ofNat (8 * k)).toNat = 8 * k :=
    UInt64.toNat_ofNat_of_lt' (show 8 * k < 2 ^ 64 by omega)
  rw [UInt64.toNat_shiftLeft, shift, Nat.mod_eq_of_lt (show 8 * k < 64 by omega),
    UInt8.toNat_toUInt64, toNat_lane small]
  simp only [Nat.testBit_mod_two_pow, Nat.testBit_shiftLeft, Nat.testBit_shiftRight]
  by_cases low : 8 * k ≤ i
  · have place : 8 * k + (i - 8 * k) = i := Nat.add_sub_cancel' low
    have bound : i - 8 * k < 8 ↔ i < 8 * k + 8 := by omega
    rw [place]
    by_cases high : i < 8 * k + 8
    · simp [low, high, bound, show i < 64 by omega]
    · simp [low, high, bound]
  · simp [low]

/-- Four bytes make up the low half of their word. -/
theorem toNat_lanes (value : UInt64) :
    (0 ||| (lane value 0).toUInt64 <<< UInt64.ofNat (8 * 0) |||
      (lane value 1).toUInt64 <<< UInt64.ofNat (8 * 1) |||
      (lane value 2).toUInt64 <<< UInt64.ofNat (8 * 2) |||
      (lane value 3).toUInt64 <<< UInt64.ofNat (8 * 3)).toNat = value.toNat % 2 ^ 32 := by
  apply Nat.eq_of_testBit_eq
  intro i
  simp only [UInt64.toNat_or, Nat.testBit_or, Nat.testBit_mod_two_pow, UInt64.toNat_zero,
    Nat.zero_testBit, Bool.false_or]
  rw [testBit_lane (by decide), testBit_lane (by decide), testBit_lane (by decide),
    testBit_lane (by decide)]
  cases value.toNat.testBit i with
  | false => simp only [Bool.and_false, Bool.or_false]
  | true =>
      simp only [Bool.and_true, ← Bool.decide_and, ← Bool.decide_or, decide_eq_decide]
      omega

/-- The low half of a word has its low bytes. -/
theorem lane_low {k : Nat} (small : k < 4) (value : UInt64) :
    lane value.toUInt32.toUInt64 k = lane value k := by
  apply UInt8.toNat_inj.mp
  rw [toNat_lane (by omega), toNat_lane (by omega), UInt32.toNat_toUInt64, UInt64.toNat_toUInt32]
  apply Nat.eq_of_testBit_eq
  intro i
  simp only [Nat.testBit_mod_two_pow, Nat.testBit_shiftRight]
  by_cases low : i < 8
  · simp [low, show 8 * k + i < 32 by omega]
  · simp [low]

section Banks

variable {n base i : Nat} {bank : Vector UInt8 n} {value : UInt64}

/-- The bytes written so far, and the old ones elsewhere. -/
theorem getElem?_putFirst {count : Nat} (fits : base + count ≤ n) :
    ((List.range count).foldl
      (fun bank k => bank.setIfInBounds (base + k) (lane value k)) bank)[i]? =
      if base ≤ i ∧ i < base + count then some (lane value (i - base)) else bank[i]? := by
  induction count with
  | zero =>
      have nowhere : ¬(base ≤ i ∧ i < base + 0) := by omega
      rw [if_neg nowhere]
      rfl
  | succ count ih =>
      rw [List.range_succ, List.foldl_append, List.foldl_cons, List.foldl_nil,
        Vector.getElem?_setIfInBounds, ih (by omega)]
      by_cases here : base + count = i
      · have written : base ≤ i ∧ i < base + (count + 1) := by omega
        have index : i - base = count := by omega
        rw [if_pos here, if_pos (show base + count < n by omega), if_pos written, index]
      · have same : (base ≤ i ∧ i < base + (count + 1)) ↔ base ≤ i ∧ i < base + count := by omega
        rw [if_neg here]
        simp only [same]

theorem getElem?_putBytes (fits : base + 4 ≤ n) :
    (putBytes bank base value)[i]? =
      if base ≤ i ∧ i < base + 4 then some (lane value (i - base)) else bank[i]? :=
  getElem?_putFirst fits

theorem getBytes_putBytes (fits : base + 4 ≤ n) :
    (getBytes (putBytes bank base value) base).toNat = value.toNat % 2 ^ 32 := by
  have byte (k : Nat) (small : k < 4) :
      ((putBytes bank base value)[base + k]?).getD 0 = lane value k := by
    rw [getElem?_putBytes fits, if_pos ⟨Nat.le_add_right _ _, Nat.add_lt_add_left small _⟩,
      Nat.add_sub_cancel_left, Option.getD_some]
  rw [← toNat_lanes]
  simp only [getBytes, List.range, List.range.loop, List.foldl_cons, List.foldl_nil]
  rw [byte 0 (by decide), byte 1 (by decide), byte 2 (by decide), byte 3 (by decide)]

end Banks

/-- Offsets of the priorities and of the routes.  The distributor's first priorities are the
reserved copies of those in the redistributors. -/
def ByteWise : GicFrame → Nat → Prop
  | .dist, off => (0x400 ≤ off ∧ off < 0x400 + NUM_INTIDS) ∨
      (0x6000 ≤ off ∧ off < 0x6000 + 8 * NUM_INTIDS)
  | .redist _, _ => False
  | .sgi _, off => 0x400 ≤ off ∧ off < 0x400 + FIRST_SPI

/-- An offset of a reserved copy. -/
def Reserved (frame : GicFrame) (off : Nat) : Prop := frame = .dist ∧ off < 0x400 + FIRST_SPI

/-- Where the register at an offset begins, and how many bytes it has. -/
def regStart (off : Nat) : Nat := if off < 0x6000 then off / 4 * 4 else off

def regBytes (off : Nat) : Nat := if off < 0x6000 then 4 else 8

/-- The registers of a redistributor that are not. -/
def RedistBank.words (bank : RedistBank) :
    Bool × UInt32 × UInt32 × Vector UInt32 (FIRST_SPI / 16) :=
  (bank.asleep, bank.enabled, bank.group, bank.icfgr)

namespace VirtGic

variable {vcpus : Nat} {g g' : VirtGic vcpus} {off value ipa size : UInt64} {frame : GicFrame}

/-- The byte at an offset. -/
def regByte (g : VirtGic vcpus) : GicFrame → Nat → Option UInt8
  | .dist, a =>
      if a < 0x6100 then if 0x400 ≤ a then g.priority[a - 0x400]? else none
      else g.irouter[(a - 0x6100) / 8]?.map fun route => lane route ((a - 0x6100) % 8)
  | .redist _, _ => none
  | .sgi n, a =>
      if 0x400 ≤ a then g.redist[n]?.bind fun bank => bank.priority[a - 0x400]? else none

/-- The registers that are not accessible by the byte. -/
structure SameOthers (g g' : VirtGic vcpus) : Prop where
  layout : g'.layout = g.layout
  ctlr : g'.ctlr = g.ctlr
  enabled : g'.enabled = g.enabled
  group : g'.group = g.group
  icfgr : g'.icfgr = g.icfgr
  redist : ∀ n : Nat, g'.redist[n]?.map RedistBank.words = g.redist[n]?.map RedistBank.words

theorem SameOthers.refl (g : VirtGic vcpus) : SameOthers g g :=
  ⟨rfl, rfl, rfl, rfl, rfl, fun _ => rfl⟩

/-- A write of the whole register at an offset. -/
structure Rewritten (g g' : VirtGic vcpus) (frame : GicFrame) (off : Nat) (value : UInt64) :
    Prop where
  inside : ∀ k < regBytes off, g'.regByte frame (regStart off + k) = some (lane value k)
  outside : ∀ frame' a, ¬(frame' = frame ∧ regStart off ≤ a ∧ a < regStart off + regBytes off) →
    g'.regByte frame' a = g.regByte frame' a
  others : SameOthers g g'

theorem distWordIndex_eq_none {base : UInt64} {count per : Nat} (aligned : base.toNat % 4 = 0)
    (fits : base.toNat + 4 * count < 2 ^ 64)
    (apart : off.toNat < base.toNat ∨ base.toNat + 4 * count ≤ off.toNat) :
    distWordIndex off base count per = none := by
  cases index : distWordIndex off base count per with
  | none => rfl
  | some w =>
      obtain ⟨-, small, place⟩ := (distWordIndex_eq_some aligned fits).mp index
      omega

/-- Past the banks of single bits and before the end of the routes. -/
structure Beyond (off : UInt64) : Prop where
  low : 0x400 ≤ off.toNat
  high : off.toNat < 0x6900
  apart : off.toNat < 0xc00 ∨ 0x6000 ≤ off.toNat

theorem Beyond.no_group (beyond : Beyond off) : distWordIndex off GICD_IGROUPR WORDS 32 = none :=
  distWordIndex_eq_none (by decide) (by decide) (.inr (le_trans (by decide) beyond.low))

theorem Beyond.no_enable (beyond : Beyond off) : distWordIndex off GICD_ISENABLER WORDS 32 = none :=
  distWordIndex_eq_none (by decide) (by decide) (.inr (le_trans (by decide) beyond.low))

theorem Beyond.no_disable (beyond : Beyond off) :
    distWordIndex off GICD_ICENABLER WORDS 32 = none :=
  distWordIndex_eq_none (by decide) (by decide) (.inr (le_trans (by decide) beyond.low))

theorem Beyond.no_pending (beyond : Beyond off) : distPendingOrActive off = false := by
  have none (base : UInt64) (aligned : base.toNat % 4 = 0) (fits : base.toNat + 4 * WORDS ≤ 0x400) :
      distWordIndex off base WORDS 32 = none :=
    distWordIndex_eq_none aligned (lt_of_le_of_lt fits (by decide)) (.inr (fits.trans beyond.low))
  unfold distPendingOrActive
  rw [none GICD_ISPENDR (by decide) (by decide), none GICD_ICPENDR (by decide) (by decide),
    none GICD_ISACTIVER (by decide) (by decide), none GICD_ICACTIVER (by decide) (by decide)]
  rfl

theorem Beyond.no_config (beyond : Beyond off) :
    distWordIndex off GICD_ICFGR (NUM_INTIDS / 16) 16 = none := by
  refine distWordIndex_eq_none (by decide) (by decide) ?_
  exact beyond.apart.imp id fun far => le_trans (by decide) far

theorem Beyond.not_named (beyond : Beyond off) : off ≠ GICD_CTLR ∧
    ¬(off = GICD_TYPER ∨ off = GICD_IIDR ∨ off = GICD_TYPER2 ∨ off = GICD_PIDR2) := by
  obtain ⟨low, high, -⟩ := beyond
  refine ⟨?_, ?_⟩
  · rintro rfl
    exact absurd low (by decide)
  · rintro (rfl | rfl | rfl | rfl)
    · exact absurd low (by decide)
    · exact absurd low (by decide)
    · exact absurd low (by decide)
    · exact absurd high (by decide)

theorem Beyond.distWrite_eq (beyond : Beyond off) (unrouted : irouterIndex off = none) :
    g.distWrite off value = g.distBankWrite off value := by
  rw [distWrite, unrouted]
  dsimp only
  rw [if_neg beyond.not_named.1, if_neg beyond.not_named.2]

theorem Beyond.distRead_eq (beyond : Beyond off) (unrouted : irouterIndex off = none) :
    g.distRead off = g.distBankRead off := by
  obtain ⟨control, identity⟩ := beyond.not_named
  rw [not_or, not_or, not_or] at identity
  rw [distRead, unrouted]
  dsimp only
  rw [if_neg control, if_neg identity.1, if_neg identity.2.1, if_neg identity.2.2.1,
    if_neg identity.2.2.2]

theorem Beyond.distBankWrite_eq (beyond : Beyond off) (shared : distBankedRes0 off = false) :
    g.distBankWrite off value =
      if GICD_IPRIORITYR + UInt64.ofNat FIRST_SPI ≤ off ∧
          off < GICD_IPRIORITYR + UInt64.ofNat NUM_INTIDS then
        (some 0, { g with
          priority := putBytes g.priority (wordStart (off - GICD_IPRIORITYR)) value })
      else (none, g) := by
  rw [distBankWrite, distConfigWrite, shared, beyond.no_group, beyond.no_enable, beyond.no_disable,
    beyond.no_pending, beyond.no_config]
  rfl

theorem Beyond.distBankRead_eq (beyond : Beyond off) (shared : distBankedRes0 off = false) :
    g.distBankRead off =
      if GICD_IPRIORITYR + UInt64.ofNat FIRST_SPI ≤ off ∧
          off < GICD_IPRIORITYR + UInt64.ofNat NUM_INTIDS then
        some (getBytes g.priority (wordStart (off - GICD_IPRIORITYR)))
      else none := by
  rw [distBankRead, shared, beyond.no_group, beyond.no_enable, beyond.no_disable,
    beyond.no_pending, beyond.no_config]
  rfl

theorem toNat_wordStart (off : UInt64) : wordStart off = off.toNat / 4 * 4 := by
  have mask : (~~~3 : UInt64).toNat = (2 ^ 62 - 1) * 2 ^ 2 := by decide
  rw [wordStart, Bits.toNat_and_mask mask]
  have small : off.toNat / 2 ^ 2 < 2 ^ 62 := by
    have := off.toNat_lt
    omega
  rw [Nat.mod_eq_of_lt small]
  rfl

theorem priorityStart (first : UInt64) (base : first.toNat = 0x400) (low : 0x400 ≤ off.toNat) :
    wordStart (off - first) = off.toNat / 4 * 4 - 0x400 := by
  rw [toNat_wordStart, UInt64.toNat_sub_of_le _ _ (UInt64.le_iff_toNat_le.mpr (base ▸ low)), base]
  omega

theorem isPriority_iff : (GICD_IPRIORITYR + UInt64.ofNat FIRST_SPI ≤ off ∧
    off < GICD_IPRIORITYR + UInt64.ofNat NUM_INTIDS) ↔ 0x420 ≤ off.toNat ∧ off.toNat < 0x520 := by
  rw [UInt64.le_iff_toNat_le, UInt64.lt_iff_toNat_lt]
  rfl

theorem irouterIndex_eq_some {i : Nat} :
    irouterIndex off = some i ↔ i < 256 ∧ off.toNat = 0x6100 + 8 * i := by
  have multiple : off % 8 ≠ 0 ↔ off.toNat % 8 ≠ 0 := by
    rw [ne_eq, ← UInt64.toNat_inj, UInt64.toNat_mod]
    rfl
  have first : (GICD_IROUTER + 8 * UInt64.ofNat FIRST_SPI).toNat = 0x6100 := rfl
  have last : (GICD_IROUTER + 8 * UInt64.ofNat NUM_INTIDS).toNat = 0x6900 := rfl
  unfold irouterIndex
  simp only [UInt64.lt_iff_toNat_lt, UInt64.le_iff_toNat_le, first, last, multiple]
  split_ifs with outside
  · simp only [false_iff]
    omega
  · rw [not_or, not_or, Classical.not_not] at outside
    have index : ((off - (GICD_IROUTER + 8 * UInt64.ofNat FIRST_SPI)) / 8).toNat =
        (off.toNat - 0x6100) / 8 := by
      rw [UInt64.toNat_div, UInt64.toNat_sub_of_le _ _ (UInt64.le_iff_toNat_le.mpr (by omega)),
        first]
      rfl
    rw [index, Option.some.injEq]
    omega

theorem distBankedRes0_eq_false (beyond : Beyond off) (past : 0x420 ≤ off.toNat) :
    distBankedRes0 off = false := by
  rw [← Bool.not_eq_true]
  intro banked
  rcases distBankedRes0_offset banked with listed | bytes
  · have small : ∀ o ∈ BANKED_OFFSETS, o < 0x400 ∨ 0xc00 ≤ o ∧ o < 0x6000 := by decide
    have := small _ listed
    obtain ⟨low, -, apart⟩ := beyond
    omega
  · omega

/-- A write to a register that is accessible by the byte, and the read that follows. -/
inductive ByteEffect (g : VirtGic vcpus) (frame : GicFrame) (off value : UInt64) :
    Option Nat × VirtGic vcpus → Prop
  | ignored (reserved : Reserved frame off.toNat)
      (reads : ∀ ipa size, g.layout.frameOf ipa vcpus = some (frame, off) →
        g.mmioRead ipa size = .ok 0) :
      ByteEffect g frame off value (some 0, g)
  | rewritten {g' : VirtGic vcpus} {v : UInt64} (own : ¬Reserved frame off.toNat)
      (rewrites : Rewritten g g' frame off.toNat value)
      (word : v.toNat = value.toNat % 2 ^ (8 * regBytes off.toNat))
      (reads : ∀ ipa size, g'.layout.frameOf ipa vcpus = some (frame, off) →
        g'.mmioRead ipa size = .ok v) :
      ByteEffect g frame off value (some 0, g')
  | refused {g' : VirtGic vcpus} : ByteEffect g frame off value (none, g')

theorem mmioRead_dist {v : UInt64} (answer : g.distRead off = some v) :
    ∀ ipa size, g.layout.frameOf ipa vcpus = some (.dist, off) → g.mmioRead ipa size = .ok v := by
  intro ipa size placed
  rw [mmioRead, placed]
  dsimp only
  rw [answer]

theorem rewritten_priority (low : 0x420 ≤ off.toNat) (high : off.toNat < 0x520) (value : UInt64) :
    Rewritten g { g with
      priority := putBytes g.priority (wordStart (off - GICD_IPRIORITYR)) value }
      .dist off.toNat value := by
  have start := priorityStart GICD_IPRIORITYR rfl (le_trans (by decide) low)
  have near : off.toNat < 0x6000 := by omega
  have fits : off.toNat / 4 * 4 - 0x400 + 4 ≤ NUM_INTIDS := by
    rw [NUM_INTIDS]
    omega
  rw [start]
  refine ⟨fun k small => ?_, fun frame' a apart => ?_, ⟨rfl, rfl, rfl, rfl, rfl, fun _ => rfl⟩⟩
  · rw [regStart, if_pos near]
    rw [regBytes, if_pos near] at small
    have before : off.toNat / 4 * 4 + k < 0x6100 := by omega
    have after : 0x400 ≤ off.toNat / 4 * 4 + k := by omega
    have place : off.toNat / 4 * 4 + k - 0x400 - (off.toNat / 4 * 4 - 0x400) = k := by omega
    simp only [regByte, if_pos before, if_pos after, getElem?_putBytes fits, place]
    exact if_pos (by omega)
  · rw [regStart, regBytes, if_pos near, if_pos near] at apart
    cases frame' with
    | redist n => rfl
    | sgi n => rfl
    | dist =>
        simp only [true_and, not_and, Nat.not_lt] at apart
        simp only [regByte]
        split_ifs with before after
        · rw [getElem?_putBytes fits, if_neg (by omega)]
        · rfl
        · rfl

theorem rewritten_route {i : Nat} (inside : i < 256) (place : off.toNat = 0x6100 + 8 * i)
    (value : UInt64) :
    Rewritten g { g with irouter := g.irouter.setIfInBounds i value } .dist off.toNat value := by
  have far : ¬off.toNat < 0x6000 := by omega
  have size : i < NUM_INTIDS - FIRST_SPI := inside
  refine ⟨fun k small => ?_, fun frame' a apart => ?_, ⟨rfl, rfl, rfl, rfl, rfl, fun _ => rfl⟩⟩
  · rw [regStart, if_neg far]
    rw [regBytes, if_neg far] at small
    have past : ¬off.toNat + k < 0x6100 := by omega
    have index : (off.toNat + k - 0x6100) / 8 = i := by omega
    have byte : (off.toNat + k - 0x6100) % 8 = k := by omega
    simp only [regByte, if_neg past, index, byte, Vector.getElem?_setIfInBounds, if_pos size,
      if_true, Option.map_some]
  · rw [regStart, regBytes, if_neg far, if_neg far] at apart
    cases frame' with
    | redist n => rfl
    | sgi n => rfl
    | dist =>
        simp only [true_and, not_and, Nat.not_lt] at apart
        simp only [regByte]
        split_ifs with before after
        · rfl
        · rfl
        · have other : ¬i = (a - 0x6100) / 8 := by omega
          rw [Vector.getElem?_setIfInBounds, if_neg other]

theorem rewritten_banked {n : Nat} {bank : RedistBank} (present : g.redist[n]? = some bank)
    (low : 0x400 ≤ off.toNat) (high : off.toNat < 0x420) (value : UInt64) :
    Rewritten g (g.setBank n { bank with
      priority := putBytes bank.priority (wordStart (off - GICR_IPRIORITYR)) value })
      (.sgi n) off.toNat value := by
  have start := priorityStart GICR_IPRIORITYR rfl low
  have near : off.toNat < 0x6000 := by omega
  have fits : off.toNat / 4 * 4 - 0x400 + 4 ≤ FIRST_SPI := by
    rw [FIRST_SPI]
    omega
  have known : n < vcpus := (Vector.getElem?_eq_some_iff.mp present).1
  rw [start]
  refine ⟨fun k small => ?_, fun frame' a apart => ?_, ⟨rfl, rfl, rfl, rfl, rfl, fun n' => ?_⟩⟩
  · rw [regStart, if_pos near]
    rw [regBytes, if_pos near] at small
    have after : 0x400 ≤ off.toNat / 4 * 4 + k := by omega
    have place : off.toNat / 4 * 4 + k - 0x400 - (off.toNat / 4 * 4 - 0x400) = k := by omega
    simp only [regByte, if_pos after, setBank, Vector.getElem?_setIfInBounds, if_true, if_pos known,
      Option.bind_some, getElem?_putBytes fits, place]
    exact if_pos (by omega)
  · rw [regStart, regBytes, if_pos near, if_pos near] at apart
    cases frame' with
    | redist n' => rfl
    | dist => rfl
    | sgi n' =>
        simp only [regByte, setBank, Vector.getElem?_setIfInBounds]
        by_cases same : n = n'
        · subst same
          simp only [true_and, not_and, Nat.not_lt] at apart
          simp only [if_true, if_pos known, present, Option.bind_some]
          split_ifs with after
          · rw [getElem?_putBytes fits, if_neg (by omega)]
          · rfl
        · rw [if_neg same]
  · simp only [setBank, Vector.getElem?_setIfInBounds]
    by_cases same : n = n'
    · subst same
      rw [if_pos rfl, if_pos known, present]
      rfl
    · rw [if_neg same]

theorem distWrite_byteEffect (byteWise : ByteWise .dist off.toNat) :
    ByteEffect g .dist off value (g.distWrite off value) := by
  have inside : (0x400 ≤ off.toNat ∧ off.toNat < 0x520) ∨
    (0x6000 ≤ off.toNat ∧ off.toNat < 0x6900) :=
    byteWise
  have beyond : Beyond off := ⟨by omega, by omega, by omega⟩
  cases routed : irouterIndex off with
  | some i =>
      obtain ⟨small, place⟩ := irouterIndex_eq_some.mp routed
      have whole : regBytes off.toNat = 8 := if_neg (by omega)
      have entry : i < NUM_INTIDS - FIRST_SPI := small
      have written : g.distWrite off value =
          (some 0, { g with irouter := g.irouter.setIfInBounds i value }) := by
        rw [distWrite, routed]
      rw [written]
      refine .rewritten (fun reserved => ?_) (rewritten_route small place value) ?_
        (mmioRead_dist ?_) (v := value)
      · have low : off.toNat < 0x420 := reserved.2
        omega
      · rw [whole]
        exact (Nat.mod_eq_of_lt value.toNat_lt).symm
      · rw [distRead, routed]
        simp only [Vector.getElem?_setIfInBounds, if_true, if_pos entry, Option.getD_some]
  | none =>
      rw [beyond.distWrite_eq routed]
      by_cases low : off.toNat < 0x420
      · have reserved : distBankedRes0 off = true := by
          rw [distBankedRes0, Bool.or_eq_true]
          refine .inr ?_
          rw [Bool.and_eq_true, decide_eq_true_iff, decide_eq_true_iff, UInt64.le_iff_toNat_le,
            UInt64.lt_iff_toNat_lt]
          exact ⟨beyond.low, low⟩
        rw [distBankWrite, reserved]
        refine .ignored ⟨rfl, low⟩ (mmioRead_dist ?_)
        rw [beyond.distRead_eq routed, distBankRead, reserved]
        rfl
      · have shared := distBankedRes0_eq_false beyond (Nat.le_of_not_lt low)
        rw [beyond.distBankWrite_eq shared]
        split_ifs with priority
        · obtain ⟨past, high⟩ := isPriority_iff.mp priority
          have word : regBytes off.toNat = 4 := if_pos (by omega)
          have start := priorityStart GICD_IPRIORITYR rfl beyond.low
          refine .rewritten (fun reserved => low reserved.2) (rewritten_priority past high value) ?_
            (mmioRead_dist ?_) (v := getBytes (putBytes g.priority
              (wordStart (off - GICD_IPRIORITYR)) value) (wordStart (off - GICD_IPRIORITYR)))
          · rw [word, getBytes_putBytes]
            rw [start, NUM_INTIDS]
            omega
          · rw [beyond.distRead_eq routed, beyond.distBankRead_eq shared, if_pos priority]
        · exact .refused

/-- In the frame of a redistributor the first registers have no priority among them. -/
theorem sgi_priority {n : Nat} {bank : RedistBank} (present : g.redist[n]? = some bank)
    (low : 0x400 ≤ off.toNat) (high : off.toNat < 0x420) (bits : UInt32) :
    g.sgiWrite n off bits = (some 0, g.setBank n { bank with
      priority := putBytes bank.priority (wordStart (off - GICR_IPRIORITYR)) bits.toUInt64 }) ∧
    g.sgiRead n off = some (getBytes bank.priority (wordStart (off - GICR_IPRIORITYR))) := by
  have other (name : UInt64) (apart : name.toNat < 0x400 ∨ 0x420 ≤ name.toNat) : off ≠ name := by
    rintro rfl
    omega
  have priority : GICR_IPRIORITYR ≤ off ∧ off < GICR_IPRIORITYR + UInt64.ofNat FIRST_SPI := by
    rw [UInt64.le_iff_toNat_le, UInt64.lt_iff_toNat_lt]
    exact ⟨low, high⟩
  have group := other GICR_IGROUPR0 (by decide)
  have set := other GICR_ISENABLER0 (by decide)
  have clear := other GICR_ICENABLER0 (by decide)
  have pending := other GICR_ISPENDR0 (by decide)
  have unpend := other GICR_ICPENDR0 (by decide)
  have active := other GICR_ISACTIVER0 (by decide)
  have deactivate := other GICR_ICACTIVER0 (by decide)
  have config := other GICR_ICFGR0 (by decide)
  have config' := other GICR_ICFGR1 (by decide)
  unfold sgiWrite sgiRead
  rw [present]
  simp only [group, set, clear, pending, unpend, active, deactivate, config, config', or_self,
    if_false, if_pos priority]
  exact ⟨trivial, trivial⟩

theorem sgiWrite_byteEffect {n : Nat} (byteWise : ByteWise (.sgi n) off.toNat) :
    ByteEffect g (.sgi n) off value (g.sgiWrite n off value.toUInt32) := by
  obtain ⟨low, high⟩ : 0x400 ≤ off.toNat ∧ off.toNat < 0x420 := byteWise
  cases present : g.redist[n]? with
  | none =>
      rw [sgiWrite, present]
      exact .refused
  | some bank =>
      have near : off.toNat < 0x6000 := by omega
      have word : regBytes off.toNat = 4 := if_pos near
      have start := priorityStart GICR_IPRIORITYR rfl low
      have fits : wordStart (off - GICR_IPRIORITYR) + 4 ≤ FIRST_SPI := by
        rw [start, FIRST_SPI]
        omega
      have known : n < vcpus := (Vector.getElem?_eq_some_iff.mp present).1
      rw [(sgi_priority present low high _).1]
      have rewrites := rewritten_banked present low high value.toUInt32.toUInt64
      refine .rewritten nofun ⟨fun k small => ?_, rewrites.outside, rewrites.others⟩ ?_ ?_
        (v := getBytes (putBytes bank.priority (wordStart (off - GICR_IPRIORITYR))
          value.toUInt32.toUInt64) (wordStart (off - GICR_IPRIORITYR)))
      · rw [rewrites.inside k small, lane_low (word ▸ small)]
      · rw [word, getBytes_putBytes fits, UInt32.toNat_toUInt64, UInt64.toNat_toUInt32, Nat.mod_mod]
      · intro ipa size placed
        rw [mmioRead, placed]
        dsimp only
        have present' : (g.setBank n { bank with
            priority := putBytes bank.priority (wordStart (off - GICR_IPRIORITYR))
              value.toUInt32.toUInt64 }).redist[n]? = some { bank with
            priority := putBytes bank.priority (wordStart (off - GICR_IPRIORITYR))
              value.toUInt32.toUInt64 } := by
          simp only [setBank, Vector.getElem?_setIfInBounds, if_true, if_pos known]
        rw [(sgi_priority present' low high 0).2]

theorem frameWrite_byteEffect (byteWise : ByteWise frame off.toNat) :
    ByteEffect g frame off value (g.frameWrite frame off value) := by
  cases frame with
  | dist => exact distWrite_byteEffect byteWise
  | redist n => exact byteWise.elim
  | sgi n => exact sgiWrite_byteEffect byteWise

/-- An accepted write of `size` bytes to a register that is accessible by the byte. -/
structure ByteAccess (g : VirtGic vcpus) (ipa size value : UInt64) (frame : GicFrame)
    (off : UInt64) : Prop where
  placed : g.layout.frameOf ipa vcpus = some (frame, off)
  byteWise : ByteWise frame off.toNat
  masked : value.toNat < 2 ^ (8 * size.toNat)
  accepted : ∃ newly, (g.mmioWrite ipa size value).1 = .ok newly

/-- Only the bytes of the access change, and a read of them gives the value. -/
structure WidthRespected (g : VirtGic vcpus) (ipa size value : UInt64) (frame : GicFrame)
    (off : UInt64) : Prop where
  bytes : ∀ frame' a, ¬(frame' = frame ∧ off.toNat ≤ a ∧ a < off.toNat + size.toNat) →
    (g.mmioWrite ipa size value).2.regByte frame' a = g.regByte frame' a
  others : SameOthers g (g.mmioWrite ipa size value).2
  reads : (g.mmioWrite ipa size value).2.mmioRead ipa size = .ok value

/-- The value fits the register, and each byte of the register that the access leaves out
holds already what the value has at its place.  A reserved copy takes zero only. -/
def NeighboursHold (g : VirtGic vcpus) (size value : UInt64) (frame : GicFrame) (off : UInt64) :
    Prop :=
  (Reserved frame off.toNat → value = 0) ∧
  (¬Reserved frame off.toNat → value.toNat < 2 ^ (8 * regBytes off.toNat) ∧
    ∀ k < regBytes off.toNat,
      ¬(off.toNat ≤ regStart off.toNat + k ∧ regStart off.toNat + k < off.toNat + size.toNat) →
        g.regByte frame (regStart off.toNat + k) = some (lane value k))

theorem mmioWrite_byteEffect (access : g.ByteAccess ipa size value frame off) :
    ∃ newly g', g.mmioWrite ipa size value = (.ok newly, g') ∧
      ByteEffect g frame off value (some newly, g') := by
  obtain ⟨placed, byteWise, -, newly, accepted⟩ := access
  have effect := @frameWrite_byteEffect vcpus g off value frame byteWise
  rw [mmioWrite, placed] at accepted ⊢
  dsimp only at accepted ⊢
  match g.frameWrite frame off value, effect, accepted with
  | (some newly', g'), effect, accepted => exact ⟨newly', g', rfl, effect⟩

/-- An access of a whole register leaves no byte of it out. -/
theorem neighboursHold_of_whole (own : ¬Reserved frame off.toNat)
    (masked : value.toNat < 2 ^ (8 * size.toNat)) (aligned : regStart off.toNat = off.toNat)
    (whole : size.toNat = regBytes off.toNat) : g.NeighboursHold size value frame off := by
  refine ⟨fun reserved => absurd reserved own, fun _ => ⟨whole ▸ masked, fun k small apart => ?_⟩⟩
  rw [aligned, whole] at apart
  exact absurd ⟨Nat.le_add_right _ _, Nat.add_lt_add_left small _⟩ apart

/-- The width of a write is respected exactly when the rest of the register holds its value
already. -/
theorem width_respected_iff (access : g.ByteAccess ipa size value frame off) :
    g.WidthRespected ipa size value frame off ↔ g.NeighboursHold size value frame off := by
  obtain ⟨newly, g', written, effect⟩ := mmioWrite_byteEffect access
  have placed := access.placed
  have respected : g.WidthRespected ipa size value frame off ↔
      (∀ frame' a, ¬(frame' = frame ∧ off.toNat ≤ a ∧ a < off.toNat + size.toNat) →
        g'.regByte frame' a = g.regByte frame' a) ∧ SameOthers g g' ∧
      g'.mmioRead ipa size = .ok value := by
    constructor
    · rintro ⟨bytes, others, reads⟩
      rw [written] at bytes others reads
      exact ⟨bytes, others, reads⟩
    · rintro ⟨bytes, others, reads⟩
      constructor <;> rw [written] <;> assumption
  rw [respected]
  cases effect with
  | ignored reserved reads =>
      rw [reads ipa size placed, Except.ok.injEq]
      constructor
      · rintro ⟨-, -, zero⟩
        exact ⟨fun _ => zero.symm, fun own => absurd reserved own⟩
      · intro holds
        exact ⟨fun _ _ _ => rfl, SameOthers.refl g, (holds.1 reserved).symm⟩
  | @rewritten _ v own rewrites word reads =>
      have read : g'.mmioRead ipa size = .ok v := by
        refine reads ipa size ?_
        rw [rewrites.others.layout]
        exact placed
      have value_iff : v = value ↔ value.toNat < 2 ^ (8 * regBytes off.toNat) := by
        rw [← UInt64.toNat_inj, word]
        exact ⟨fun same => same ▸ Nat.mod_lt _ (Nat.two_pow_pos _), Nat.mod_eq_of_lt⟩
      rw [read, Except.ok.injEq, value_iff]
      constructor
      · rintro ⟨bytes, -, fits⟩
        refine ⟨fun reserved => absurd reserved own, fun _ => ⟨fits, fun k small apart => ?_⟩⟩
        rw [← bytes frame _ fun here => apart here.2]
        exact rewrites.inside k small
      · rintro ⟨-, holds⟩
        obtain ⟨fits, holds⟩ := holds own
        refine ⟨fun frame' a apart => ?_, rewrites.others, fits⟩
        by_cases here : frame' = frame ∧ regStart off.toNat ≤ a ∧
            a < regStart off.toNat + regBytes off.toNat
        · obtain ⟨rfl, first, last⟩ := here
          obtain ⟨k, rfl⟩ := Nat.exists_eq_add_of_le first
          have small : k < regBytes off.toNat := Nat.lt_of_add_lt_add_left last
          rw [rewrites.inside k small, holds k small fun inside => apart ⟨rfl, inside⟩]
        · exact rewrites.outside frame' a here

/-- A board with two vCPUs whose first four shared priorities are 1, 2, 3 and 4. -/
def ranked : VirtGic 2 := ((new board).mmioWrite 0x08000420 4 0x04030201).2

/-- A word of priorities is replaced as a whole. -/
theorem width_respected_word :
    WidthRespected (ranked : VirtGic 2) 0x08000420 4 0x0a0b0c0d .dist 0x420 := by
  have access : ranked.ByteAccess 0x08000420 4 0x0a0b0c0d .dist 0x420 :=
    ⟨by decide +kernel, .inl (by decide), by decide, 0, by decide +kernel⟩
  refine (width_respected_iff access).mpr (neighboursHold_of_whole ?_ (by decide) rfl rfl)
  exact fun reserved => absurd reserved.2 (by decide)

/-- A byte written to the second priority overwrites the first. -/
theorem byte_write_spills :
    ranked.ByteAccess 0x08000421 1 0xff .dist 0x421 ∧
      ranked.regByte .dist 0x420 = some 1 ∧
      (ranked.mmioWrite 0x08000421 1 0xff).2.regByte .dist 0x420 = some 0xff ∧
      ¬ranked.WidthRespected 0x08000421 1 0xff .dist 0x421 := by
  have access : ranked.ByteAccess 0x08000421 1 0xff .dist 0x421 :=
    ⟨by decide +kernel, .inl (by decide), by decide, 0, by decide +kernel⟩
  have old : ranked.regByte .dist 0x420 = some 1 := by decide +kernel
  have new : (ranked.mmioWrite 0x08000421 1 0xff).2.regByte .dist 0x420 = some 0xff := by
    decide +kernel
  refine ⟨access, old, new, fun respected => ?_⟩
  have kept := respected.bytes .dist 0x420 fun inside => absurd inside.2.1 (by decide)
  rw [old, new] at kept
  exact absurd kept (by decide)

end VirtGic

end Baleen.Gic
