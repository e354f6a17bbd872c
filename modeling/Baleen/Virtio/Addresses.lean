import Baleen.Lib.Panics
import Baleen.Virtio.Rounds

/-!
# Address arithmetic of the backends

The handlers as they run with overflow checks, where the sum of an address and an offset that
does not fit panics.  The addresses come from the guest and are formed before the gate looks
at them.
-/

namespace Baleen.Virtio

open Op (Fault Panics Checks Begins)

/-- A sum of 64-bit words, under overflow checks. -/
def plus (a b : UInt64) : Op Machine (Fault Refused) UInt64 :=
  if a.toNat + b.toNat < 2 ^ 64 then return a + b else Op.fail .panic

section Handlers

variable (hv : Hypervisor)

def retireChecked (num head : UInt16) (written : UInt32) : Op Machine (Fault Refused) Unit := do
  let dev := (← Op.read).dev
  let usedSlot := (dev.usedIdx % num).toUInt64
  let ring ← plus dev.queueDevice VIRTQ_USED_RING_OFF
  let elem ← plus ring (usedSlot * VIRTQ_USED_ELEM_SIZE)
  Op.unchecked (Op.ignore (backendWrite hv elem (toLeBytes 4 head.toNat)))
  let len ← plus elem 4
  Op.unchecked (Op.ignore (backendWrite hv len (toLeBytes 4 written.toNat)))
  Op.modify fun m => { m with dev := { m.dev with usedIdx := m.dev.usedIdx + 1 } }
  let idx ← plus dev.queueDevice VIRTQ_USED_IDX_OFF
  Op.unchecked (Op.ignore (backendWrite hv idx (toLeBytes 2 (dev.usedIdx + 1).toNat)))
  Op.modify fun m => { m with dev := { m.dev with lastAvailIdx := m.dev.lastAvailIdx + 1 } }

/-- Both sums are formed, whatever the first read returns. -/
def drainEntryChecked (_num head : UInt16) : Op Machine (Fault Refused) UInt32 := do
  let dev := (← Op.read).dev
  let desc ← plus dev.queueDesc (head.toUInt64 * VIRTQ_DESC_SIZE)
  let len ← plus desc 8
  Op.unchecked do
    let (addr, len) ← bothReads (backendReadU64 hv desc) (backendReadU32 hv len)
    backendDrainToConsole hv addr len

def backendReadDescChecked (descTable : UInt64) (index num : UInt16) :
    Op Machine (Fault Refused) BlkDesc :=
  if num ≤ index then Op.fail (.raised .refused)
  else do
    let d ← plus descTable (index.toUInt64 * VIRTQ_DESC_SIZE)
    let addr ← Op.unchecked (backendReadU64 hv d)
    let lenAt ← plus d 8
    let len ← Op.unchecked (backendReadU32 hv lenAt)
    let flagsAt ← plus d 12
    let flags ← Op.unchecked (backendReadU16 hv flagsAt)
    let nextAt ← plus d 14
    let next ← Op.unchecked (backendReadU16 hv nextAt)
    return ⟨addr, len, flags, next⟩

def processBlkRequestChecked (descTable : UInt64) (num head : UInt16) :
    Op Machine (Fault Refused) Unit := do
  let d0 ← backendReadDescChecked hv descTable head num
  if d0.flags &&& VIRTQ_DESC_F_NEXT = 0 ∨ d0.len.toUInt64 < BLK_HDR_SIZE then
    Op.fail (.raised .refused)
  else
    let sectorAt ← plus d0.addr BLK_HDR_SECTOR_OFF
    let (typ, sector) ← Op.unchecked
      (bothReads (backendReadU32 hv d0.addr) (backendReadU64 hv sectorAt))
    let d1 ← backendReadDescChecked hv descTable d0.next num
    if d1.flags &&& VIRTQ_DESC_F_NEXT = 0 then Op.fail (.raised .refused)
    else
      let d2 ← backendReadDescChecked hv descTable d1.next num
      let status ← Op.unchecked (serveData hv typ sector d1)
      Op.unchecked (Op.ignore (backendWrite hv d2.addr [status]))

def blkEntryChecked (num head : UInt16) : Op Machine (Fault Refused) UInt32 := do
  let m ← Op.read
  Op.settle (processBlkRequestChecked hv m.dev.queueDesc num head)
  return 0

def ActiveVirtio.serveChecked (active : ActiveVirtio) :
    UInt16 → UInt16 → Op Machine (Fault Refused) UInt32 :=
  match active with
  | console => drainEntryChecked hv
  | blk => blkEntryChecked hv

def serveNextChecked (active : ActiveVirtio) (num : UInt16) : Op Machine (Fault Refused) Unit := do
  let dev := (← Op.read).dev
  let slot := (dev.lastAvailIdx % num).toUInt64
  let ring ← plus dev.queueDriver VIRTQ_AVAIL_RING_OFF
  let entry ← plus ring (slot * 2)
  let head ← Op.unchecked (backendReadU16 hv entry)
  let written ← active.serveChecked hv num head
  retireChecked hv num head written

def serveAllChecked (active : ActiveVirtio) (num availIdx : UInt16) :
    Nat → Op Machine (Fault Refused) Unit
  | 0 => return ()
  | fuel + 1 => do
      let m ← Op.read
      if m.dev.lastAvailIdx = availIdx then return ()
      else
        serveNextChecked hv active num
        serveAllChecked active num availIdx fuel

def ActiveVirtio.notifyChecked (active : ActiveVirtio) : Op Machine (Fault Refused) Unit := do
  let dev := (← Op.read).dev
  let num := dev.queueNum.toUInt16
  if !dev.queueLive || num = 0 then return ()
  else
    let idx ← plus dev.queueDriver VIRTQ_AVAIL_IDX_OFF
    let availIdx ← Op.unchecked (backendReadU16 hv idx)
    serveAllChecked hv active num availIdx (2 ^ 16)
    Op.modify fun m =>
      active.served { m with dev := { m.dev with interruptStatus := m.dev.interruptStatus ||| 1 } }

end Handlers

variable {hv : Hypervisor} {num head : UInt16} {m : Machine}

theorem checks_plus {α : Type} {a b : UInt64} {f : UInt64 → Op Machine (Fault Refused) α}
    {y : Op Machine Refused α} (next : Checks (f (a + b)) y) : Checks (plus a b >>= f) y := by
  have sum : Checks (plus a b) (pure (a + b)) := by
    intro s calm
    unfold plus at calm ⊢
    split_ifs with fits
    · rfl
    · rw [if_neg fits] at calm
      exact absurd rfl calm
  intro s calm
  rw [sum.panics_bind, not_or] at calm
  rw [Op.bind_of_ok (sum s calm.1)]
  exact next s fun panics => calm.2 ⟨_, s, rfl, panics⟩

theorem checks_seq {α β : Type} {y : Op Machine Refused α} {f : α → Op Machine (Fault Refused) β}
    {g : α → Op Machine Refused β} (next : ∀ a, Checks (f a) (g a)) :
    Checks (Op.unchecked y >>= f) (y >>= g) := (Op.checks_unchecked y).bind next

theorem retireChecked_checks (num head : UInt16) (written : UInt32) :
    Checks (retireChecked hv num head written) (retire hv num head written) := by
  refine Op.checks_read.bind fun m => ?_
  refine checks_plus (checks_plus (checks_seq fun _ => checks_plus (checks_seq fun _ => ?_)))
  refine (Op.checks_modify _).bind fun _ => checks_plus (checks_seq fun _ => ?_)
  exact Op.checks_modify _

theorem drainEntryChecked_checks (num head : UInt16) :
    Checks (drainEntryChecked hv num head) (drainEntry hv num head) := by
  refine Op.checks_read.bind fun m => ?_
  exact checks_plus (checks_plus (Op.checks_unchecked _))

theorem backendReadDescChecked_checks (table : UInt64) (index num : UInt16) :
    Checks (backendReadDescChecked hv table index num) (backendReadDesc hv table index num) := by
  unfold backendReadDescChecked backendReadDesc
  split_ifs
  · exact Op.checks_raised _
  · refine checks_plus (checks_seq fun addr => checks_plus (checks_seq fun len => ?_))
    refine checks_plus (checks_seq fun flags => checks_plus (checks_seq fun next => ?_))
    exact Op.checks_pure _

theorem processBlkRequestChecked_checks (table : UInt64) (num head : UInt16) :
    Checks (processBlkRequestChecked hv table num head) (processBlkRequest hv table num head) := by
  refine (backendReadDescChecked_checks table head num).bind fun d0 => ?_
  simp only
  split_ifs
  · exact Op.checks_raised _
  · refine checks_plus (checks_seq fun found => ?_)
    refine (backendReadDescChecked_checks table d0.next num).bind fun d1 => ?_
    split_ifs
    · exact Op.checks_raised _
    · refine (backendReadDescChecked_checks table d1.next num).bind fun d2 => ?_
      exact checks_seq fun status => Op.checks_unchecked _

theorem serveChecked_checks (active : ActiveVirtio) (num head : UInt16) :
    Checks (active.serveChecked hv num head) (active.serve hv num head) := by
  cases active with
  | console => exact drainEntryChecked_checks num head
  | blk =>
      refine Op.checks_read.bind fun m => ?_
      exact (processBlkRequestChecked_checks _ num head).settle.bind fun _ => Op.checks_pure _

theorem serveNextChecked_checks (active : ActiveVirtio) (num : UInt16) :
    Checks (serveNextChecked hv active num) (serveNext hv (active.serve hv) num) := by
  refine Op.checks_read.bind fun m => checks_plus (checks_plus (checks_seq fun head => ?_))
  exact (serveChecked_checks active num head).bind fun _ => retireChecked_checks num head _

theorem serveAllChecked_checks (active : ActiveVirtio) (num availIdx : UInt16) (fuel : Nat) :
    Checks (serveAllChecked hv active num availIdx fuel)
      (serveAll hv (active.serve hv) num availIdx fuel) := by
  induction fuel with
  | zero => exact Op.checks_pure _
  | succ fuel ih =>
      refine Op.checks_read.bind fun m => ?_
      split_ifs
      · exact Op.checks_pure _
      · exact (serveNextChecked_checks active num).bind fun _ => ih

/-- The handlers with overflow checks do what they do without, unless they panic. -/
theorem notifyChecked_checks (active : ActiveVirtio) :
    Checks (active.notifyChecked hv) (active.notify hv) := by
  rw [ActiveVirtio.notify_eq]
  refine Op.checks_read.bind fun m => ?_
  simp only
  split_ifs
  · exact Op.checks_pure _
  · refine checks_plus (checks_seq fun availIdx => ?_)
    exact (serveAllChecked_checks active _ availIdx _).bind fun _ => Op.checks_modify _

theorem panics_plus {α : Type} {a b : UInt64} {f : UInt64 → Op Machine (Fault Refused) α} :
    Panics (plus a b >>= f) m ↔
      2 ^ 64 ≤ a.toNat + b.toNat ∨ a.toNat + b.toNat < 2 ^ 64 ∧ Panics (f (a + b)) m := by
  unfold plus
  by_cases fits : a.toNat + b.toNat < 2 ^ 64
  · rw [if_pos fits, and_iff_right fits, or_iff_right (Nat.not_le.mpr fits)]
    rfl
  · rw [if_neg fits]
    exact iff_of_true rfl (.inl (Nat.le_of_not_lt fits))

theorem panics_read {α : Type} {f : Machine → Op Machine (Fault Refused) α} :
    Panics (Op.read >>= f) m ↔ Panics (f m) m := Iff.rfl

theorem panics_modify {α : Type} {g : Machine → Machine}
    {f : Unit → Op Machine (Fault Refused) α} :
    Panics (Op.modify g >>= f) m ↔ Panics (f ()) (g m) := Iff.rfl

theorem not_panics_modify (g : Machine → Machine) :
    ¬Panics (Op.modify g : Op Machine (Fault Refused) Unit) m := nofun

theorem panics_seq {α β : Type} {y : Op Machine Refused α}
    {f : α → Op Machine (Fault Refused) β} :
    Panics (Op.unchecked y >>= f) m ↔ ∃ a m', y m = (.ok a, m') ∧ Panics (f a) m' := by
  rw [(Op.checks_unchecked y).panics_bind, or_iff_right (Op.not_panics_unchecked y m)]

theorem panics_passed {α : Type} {y : Op Machine Refused α}
    {f : Unit → Op Machine (Fault Refused) Unit} :
    Panics (Op.unchecked (Op.ignore y) >>= f) m ↔ Panics (f ()) (y m).2 := Iff.rfl

/-- The used element fits below the end of the address space. -/
def UsedFits (num : UInt16) (t : Transport) : Prop :=
  t.queueDevice.toNat + 8 * (t.usedIdx % num).toNat + 8 < 2 ^ 64

/-- The descriptor at `head` does, with `span` bytes more. -/
def DescFits (span : Nat) (head : UInt16) (t : Transport) : Prop :=
  t.queueDesc.toNat + 16 * head.toNat + span < 2 ^ 64

theorem toNat_scaled (i : UInt16) {k : UInt64} (small : k.toNat ≤ 2 ^ 8) :
    (i.toUInt64 * k).toNat = k.toNat * i.toNat := by
  have room := i.toNat_lt
  have less : i.toNat * k.toNat < 2 ^ 64 :=
    Nat.lt_of_le_of_lt (Nat.mul_le_mul (Nat.le_of_lt room) small) (by decide)
  rw [UInt64.toNat_mul, UInt16.toNat_toUInt64, Nat.mod_eq_of_lt less, Nat.mul_comm]

theorem toNat_plus {a b : UInt64} {x y : Nat} (first : a.toNat = x) (second : b.toNat = y)
    (fits : x + y < 2 ^ 64) : (a + b).toNat = x + y := by
  rw [UInt64.toNat_add, first, second, Nat.mod_eq_of_lt fits]

/-- Of the sums for a used element the last is the largest. -/
theorem panics_retireChecked (num head : UInt16) (written : UInt32) (m : Machine) :
    Panics (retireChecked hv num head written) m ↔ ¬UsedFits num m.dev := by
  have four : VIRTQ_USED_RING_OFF.toNat = 4 := rfl
  have two : VIRTQ_USED_IDX_OFF.toNat = 2 := rfl
  have word : (4 : UInt64).toNat = 4 := rfl
  have scaled := toNat_scaled (m.dev.usedIdx % num) (k := VIRTQ_USED_ELEM_SIZE) (by decide)
  have eight : VIRTQ_USED_ELEM_SIZE.toNat = 8 := rfl
  rw [eight] at scaled
  unfold retireChecked
  simp only [panics_read, panics_plus, panics_passed, panics_modify, not_panics_modify, and_false,
    or_false, four, two, word, scaled, UsedFits, Nat.not_lt]
  by_cases ringFits : m.dev.queueDevice.toNat + 4 < 2 ^ 64
  · have ring := toNat_plus rfl four ringFits
    rw [ring]
    by_cases elemFits : m.dev.queueDevice.toNat + 4 + 8 * (m.dev.usedIdx % num).toNat < 2 ^ 64
    · rw [toNat_plus ring scaled elemFits]
      omega
    · omega
  · omega

theorem panics_drainEntryChecked (num head : UInt16) (m : Machine) :
    Panics (drainEntryChecked hv num head) m ↔ ¬DescFits 8 head m.dev := by
  have eight : (8 : UInt64).toNat = 8 := rfl
  have scaled := toNat_scaled head (k := VIRTQ_DESC_SIZE) (by decide)
  have sixteen : VIRTQ_DESC_SIZE.toNat = 16 := rfl
  rw [sixteen] at scaled
  unfold drainEntryChecked
  simp only [panics_read, panics_plus, Op.not_panics_unchecked, and_false, or_false, eight, scaled,
    DescFits, Nat.not_lt]
  by_cases fits : m.dev.queueDesc.toNat + 16 * head.toNat < 2 ^ 64
  · rw [toNat_plus rfl scaled fits]
    omega
  · omega

/-- What can be read lies in the data window, far from the end of the address space. -/
theorem lt_of_backendRead {gpa : UInt64} {len : Nat} (short : len < 2 ^ 32) {bytes : List UInt8}
    {m' : Machine} (ran : backendRead hv gpa len m = (.ok bytes, m')) : gpa.toNat < 2 ^ 32 := by
  rcases @backendRead_cases hv gpa _ short m with
    ⟨offset, _, reachable, _, _⟩ | ⟨_, _, _, refused⟩
  · obtain ⟨above, rfl, room⟩ := ipaToPa_eq_some.mp reachable.2
    rw [UInt64.toNat_sub_of_le _ _ (UInt64.not_lt.mp above), toNat_dataIpaBase, DATA_WINDOW] at room
    omega
  · cases ran.symm.trans refused

theorem lt_of_backendReadU16 {gpa : UInt64} {value : UInt16} {m' : Machine}
    (ran : backendReadU16 hv gpa m = (.ok value, m')) : gpa.toNat < 2 ^ 32 := by
  obtain ⟨bytes, m₁, read, -⟩ := Op.bind_eq_ok.mp ran
  exact lt_of_backendRead (by decide) read

theorem lt_of_backendReadU64 {gpa : UInt64} {value : UInt64} {m' : Machine}
    (ran : backendReadU64 hv gpa m = (.ok value, m')) : gpa.toNat < 2 ^ 32 := by
  obtain ⟨bytes, m₁, read, -⟩ := Op.bind_eq_ok.mp ran
  exact lt_of_backendRead (by decide) read

/-- After its first field a descriptor is known to lie in the window. -/
theorem panics_backendReadDescChecked (table : UInt64) (index num : UInt16) (m : Machine) :
    Panics (backendReadDescChecked hv table index num) m ↔
      index < num ∧ 2 ^ 64 ≤ table.toNat + 16 * index.toNat := by
  have scaled := toNat_scaled index (k := VIRTQ_DESC_SIZE) (by decide)
  have sixteen : VIRTQ_DESC_SIZE.toNat = 16 := rfl
  rw [sixteen] at scaled
  have offsets : (8 : UInt64).toNat = 8 ∧ (12 : UInt64).toNat = 12 ∧ (14 : UInt64).toNat = 14 :=
    ⟨rfl, rfl, rfl⟩
  unfold backendReadDescChecked
  split_ifs with outside
  · refine iff_of_false (Op.not_panics_raised _ _) fun both => ?_
    exact UInt16.not_lt.mpr outside both.1
  · rw [and_iff_right (UInt16.not_le.mp outside)]
    simp only [panics_plus, panics_seq, Op.not_panics_pure, and_false, exists_false, or_false,
      scaled, offsets]
    refine or_iff_left ?_
    rintro ⟨-, addr, m₁, read, later⟩
    have low := lt_of_backendReadU64 read
    omega

/-- The header is chained to the data and long enough. -/
def BlkDesc.Chained (d : BlkDesc) : Prop :=
  ¬(d.flags &&& VIRTQ_DESC_F_NEXT = 0 ∨ d.len.toUInt64 < BLK_HDR_SIZE)

/-- The sums that serving the entry at `head` forms stay below the end of the address space. -/
def ServeFits (hv : Hypervisor) (num head : UInt16) (m : Machine) : ActiveVirtio → Prop
  | .console => DescFits 8 head m.dev
  | .blk => (head < num → DescFits 0 head m.dev) ∧
      ∀ d0 m', backendReadDesc hv m.dev.queueDesc head num m = (.ok d0, m') → d0.Chained →
        d0.addr.toNat + 8 < 2 ^ 64

/-- Once the header's descriptor is read, the table is known to be in the window, and only the
address of the header is left to the guest. -/
theorem panics_processBlkRequestChecked (table : UInt64) (num head : UInt16) (m : Machine) :
    Panics (processBlkRequestChecked hv table num head) m ↔
      (head < num ∧ 2 ^ 64 ≤ table.toNat + 16 * head.toNat) ∨
        ∃ d0 m', backendReadDesc hv table head num m = (.ok d0, m') ∧ d0.Chained ∧
          2 ^ 64 ≤ d0.addr.toNat + 8 := by
  have eight : BLK_HDR_SECTOR_OFF.toNat = 8 := rfl
  have scaled := toNat_scaled head (k := VIRTQ_DESC_SIZE) (by decide)
  have sixteen : VIRTQ_DESC_SIZE.toNat = 16 := rfl
  rw [sixteen] at scaled
  unfold processBlkRequestChecked
  rw [(backendReadDescChecked_checks table head num).panics_bind, panics_backendReadDescChecked]
  by_cases wraps : head < num ∧ 2 ^ 64 ≤ table.toNat + 16 * head.toNat
  · exact iff_of_true (.inl wraps) (.inl wraps)
  rw [or_iff_right wraps, or_iff_right wraps]
  refine exists_congr fun d0 => exists_congr fun m₁ => and_congr_right fun read => ?_
  have low : table.toNat < 2 ^ 32 := by
    unfold backendReadDesc at read
    split_ifs at read with outside
    · cases read
    · obtain ⟨addr, m₂, first, -⟩ := Op.bind_eq_ok.mp read
      have small := lt_of_backendReadU64 first
      have fits : table.toNat + 16 * head.toNat < 2 ^ 64 := by
        by_contra large
        exact wraps ⟨UInt16.not_le.mp outside, Nat.le_of_not_lt large⟩
      rw [toNat_plus rfl scaled fits] at small
      omega
  have later (index : UInt16) (m : Machine) :
      ¬Panics (backendReadDescChecked hv table index num) m := by
    rw [panics_backendReadDescChecked]
    have room := index.toNat_lt
    omega
  unfold BlkDesc.Chained
  simp only
  split_ifs with malformed
  · exact iff_of_false (Op.not_panics_raised _ _) fun both => both.1 malformed
  · rw [and_iff_right malformed, panics_plus, eight, or_iff_left]
    rintro ⟨-, panics⟩
    obtain ⟨found, m₂, -, panics⟩ := panics_seq.mp panics
    rw [(backendReadDescChecked_checks table d0.next num).panics_bind,
      or_iff_right (later _ _)] at panics
    obtain ⟨d1, m₃, -, panics⟩ := panics
    split_ifs at panics
    · exact Op.not_panics_raised _ _ panics
    · rw [(backendReadDescChecked_checks table d1.next num).panics_bind,
        or_iff_right (later _ _)] at panics
      obtain ⟨d2, m₄, -, panics⟩ := panics
      obtain ⟨status, m₅, -, panics⟩ := panics_seq.mp panics
      exact Op.not_panics_unchecked _ _ panics

theorem panics_serveChecked (active : ActiveVirtio) (num head : UInt16) (m : Machine) :
    Panics (active.serveChecked hv num head) m ↔ ¬ServeFits hv num head m active := by
  cases active with
  | console => exact panics_drainEntryChecked num head m
  | blk =>
      have entry : Panics (ActiveVirtio.blk.serveChecked hv num head) m ↔
          Panics (processBlkRequestChecked hv m.dev.queueDesc num head) m := by
        have settled := (@processBlkRequestChecked_checks hv m.dev.queueDesc num head).settle
        refine (settled.panics_bind (fun _ => pure 0) m).trans ?_
        rw [Op.panics_settle, or_iff_left]
        rintro ⟨_, m', -, panics⟩
        exact Op.not_panics_pure _ _ panics
      rw [entry, panics_processBlkRequestChecked]
      simp only [ServeFits, DescFits, Nat.add_zero, not_and_or, Classical.not_forall,
        Nat.not_lt]
      refine or_congr
        ⟨fun ⟨inside, wraps⟩ => ⟨inside, wraps⟩, fun ⟨inside, wraps⟩ => ⟨inside, wraps⟩⟩ ?_
      refine exists_congr fun d0 => exists_congr fun m' => ?_
      exact ⟨fun ⟨read, chained, wraps⟩ => ⟨read, chained, wraps⟩,
        fun ⟨read, chained, wraps⟩ => ⟨read, chained, wraps⟩⟩

/-- The sums of a round: those of serving the entry, and of retiring it if it is not given up. -/
def RoundFits (hv : Hypervisor) (active : ActiveVirtio) (num : UInt16) (m : Machine) : Prop :=
  ∀ head m₁, backendReadU16 hv (ringAddress num m.dev) m = (.ok head, m₁) →
    ServeFits hv num head m₁ active ∧
      ∀ written m₂, active.serve hv num head m₁ = (.ok written, m₂) → UsedFits num m.dev

theorem panics_serveNextChecked (active : ActiveVirtio) (num : UInt16)
    (low : m.dev.queueDriver.toNat < 2 ^ 32) :
    Panics (serveNextChecked hv active num) m ↔ ¬RoundFits hv active num m := by
  have four : VIRTQ_AVAIL_RING_OFF.toNat = 4 := rfl
  have two : (2 : UInt64).toNat = 2 := rfl
  have scaled := toNat_scaled (m.dev.lastAvailIdx % num) (k := 2) (by decide)
  rw [two] at scaled
  have room := (m.dev.lastAvailIdx % num).toNat_lt
  have ring := toNat_plus (a := m.dev.queueDriver) rfl four (by omega)
  unfold serveNextChecked
  rw [panics_read, panics_plus, four, or_iff_right (by omega), and_iff_right (by omega),
    panics_plus, scaled, ring, or_iff_right (by omega), and_iff_right (by omega), panics_seq]
  unfold RoundFits
  simp only [Classical.not_forall]
  refine exists_congr fun head => exists_congr fun m₁ => ?_
  rw [exists_prop]
  refine and_congr_right fun read => ?_
  rw [(serveChecked_checks active num head).panics_bind, panics_serveChecked, not_and_or]
  refine or_congr Iff.rfl ?_
  simp only [Classical.not_forall, exists_prop]
  refine exists_congr fun written => exists_congr fun m₂ => and_congr_right fun served => ?_
  have kept := @backendReadU16_dev hv _ (ringAddress num m.dev) m rfl
  unfold ringAddress at kept
  rw [read] at kept
  have still := @serve_dev hv _ active num head m₁ kept
  rw [served] at still
  rw [panics_retireChecked, still]

/-- The sums of a kick: that for the index of the driver, and those of every round that the
walk begins. -/
def KickFits (hv : Hypervisor) (active : ActiveVirtio) (m : Machine) : Prop :=
  (!m.dev.queueLive || m.dev.queueNum.toUInt16 = 0) = false →
    m.dev.queueDriver.toNat + 2 < 2 ^ 64 ∧
    ∀ availIdx m₁, backendReadU16 hv (m.dev.queueDriver + VIRTQ_AVAIL_IDX_OFF) m =
        (.ok availIdx, m₁) →
      ∀ b, Begins (Pending availIdx) (serveNext hv (active.serve hv) m.dev.queueNum.toUInt16) m₁ b →
        RoundFits hv active m.dev.queueNum.toUInt16 b

theorem Begins.queueDriver {active : ActiveVirtio} {availIdx : UInt16} {b : Machine}
    (begins : Begins (Pending availIdx) (serveNext hv (active.serve hv) num) m b) :
    b.dev.queueDriver = m.dev.queueDriver := by
  induction begins with
  | first _ => rfl
  | later _ ran _ ih => rw [ih, (serveNext_ok ran).2]

theorem panics_serveAllChecked (active : ActiveVirtio) (num availIdx : UInt16)
    (low : m.dev.queueDriver.toNat < 2 ^ 32) :
    Panics (serveAllChecked hv active num availIdx (2 ^ 16)) m ↔
      ∃ b, Begins (Pending availIdx) (serveNext hv (active.serve hv) num) m b ∧
        ¬RoundFits hv active num b := by
  have unfolds (fuel : Nat) (m : Machine) :
      serveAllChecked hv active num availIdx (fuel + 1) m =
        if Pending availIdx m then
          (serveNextChecked hv active num >>= fun _ =>
            serveAllChecked hv active num availIdx fuel) m
        else (.ok (), m) := by
    rw [serveAllChecked, Op.read_bind_apply]
    by_cases met : m.dev.lastAvailIdx = availIdx
    · have stops : ¬Pending availIdx m := fun pending => pending met
      rw [if_pos met, if_neg stops]
      rfl
    · have goes : Pending availIdx m := met
      rw [if_neg met, if_pos goes]
  rw [Op.panics_loop (serveNextChecked_checks active num) unfolds
    (fun m m' pending ran => remaining_falls pending ran) _ _ (UInt16.toNat_lt _)]
  refine exists_congr fun b => and_congr_right fun begins => panics_serveNextChecked active num ?_
  rw [Begins.queueDriver begins]
  exact low

/-- With overflow checks a kick panics exactly if one of the sums does not fit. -/
theorem kick_no_overflow_iff (hv : Hypervisor) (active : ActiveVirtio) (m : Machine) :
    ¬Panics (active.notifyChecked hv) m ↔ KickFits hv active m := by
  have two : VIRTQ_AVAIL_IDX_OFF.toNat = 2 := rfl
  unfold ActiveVirtio.notifyChecked KickFits
  rw [panics_read]
  simp only
  by_cases idle : (!m.dev.queueLive || m.dev.queueNum.toUInt16 = 0) = true
  · rw [if_pos idle]
    refine iff_of_true (Op.not_panics_pure _ _) fun busy => ?_
    rw [idle] at busy
    cases busy
  rw [if_neg idle, forall_prop_of_true (by simpa using idle), panics_plus, two, not_or, Nat.not_le]
  refine and_congr_right fun fits => ?_
  rw [not_and, forall_prop_of_true fits, panics_seq]
  simp only [not_exists, not_and]
  refine forall_congr' fun availIdx => forall_congr' fun m₁ => forall_congr' fun read => ?_
  have low : m₁.dev.queueDriver.toNat < 2 ^ 32 := by
    have small := lt_of_backendReadU16 read
    rw [toNat_plus rfl two fits] at small
    have kept := @backendReadU16_dev hv _ (m.dev.queueDriver + VIRTQ_AVAIL_IDX_OFF) m rfl
    rw [read] at kept
    rw [kept]
    omega
  rw [(serveAllChecked_checks active _ availIdx _).panics_bind,
    panics_serveAllChecked active _ _ low,
    or_iff_left fun ⟨_, _, _, panics⟩ => not_panics_modify _ panics]
  simp only [not_exists, not_and, Classical.not_not]

/-- A driver that puts its available ring at the end of the address space. -/
theorem kick_overflows_at_top :
    let writes : List (UInt64 × UInt32) := [(Reg.QUEUE_NUM, 1), (Reg.QUEUE_READY, 1),
      (Reg.QUEUE_DRIVER_LOW, 0xffffffff), (Reg.QUEUE_DRIVER_HIGH, 0xffffffff), (Reg.STATUS, 4)]
    let m : Machine := { probe 0 with
      dev := writes.foldl (fun dev w => (ActiveVirtio.console.write dev w.1 w.2).1) {} }
    m.dev.queueDriver = 0xffffffffffffffff ∧
      ∀ hv, Panics (ActiveVirtio.console.notifyChecked hv) m := by
  intro writes m
  refine ⟨by decide, fun hv => ?_⟩
  have live : ¬(!m.dev.queueLive || m.dev.queueNum.toUInt16 = 0) = true := by decide
  unfold ActiveVirtio.notifyChecked
  rw [panics_read]
  simp only
  rw [if_neg live]
  exact panics_plus.mpr (.inl (by decide))

end Baleen.Virtio
