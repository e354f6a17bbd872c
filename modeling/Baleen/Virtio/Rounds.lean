import Baleen.Lib.Loop
import Baleen.Virtio.Confinement

/-!
# Rounds of the queue

A kick walks the available ring, one request a round.  A round that goes through takes the
next entry, hands it to the device once and retires it once, so the two cursors of the device
never part.
-/

namespace Baleen.Virtio

open Op (Keeps While)

/-- The device that the current phase put at the window. -/
inductive ActiveVirtio where
  | console
  | blk
  deriving DecidableEq, Repr

namespace ActiveVirtio

/-- A write to a register of the window, and whether it was a kick. -/
def write (active : ActiveVirtio) (dev : Transport) (offset : UInt64) (value : UInt32) :
    Transport × Bool :=
  match active with
  | console =>
      let (d, kick) := (⟨dev⟩ : VirtioConsole).mmioWrite offset value
      (d.transport, kick)
  | blk =>
      let (d, kick) := ({ transport := dev } : VirtioBlk).mmioWrite offset value
      (d.transport, kick)

def serve (hv : Hypervisor) : ActiveVirtio → UInt16 → UInt16 → Op Machine Refused UInt32
  | console => drainEntry hv
  | blk => blkEntry hv

/-- What follows a walk that was not cut short. -/
def served : ActiveVirtio → Machine → Machine
  | console => fun m => { m with drainedOk := true }
  | blk => id

def notify (hv : Hypervisor) : ActiveVirtio → Op Machine Refused Unit
  | console => handleVirtioNotify hv
  | blk => handleVirtioBlkNotify hv

theorem notify_eq (hv : Hypervisor) (active : ActiveVirtio) :
    active.notify hv = handleNotify hv (active.serve hv) active.served := by
  cases active <;> rfl

end ActiveVirtio

/-- A store of the guest to the window, with the walk that a kick starts. -/
def handleMmioWrite (hv : Hypervisor) (active : ActiveVirtio) (offset : UInt64) (value : UInt32)
    (m : Machine) : Machine :=
  let (dev, kick) := active.write m.dev offset value
  if kick then (active.notify hv { m with dev }).2 else { m with dev }

variable {hv : Hypervisor} {num : UInt16} {m m' : Machine} {dev : Transport}

theorem quiet_dev : Quiet fun m => m.dev = dev := ⟨fun _ same => same, fun _ _ same => same⟩

theorem backendReadU16_dev (gpa : UInt64) :
    Keeps (fun m => m.dev = dev) (backendReadU16 hv gpa) := quiet_dev.backendReadU16 gpa

theorem backendWrite_dev (gpa : UInt64) (bytes : List UInt8) :
    Keeps (fun m => m.dev = dev) (backendWrite hv gpa bytes) :=
  quiet_dev.backendWrite (fun _ _ same => same) gpa bytes

theorem guestWrite_dev (gpa : UInt64) (bytes : List UInt8) :
    Keeps (fun m => m.dev = dev) (guestWrite gpa bytes) :=
  quiet_dev.guestWrite (fun _ _ same => same) gpa bytes

theorem drainEntry_dev (num head : UInt16) :
    Keeps (fun m => m.dev = dev) (drainEntry hv num head) := by
  refine Keeps.read.bind fun m => ?_
  refine (bothReads_keeps (quiet_dev.backendReadU64 _) (quiet_dev.backendReadU32 _)).bind
    fun found => ?_
  refine (quiet_dev.backendRead _ _).attempt.bind fun result => ?_
  cases result with
  | error _ => exact .pure _
  | ok bytes => exact fun _ same => same

theorem serveIn_dev (sector : Fin DISK_SECTORS) (addr : UInt64) (n : Nat) :
    Keeps (fun m => m.dev = dev) (serveIn hv sector addr n) := by
  refine (quiet_dev.backendAuthorize _ _ _).attempt.bind fun passed => ?_
  cases passed with
  | error _ => exact fun _ same => same
  | ok _ =>
      refine Keeps.read.bind fun m => (guestWrite_dev _ _).attempt.bind fun result => ?_
      cases result with
      | error _ => exact .pure _
      | ok _ => exact fun _ same => same

theorem serveOut_dev (sector : Fin DISK_SECTORS) (addr : UInt64) (n : Nat) :
    Keeps (fun m => m.dev = dev) (serveOut hv sector addr n) := by
  refine (quiet_dev.backendAuthorize _ _ _).attempt.bind fun passed => ?_
  cases passed with
  | error _ => exact fun _ same => same
  | ok _ =>
      refine (quiet_dev.guestRead _ _).attempt.bind fun result => ?_
      cases result with
      | error _ => exact .pure _
      | ok _ => exact fun _ same => same

theorem serveData_dev (typ : UInt32) (sector : UInt64) (d1 : BlkDesc) :
    Keeps (fun m => m.dev = dev) (serveData hv typ sector d1) := by
  rw [serveData]
  split_ifs
  · exact serveIn_dev _ _ _
  · exact serveOut_dev _ _ _
  · exact .pure _
  · exact .pure _

theorem processBlkRequest_dev (table : UInt64) (num head : UInt16) :
    Keeps (fun m => m.dev = dev) (processBlkRequest hv table num head) := by
  refine (quiet_dev.backendReadDesc _ _ _).bind fun d0 => ?_
  split
  · exact .fail _
  · refine (bothReads_keeps (quiet_dev.backendReadU32 _) (quiet_dev.backendReadU64 _)).bind
      fun found => ?_
    refine (quiet_dev.backendReadDesc _ _ _).bind fun d1 => ?_
    split
    · exact .fail _
    · refine (quiet_dev.backendReadDesc _ _ _).bind fun d2 =>
        (serveData_dev _ _ _).bind fun status => ?_
      exact (backendWrite_dev _ _).ignore

theorem serve_dev (active : ActiveVirtio) (num head : UInt16) :
    Keeps (fun m => m.dev = dev) (active.serve hv num head) := by
  cases active with
  | console => exact drainEntry_dev num head
  | blk =>
      exact Keeps.read.bind fun _ => (processBlkRequest_dev _ _ _).ignore.bind fun _ => .pure _

/-- Retiring a request moves both cursors on. -/
theorem retire_moves (num head : UInt16) (written : UInt32) (m : Machine) :
    ∃ m', retire hv num head written m = (.ok (), m') ∧
      m'.dev = { m.dev with
        usedIdx := m.dev.usedIdx + 1, lastAvailIdx := m.dev.lastAvailIdx + 1 } := by
  have kept (gpa : UInt64) (bytes : List UInt8) (m : Machine) :
      (backendWrite hv gpa bytes m).2.dev = m.dev := backendWrite_dev gpa bytes m rfl
  unfold retire
  simp only [Op.read_bind_apply, Op.ignore_bind_apply, Op.modify_bind_apply, Op.modify_apply, kept]
  exact ⟨_, rfl, rfl⟩

/-- Where the driver keeps the head of the next request. -/
def ringAddress (num : UInt16) (dev : Transport) : UInt64 :=
  dev.queueDriver + VIRTQ_AVAIL_RING_OFF + (dev.lastAvailIdx % num).toUInt64 * 2

/-- The round goes through: the next head is read, served and retired. -/
def Retired (hv : Hypervisor) (active : ActiveVirtio) (num : UInt16) (m m' : Machine) : Prop :=
  ∃ head m₁ written m₂, backendReadU16 hv (ringAddress num m.dev) m = (.ok head, m₁) ∧
    active.serve hv num head m₁ = (.ok written, m₂) ∧ retire hv num head written m₂ = (.ok (), m')

/-- A read of the queue is refused: of the available ring, or of the descriptor that the
console takes from the table. -/
inductive RingRefused (hv : Hypervisor) (num : UInt16) (m : Machine) : ActiveVirtio → Prop where
  | slot {active : ActiveVirtio} : (backendReadU16 hv (ringAddress num m.dev) m).1 =
      .error .refused → RingRefused hv num m active
  | descriptor {head : UInt16} {m₁ : Machine} :
      backendReadU16 hv (ringAddress num m.dev) m = (.ok head, m₁) →
      (bothReads (backendReadU64 hv (m.dev.queueDesc + head.toUInt64 * VIRTQ_DESC_SIZE))
        (backendReadU32 hv (m.dev.queueDesc + head.toUInt64 * VIRTQ_DESC_SIZE + 8)) m₁).1 =
          .error .refused → RingRefused hv num m .console

/-- The console gives a request up only where its descriptor is refused. -/
theorem drainEntry_cases (num head : UInt16) (m : Machine) :
    (∃ written m', drainEntry hv num head m = (.ok written, m')) ∨
      (∃ m', drainEntry hv num head m = (.error .refused, m')) ∧
        (bothReads (backendReadU64 hv (m.dev.queueDesc + head.toUInt64 * VIRTQ_DESC_SIZE))
          (backendReadU32 hv (m.dev.queueDesc + head.toUInt64 * VIRTQ_DESC_SIZE + 8)) m).1 =
            .error .refused := by
  rw [drainEntry, Op.read_bind_apply]
  match ran : bothReads (backendReadU64 hv (m.dev.queueDesc + head.toUInt64 * VIRTQ_DESC_SIZE))
      (backendReadU32 hv (m.dev.queueDesc + head.toUInt64 * VIRTQ_DESC_SIZE + 8)) m with
  | (.error .refused, m₁) =>
      rw [Op.bind_of_error ran]
      exact .inr ⟨⟨m₁, rfl⟩, rfl⟩
  | (.ok found, m₁) =>
      rw [Op.bind_of_ok ran]
      left
      simp only [backendDrainToConsole, Op.attempt_bind_apply]
      cases (backendRead hv found.1 (min found.2 MAX_TX).toNat m₁).1 with
      | error _ => exact ⟨_, _, rfl⟩
      | ok bytes => exact ⟨_, _, rfl⟩

/-- What a round does: it goes through and moves both cursors on, or a read of the queue is
refused and the registers stay as they are. -/
theorem serveNext_cases (active : ActiveVirtio) (num : UInt16) (m : Machine) :
    (∃ m', serveNext hv (active.serve hv) num m = (.ok (), m') ∧ Retired hv active num m m' ∧
        m'.dev = { m.dev with
          usedIdx := m.dev.usedIdx + 1, lastAvailIdx := m.dev.lastAvailIdx + 1 }) ∨
      ∃ m', serveNext hv (active.serve hv) num m = (.error .refused, m') ∧
        RingRefused hv num m active ∧ m'.dev = m.dev := by
  rw [serveNext, Op.read_bind_apply]
  simp only
  have slotKept := @backendReadU16_dev hv _ (ringAddress num m.dev) m rfl
  match slot : backendReadU16 hv (ringAddress num m.dev) m, slotKept with
  | (.error .refused, m₁), slotKept =>
      right
      refine ⟨m₁, Op.bind_of_error slot, .slot (congrArg Prod.fst slot), slotKept⟩
  | (.ok head, m₁), slotKept =>
      have started : (backendReadU16 hv (m.dev.queueDriver + VIRTQ_AVAIL_RING_OFF +
          (m.dev.lastAvailIdx % num).toUInt64 * 2)) m = (.ok head, m₁) := slot
      rw [Op.bind_of_ok started]
      have serveKept := @serve_dev hv _ active num head m₁ slotKept
      match served : active.serve hv num head m₁, serveKept with
      | (.ok written, m₂), serveKept =>
          obtain ⟨m₃, retired, moved⟩ := @retire_moves hv num head written m₂
          rw [serveKept] at moved
          rw [Op.bind_of_ok served]
          exact .inl ⟨m₃, retired, ⟨head, m₁, written, m₂, slot, served, retired⟩, moved⟩
      | (.error .refused, m₂), serveKept =>
          right
          refine ⟨m₂, Op.bind_of_error served, ?_, serveKept⟩
          cases active with
          | blk => cases served
          | console =>
              rcases @drainEntry_cases hv num head m₁ with ⟨written, m', ran⟩ | ⟨-, refused⟩
              · cases ran.symm.trans served
              · rw [slotKept] at refused
                exact .descriptor slot refused

/-- The driver has offered a request that was not taken. -/
def Pending (availIdx : UInt16) (m : Machine) : Prop := m.dev.lastAvailIdx ≠ availIdx

instance (availIdx : UInt16) : DecidablePred (Pending availIdx) := fun m =>
  inferInstanceAs (Decidable (m.dev.lastAvailIdx ≠ availIdx))

theorem serveNext_ok {active : ActiveVirtio}
    (ran : serveNext hv (active.serve hv) num m = (.ok (), m')) : Retired hv active num m m' ∧
      m'.dev = { m.dev with
        usedIdx := m.dev.usedIdx + 1, lastAvailIdx := m.dev.lastAvailIdx + 1 } := by
  rcases @serveNext_cases hv active num m with ⟨m₁, done, facts⟩ | ⟨m₁, refused, -⟩
  · cases ran.symm.trans done
    exact facts
  · cases ran.symm.trans refused

theorem serveNext_error {active : ActiveVirtio} {e : Refused}
    (ran : serveNext hv (active.serve hv) num m = (.error e, m')) :
    RingRefused hv num m active ∧ m'.dev = m.dev := by
  rcases @serveNext_cases hv active num m with ⟨m₁, done, -⟩ | ⟨m₁, refused, facts⟩
  · cases ran.symm.trans done
  · cases ran.symm.trans refused
    exact facts

/-- The distance to the index falls in every round. -/
theorem remaining_falls {active : ActiveVirtio} {availIdx : UInt16} (pending : Pending availIdx m)
    (ran : serveNext hv (active.serve hv) num m = (.ok (), m')) :
    (availIdx - m'.dev.lastAvailIdx).toNat < (availIdx - m.dev.lastAvailIdx).toNat := by
  rw [(serveNext_ok ran).2]
  have apart : availIdx.toNat ≠ m.dev.lastAvailIdx.toNat :=
    fun same => pending (UInt16.toNat_inj.mp same).symm
  have one : (1 : UInt16).toNat = 1 := rfl
  have room := availIdx.toNat_lt
  have room' := m.dev.lastAvailIdx.toNat_lt
  rw [UInt16.toNat_sub, UInt16.toNat_sub, UInt16.toNat_add, one]
  omega

/-- So the walk ends within its fuel. -/
theorem serveAll_course (active : ActiveVirtio) (num availIdx : UInt16) (m : Machine) :
    ∃ begun, While (Pending availIdx) (serveNext hv (active.serve hv) num) m begun
        (serveAll hv (active.serve hv) num availIdx (2 ^ 16) m) ∧
      begun.length ≤ (availIdx - m.dev.lastAvailIdx).toNat := by
  have unfolds (fuel : Nat) (m : Machine) :
      serveAll hv (active.serve hv) num availIdx (fuel + 1) m =
        if Pending availIdx m then
          (serveNext hv (active.serve hv) num >>= fun _ =>
            serveAll hv (active.serve hv) num availIdx fuel) m
        else (.ok (), m) := by
    rw [serveAll, Op.read_bind_apply]
    by_cases met : m.dev.lastAvailIdx = availIdx
    · have stops : ¬Pending availIdx m := fun pending => pending met
      rw [if_pos met, if_neg stops]
      rfl
    · have goes : Pending availIdx m := met
      rw [if_neg met, if_pos goes]
  exact Op.while_of_fuel unfolds (fun m m' pending ran => remaining_falls pending ran) (2 ^ 16) m
    (UInt16.toNat_lt _)

/-- The registers after a request was retired. -/
def Transport.retired (dev : Transport) : Transport :=
  { dev with usedIdx := dev.usedIdx + 1, lastAvailIdx := dev.lastAvailIdx + 1 }

theorem Transport.iterate_retired (n : Nat) (dev : Transport) :
    Transport.retired^[n] dev = { dev with
      usedIdx := dev.usedIdx + UInt16.ofNat n
      lastAvailIdx := dev.lastAvailIdx + UInt16.ofNat n } := by
  have next (i : UInt16) (n : Nat) : i + 1 + UInt16.ofNat n = i + UInt16.ofNat (n + 1) := by
    rw [UInt16.ofNat_add, UInt16.add_assoc]
    exact congrArg (i + ·) (UInt16.add_comm _ _)
  induction n generalizing dev with
  | zero => simp
  | succ n ih =>
      rw [Function.iterate_succ_apply, ih]
      simp only [Transport.retired, next]

/-- What a walk from `m` does: it takes the entries from the cursor on, each once, and stops
at the index or where a read of the queue is refused. -/
structure Walked (hv : Hypervisor) (active : ActiveVirtio) (num availIdx : UInt16) (m : Machine)
    (begun : List Machine) (r : Except Refused Unit × Machine) : Prop where
  course : While (Pending availIdx) (serveNext hv (active.serve hv) num) m begun r
  entries : begun.map (·.dev.lastAvailIdx) =
    (List.range begun.length).map fun i => m.dev.lastAvailIdx + UInt16.ofNat i
  slots : begun.map (·.dev.usedIdx) =
    (List.range begun.length).map fun i => m.dev.usedIdx + UInt16.ofNat i
  once : (begun.map (·.dev.lastAvailIdx)).Nodup
  retired : ∀ b ∈ begun, ∃ m', Retired hv active num b m'
  cursors : r.2.dev = { m.dev with
    usedIdx := m.dev.usedIdx + UInt16.ofNat begun.length
    lastAvailIdx := m.dev.lastAvailIdx + UInt16.ofNat begun.length }
  ends : (r.1 = .ok () ∧ r.2.dev.lastAvailIdx = availIdx) ∨
    (r.1 = .error .refused ∧ r.2.dev.lastAvailIdx ≠ availIdx ∧
      ∃ last, last.dev = r.2.dev ∧ RingRefused hv num last active)

theorem serveAll_walked (active : ActiveVirtio) (num availIdx : UInt16) (m : Machine) :
    ∃ begun, Walked hv active num availIdx m begun
      (serveAll hv (active.serve hv) num availIdx (2 ^ 16) m) := by
  obtain ⟨begun, course, few⟩ := @serveAll_course hv active num availIdx m
  refine ⟨begun, ?_⟩
  generalize serveAll hv (active.serve hv) num availIdx (2 ^ 16) m = r at course
  obtain ⟨visited, last⟩ := course.cursor Machine.dev Transport.retired
    (fun s s' _ ran => (serveNext_ok ran).2) fun s s' e _ ran => (serveNext_error ran).2
  rw [← List.range_map_iterate] at visited
  have field (f : Transport → UInt16) : (begun.map fun b => f b.dev) =
      (List.range begun.length).map fun i => f (Transport.retired^[i] m.dev) := by
    have image := congrArg (List.map f) visited
    rwa [List.map_map, List.map_map] at image
  simp only [Transport.iterate_retired] at field last
  have entries := field Transport.lastAvailIdx
  refine ⟨course, entries, field Transport.usedIdx, ?_, ?_, last, ?_⟩
  · rw [entries]
    refine List.Nodup.map_on (fun i inside j inside' same => ?_) List.nodup_range
    have room := (availIdx - m.dev.lastAvailIdx).toNat_lt
    rw [List.mem_range] at inside inside'
    have same := congrArg UInt16.toNat (UInt16.add_right_inj _ |>.mp same)
    rwa [Words.toNat_ofNat16 (by omega), Words.toNat_ofNat16 (by omega)] at same
  · intro b member
    obtain ⟨b', ran⟩ := course.ran b member
    exact ⟨b', (serveNext_ok ran).1⟩
  · rcases course.ends (P := fun _ => True) (fun _ _ _ _ _ => trivial) trivial with
      ⟨s, -, stops, rfl⟩ | ⟨s, e, s', -, pending, ran, rfl⟩
    · exact .inl ⟨rfl, not_not.mp stops⟩
    · obtain ⟨refused, kept⟩ := serveNext_error ran
      refine .inr ⟨rfl, ?_, s, kept.symm, refused⟩
      rw [kept]
      exact pending

/-- What a kick does, and what it leaves in the registers. -/
inductive Kicked (hv : Hypervisor) (active : ActiveVirtio) (m : Machine) :
    Except Refused Unit × Machine → Prop where
  | idle : (!m.dev.queueLive || m.dev.queueNum.toUInt16 = 0) = true →
      Kicked hv active m (.ok (), m)
  | unread {m₁ : Machine} :
      backendReadU16 hv (m.dev.queueDriver + VIRTQ_AVAIL_IDX_OFF) m = (.error .refused, m₁) →
      m₁.dev = m.dev → Kicked hv active m (.error .refused, m₁)
  | cut {availIdx : UInt16} {m₁ m₂ : Machine} {begun : List Machine} :
      backendReadU16 hv (m.dev.queueDriver + VIRTQ_AVAIL_IDX_OFF) m = (.ok availIdx, m₁) →
      m₁.dev = m.dev →
      Walked hv active m.dev.queueNum.toUInt16 availIdx m₁ begun (.error .refused, m₂) →
      Kicked hv active m (.error .refused, m₂)
  | full {availIdx : UInt16} {m₁ m₂ : Machine} {begun : List Machine} :
      backendReadU16 hv (m.dev.queueDriver + VIRTQ_AVAIL_IDX_OFF) m = (.ok availIdx, m₁) →
      m₁.dev = m.dev →
      Walked hv active m.dev.queueNum.toUInt16 availIdx m₁ begun (.ok (), m₂) →
      Kicked hv active m (.ok (), active.served { m₂ with
        dev := { m₂.dev with interruptStatus := m₂.dev.interruptStatus ||| 1 } })

theorem kicked_notify (hv : Hypervisor) (active : ActiveVirtio) (m : Machine) :
    Kicked hv active m (active.notify hv m) := by
  rw [ActiveVirtio.notify_eq, handleNotify, Op.read_bind_apply]
  simp only
  by_cases idle : (!m.dev.queueLive || m.dev.queueNum.toUInt16 = 0) = true
  · rw [if_pos idle]
    exact .idle idle
  · rw [if_neg idle]
    have kept := @backendReadU16_dev hv _ (m.dev.queueDriver + VIRTQ_AVAIL_IDX_OFF) m rfl
    rcases index : backendReadU16 hv (m.dev.queueDriver + VIRTQ_AVAIL_IDX_OFF) m with
      ⟨⟨⟩ | availIdx, m₁⟩
    · rw [index] at kept
      rw [Op.bind_of_error index]
      exact .unread index kept
    · rw [index] at kept
      rw [Op.bind_of_ok index]
      obtain ⟨begun, walked⟩ := @serveAll_walked hv active m.dev.queueNum.toUInt16 availIdx m₁
      rcases ran : serveAll hv (active.serve hv) m.dev.queueNum.toUInt16 availIdx (2 ^ 16) m₁ with
        ⟨⟨⟩ | ⟨⟩, m₂⟩
      · rw [ran] at walked
        rw [Op.bind_of_error ran]
        exact .cut index kept walked
      · rw [ran] at walked
        rw [Op.bind_of_ok ran]
        exact .full index kept walked

/-- The cursors have not parted. -/
def Level (m : Machine) : Prop := m.dev.usedIdx = m.dev.lastAvailIdx

theorem Walked.level {active : ActiveVirtio} {availIdx : UInt16} {begun : List Machine}
    {r : Except Refused Unit × Machine} (walked : Walked hv active num availIdx m begun r)
    (level : Level m) : Level r.2 := by
  rw [Level, walked.cursors]
  exact congrArg (· + UInt16.ofNat begun.length) level

theorem Kicked.level {active : ActiveVirtio} {r : Except Refused Unit × Machine}
    (kicked : Kicked hv active m r) (level : Level m) : Level r.2 := by
  have shift {m₁ : Machine} (same : m₁.dev = m.dev) : Level m₁ := by
    rw [Level, same]
    exact level
  cases kicked with
  | idle _ => exact level
  | unread _ same => exact shift same
  | cut _ same walked => exact walked.level (shift same)
  | full _ same walked =>
      have after := walked.level (shift same)
      cases active <;> exact after

/-- The states of a device: fresh, after a write to its window, and after anything that leaves
its registers alone. -/
inductive Served (active : ActiveVirtio) : Machine → Prop where
  | fresh {m : Machine} : m.dev = {} → Served active m
  | write {m : Machine} (hv : Hypervisor) (offset : UInt64) (value : UInt32) :
      Served active m → Served active (handleMmioWrite hv active offset value m)
  | elsewhere {m m' : Machine} : Served active m → m'.dev = m.dev → Served active m'

/-- No register gives access to the cursors. -/
theorem Transport.mmioWrite_cursors (t : Transport) (offset : UInt64) (value : UInt32) :
    (t.mmioWrite offset value).1.usedIdx = t.usedIdx ∧
      (t.mmioWrite offset value).1.lastAvailIdx = t.lastAvailIdx := by
  let Kept (r : Transport × Bool) : Prop :=
    r.1.usedIdx = t.usedIdx ∧ r.1.lastAvailIdx = t.lastAvailIdx
  have status : Kept (t.writeStatus value, false) := by
    simp only [Kept, writeStatus]
    split <;> exact ⟨rfl, rfl⟩
  change Kept (t.mmioWrite offset value)
  unfold mmioWrite
  repeat' first | apply iteInduction (motive := Kept) | intro _
  all_goals
    first
    | exact status
    | exact ⟨rfl, rfl⟩

theorem write_level (active : ActiveVirtio) (offset : UInt64) (value : UInt32)
    (level : Level m) (dev' : Transport) (wrote : (active.write m.dev offset value).1 = dev') :
    dev'.usedIdx = dev'.lastAvailIdx := by
  obtain ⟨used, last⟩ := m.dev.mmioWrite_cursors offset value
  have kept : (m.dev.mmioWrite offset value).1.usedIdx =
      (m.dev.mmioWrite offset value).1.lastAvailIdx := by
    rw [used, last]
    exact level
  subst wrote
  cases active with
  | console => exact kept
  | blk =>
      simp only [ActiveVirtio.write, VirtioBlk.mmioWrite]
      split_ifs
      · rfl
      · exact kept

theorem Served.level {active : ActiveVirtio} (served : Served active m) : Level m := by
  induction served with
  | fresh fresh =>
      rw [Level, fresh]
  | write hv offset value _ ih =>
      have level := write_level active offset value ih _ rfl
      rw [handleMmioWrite]
      simp only
      split_ifs
      · exact (kicked_notify hv active _).level level
      · exact level
  | elsewhere _ same ih =>
      rw [Level, same]
      exact ih

/-- A kick takes each offered request once, in order, and the cursors never part: from any
state in which they agree, under any grants and over any memory, and so over whole histories. -/
theorem kick_retires_each_once (active : ActiveVirtio) :
    (∀ hv m, Level m → Kicked hv active m (active.notify hv m) ∧ Level (active.notify hv m).2) ∧
      ∀ m, Served active m → Level m := by
  refine ⟨fun hv m level => ?_, fun m served => served.level⟩
  have kicked := kicked_notify hv active m
  exact ⟨kicked, kicked.level level⟩

/-- A queue of one frame that the guest granted, with one request offered to the console. -/
theorem kick_retires_one :
    let hv := Op.run Hypervisor.apply [.guest 0 (.domainCreate 1 false),
      .guest 1 (.p2mAllocate 5), .guest 1 (.grantAccess 0 0 5 false)]
      (Hypervisor.new ⟨2, 1, 1, 1, 1, 8, 0⟩)
    let m : Machine :=
      { probe 5 with
        dev := { (probe 5).dev with queueDesc := 0x80005000, queueDevice := 0x80005000 }
        ram := fun a => if a = 0x5002 then 1 else 0 }
    (ActiveVirtio.console.notify hv m).2.dev.usedIdx = 1 ∧
      Level (ActiveVirtio.console.notify hv m).2 := by
  intro hv m
  exact ⟨by decide +kernel, ((kick_retires_each_once .console).1 hv m rfl).2⟩

end Baleen.Virtio
