import Baleen.Virtio.Confinement
import Baleen.Virtio.Disk

/-!
# Block requests

What a request does to the disk and to the memory of the guest.  The backend moves one sector
at most, and reports success for a longer buffer too.
-/

namespace Baleen.Virtio

open Op (Keeps)

variable {hv : Hypervisor} {m₀ m : Machine}

/-- A request as its chain of descriptors gives it. -/
structure BlkRequest where
  typ : UInt32
  sector : UInt64
  data : BlkDesc
  status : BlkDesc
  deriving DecidableEq, Repr

/-- The part of `processBlkRequest` that reads the chain. -/
def parseBlkRequest (hv : Hypervisor) (table : UInt64) (num head : UInt16) :
    Op Machine Refused BlkRequest := do
  let d0 ← backendReadDesc hv table head num
  if d0.flags &&& VIRTQ_DESC_F_NEXT = 0 ∨ d0.len.toUInt64 < BLK_HDR_SIZE then Op.fail .refused
  else
    let header ← bothReads (backendReadU32 hv d0.addr)
      (backendReadU64 hv (d0.addr + BLK_HDR_SECTOR_OFF))
    let d1 ← backendReadDesc hv table d0.next num
    if d1.flags &&& VIRTQ_DESC_F_NEXT = 0 then Op.fail .refused
    else
      let d2 ← backendReadDesc hv table d1.next num
      return ⟨header.1, header.2, d1, d2⟩

/-- The part that moves the data, and its status. -/
def serveRequest (hv : Hypervisor) (r : BlkRequest) : Op Machine Refused UInt8 :=
  serveData hv r.typ r.sector r.data

theorem processBlkRequest_eq (table : UInt64) (num head : UInt16) :
    processBlkRequest hv table num head = parseBlkRequest hv table num head >>= fun r =>
      serveRequest hv r >>= fun status => Op.ignore (backendWrite hv r.status.addr [status]) := by
  unfold processBlkRequest parseBlkRequest serveRequest
  rw [Op.bind_assoc]
  refine congrArg _ (funext fun d0 => ?_)
  split
  · rfl
  rw [Op.bind_assoc]
  refine congrArg _ (funext fun (typ, sector) => ?_)
  dsimp only
  rw [Op.bind_assoc]
  refine congrArg _ (funext fun d1 => ?_)
  split
  · rfl
  rw [Op.bind_assoc]
  rfl

theorem SameWorld.keeps_parseBlkRequest (table : UInt64) (num head : UInt16) :
    Keeps (SameWorld m₀) (parseBlkRequest hv table num head) := by
  have quiet := quiet_sameWorld m₀
  refine (quiet.backendReadDesc _ _ _).bind fun d0 => ?_
  split
  · exact .fail _
  · refine (bothReads_keeps (quiet.backendReadU32 _) (quiet.backendReadU64 _)).bind fun header => ?_
    refine (quiet.backendReadDesc _ _ _).bind fun d1 => ?_
    split
    · exact .fail _
    · exact (quiet.backendReadDesc _ _ _).bind fun d2 => .pure _

/-- The number of bytes that the backend moves. -/
def BlkRequest.moved (r : BlkRequest) : Nat := min r.data.len.toNat SECTOR_SIZE

/-- A request that the backend serves; a read writes to memory. -/
structure BlkRequest.Servable (hv : Hypervisor) (r : BlkRequest) (write : Bool) : Prop where
  inside : r.sector.toNat < DISK_SECTORS
  asks : r.typ = if write then VIRTIO_BLK_T_IN else VIRTIO_BLK_T_OUT
  direction : decide (r.data.flags &&& VIRTQ_DESC_F_WRITE ≠ 0) = write
  reachable : ∃ offset, Reachable hv r.data.addr r.moved write offset

/-- The bytes of memory from an offset on. -/
def Machine.bytesAt (m : Machine) (offset n : Nat) : List UInt8 :=
  (List.range n).map fun i => m.ram (offset + i)

/-- The bytes of a sector that a read delivers. -/
def Machine.sectorBytes (m : Machine) (s : Fin DISK_SECTORS) (n : Nat) : List UInt8 :=
  (m.disk.read m.tenant s).toList.take n

theorem Machine.length_sectorBytes {s : Fin DISK_SECTORS} {n : Nat} (small : n ≤ SECTOR_SIZE) :
    (m.sectorBytes s n).length = n := by
  rw [sectorBytes, List.length_take, Vector.length_toList]
  exact min_eq_left small

theorem short_of_le {n : Nat} (small : n ≤ SECTOR_SIZE) : n < 2 ^ 32 :=
  lt_of_le_of_lt small (by decide)

theorem guestWrite_of_some {gpa : UInt64} {bytes : List UInt8} {offset : Nat}
    (placed : ipaToPa gpa bytes.length = some offset) (m : Machine) :
    guestWrite gpa bytes m = (.ok (), { m with
      accesses := ⟨true, offset, bytes.length⟩ :: m.accesses
      ram := overwrite m.ram offset bytes }) := by
  rw [guestWrite, placed]
  rfl

theorem guestWrite_of_none {gpa : UInt64} {bytes : List UInt8}
    (outside : ipaToPa gpa bytes.length = none) (m : Machine) :
    guestWrite gpa bytes m = (.error .refused, m) := by
  rw [guestWrite, outside]
  rfl

theorem serveIn_cases {s : Fin DISK_SECTORS} {addr : UInt64} {n : Nat} (small : n ≤ SECTOR_SIZE)
    (m : Machine) :
    (∃ offset m', Reachable hv addr n true offset ∧ m'.disk = m.disk ∧
        m'.ram = overwrite m.ram offset (m.sectorBytes s n) ∧
        serveIn hv s addr n m = (.ok VIRTIO_BLK_S_OK, m')) ∨
      (∀ offset, ¬Reachable hv addr n true offset) ∧
        ∃ m', SameWorld m m' ∧ serveIn hv s addr n m = (.ok VIRTIO_BLK_S_IOERR, m') := by
  rw [serveIn, Op.attempt_bind_apply]
  have length : ((m.disk.read m.tenant s).toList.take n).length = n := m.length_sectorBytes small
  rcases @backendAuthorize_spec hv addr n (short_of_le small) true m with
    ⟨admitted, passed⟩ | ⟨not, refused⟩
  · rw [passed]
    dsimp only
    rw [Op.read_bind_apply, Op.attempt_bind_apply]
    cases placed : ipaToPa addr n with
    | some offset =>
        rw [guestWrite_of_some ((congrArg _ length).trans placed)]
        refine .inl ⟨offset, _, ⟨admitted, placed⟩, ?_, ?_, rfl⟩
        · rfl
        · rfl
    | none =>
        rw [guestWrite_of_none ((congrArg _ length).trans placed)]
        refine .inr ⟨fun offset reachable => ?_, m, SameWorld.refl m, rfl⟩
        cases placed.symm.trans reachable.2
  · rw [refused]
    refine .inr ⟨fun offset reachable => not reachable.1, _, ?_, rfl⟩
    exact ⟨rfl, rfl, rfl, rfl⟩

theorem serveOut_cases {s : Fin DISK_SECTORS} {addr : UInt64} {n : Nat} (small : n ≤ SECTOR_SIZE)
    (m : Machine) :
    (∃ offset m', Reachable hv addr n false offset ∧ m'.ram = m.ram ∧
        m'.disk = m.disk.write m.tenant s (m.bytesAt offset n) ∧
        serveOut hv s addr n m = (.ok VIRTIO_BLK_S_OK, m')) ∨
      (∀ offset, ¬Reachable hv addr n false offset) ∧
        ∃ m', SameWorld m m' ∧ serveOut hv s addr n m = (.ok VIRTIO_BLK_S_IOERR, m') := by
  rw [serveOut, Op.attempt_bind_apply]
  rcases @backendAuthorize_spec hv addr n (short_of_le small) false m with
    ⟨admitted, passed⟩ | ⟨not, refused⟩
  · rw [passed]
    dsimp only
    rw [Op.attempt_bind_apply]
    unfold guestRead
    cases placed : ipaToPa addr n with
    | some offset =>
        refine .inl ⟨offset, _, ⟨admitted, placed⟩, ?_, ?_, rfl⟩
        · rfl
        · rfl
    | none =>
        refine .inr ⟨fun offset reachable => ?_, m, SameWorld.refl m, rfl⟩
        cases placed.symm.trans reachable.2
  · rw [refused]
    refine .inr ⟨fun offset reachable => not reachable.1, _, ?_, rfl⟩
    exact ⟨rfl, rfl, rfl, rfl⟩

/-- What serving a request does. -/
inductive Service (hv : Hypervisor) (r : BlkRequest) (m : Machine) : UInt8 → Machine → Prop
  | stored {offset : Nat} {m' : Machine} (servable : r.Servable hv false)
      (placed : ipaToPa r.data.addr r.moved = some offset) (ram : m'.ram = m.ram)
      (disk : m'.disk =
        m.disk.write m.tenant ⟨r.sector.toNat, servable.inside⟩ (m.bytesAt offset r.moved)) :
      Service hv r m VIRTIO_BLK_S_OK m'
  | filled {offset : Nat} {m' : Machine} (servable : r.Servable hv true)
      (placed : ipaToPa r.data.addr r.moved = some offset) (disk : m'.disk = m.disk)
      (ram : m'.ram =
        overwrite m.ram offset (m.sectorBytes ⟨r.sector.toNat, servable.inside⟩ r.moved)) :
      Service hv r m VIRTIO_BLK_S_OK m'
  | failed {m' : Machine} (not : ∀ write, ¬r.Servable hv write) (ram : m'.ram = m.ram)
      (disk : m'.disk = m.disk) : Service hv r m VIRTIO_BLK_S_IOERR m'

/-- A request is for one direction of transfer. -/
theorem BlkRequest.Servable.direction_eq {r : BlkRequest} {write write' : Bool}
    (asks : r.Servable hv write')
    (same : decide (r.data.flags &&& VIRTQ_DESC_F_WRITE ≠ 0) = write) :
    write' = write := asks.direction.symm.trans same

theorem serveRequest_service (r : BlkRequest) (m : Machine) :
    ∃ status m', serveRequest hv r m = (.ok status, m') ∧ Service hv r m status m' := by
  have small : r.moved ≤ SECTOR_SIZE := min_le_right _ _
  have idle (not : ∀ write, ¬r.Servable hv write) :
      Service hv r m VIRTIO_BLK_S_IOERR m := .failed not rfl rfl
  rw [serveRequest, serveData]
  split_ifs with inside reads writes
  · have direction : decide (r.data.flags &&& VIRTQ_DESC_F_WRITE ≠ 0) = true :=
      decide_eq_true reads.2
    rcases @serveIn_cases hv ⟨r.sector.toNat, inside⟩ r.data.addr r.moved small m with
      ⟨offset, m', reachable, disk, ram, ran⟩ | ⟨unreachable, m', same, ran⟩
    · exact ⟨_, m', ran, .filled
        ⟨inside, reads.1, direction, offset, reachable⟩ reachable.2 disk ram⟩
    · refine ⟨_, m', ran, .failed (fun write asks => ?_) same.ram same.disk⟩
      cases asks.direction_eq direction
      exact asks.reachable.elim unreachable
  · have direction : decide (r.data.flags &&& VIRTQ_DESC_F_WRITE ≠ 0) = false :=
      decide_eq_false writes.2
    rcases @serveOut_cases hv ⟨r.sector.toNat, inside⟩ r.data.addr r.moved small m with
      ⟨offset, m', reachable, ram, disk, ran⟩ | ⟨unreachable, m', same, ran⟩
    · exact ⟨_, m', ran, .stored
        ⟨inside, writes.1, direction, offset, reachable⟩ reachable.2 ram disk⟩
    · refine ⟨_, m', ran, .failed (fun write asks => ?_) same.ram same.disk⟩
      cases asks.direction_eq direction
      exact asks.reachable.elim unreachable
  · refine ⟨_, m, rfl, idle fun write asks => ?_⟩
    cases write with
    | true => exact reads ⟨asks.asks, of_decide_eq_true asks.direction⟩
    | false => exact writes ⟨asks.asks, of_decide_eq_false asks.direction⟩
  · exact ⟨_, m, rfl, idle fun write asks => inside asks.inside⟩

/-- A request handed to the backend, on the machine that it finds. -/
structure Attempt where
  hv : Hypervisor
  table : UInt64
  num : UInt16
  head : UInt16
  before : Machine

/-- The request answers in this byte of memory. -/
def BlkRequest.AnswersAt (r : BlkRequest) (a : Nat) : Prop := ipaToPa r.status.addr 1 = some a

namespace Attempt

/-- The request, unless its chain is refused. -/
def parsed (q : Attempt) : Except Refused BlkRequest :=
  (parseBlkRequest q.hv q.table q.num q.head q.before).1

/-- The status, unless the chain is refused. -/
def answer (q : Attempt) : Except Refused UInt8 :=
  ((parseBlkRequest q.hv q.table q.num q.head >>= serveRequest q.hv) q.before).1

def after (q : Attempt) : Machine := (processBlkRequest q.hv q.table q.num q.head q.before).2

end Attempt

theorem overwrite_outside {ram : Nat → UInt8} {offset a : Nat} {bytes : List UInt8}
    (outside : a < offset ∨ offset + bytes.length ≤ a) : overwrite ram offset bytes a = ram a := by
  unfold overwrite
  split_ifs with reached
  · rw [List.getElem?_eq_none (by omega), Option.getD_none]
  · rfl

theorem overwrite_inside {ram : Nat → UInt8} {offset i : Nat} {bytes : List UInt8}
    (inside : i < bytes.length) : overwrite ram offset bytes (offset + i) = bytes[i] := by
  rw [overwrite, if_pos (Nat.le_add_right _ _), Nat.add_sub_cancel_left,
    List.getElem?_eq_getElem inside, Option.getD_some]

/-- The status byte is all that its write changes. -/
theorem backendWrite_status (r : BlkRequest) (status : UInt8) (m : Machine) :
    (backendWrite hv r.status.addr [status] m).2.disk = m.disk ∧
      ∀ a, ¬r.AnswersAt a → (backendWrite hv r.status.addr [status] m).2.ram a = m.ram a := by
  rcases @backendAuthorize_spec hv r.status.addr [status].length
    (Nat.one_lt_two_pow (by decide)) true m with
    ⟨-, passed⟩ | ⟨-, refused⟩
  · rw [backendWrite, Op.bind_of_ok passed]
    cases placed : ipaToPa r.status.addr [status].length with
    | none =>
        rw [guestWrite_of_none placed]
        exact ⟨rfl, fun a _ => rfl⟩
    | some offset =>
        rw [guestWrite_of_some placed]
        refine ⟨rfl, fun a apart => overwrite_outside ?_⟩
        have other : offset ≠ a := fun same => apart (same ▸ placed)
        rw [List.length_singleton]
        omega
  · rw [backendWrite, Op.bind_of_error refused]
    exact ⟨rfl, fun a _ => rfl⟩

/-- A request is refused with its chain, or it is served and answered. -/
inductive Attempt.Outcome (q : Attempt) : Prop
  | refused {e : Refused} (parsed : q.parsed = .error e) (answer : q.answer = .error e)
      (ram : q.after.ram = q.before.ram) (disk : q.after.disk = q.before.disk)
  | served {r : BlkRequest} {status : UInt8} {m : Machine} (parsed : q.parsed = .ok r)
      (answer : q.answer = .ok status) (service : Service q.hv r q.before status m)
      (disk : q.after.disk = m.disk) (ram : ∀ a, ¬r.AnswersAt a → q.after.ram a = m.ram a)

theorem Service.of_sameWorld {r : BlkRequest} {status : UInt8} {m₁ m' : Machine}
    (service : Service hv r m₁ status m') (same : SameWorld m m₁) : Service hv r m status m' := by
  obtain ⟨-, ram, disk, tenant⟩ := same
  cases service with
  | stored servable placed kept written =>
      refine .stored servable placed (kept.trans ram) (written.trans ?_)
      rw [Machine.bytesAt, Machine.bytesAt, ram, disk, tenant]
  | filled servable placed kept written =>
      refine .filled servable placed (kept.trans disk) (written.trans ?_)
      rw [Machine.sectorBytes, Machine.sectorBytes, ram, disk, tenant]
  | failed not ram' disk' => exact .failed not (ram'.trans ram) (disk'.trans disk)

theorem Attempt.outcome (q : Attempt) : q.Outcome := by
  have same : SameWorld q.before (parseBlkRequest q.hv q.table q.num q.head q.before).2 :=
    SameWorld.keeps_parseBlkRequest _ _ _ _ (SameWorld.refl _)
  match ran : parseBlkRequest q.hv q.table q.num q.head q.before with
  | (.error e, m₁) =>
      rw [ran] at same
      have after : q.after = m₁ := by rw [Attempt.after, processBlkRequest_eq, Op.bind_of_error ran]
      refine .refused (congrArg Prod.fst ran) ?_ (after ▸ same.ram) (after ▸ same.disk)
      rw [Attempt.answer, Op.bind_of_error ran]
  | (.ok r, m₁) =>
      rw [ran] at same
      obtain ⟨status, m₂, served, service⟩ := @serveRequest_service q.hv r m₁
      have after : q.after = (backendWrite q.hv r.status.addr [status] m₂).2 := by
        rw [Attempt.after, processBlkRequest_eq, Op.bind_of_ok ran, Op.bind_of_ok served,
          Op.ignore_apply]
      have kept := @backendWrite_status q.hv r status m₂
      rw [← after] at kept
      refine .served (congrArg Prod.fst ran) ?_ (service.of_sameWorld same) kept.1 kept.2
      rw [Attempt.answer, Op.bind_of_ok ran, served]

end Baleen.Virtio
