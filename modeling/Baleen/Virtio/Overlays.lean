import Baleen.Virtio.Requests

/-!
# What each tenant sees of the disk

Requests of all tenants, in any order and with discards between them.  As long as no request
asks for more than the one sector that the backend moves, each does what its status says, and a
tenant sees the template under its own writes.
-/

namespace Baleen.Virtio

open Op (Keeps)

variable {hv : Hypervisor} {m m' : Machine} {r : BlkRequest} {offset : Nat}

/-- Where in memory a byte of a buffer lies. -/
def bufferAt (addr : UInt64) (i : Nat) : Option Nat := (ipaToPa addr (i + 1)).map (· + i)

theorem bufferAt_of_placed {addr : UInt64} {n i : Nat} (placed : ipaToPa addr n = some offset)
    (inside : i < n) : bufferAt addr i = some (offset + i) := by
  obtain ⟨above, rfl, room⟩ := ipaToPa_eq_some.mp placed
  have byte : ipaToPa addr (i + 1) = some (addr - DATA_IPA_BASE).toNat :=
    ipaToPa_eq_some.mpr ⟨above, rfl, by omega⟩
  rw [bufferAt, byte, Option.map_some]

theorem eq_of_bufferAt {addr : UInt64} {n i a : Nat} (placed : ipaToPa addr n = some offset)
    (byte : bufferAt addr i = some a) : a = offset + i := by
  obtain ⟨start, found, rfl⟩ := Option.map_eq_some_iff.mp byte
  rw [(ipaToPa_eq_some.mp found).2.1, (ipaToPa_eq_some.mp placed).2.1]

namespace BlkRequest

/-- The position on the disk where the data belongs. -/
def first (r : BlkRequest) : Nat := r.sector.toNat * SECTOR_SIZE

/-- The position belongs to the data. -/
def Spans (r : BlkRequest) (p : Nat) : Prop := r.first ≤ p ∧ p < r.first + r.data.len.toNat

/-- The whole buffer is in the tenant's view, and nothing else changed but the status byte. -/
structure Stored (r : BlkRequest) (m m' : Machine) : Prop where
  data : ∀ i < r.data.len.toNat, ∃ a, bufferAt r.data.addr i = some a ∧
    m'.disk.view m.tenant (r.first + i) = some (m.ram a)
  others : ∀ t p, ¬(t = m.tenant ∧ r.Spans p) → m'.disk.view t p = m.disk.view t p
  memory : ∀ a, ¬r.AnswersAt a → m'.ram a = m.ram a

/-- The whole buffer comes from the tenant's view, and nothing else changed but the status
byte; a guest may place that inside the buffer. -/
structure Filled (r : BlkRequest) (m m' : Machine) : Prop where
  data : ∀ i < r.data.len.toNat, ∃ a, bufferAt r.data.addr i = some a ∧
    (r.AnswersAt a ∨ m.disk.view m.tenant (r.first + i) = some (m'.ram a))
  memory : ∀ a, (∀ i < r.data.len.toNat, bufferAt r.data.addr i ≠ some a) → ¬r.AnswersAt a →
    m'.ram a = m.ram a
  disk : m'.disk = m.disk

/-- The buffer past the first sector is in the tenant's view already, and so are zeros for what
the buffer leaves of that sector. -/
structure WriteCovered (r : BlkRequest) (m : Machine) : Prop where
  past : ∀ i, SECTOR_SIZE ≤ i → i < r.data.len.toNat → ∃ a, bufferAt r.data.addr i = some a ∧
    m.disk.view m.tenant (r.first + i) = some (m.ram a)
  rest : ∀ i, r.data.len.toNat ≤ i → i < SECTOR_SIZE →
    m.disk.view m.tenant (r.first + i) = some 0

/-- The buffer past the first sector holds the tenant's view already. -/
def ReadCovered (r : BlkRequest) (m : Machine) : Prop :=
  ∀ i, SECTOR_SIZE ≤ i → i < r.data.len.toNat → ∃ a, bufferAt r.data.addr i = some a ∧
    (r.AnswersAt a ∨ m.disk.view m.tenant (r.first + i) = some (m.ram a))

/-- A position of the data lies in the request's sector or past it. -/
theorem div_first_eq {i : Nat} :
    (r.first + i) / SECTOR_SIZE = r.sector.toNat ↔ i < SECTOR_SIZE := by
  rw [first, SECTOR_SIZE]
  omega

theorem moved_le_len (r : BlkRequest) : r.moved ≤ r.data.len.toNat := min_le_left _ _

theorem lt_moved {i : Nat} : i < r.moved ↔ i < r.data.len.toNat ∧ i < SECTOR_SIZE := lt_min_iff

theorem stored_iff (inside : r.sector.toNat < DISK_SECTORS)
    (placed : ipaToPa r.data.addr r.moved = some offset)
    (disk : m'.disk = m.disk.write m.tenant ⟨r.sector.toNat, inside⟩ (m.bytesAt offset r.moved))
    (ram : ∀ a, ¬r.AnswersAt a → m'.ram a = m.ram a) : r.Stored m m' ↔ r.WriteCovered m := by
  -- the sector afterwards, and everything outside of it
  have sector (i : Nat) (small : i < SECTOR_SIZE) : m'.disk.view m.tenant (r.first + i) =
      some (((m.bytesAt offset r.moved)[i]?).getD 0) := by
    rw [disk]
    exact BlkDisk.view_write small
  have outside (t : Fin N_TENANTS) (p : Nat)
      (apart : ¬(t = m.tenant ∧ p / SECTOR_SIZE = r.sector.toNat)) :
      m'.disk.view t p = m.disk.view t p := by
    rw [disk]
    exact BlkDisk.view_write_of_ne apart
  have beyond (i : Nat) (large : SECTOR_SIZE ≤ i) :
      m'.disk.view m.tenant (r.first + i) = m.disk.view m.tenant (r.first + i) := by
    refine outside _ _ fun here => ?_
    exact Nat.not_lt.mpr large (div_first_eq.mp here.2)
  have length : (m.bytesAt offset r.moved).length = r.moved := by
    rw [Machine.bytesAt, List.length_map, List.length_range]
  have zero (i : Nat) (after : r.data.len.toNat ≤ i) (small : i < SECTOR_SIZE) :
      m'.disk.view m.tenant (r.first + i) = some 0 := by
    rw [sector i small, List.getElem?_eq_none (by rw [length]; exact r.moved_le_len.trans after)]
    rfl
  constructor
  · intro stored
    refine ⟨fun i large short => ?_, fun i after small => ?_⟩
    · rw [← beyond i large]
      exact stored.data i short
    · rw [← zero i after small]
      refine (stored.others _ _ fun here => ?_).symm
      have span := here.2.2
      omega
  · intro covered
    refine ⟨fun i short => ?_, fun t p apart => ?_, ram⟩
    · rcases Nat.lt_or_ge i SECTOR_SIZE with small | large
      · have moved : i < r.moved := lt_moved.mpr ⟨short, small⟩
        refine ⟨offset + i, bufferAt_of_placed placed moved, ?_⟩
        rw [sector i small, List.getElem?_eq_getElem (length.symm ▸ moved), Option.getD_some]
        simp only [Machine.bytesAt, List.getElem_map, List.getElem_range]
      · rw [beyond i large]
        exact covered.past i large short
    · by_cases here : t = m.tenant ∧ p / SECTOR_SIZE = r.sector.toNat
      · obtain ⟨rfl, place⟩ := here
        obtain ⟨i, small, rfl⟩ := @BlkDisk.exists_of_div_eq ⟨r.sector.toNat, inside⟩ p place
        have after : r.data.len.toNat ≤ i := by
          refine Nat.le_of_not_lt fun short => apart ⟨rfl, ?_⟩
          exact ⟨Nat.le_add_right _ _, Nat.add_lt_add_left short _⟩
        exact (zero i after small).trans (covered.rest i after small).symm
      · exact outside t p here

theorem filled_iff (inside : r.sector.toNat < DISK_SECTORS)
    (placed : ipaToPa r.data.addr r.moved = some offset) (disk : m'.disk = m.disk)
    (ram : ∀ a, ¬r.AnswersAt a → m'.ram a =
      overwrite m.ram offset (m.sectorBytes ⟨r.sector.toNat, inside⟩ r.moved) a) :
    r.Filled m m' ↔ r.ReadCovered m := by
  have length : (m.sectorBytes ⟨r.sector.toNat, inside⟩ r.moved).length = r.moved :=
    m.length_sectorBytes (min_le_right _ _)
  have beyond (i : Nat) (large : SECTOR_SIZE ≤ i) (other : ¬r.AnswersAt (offset + i)) :
      m'.ram (offset + i) = m.ram (offset + i) := by
    rw [ram _ other]
    refine overwrite_outside (.inr (Nat.add_le_add_left ?_ _))
    exact length.le.trans ((min_le_right _ _).trans large)
  constructor
  · intro filled i large short
    obtain ⟨a, byte, same⟩ := filled.data i short
    cases eq_of_bufferAt placed byte
    refine ⟨_, byte, Classical.or_iff_not_imp_left.mpr fun other => ?_⟩
    rw [← beyond i large other]
    exact same.resolve_left other
  · intro covered
    refine ⟨fun i short => ?_, fun a apart other => ?_, disk⟩
    · rcases Nat.lt_or_ge i SECTOR_SIZE with small | large
      · have moved : i < r.moved := lt_moved.mpr ⟨short, small⟩
        refine ⟨offset + i, bufferAt_of_placed placed moved, ?_⟩
        refine Classical.or_iff_not_imp_left.mpr fun other => ?_
        rw [ram _ other, overwrite_inside (length.symm ▸ moved)]
        simp only [Machine.sectorBytes, List.getElem_take, Vector.getElem_toList]
        exact @BlkDisk.view_at _ _ ⟨r.sector.toNat, inside⟩ i small
      · obtain ⟨a, byte, same⟩ := covered i large short
        cases eq_of_bufferAt placed byte
        refine ⟨_, byte, Classical.or_iff_not_imp_left.mpr fun other => ?_⟩
        rw [beyond i large other]
        exact same.resolve_left other
    · rw [ram a other]
      refine overwrite_outside (Classical.or_iff_not_imp_left.mpr fun reached => ?_)
      refine Nat.le_of_not_lt fun before => ?_
      rw [length] at before
      have moved : a - offset < r.moved := by omega
      have byte := bufferAt_of_placed placed moved
      rw [Nat.add_sub_cancel' (Nat.le_of_not_lt reached)] at byte
      exact apart _ (lt_moved.mp moved).1 byte

end BlkRequest

namespace Attempt

/-- The request did what its status says; a refused one did nothing. -/
structure Correct (q : Attempt) : Prop where
  refused : ∀ e, q.parsed = .error e → q.after.disk = q.before.disk ∧ q.after.ram = q.before.ram
  wrote : ∀ r, q.parsed = .ok r → q.answer = .ok VIRTIO_BLK_S_OK → r.typ = VIRTIO_BLK_T_OUT →
    r.Stored q.before q.after
  read : ∀ r, q.parsed = .ok r → q.answer = .ok VIRTIO_BLK_S_OK → r.typ = VIRTIO_BLK_T_IN →
    r.Filled q.before q.after
  failed : ∀ r, q.parsed = .ok r → q.answer ≠ .ok VIRTIO_BLK_S_OK →
    q.after.disk = q.before.disk ∧ ∀ a, ¬r.AnswersAt a → q.after.ram a = q.before.ram a

/-- One sector is enough for the request. -/
structure Covered (q : Attempt) : Prop where
  write : ∀ r, q.parsed = .ok r → r.Servable q.hv false → r.WriteCovered q.before
  read : ∀ r, q.parsed = .ok r → r.Servable q.hv true → r.ReadCovered q.before

theorem correct_of_refused {q : Attempt} {e : Refused} (parsed : q.parsed = .error e)
    (ram : q.after.ram = q.before.ram) (disk : q.after.disk = q.before.disk) : q.Correct where
  refused _ _ := ⟨disk, ram⟩
  wrote _ parsed' := by cases parsed.symm.trans parsed'
  read _ parsed' := by cases parsed.symm.trans parsed'
  failed _ parsed' := by cases parsed.symm.trans parsed'

theorem covered_of_refused {q : Attempt} {e : Refused} (parsed : q.parsed = .error e) :
    q.Covered where
  write _ parsed' := by cases parsed.symm.trans parsed'
  read _ parsed' := by cases parsed.symm.trans parsed'

/-- A request for one direction is not one for the other. -/
theorem not_servable_of_typ {hv : Hypervisor} {r : BlkRequest} {write : Bool}
    (asks : r.Servable hv write) : ¬r.Servable hv !write := by
  intro other
  have same := other.direction_eq asks.direction
  cases write with
  | true => cases same
  | false => cases same

/-- A request is correct exactly if one sector is enough for it. -/
theorem correct_iff (q : Attempt) : q.Correct ↔ q.Covered := by
  cases q.outcome with
  | refused parsed answer ram disk =>
      exact iff_of_true (correct_of_refused parsed ram disk) (covered_of_refused parsed)
  | @served r status m parsed answer service disk ram =>
      have only {r' : BlkRequest} (parsed' : q.parsed = .ok r') : r = r' := by
        cases parsed.symm.trans parsed'
        rfl
      have parses {P : Prop} (e : Refused) (failed : q.parsed = .error e) : P := by
        cases parsed.symm.trans failed
      cases service with
      | stored servable placed kept written =>
          have asks : r.typ = VIRTIO_BLK_T_OUT := servable.asks
          have settled := BlkRequest.stored_iff servable.inside placed (disk.trans written)
            fun a other => (ram a other).trans (congrFun kept a)
          constructor
          · intro correct
            refine ⟨fun r' parsed' _ => ?_, fun r' parsed' reads => ?_⟩
            · cases only parsed'
              exact settled.mp (correct.wrote r parsed answer asks)
            · cases only parsed'
              exact absurd reads (not_servable_of_typ servable)
          · intro covered
            refine ⟨parses, fun r' parsed' _ _ => ?_, fun r' parsed' _ reads => ?_, ?_⟩
            · cases only parsed'
              exact settled.mpr (covered.write r parsed servable)
            · cases only parsed'
              cases asks.symm.trans reads
            · exact fun r' _ failed => absurd answer failed
      | filled servable placed kept written =>
          have asks : r.typ = VIRTIO_BLK_T_IN := servable.asks
          have settled := BlkRequest.filled_iff servable.inside placed (disk.trans kept)
            fun a other => (ram a other).trans (congrFun written a)
          constructor
          · intro correct
            refine ⟨fun r' parsed' writes => ?_, fun r' parsed' _ => ?_⟩
            · cases only parsed'
              exact absurd writes (not_servable_of_typ servable)
            · cases only parsed'
              exact settled.mp (correct.read r parsed answer asks)
          · intro covered
            refine ⟨parses, fun r' parsed' _ writes => ?_, fun r' parsed' _ _ => ?_, ?_⟩
            · cases only parsed'
              cases asks.symm.trans writes
            · cases only parsed'
              exact settled.mpr (covered.read r parsed servable)
            · exact fun r' _ failed => absurd answer failed
      | failed not kept same =>
          have status : q.answer ≠ .ok VIRTIO_BLK_S_OK := by
            rw [answer]
            decide
          refine iff_of_true ⟨parses, ?_, ?_, ?_⟩ ⟨?_, ?_⟩
          · exact fun r' _ ok => absurd ok status
          · exact fun r' _ ok => absurd ok status
          · intro r' parsed' _
            cases only parsed'
            exact ⟨disk.trans same, fun a other => (ram a other).trans (congrFun kept a)⟩
          · intro r' parsed' servable
            cases only parsed'
            exact absurd servable (not false)
          · intro r' parsed' servable
            cases only parsed'
            exact absurd servable (not true)

end Attempt

/-- What can happen to the disk. -/
inductive Entry where
  | request (q : Attempt)
  | discard (t : Fin N_TENANTS)

/-- The byte that a successful write put at a position of a tenant's disk. -/
def Attempt.wrote (q : Attempt) (t : Fin N_TENANTS) (p : Nat) : Option UInt8 :=
  match q.parsed with
  | .error _ => none
  | .ok r =>
      if q.answer = .ok VIRTIO_BLK_S_OK ∧ r.typ = VIRTIO_BLK_T_OUT ∧ t = q.before.tenant ∧
          r.first ≤ p ∧ p < r.first + r.data.len.toNat then
        (bufferAt r.data.addr (p - r.first)).map q.before.ram
      else none

/-- The template under the tenant's writes since its last discard, the latest entry first. -/
def overlaid (template : Nat → Option UInt8) (t : Fin N_TENANTS) :
    List Entry → Nat → Option UInt8
  | [], p => template p
  | .request q :: earlier, p => (q.wrote t p).or (overlaid template t earlier p)
  | .discard t' :: earlier, p => if t = t' then template p else overlaid template t earlier p

/-- The machine after a sequence of requests and discards on a disk.  Between them the guests
run, and anything may change but the disk. -/
inductive Course (seeded : BlkDisk) : List Entry → Machine → Prop
  | start {m : Machine} : m.disk = seeded → Course seeded [] m
  | request {log : List Entry} (q : Attempt) :
      Course seeded log q.before → Course seeded (.request q :: log) q.after
  | discard {log : List Entry} {m : Machine} (t : Fin N_TENANTS) : Course seeded log m →
      Course seeded (.discard t :: log) { m with disk := m.disk.discardOverlay t }
  | elsewhere {log : List Entry} {m m' : Machine} :
      Course seeded log m → m'.disk = m.disk → Course seeded log m'

/-- The template is never written. -/
theorem Attempt.pristine_after (q : Attempt) : q.after.disk.pristine = q.before.disk.pristine := by
  cases q.outcome with
  | refused _ _ _ disk => rw [disk]
  | served _ _ service disk _ =>
      cases service with
      | stored _ _ _ written =>
          rw [disk, written]
          rfl
      | filled _ _ kept _ => rw [disk, kept]
      | failed _ _ same => rw [disk, same]

theorem Course.pristine {seeded : BlkDisk} {log : List Entry} (course : Course seeded log m) :
    m.disk.pristine = seeded.pristine := by
  induction course with
  | start disk => rw [disk]
  | request q _ ih => exact q.pristine_after.trans ih
  | discard t _ ih => exact ih
  | elsewhere _ disk ih => rw [disk, ih]

/-- A correct request moves the view of each tenant by what it wrote. -/
theorem Attempt.Correct.view_after {q : Attempt} (correct : q.Correct) (t : Fin N_TENANTS)
    (p : Nat) :
    q.after.disk.view t p = (q.wrote t p).or (q.before.disk.view t p) := by
  unfold Attempt.wrote
  cases parsed : q.parsed with
  | error e => rw [(correct.refused e parsed).1, Option.none_or]
  | ok r =>
      dsimp only
      split_ifs with written
      · obtain ⟨answer, writes, rfl, low, high⟩ := written
        have stored := correct.wrote r parsed answer writes
        obtain ⟨a, byte, same⟩ := stored.data (p - r.first) (by omega)
        rw [Nat.add_sub_cancel' low] at same
        rw [byte, same, Option.map_some, Option.some_or]
      · rw [Option.none_or]
        by_cases answer : q.answer = .ok VIRTIO_BLK_S_OK
        · cases q.outcome with
          | refused parsed' => cases parsed.symm.trans parsed'
          | served parsed' answer' service disk =>
              cases parsed.symm.trans parsed'
              cases service with
              | stored servable =>
                  have writes : r.typ = VIRTIO_BLK_T_OUT := servable.asks
                  refine (correct.wrote r parsed answer writes).others t p fun own => ?_
                  exact written ⟨answer, writes, own.1, own.2.1, own.2.2⟩
              | filled servable _ kept => rw [disk, kept]
              | failed _ _ same => rw [disk, same]
        · rw [(correct.failed r parsed answer).1]

theorem Course.view {seeded : BlkDisk} {log : List Entry} (fresh : seeded.Seeded)
    (course : Course seeded log m) (correct : ∀ q, Entry.request q ∈ log → q.Correct)
    (t : Fin N_TENANTS) (p : Nat) :
    m.disk.view t p = overlaid seeded.pristine t log p := by
  induction course with
  | start disk => rw [disk, fresh.view, overlaid]
  | request q _ ih =>
      have earlier := ih fun q' member => correct q' (List.mem_cons_of_mem _ member)
      rw [(correct q List.mem_cons_self).view_after, earlier, overlaid]
  | discard t' earlier ih =>
      have before := ih fun q' member => correct q' (List.mem_cons_of_mem _ member)
      rw [BlkDisk.view_discardOverlay, earlier.pristine, overlaid]
      split_ifs
      · rfl
      · exact before
  | elsewhere _ disk ih => rw [disk, ih correct]

/-- Every request did what its status says, and every tenant sees what it should. -/
structure AllRight (seeded : BlkDisk) (log : List Entry) (m : Machine) : Prop where
  requests : ∀ q, Entry.request q ∈ log → q.Correct
  views : ∀ t p, m.disk.view t p = overlaid seeded.pristine t log p

/-- Whatever the tenants do and in whatever order, all is right exactly when one sector is
enough for each of their requests. -/
theorem blk_requests_right_iff {seeded : BlkDisk} (fresh : seeded.Seeded) {log : List Entry}
    (course : Course seeded log m) :
    AllRight seeded log m ↔ ∀ q, Entry.request q ∈ log → q.Covered := by
  constructor
  · intro right q member
    exact q.correct_iff.mp (right.requests q member)
  · intro covered
    have correct (q : Attempt) (member : Entry.request q ∈ log) : q.Correct :=
      q.correct_iff.mpr (covered q member)
    exact ⟨correct, course.view fresh correct⟩

/-- A driver that writes a buffer of `256 * high` bytes to the first sector; the buffer is zero
but for its first byte and the first byte past a sector. -/
def probeWrite (high : UInt8) : Attempt where
  hv := Op.run Hypervisor.apply [.guest 0 (.domainCreate 1 false), .guest 1 (.p2mAllocate 5),
    .guest 1 (.grantAccess 0 0 5 false)] (Hypervisor.new ⟨2, 1, 1, 1, 1, 8, 0⟩)
  table := 0x80005000
  num := 3
  head := 0
  before := { probe 5 with
    ram := fun a => ([
      (0x5001, 0x51), (0x5003, 0x80), (0x5008, 16), (0x500c, 1), (0x500e, 1),
      (0x5011, 0x54), (0x5013, 0x80), (0x5019, high), (0x501c, 1), (0x501e, 2),
      (0x5021, 0x52), (0x5023, 0x80), (0x5028, 1), (0x502c, 2),
      (0x5100, 1), (0x5400, 7), (0x5600, 7)].lookup a).getD 0 }

/-- A buffer of one sector is stored. -/
theorem blk_sector_write_right :
    AllRight .new [.request (probeWrite 2)] (probeWrite 2).after := by
  have parsed : (probeWrite 2).parsed =
      .ok ⟨1, 0, ⟨0x80005400, 512, 1, 2⟩, ⟨0x80005200, 1, 2, 0⟩⟩ := by decide +kernel
  refine (blk_requests_right_iff .new (.request (probeWrite 2) (.start rfl))).mpr fun q member => ?_
  cases List.mem_singleton.mp member
  constructor
  · intro r parsed' _
    cases parsed.symm.trans parsed'
    exact ⟨fun i large short => absurd short (Nat.not_lt.mpr large),
      fun i after small => absurd small (Nat.not_lt.mpr after)⟩
  · intro r parsed' reads
    cases parsed.symm.trans parsed'
    exact absurd reads.asks (by decide)

/-- Of a buffer of two sectors only the first is stored, and the write reports success. -/
theorem blk_long_write_truncated :
    let q := probeWrite 4
    ∃ r, q.parsed = .ok r ∧ r.typ = VIRTIO_BLK_T_OUT ∧ r.data.len = 1024 ∧
      q.answer = .ok VIRTIO_BLK_S_OK ∧ ¬r.Stored q.before q.after ∧
      Course .new [.request q] q.after ∧ ¬AllRight .new [.request q] q.after := by
  intro q
  have parsed : q.parsed = .ok ⟨1, 0, ⟨0x80005400, 1024, 1, 2⟩, ⟨0x80005200, 1, 2, 0⟩⟩ := by
    decide +kernel
  have answer : q.answer = .ok VIRTIO_BLK_S_OK := by decide +kernel
  have lost : q.after.disk.view q.before.tenant 512 = some 0 := by decide +kernel
  have buffer : bufferAt 0x80005400 512 = some 0x5600 := by decide +kernel
  have byte : q.before.ram 0x5600 = 7 := by decide +kernel
  have short : ¬BlkRequest.Stored ⟨1, 0, ⟨0x80005400, 1024, 1, 2⟩, ⟨0x80005200, 1, 2, 0⟩⟩
      q.before q.after := by
    intro stored
    obtain ⟨a, found, same⟩ := stored.data 512 (by decide)
    cases buffer.symm.trans found
    rw [byte] at same
    exact absurd (lost.symm.trans same) (by decide)
  refine ⟨_, parsed, rfl, rfl, answer, short, .request q (.start rfl), fun right => ?_⟩
  exact short ((right.requests q List.mem_cons_self).wrote _ parsed answer rfl)

/-- A kick is a sequence of requests. -/
theorem handleVirtioBlkNotify_course {seeded : BlkDisk} {log : List Entry}
    (course : Course seeded log m) :
    ∃ more, Course seeded (more ++ log) (handleVirtioBlkNotify hv m).2 := by
  let Reached (m : Machine) : Prop := ∃ more, Course seeded (more ++ log) m
  have still {m m' : Machine} (reached : Reached m) (disk : m'.disk = m.disk) : Reached m' :=
    reached.imp fun _ course => course.elsewhere disk
  have quiet : Quiet Reached :=
    ⟨fun _ reached => still reached rfl, fun _ _ reached => still reached rfl⟩
  have writes (gpa : UInt64) (bytes : List UInt8) : Keeps Reached (backendWrite hv gpa bytes) :=
    quiet.backendWrite (fun _ _ reached => still reached rfl) gpa bytes
  have moves (f : Machine → Machine) (disk : ∀ m, (f m).disk = m.disk) :
      Keeps Reached (Op.modify f : Op Machine Refused Unit) :=
        fun m reached => still reached (disk m)
  have retires (num head : UInt16) (written : UInt32) :
    Keeps Reached (retire hv num head written) := by
    refine Keeps.read.bind fun m => (writes _ _).ignore.bind fun _ => ?_
    refine (writes _ _).ignore.bind fun _ => (moves _ ?_).bind fun _ => ?_
    · exact fun _ => rfl
    · exact (writes _ _).ignore.bind fun _ => moves _ fun _ => rfl
  have serves (num head : UInt16) : Keeps Reached (blkEntry hv num head) := by
    intro m reached
    obtain ⟨more, course⟩ := reached
    exact ⟨_ :: more, course.request ⟨hv, m.dev.queueDesc, num, head, m⟩⟩
  have kept := handleNotify_keeps quiet.backendReadU16 retires serves
    (fun _ _ reached => still reached rfl : ∀ m dev, Reached m → Reached (id { m with dev := dev }))
  exact kept m ⟨[], course⟩

end Baleen.Virtio
