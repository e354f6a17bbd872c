import Baleen.Lib.Bits
import Baleen.Lib.Keeps
import Baleen.Hypervisor.Runs
import Baleen.Virtio.Backend

/-!
# What the backends can touch

The gate admits an access by the grant rows of the guest alone, so the backends stay inside
what the guest named.  That is memory of the guest exactly as long as every row names a
frame it owns.
-/

namespace Baleen.Virtio

open P2m (Mfn)
open Op (Keeps)

variable {hv : Hypervisor} {P : Machine → Prop}

/-- Every byte of an access lies in a frame with the property. -/
def Access.Within (frame : Mfn → Prop) (a : Access) : Prop :=
  ∀ byte, a.offset ≤ byte → byte < a.offset + a.len → frame (UInt32.ofNat (byte / 2 ^ 12))

/-- The frame is granted to the backend, for writing if it is written. -/
def Granted (hv : Hypervisor) (write : Bool) (m : Mfn) : Prop :=
  hv.grant.authorizes VIRTIO_DOM VIRTIO_BACKEND m write = true

/-- Every access stayed in frames that the guest granted. -/
def Gated (hv : Hypervisor) (m : Machine) : Prop :=
  ∀ a ∈ m.accesses, a.Within (Granted hv a.write) ∧ a.offset + a.len ≤ DATA_WINDOW

/-- The gate passes an access that lies in one granted frame. -/
structure Admitted (hv : Hypervisor) (gpa : UInt64) (len : Nat) (write : Bool) : Prop where
  above : ¬gpa < DATA_IPA_BASE
  inside : gpa.toNat % 2 ^ 12 + len ≤ 2 ^ 12
  granted : Granted hv write ((gpa - DATA_IPA_BASE) / FRAME_SIZE).toUInt32

theorem toNat_dataIpaBase : DATA_IPA_BASE.toNat = 2 ^ 31 := rfl

theorem toNat_frameSize : FRAME_SIZE.toNat = 2 ^ 12 := rfl

theorem toNat_pageOffset (gpa : UInt64) :
    (gpa &&& (FRAME_SIZE - 1)).toNat = gpa.toNat % 2 ^ 12 := by
  have mask : (FRAME_SIZE - 1).toNat = 2 ^ 12 - 1 := rfl
  rw [UInt64.toNat_and, mask, Nat.and_two_pow_sub_one_eq_mod]

/-- The gate, as a whole: it lets exactly the admitted accesses through, and touches no memory. -/
theorem backendAuthorize_spec {gpa : UInt64} {len : Nat} (short : len < 2 ^ 32) (write : Bool)
    (m : Machine) :
    (Admitted hv gpa len write ∧ backendAuthorize hv gpa (UInt64.ofNat len) write m = (.ok (), m)) ∨
      (¬Admitted hv gpa len write ∧ backendAuthorize hv gpa (UInt64.ofNat len) write m =
        (.error .refused, { m with ungrantedRefused := true })) := by
  have size : (UInt64.ofNat len).toNat = len :=
    UInt64.toNat_ofNat_of_lt' (show len < 2 ^ 64 by omega)
  have crossing : FRAME_SIZE < (gpa &&& (FRAME_SIZE - 1)) + UInt64.ofNat len ↔
      2 ^ 12 < gpa.toNat % 2 ^ 12 + len := by
    rw [UInt64.lt_iff_toNat_lt, UInt64.toNat_add, toNat_pageOffset, size, toNat_frameSize]
    omega
  rw [backendAuthorize, gpaToMfn]
  by_cases below : gpa < DATA_IPA_BASE
  · rw [if_pos below]
    exact .inr ⟨fun admitted => admitted.above below, rfl⟩
  · simp only [if_neg below, crossing]
    split_ifs with cross granted
    · exact .inr ⟨fun admitted => Nat.not_lt.mpr admitted.inside cross, rfl⟩
    · exact .inl ⟨⟨below, Nat.le_of_not_lt cross, granted⟩, rfl⟩
    · exact .inr ⟨fun admitted => granted admitted.granted, rfl⟩

theorem ipaToPa_eq_some {gpa : UInt64} {len offset : Nat} :
    ipaToPa gpa len = some offset ↔ ¬gpa < DATA_IPA_BASE ∧ offset = (gpa - DATA_IPA_BASE).toNat ∧
      offset + len ≤ DATA_WINDOW := by
  rw [ipaToPa]
  split_ifs with below past
  · exact ⟨nofun, fun placed => absurd below placed.1⟩
  · refine ⟨nofun, fun placed => ?_⟩
    rw [placed.2.1] at placed
    exact absurd past (Nat.not_lt.mpr placed.2.2)
  · rw [Option.some.injEq]
    refine ⟨fun same => ⟨below, same.symm, ?_⟩, fun placed => placed.2.1.symm⟩
    rw [← same]
    exact Nat.le_of_not_lt past

/-- An admitted access inside the window stays in the frame that the gate looked up. -/
theorem Admitted.within {gpa : UInt64} {len offset : Nat} {write : Bool}
    (admitted : Admitted hv gpa len write) (placed : ipaToPa gpa len = some offset) :
    Access.Within (Granted hv write) ⟨write, offset, len⟩ ∧ offset + len ≤ DATA_WINDOW := by
  obtain ⟨above, rfl, room⟩ := ipaToPa_eq_some.mp placed
  refine ⟨fun byte first last => ?_, room⟩
  have offset : (gpa - DATA_IPA_BASE).toNat = gpa.toNat - 2 ^ 31 := by
    rw [UInt64.toNat_sub_of_le _ _ (UInt64.not_lt.mp above), toNat_dataIpaBase]
  have large : 2 ^ 31 ≤ gpa.toNat := by
    rw [← toNat_dataIpaBase]
    exact UInt64.le_iff_toNat_le.mp (UInt64.not_lt.mp above)
  have inside := admitted.inside
  rw [DATA_WINDOW] at room
  simp only [offset] at first last room
  have frame : UInt32.ofNat (byte / 2 ^ 12) = ((gpa - DATA_IPA_BASE) / FRAME_SIZE).toUInt32 := by
    apply UInt32.toNat_inj.mp
    rw [Words.toNat_ofNat32 (by omega), UInt64.toNat_toUInt32, UInt64.toNat_div, offset,
      toNat_frameSize]
    omega
  rw [frame]
  exact admitted.granted

theorem Admitted.backendRead {gpa : UInt64} {len offset : Nat} (short : len < 2 ^ 32)
    (admitted : Admitted hv gpa len false) (placed : ipaToPa gpa len = some offset) (m : Machine) :
    backendRead hv gpa len m = (.ok ((List.range len).map fun i => m.ram (offset + i)),
      { m with accesses := ⟨false, offset, len⟩ :: m.accesses }) := by
  have passed := ((@backendAuthorize_spec hv gpa len short false m).resolve_right
    fun refused => refused.1 admitted).2
  rw [Virtio.backendRead, Op.bind_of_ok passed, guestRead, placed]
  rfl

/-- The machines differ at most in what the backends report. -/
structure SameWorld (m m' : Machine) : Prop where
  dev : m'.dev = m.dev
  ram : m'.ram = m.ram
  disk : m'.disk = m.disk
  tenant : m'.tenant = m.tenant

theorem SameWorld.refl (m : Machine) : SameWorld m m := ⟨rfl, rfl, rfl, rfl⟩

theorem SameWorld.trans {m m' m'' : Machine} (first : SameWorld m m') (second : SameWorld m' m'') :
    SameWorld m m'' where
  dev := second.dev.trans first.dev
  ram := second.ram.trans first.ram
  disk := second.disk.trans first.disk
  tenant := second.tenant.trans first.tenant

/-- An access that the gate admits and that lies in the window. -/
def Reachable (hv : Hypervisor) (gpa : UInt64) (len : Nat) (write : Bool) (offset : Nat) : Prop :=
  Admitted hv gpa len write ∧ ipaToPa gpa len = some offset

/-- A read delivers bytes of the window, or it is refused; either way the world is the same. -/
theorem backendRead_cases {gpa : UInt64} {len : Nat} (short : len < 2 ^ 32) (m : Machine) :
    (∃ offset m', Reachable hv gpa len false offset ∧ SameWorld m m' ∧
        backendRead hv gpa len m = (.ok ((List.range len).map fun i => m.ram (offset + i)), m')) ∨
      (∀ offset, ¬Reachable hv gpa len false offset) ∧
        ∃ m', SameWorld m m' ∧ backendRead hv gpa len m = (.error .refused, m') := by
  rcases @backendAuthorize_spec hv gpa len short false m with ⟨admitted, passed⟩ | ⟨not, refused⟩
  · cases placed : ipaToPa gpa len with
    | some offset =>
        have ran := admitted.backendRead short placed m
        refine .inl ⟨offset, _, ⟨admitted, placed⟩, ?_, ran⟩
        exact ⟨rfl, rfl, rfl, rfl⟩
    | none =>
        refine .inr ⟨fun offset reachable => ?_, m, SameWorld.refl m, ?_⟩
        · cases placed.symm.trans reachable.2
        · rw [Virtio.backendRead, Op.bind_of_ok passed, guestRead, placed]
          rfl
  · have ran : backendRead hv gpa len m = _ := Op.bind_of_error refused
    refine .inr ⟨fun offset reachable => not reachable.1, _, ?_, ran⟩
    exact ⟨rfl, rfl, rfl, rfl⟩

/-- A property that the reports of the backends are no part of. -/
structure Quiet (P : Machine → Prop) : Prop where
  refused : ∀ m, P m → P { m with ungrantedRefused := true }
  accessed : ∀ m a, P m → P { m with accesses := a :: m.accesses }

theorem quiet_sameWorld (m₀ : Machine) : Quiet (SameWorld m₀) where
  refused _ same := same.trans ⟨rfl, rfl, rfl, rfl⟩
  accessed _ _ same := same.trans ⟨rfl, rfl, rfl, rfl⟩

theorem bothReads_keeps {α β : Type} {first : Op Machine Refused α} {second : Op Machine Refused β}
    (one : Keeps P first) (two : Keeps P second) : Keeps P (bothReads first second) := by
  refine one.attempt.bind fun a => two.attempt.bind fun b => ?_
  cases a with
  | error _ => exact .fail _
  | ok a =>
      cases b with
      | error _ => exact .fail _
      | ok b => exact .pure _

namespace Quiet

variable (quiet : Quiet P)
include quiet

theorem backendAuthorize (gpa len : UInt64) (writable : Bool) :
    Keeps P (backendAuthorize hv gpa len writable) := by
  have refused : Keeps P (refuse : Op Machine Refused Unit) := quiet.refused
  unfold Virtio.backendAuthorize
  cases gpaToMfn gpa with
  | none => exact refused
  | some mfn =>
      simp only
      split_ifs
      · exact refused
      · exact .pure _
      · exact refused

theorem guestRead (gpa : UInt64) (len : Nat) : Keeps P (guestRead gpa len) := by
  unfold Virtio.guestRead
  cases ipaToPa gpa len with
  | none => exact .fail _
  | some offset => exact fun m holds => quiet.accessed m _ holds

theorem backendRead (gpa : UInt64) (len : Nat) : Keeps P (backendRead hv gpa len) :=
  (quiet.backendAuthorize _ _ _).bind fun _ => quiet.guestRead _ _

theorem backendReadU16 (gpa : UInt64) : Keeps P (backendReadU16 hv gpa) :=
  (quiet.backendRead _ _).bind fun _ => .pure _

theorem backendReadU32 (gpa : UInt64) : Keeps P (backendReadU32 hv gpa) :=
  (quiet.backendRead _ _).bind fun _ => .pure _

theorem backendReadU64 (gpa : UInt64) : Keeps P (backendReadU64 hv gpa) :=
  (quiet.backendRead _ _).bind fun _ => .pure _

theorem backendReadDesc (table : UInt64) (index num : UInt16) :
    Keeps P (backendReadDesc hv table index num) := by
  unfold Virtio.backendReadDesc
  split
  · exact .fail _
  · refine (quiet.backendReadU64 _).bind fun addr => (quiet.backendReadU32 _).bind fun len => ?_
    refine (quiet.backendReadU16 _).bind fun flags => ?_
    exact (quiet.backendReadU16 _).bind fun _ => .pure _

theorem guestWrite (written : ∀ m ram, P m → P { m with ram := ram }) (gpa : UInt64)
    (bytes : List UInt8) : Keeps P (guestWrite gpa bytes) := by
  unfold Virtio.guestWrite
  cases ipaToPa gpa bytes.length with
  | none => exact .fail _
  | some offset => exact fun m holds => written _ _ (quiet.accessed m _ holds)

theorem backendWrite (written : ∀ m ram, P m → P { m with ram := ram }) (gpa : UInt64)
    (bytes : List UInt8) : Keeps P (backendWrite hv gpa bytes) :=
  (quiet.backendAuthorize _ _ _).bind fun _ => quiet.guestWrite written _ _

end Quiet

theorem Gated.of_accesses {m m' : Machine} (gated : Gated hv m) (same : m'.accesses = m.accesses) :
    Gated hv m' := by
  rw [Gated, same]
  exact gated

theorem guestRead_gated {gpa : UInt64} {len : Nat} (admitted : Admitted hv gpa len false) :
    Keeps (Gated hv) (guestRead gpa len) := by
  intro m gated
  rw [guestRead]
  cases placed : ipaToPa gpa len with
  | none => exact gated
  | some offset =>
      intro a member
      rcases List.mem_cons.mp member with rfl | earlier
      · exact admitted.within placed
      · exact gated a earlier

theorem guestWrite_gated {gpa : UInt64} {bytes : List UInt8}
    (admitted : Admitted hv gpa bytes.length true) : Keeps (Gated hv) (guestWrite gpa bytes) := by
  intro m gated
  rw [guestWrite]
  cases placed : ipaToPa gpa bytes.length with
  | none => exact gated
  | some offset =>
      intro a member
      rcases List.mem_cons.mp member with rfl | earlier
      · exact admitted.within placed
      · exact gated a earlier

/-- An operation behind the gate may rely on the access being admitted. -/
theorem gated_bind {α : Type} {gpa : UInt64} {len : Nat} (short : len < 2 ^ 32) {write : Bool}
    {f : Unit → Op Machine Refused α}
    (next : Admitted hv gpa len write → Keeps (Gated hv) (f ())) :
    Keeps (Gated hv) (backendAuthorize hv gpa (UInt64.ofNat len) write >>= f) := by
  intro m gated
  rcases @backendAuthorize_spec hv gpa len short write m with ⟨admitted, ran⟩ | ⟨-, ran⟩
  · rw [Op.bind_of_ok ran]
    exact next admitted m gated
  · rw [Op.bind_of_error ran]
    exact gated.of_accesses rfl

theorem backendRead_gated {gpa : UInt64} {len : Nat} (short : len < 2 ^ 32) :
    Keeps (Gated hv) (backendRead hv gpa len) := gated_bind short guestRead_gated

theorem backendWrite_gated {gpa : UInt64} {bytes : List UInt8} (short : bytes.length < 2 ^ 32) :
    Keeps (Gated hv) (backendWrite hv gpa bytes) := gated_bind short guestWrite_gated

theorem backendReadU16_gated {gpa : UInt64} : Keeps (Gated hv) (backendReadU16 hv gpa) :=
  (backendRead_gated (by decide)).bind fun _ => .pure _

theorem backendReadU32_gated {gpa : UInt64} : Keeps (Gated hv) (backendReadU32 hv gpa) :=
  (backendRead_gated (by decide)).bind fun _ => .pure _

theorem backendReadU64_gated {gpa : UInt64} : Keeps (Gated hv) (backendReadU64 hv gpa) :=
  (backendRead_gated (by decide)).bind fun _ => .pure _

theorem retire_gated {num head : UInt16} {written : UInt32} :
    Keeps (Gated hv) (retire hv num head written) := by
  have short : ∀ width value, width < 2 ^ 32 → (toLeBytes width value).length < 2 ^ 32 := by
    intro width value small
    rw [toLeBytes, List.length_map, List.length_range]
    exact small
  refine Keeps.read.bind fun m => ?_
  refine (backendWrite_gated (short _ _ (by decide))).ignore.bind fun _ => ?_
  refine (backendWrite_gated (short _ _ (by decide))).ignore.bind fun _ => ?_
  refine (Keeps.modify fun _ gated => gated.of_accesses rfl).bind fun _ => ?_
  refine (backendWrite_gated (short _ _ (by decide))).ignore.bind fun _ => ?_
  exact Keeps.modify fun _ gated => gated.of_accesses rfl

section Serving

variable {serve : UInt16 → UInt16 → Op Machine Refused UInt32}
  (reads : ∀ gpa, Keeps P (backendReadU16 hv gpa))
  (retires : ∀ num head written, Keeps P (retire hv num head written))
  (serves : ∀ num head, Keeps P (serve num head))
include reads retires serves

theorem serveNext_keeps (num : UInt16) : Keeps P (serveNext hv serve num) := by
  refine Keeps.read.bind fun m => ?_
  refine (reads _).bind fun head => ?_
  exact (serves num head).bind fun _ => retires _ _ _

theorem serveAll_keeps (num availIdx : UInt16) (fuel : Nat) :
    Keeps P (serveAll hv serve num availIdx fuel) := by
  induction fuel with
  | zero => exact .pure _
  | succ fuel ih =>
      refine Keeps.read.bind fun m => ?_
      split
      · exact .pure _
      · exact (serveNext_keeps reads retires serves num).bind fun _ => ih

theorem handleNotify_keeps {done : Machine → Machine}
    (finish : ∀ m dev, P m → P (done { m with dev := dev })) :
    Keeps P (handleNotify hv serve done) := by
  refine Keeps.read.bind fun m => ?_
  dsimp only
  split
  · exact .pure _
  · refine (reads _).bind fun availIdx => ?_
    refine (serveAll_keeps reads retires serves _ availIdx _).bind fun _ => ?_
    exact Keeps.modify fun m holds => finish m _ holds

end Serving

theorem drainEntry_gated (num head : UInt16) : Keeps (Gated hv) (drainEntry hv num head) := by
  refine Keeps.read.bind fun m => ?_
  refine (bothReads_keeps backendReadU64_gated backendReadU32_gated).bind fun (addr, len) => ?_
  have short : (min len MAX_TX).toNat < 2 ^ 32 := UInt32.toNat_lt _
  refine (backendRead_gated short).attempt.bind fun result => ?_
  cases result with
  | error _ => exact .pure _
  | ok bytes => exact (Keeps.modify fun _ gated => gated.of_accesses rfl).bind fun _ => .pure _

theorem backendReadDesc_gated {descTable : UInt64} {index num : UInt16} :
    Keeps (Gated hv) (backendReadDesc hv descTable index num) := by
  rw [backendReadDesc]
  split
  · exact .fail _
  · refine backendReadU64_gated.bind fun addr => ?_
    refine backendReadU32_gated.bind fun len => ?_
    refine backendReadU16_gated.bind fun flags => ?_
    exact backendReadU16_gated.bind fun next => .pure _

/-- The same where a refusal is answered in place. -/
theorem gated_attempt {α : Type} {gpa : UInt64} {len : Nat} (short : len < 2 ^ 32) {write : Bool}
    {f : Except Refused Unit → Op Machine Refused α}
    (refused : Keeps (Gated hv) (f (.error .refused)))
    (next : Admitted hv gpa len write → Keeps (Gated hv) (f (.ok ()))) :
    Keeps (Gated hv) (Op.attempt (backendAuthorize hv gpa (UInt64.ofNat len) write) >>= f) := by
  intro m gated
  rw [Op.attempt_bind_apply]
  rcases @backendAuthorize_spec hv gpa len short write m with ⟨admitted, ran⟩ | ⟨-, ran⟩
  · rw [ran]
    exact next admitted m gated
  · rw [ran]
    exact refused _ (gated.of_accesses rfl)

theorem blkRefuse_gated : Keeps (Gated hv) blkRefuse :=
  (Keeps.modify fun _ gated => gated.of_accesses rfl).bind fun _ => .pure _

theorem serveIn_gated {sector : Fin DISK_SECTORS} {addr : UInt64} {n : Nat}
    (small : n ≤ SECTOR_SIZE) :
    Keeps (Gated hv) (serveIn hv sector addr n) := by
  refine gated_attempt (lt_of_le_of_lt small (by decide)) blkRefuse_gated fun admitted => ?_
  refine Keeps.read.bind fun m => ?_
  have length : ((m.disk.read m.tenant sector).toList.take n).length = n := by
    rw [List.length_take, Vector.length_toList]
    exact min_eq_left small
  have write : Keeps (Gated hv)
    (guestWrite addr ((m.disk.read m.tenant sector).toList.take n)) := by
    apply guestWrite_gated
    rw [length]
    exact admitted
  refine write.attempt.bind fun result => ?_
  cases result with
  | error _ => exact .pure _
  | ok _ => exact (Keeps.modify fun _ gated => gated.of_accesses rfl).bind fun _ => .pure _

theorem serveOut_gated {sector : Fin DISK_SECTORS} {addr : UInt64} {n : Nat}
    (small : n ≤ SECTOR_SIZE) :
    Keeps (Gated hv) (serveOut hv sector addr n) := by
  refine gated_attempt (lt_of_le_of_lt small (by decide)) blkRefuse_gated fun admitted => ?_
  refine (guestRead_gated admitted).attempt.bind fun result => ?_
  cases result with
  | error _ => exact .pure _
  | ok _ => exact (Keeps.modify fun _ gated => gated.of_accesses rfl).bind fun _ => .pure _

theorem serveData_gated {typ : UInt32} {sector : UInt64} {d1 : BlkDesc} :
    Keeps (Gated hv) (serveData hv typ sector d1) := by
  have small : min d1.len.toNat SECTOR_SIZE ≤ SECTOR_SIZE := min_le_right _ _
  rw [serveData]
  split_ifs
  · exact serveIn_gated small
  · exact serveOut_gated small
  · exact .pure _
  · exact .pure _

theorem processBlkRequest_gated {descTable : UInt64} {num head : UInt16} :
    Keeps (Gated hv) (processBlkRequest hv descTable num head) := by
  refine backendReadDesc_gated.bind fun d0 => ?_
  split
  · exact .fail _
  · refine (bothReads_keeps backendReadU32_gated backendReadU64_gated).bind fun (typ, sector) => ?_
    refine backendReadDesc_gated.bind fun d1 => ?_
    split
    · exact .fail _
    · refine backendReadDesc_gated.bind fun d2 => ?_
      refine serveData_gated.bind fun status => ?_
      exact (backendWrite_gated (Nat.one_lt_two_pow (by decide))).ignore

theorem blkEntry_gated (num head : UInt16) : Keeps (Gated hv) (blkEntry hv num head) :=
  Keeps.read.bind fun _ => processBlkRequest_gated.ignore.bind fun _ => .pure _

theorem handleVirtioNotify_gated : Keeps (Gated hv) (handleVirtioNotify hv) :=
  handleNotify_keeps (fun _ => backendReadU16_gated) (fun _ _ _ => retire_gated) drainEntry_gated
    fun _ _ gated => gated.of_accesses rfl

theorem handleVirtioBlkNotify_gated : Keeps (Gated hv) (handleVirtioBlkNotify hv) :=
  handleNotify_keeps (fun _ => backendReadU16_gated) (fun _ _ _ => retire_gated) blkEntry_gated
    fun _ _ gated => gated.of_accesses rfl

/-- Every access stayed in frames that the guest owns and granted. -/
def Confined (hv : Hypervisor) (m : Machine) : Prop :=
  ∀ a ∈ m.accesses, a.Within fun frame =>
    hv.p2m.ownerOf frame = some VIRTIO_DOM ∧ Granted hv a.write frame

/-- The guest granted the backend no frame of the window but its own. -/
def GrantsOwnFrames (hv : Hypervisor) : Prop :=
  ∀ frame : Mfn, frame.toNat < 512 → Granted hv false frame → hv.p2m.ownerOf frame = some VIRTIO_DOM

/-- A grant for writing serves for reading. -/
theorem Granted.read {write : Bool} {frame : Mfn} (granted : Granted hv write frame) :
    Granted hv false frame := by
  cases write with
  | false => exact granted
  | true =>
      rw [Granted, Grant.System.authorizes] at granted ⊢
      cases known : hv.grant.domain VIRTIO_DOM with
      | error _ =>
          rw [known] at granted
          cases granted
      | ok entries =>
          rw [known] at granted
          rw [List.any_eq_true] at granted ⊢
          obtain ⟨e, member, covered⟩ := granted
          refine ⟨e, member, ?_⟩
          cases e with
          | free => exact covered
          | access a =>
              simp only [Grant.System.covers, Bool.and_eq_true] at covered ⊢
              exact ⟨covered.1, rfl⟩

theorem Gated.confined {m : Machine} (gated : Gated hv m) (own : GrantsOwnFrames hv) :
    Confined hv m := by
  intro a member byte first last
  obtain ⟨within, room⟩ := gated a member
  have granted := within byte first last
  rw [DATA_WINDOW] at room
  refine ⟨own _ ?_ granted.read, granted⟩
  rw [Words.toNat_ofNat32 (by omega)]
  omega

/-- A driver whose queue starts in a given frame, over empty memory. -/
def probe (frame : Mfn) : Machine where
  dev := { status := STATUS_DRIVER_OK, queueReady := 1, queueNum := 1,
           queueDriver := DATA_IPA_BASE + frame.toUInt64 * FRAME_SIZE }
  ram := fun _ => 0
  disk := .new
  tenant := ⟨0, by decide⟩
  output := []
  ungrantedRefused := false
  blkUngrantedRefused := false
  drainedOk := false
  accesses := []

/-- The address where such a driver keeps its index, admitted and inside the window. -/
theorem probe_address {frame : Mfn} (small : frame.toNat < 512) (granted : Granted hv false frame) :
    Admitted hv (DATA_IPA_BASE + frame.toUInt64 * FRAME_SIZE + 2) 2 false ∧
      ipaToPa (DATA_IPA_BASE + frame.toUInt64 * FRAME_SIZE + 2) 2 =
        some (frame.toNat * 2 ^ 12 + 2) := by
  have value : (DATA_IPA_BASE + frame.toUInt64 * FRAME_SIZE + 2).toNat =
      2 ^ 31 + frame.toNat * 2 ^ 12 + 2 := by
    have two : (2 : UInt64).toNat = 2 := rfl
    rw [UInt64.toNat_add, UInt64.toNat_add, UInt64.toNat_mul, UInt32.toNat_toUInt64,
      toNat_frameSize, toNat_dataIpaBase, two]
    omega
  have above : ¬DATA_IPA_BASE + frame.toUInt64 * FRAME_SIZE + 2 < DATA_IPA_BASE := by
    rw [UInt64.lt_iff_toNat_lt, value, toNat_dataIpaBase]
    omega
  have offset : (DATA_IPA_BASE + frame.toUInt64 * FRAME_SIZE + 2 - DATA_IPA_BASE).toNat =
      frame.toNat * 2 ^ 12 + 2 := by
    rw [UInt64.toNat_sub_of_le _ _ (UInt64.not_lt.mp above), value, toNat_dataIpaBase]
    omega
  have looked : ((DATA_IPA_BASE + frame.toUInt64 * FRAME_SIZE + 2 - DATA_IPA_BASE) /
      FRAME_SIZE).toUInt32 = frame := by
    apply UInt32.toNat_inj.mp
    rw [UInt64.toNat_toUInt32, UInt64.toNat_div, offset, toNat_frameSize]
    omega
  refine ⟨⟨above, ?_, ?_⟩, ?_⟩
  · rw [value]
    omega
  · rw [looked]
    exact granted
  · rw [ipaToPa_eq_some, offset, DATA_WINDOW]
    exact ⟨above, rfl, by omega⟩

/-- The kick of such a driver reads the granted frame. -/
theorem probe_reads {frame : Mfn} (small : frame.toNat < 512) (granted : Granted hv false frame) :
    ⟨false, frame.toNat * 2 ^ 12 + 2, 2⟩ ∈ (handleVirtioNotify hv (probe frame)).2.accesses := by
  obtain ⟨admitted, placed⟩ := probe_address small granted
  have index : backendReadU16 hv (DATA_IPA_BASE + frame.toUInt64 * FRAME_SIZE + 2) (probe frame) =
      (.ok 0, { probe frame with accesses := [⟨false, frame.toNat * 2 ^ 12 + 2, 2⟩] }) := by
    have ran := admitted.backendRead (by decide) placed (probe frame)
    exact Op.bind_of_ok ran
  have live : (probe frame).dev.queueLive = true := by
    change (decide (STATUS_DRIVER_OK &&& STATUS_DRIVER_OK ≠ 0) && decide ((1 : UInt32) = 1)) = true
    decide
  have num : (probe frame).dev.queueNum.toUInt16 = 1 := rfl
  have nonempty : ¬((!true || decide ((1 : UInt16) = 0)) = true) := by decide
  have address : (probe frame).dev.queueDriver + VIRTQ_AVAIL_IDX_OFF =
      DATA_IPA_BASE + frame.toUInt64 * FRAME_SIZE + 2 := rfl
  rw [handleVirtioNotify, handleNotify, Op.read_bind_apply]
  simp only [live, num]
  rw [if_neg nonempty, address, Op.bind_of_ok index]
  exact List.mem_singleton.mpr rfl

/-- The backends are confined to what the guest owns and granted, over every register file and
every content of memory, exactly when each of the guest's grant rows names a frame of its own. -/
theorem backends_confined_iff (hv : Hypervisor) :
    (∀ m : Machine, m.accesses = [] →
        Confined hv (handleVirtioNotify hv m).2 ∧ Confined hv (handleVirtioBlkNotify hv m).2) ↔
      GrantsOwnFrames hv := by
  constructor
  · intro confined frame small granted
    have read := probe_reads small granted
    have inside := (confined (probe frame) rfl).1 _ read (frame.toNat * 2 ^ 12 + 2) le_rfl
      (Nat.lt_add_of_pos_right Nat.two_pos)
    have same : UInt32.ofNat ((frame.toNat * 2 ^ 12 + 2) / 2 ^ 12) = frame := by
      apply UInt32.toNat_inj.mp
      rw [Words.toNat_ofNat32 (by omega)]
      omega
    rw [same] at inside
    exact inside.1
  · intro own m fresh
    have start : Gated hv m := by
      rw [Gated, fresh]
      exact nofun
    exact ⟨(handleVirtioNotify_gated m start).confined own,
      (handleVirtioBlkNotify_gated m start).confined own⟩

/-- A row for a frame of a third domain lets the backend write that domain's memory. -/
theorem backends_reach_foreign_frame :
    let hv := Op.run Hypervisor.apply [.guest 0 (.domainCreate 1 false),
      .guest 0 (.domainCreate 2 false), .guest 2 (.p2mAllocate 5),
      .guest 1 (.grantAccess 0 0 5 false)] (Hypervisor.new ⟨3, 1, 1, 1, 1, 8, 0⟩)
    let m : Machine :=
      { probe 5 with
        dev := { (probe 5).dev with queueDesc := 0x80005000, queueDevice := 0x80005000 }
        ram := fun a => if a = 0x5002 then 1 else 0 }
    Hypervisor.Reachable ⟨3, 1, 1, 1, 1, 8, 0⟩ hv ∧ hv.p2m.ownerOf 5 = some 2 ∧ m.accesses = [] ∧
      ⟨true, 0x5004, 4⟩ ∈ (handleVirtioNotify hv m).2.accesses ∧
      ¬Confined hv (handleVirtioNotify hv m).2 := by
  intro hv m
  have owner : hv.p2m.ownerOf 5 = some 2 := by decide +kernel
  have written : ⟨true, 0x5004, 4⟩ ∈ (handleVirtioNotify hv m).2.accesses := by decide +kernel
  refine ⟨⟨_, rfl⟩, owner, rfl, written, fun confined => ?_⟩
  have own := (confined _ written 0x5004 le_rfl (by decide)).1
  have frame : UInt32.ofNat (0x5004 / 2 ^ 12) = 5 := by decide
  rw [frame, owner] at own
  exact absurd own (by decide)

end Baleen.Virtio
