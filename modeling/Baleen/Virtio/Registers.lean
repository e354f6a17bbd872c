import Mathlib.Data.List.Induction
import Baleen.Virtio.Transport

/-!
# Two devices on one transport

The console and the block device each have a register file of their own, written to be the
same.  They agree over a history as long as every reset finds the console as a fresh one
would be, since only the block device takes a reset as one.
-/

namespace Baleen.Virtio

/-- What happens to a device: a register write, or its backend retiring requests and, after a
full walk, raising the interrupt. -/
inductive BusEvent where
  | write (offset : UInt64) (value : UInt32)
  | served (n : UInt16) (complete : Bool)
  deriving DecidableEq, Repr

def Transport.served (t : Transport) (n : UInt16) (complete : Bool) : Transport :=
  { t with
    usedIdx := t.usedIdx + n
    lastAvailIdx := t.lastAvailIdx + n
    interruptStatus := if complete then t.interruptStatus ||| 1 else t.interruptStatus }

namespace VirtioConsole

def queueLive (d : VirtioConsole) : Bool := d.transport.queueLive

def on (d : VirtioConsole) : BusEvent → VirtioConsole
  | .write offset value => (d.mmioWrite offset value).1
  | .served n complete => ⟨d.transport.served n complete⟩

def after (d : VirtioConsole) (events : List BusEvent) : VirtioConsole := events.foldl on d

end VirtioConsole

namespace VirtioBlk

def queueLive (d : VirtioBlk) : Bool := d.transport.queueLive

def on (d : VirtioBlk) : BusEvent → VirtioBlk
  | .write offset value => (d.mmioWrite offset value).1
  | .served n complete => { d with transport := d.transport.served n complete }

def after (d : VirtioBlk) (events : List BusEvent) : VirtioBlk := events.foldl on d

end VirtioBlk

/-- The registers that the driver cannot read and that the backend uses. -/
def Transport.backend (t : Transport) : UInt16 × UInt64 × UInt64 × UInt64 × UInt16 × UInt16 :=
  (t.queueNum.toUInt16, t.queueDesc, t.queueDriver, t.queueDevice, t.usedIdx, t.lastAvailIdx)

/-- Two register files that differ in nothing that matters: of the selectors and the accepted
features one bit does, the queue selector and the first feature word do not. -/
structure Transport.Alike (t t' : Transport) : Prop where
  deviceFeatures : t.deviceFeaturesSel = 1 ↔ t'.deviceFeaturesSel = 1
  word : t.driverFeaturesSel &&& 1 = t'.driverFeaturesSel &&& 1
  version : t.driverFeatures1 &&& VERSION_1_WORD1_MASK = t'.driverFeatures1 &&& VERSION_1_WORD1_MASK
  queueReady : t.queueReady = t'.queueReady
  status : t.status = t'.status
  interruptStatus : t.interruptStatus = t'.interruptStatus
  queueNum : t.queueNum.toUInt16 = t'.queueNum.toUInt16
  queueDesc : t.queueDesc = t'.queueDesc
  queueDriver : t.queueDriver = t'.queueDriver
  queueDevice : t.queueDevice = t'.queueDevice
  usedIdx : t.usedIdx = t'.usedIdx
  lastAvailIdx : t.lastAvailIdx = t'.lastAvailIdx

namespace Transport.Alike

variable {t t' : Transport}

theorem refl (t : Transport) : Alike t t :=
  ⟨Iff.rfl, rfl, rfl, rfl, rfl, rfl, rfl, rfl, rfl, rfl, rfl, rfl⟩

theorem backend (alike : Alike t t') : t.backend = t'.backend := by
  unfold Transport.backend
  rw [alike.queueNum, alike.queueDesc, alike.queueDriver, alike.queueDevice, alike.usedIdx,
    alike.lastAvailIdx]

theorem mmioRead (alike : Alike t t') (deviceId : UInt32) (offset : UInt64) :
    t.mmioRead deviceId offset = t'.mmioRead deviceId offset := by
  unfold Transport.mmioRead
  rw [alike.queueReady, alike.interruptStatus, alike.status]
  simp only [alike.deviceFeatures]

theorem queueLive (alike : Alike t t') : t.queueLive = t'.queueLive := by
  unfold Transport.queueLive
  rw [alike.status, alike.queueReady]

theorem served (alike : Alike t t') (n : UInt16) (complete : Bool) :
    Alike (t.served n complete) (t'.served n complete) where
  __ := alike
  interruptStatus := by simp only [Transport.served, alike.interruptStatus]
  usedIdx := congrArg (· + n) alike.usedIdx
  lastAvailIdx := congrArg (· + n) alike.lastAvailIdx

theorem writeStatus (alike : Alike t t') (value : UInt32) :
    Alike (t.writeStatus value) (t'.writeStatus value) := by
  unfold Transport.writeStatus
  rw [alike.version]
  split
  · exact { alike with status := rfl }
  · exact { alike with status := rfl }

theorem ite_both {R : Transport × Bool → Transport × Bool → Prop} {c : Prop} [Decidable c]
    {a a' b b' : Transport × Bool} (yes : c → R a a') (no : ¬c → R b b') :
    R (if c then a else b) (if c then a' else b') := by
  by_cases holds : c
  · rw [if_pos holds, if_pos holds]
    exact yes holds
  · rw [if_neg holds, if_neg holds]
    exact no holds

/-- A register write finds no difference and makes none. -/
theorem mmioWrite (alike : Alike t t') (offset : UInt64) (value : UInt32) :
    Alike (t.mmioWrite offset value).1 (t'.mmioWrite offset value).1 := by
  let R (r r' : Transport × Bool) : Prop := Alike r.1 r'.1
  change R (t.mmioWrite offset value) (t'.mmioWrite offset value)
  unfold Transport.mmioWrite
  rw [alike.word]
  refine ite_both (R := R) (fun _ => { alike with deviceFeatures := Iff.rfl }) fun _ => ?_
  refine ite_both (R := R) (fun _ => { alike with word := rfl }) fun _ => ?_
  refine ite_both (R := R) (fun _ => ?_) fun _ => ?_
  · exact ite_both (R := R) (fun _ => { alike with }) fun _ => { alike with version := rfl }
  refine ite_both (R := R) (fun _ => { alike with }) fun _ => ?_
  refine ite_both (R := R) (fun _ => { alike with queueNum := rfl }) fun _ => ?_
  refine ite_both (R := R) (fun _ => { alike with queueReady := rfl }) fun _ => ?_
  refine ite_both (R := R) (fun _ => ?_) fun _ => ?_
  · exact { alike with queueDesc := congrArg (setLow · value) alike.queueDesc }
  refine ite_both (R := R) (fun _ => ?_) fun _ => ?_
  · exact { alike with queueDesc := congrArg (setHigh · value) alike.queueDesc }
  refine ite_both (R := R) (fun _ => ?_) fun _ => ?_
  · exact { alike with queueDriver := congrArg (setLow · value) alike.queueDriver }
  refine ite_both (R := R) (fun _ => ?_) fun _ => ?_
  · exact { alike with queueDriver := congrArg (setHigh · value) alike.queueDriver }
  refine ite_both (R := R) (fun _ => ?_) fun _ => ?_
  · exact { alike with queueDevice := congrArg (setLow · value) alike.queueDevice }
  refine ite_both (R := R) (fun _ => ?_) fun _ => ?_
  · exact { alike with queueDevice := congrArg (setHigh · value) alike.queueDevice }
  refine ite_both (R := R) (fun _ => alike.writeStatus value) fun _ => ?_
  refine ite_both (R := R) (fun _ => ?_) fun _ => alike
  exact { alike with interruptStatus := congrArg (· &&& ~~~value) alike.interruptStatus }

end Transport.Alike

/-- A kick is a write to one register, in any state. -/
theorem Transport.kick_eq (t : Transport) (offset : UInt64) (value : UInt32) :
    (t.mmioWrite offset value).2 = decide (offset = Reg.QUEUE_NOTIFY) := by
  let Kick (r : Transport × Bool) : Prop := r.2 = decide (offset = Reg.QUEUE_NOTIFY)
  change Kick (t.mmioWrite offset value)
  unfold Transport.mmioWrite
  repeat' first | apply iteInduction (motive := Kick) | intro _
  all_goals
    first
    | exact rfl
    | subst offset
      rfl

theorem VirtioConsole.kick_eq (d : VirtioConsole) (offset : UInt64) (value : UInt32) :
    (d.mmioWrite offset value).2 = decide (offset = Reg.QUEUE_NOTIFY) :=
  d.transport.kick_eq offset value

theorem VirtioBlk.kick_eq (d : VirtioBlk) (offset : UInt64) (value : UInt32) :
    (d.mmioWrite offset value).2 = decide (offset = Reg.QUEUE_NOTIFY) := by
  unfold VirtioBlk.mmioWrite
  split_ifs with reset
  · rw [reset.1]
    rfl
  · exact d.transport.kick_eq offset value

namespace VirtioConsole

/-- Whatever happens to both, they read the same, kick the same, are live together and look the
same to the backend. -/
structure Indistinguishable (d d' : VirtioConsole) : Prop where
  reads : ∀ events offset, (d.after events).mmioRead offset = (d'.after events).mmioRead offset
  kicks : ∀ events offset value,
    ((d.after events).mmioWrite offset value).2 = ((d'.after events).mmioWrite offset value).2
  live : ∀ events, (d.after events).queueLive = (d'.after events).queueLive
  backend : ∀ events, (d.after events).transport.backend = (d'.after events).transport.backend

variable {d d' : VirtioConsole}

theorem alike_after (alike : d.transport.Alike d'.transport) (events : List BusEvent) :
    (d.after events).transport.Alike (d'.after events).transport := by
  induction events generalizing d d' with
  | nil => exact alike
  | cons e events ih =>
      apply ih
      cases e with
      | write offset value => exact alike.mmioWrite offset value
      | served n complete => exact alike.served n complete

theorem indistinguishable_of_alike (alike : d.transport.Alike d'.transport) :
    Indistinguishable d d' where
  reads events offset := (alike_after alike events).mmioRead _ offset
  kicks events offset value := by rw [kick_eq, kick_eq]
  live events := (alike_after alike events).queueLive
  backend events := (alike_after alike events).backend

theorem one_and_cases (x : UInt32) : x &&& 1 = 0 ∨ x &&& 1 = 1 := by
  have parity : (x &&& 1).toNat = x.toNat % 2 := by
    rw [UInt32.toNat_and]
    exact Nat.and_one_is_mod _
  rcases Nat.mod_two_eq_zero_or_one x.toNat with even | odd
  · exact .inl (UInt32.toNat_inj.mp (parity.trans even))
  · exact .inr (UInt32.toNat_inj.mp (parity.trans odd))

/-- Offering the accepted features for confirmation shows the version bit. -/
theorem confirm (d : VirtioConsole) :
    (d.on (.write Reg.STATUS STATUS_FEATURES_OK)).transport.status =
      if d.transport.driverFeatures1 &&& VERSION_1_WORD1_MASK = 0 then 0
      else STATUS_FEATURES_OK := by
  have wrote : (d.on (.write Reg.STATUS STATUS_FEATURES_OK)).transport =
      d.transport.writeStatus STATUS_FEATURES_OK := rfl
  have asked : STATUS_FEATURES_OK &&& STATUS_FEATURES_OK ≠ 0 := by decide
  rw [wrote, Transport.writeStatus]
  by_cases version : d.transport.driverFeatures1 &&& VERSION_1_WORD1_MASK = 0
  · rw [if_pos ⟨asked, version⟩, if_pos version]
    rfl
  · rw [if_neg fun both => version both.2, if_neg version]

/-- The second feature word is written while the selector is odd. -/
theorem accept (d : VirtioConsole) (value : UInt32) :
    (d.on (.write Reg.DRIVER_FEATURES value)).transport.driverFeatures1 =
      if d.transport.driverFeaturesSel &&& 1 = 0 then d.transport.driverFeatures1 else value := by
  have wrote : (d.on (.write Reg.DRIVER_FEATURES value)).transport =
      (if d.transport.driverFeaturesSel &&& 1 = 0 then
        ({ d.transport with driverFeatures0 := value }, false)
      else ({ d.transport with driverFeatures1 := value }, false)).1 := rfl
  rw [wrote]
  split <;> rfl

theorem one_and_eq {x y : UInt32} (zero : x &&& 1 = 0 ↔ y &&& 1 = 0) : x &&& 1 = y &&& 1 := by
  rcases one_and_cases x with even | odd
  · rw [even, zero.mp even]
  · rcases one_and_cases y with even' | odd'
    · rw [zero.mpr even', even']
    · rw [odd, odd']

/-- The version bit is told by one write. -/
theorem Indistinguishable.version (same : Indistinguishable d d') :
    d.transport.driverFeatures1 &&& 1 = 0 ↔ d'.transport.driverFeatures1 &&& 1 = 0 := by
  have status : (d.on (.write Reg.STATUS STATUS_FEATURES_OK)).transport.status =
      (d'.on (.write Reg.STATUS STATUS_FEATURES_OK)).transport.status :=
    same.reads [.write Reg.STATUS STATUS_FEATURES_OK] Reg.STATUS
  rw [confirm, confirm] at status
  by_cases here : d.transport.driverFeatures1 &&& VERSION_1_WORD1_MASK = 0
  · by_cases there : d'.transport.driverFeatures1 &&& VERSION_1_WORD1_MASK = 0
    · exact iff_of_true here there
    · rw [if_pos here, if_neg there] at status
      exact absurd status (by decide)
  · by_cases there : d'.transport.driverFeatures1 &&& VERSION_1_WORD1_MASK = 0
    · rw [if_neg here, if_pos there] at status
      exact absurd status (by decide)
    · exact iff_of_false here there

theorem Indistinguishable.on (same : Indistinguishable d d') (e : BusEvent) :
    Indistinguishable (d.on e) (d'.on e) where
  reads events := same.reads (e :: events)
  kicks events := same.kicks (e :: events)
  live events := same.live (e :: events)
  backend events := same.backend (e :: events)

/-- The selector is told by accepting features first. -/
theorem Indistinguishable.word (same : Indistinguishable d d') :
    d.transport.driverFeaturesSel &&& 1 = 0 ↔ d'.transport.driverFeaturesSel &&& 1 = 0 := by
  have accepted (value : UInt32) := (same.on (.write Reg.DRIVER_FEATURES value)).version
  simp only [accept] at accepted
  have none := accepted 0
  have some := accepted 1
  by_cases here : d.transport.driverFeaturesSel &&& 1 = 0
  · by_cases there : d'.transport.driverFeaturesSel &&& 1 = 0
    · exact iff_of_true here there
    · rw [if_pos here, if_neg there] at none some
      exact absurd (some.mp (none.mpr (by decide))) (by decide)
  · by_cases there : d'.transport.driverFeaturesSel &&& 1 = 0
    · rw [if_neg here, if_pos there] at none some
      exact absurd (some.mpr (none.mp (by decide))) (by decide)
    · exact iff_of_false here there

/-- A difference that matters shows. -/
theorem Indistinguishable.alike (same : Indistinguishable d d') :
    d.transport.Alike d'.transport := by
  have reads (offset : UInt64) : d.mmioRead offset = d'.mmioRead offset := same.reads [] offset
  have backend : d.transport.backend = d'.transport.backend := same.backend []
  have features : (if d.transport.deviceFeaturesSel = 1 then (1 : UInt32) else 0) =
      if d'.transport.deviceFeaturesSel = 1 then 1 else 0 := reads Reg.DEVICE_FEATURES
  exact {
    deviceFeatures := by
      split_ifs at features with here there there
      · exact iff_of_true here there
      · exact absurd features (by decide)
      · exact absurd features (by decide)
      · exact iff_of_false here there
    word := one_and_eq same.word
    version := one_and_eq same.version
    queueReady := reads Reg.QUEUE_READY
    status := reads Reg.STATUS
    interruptStatus := reads Reg.INTERRUPT_STATUS
    queueNum := congrArg Prod.fst backend
    queueDesc := congrArg (fun b => b.2.1) backend
    queueDriver := congrArg (fun b => b.2.2.1) backend
    queueDevice := congrArg (fun b => b.2.2.2.1) backend
    usedIdx := congrArg (fun b => b.2.2.2.2.1) backend
    lastAvailIdx := congrArg (fun b => b.2.2.2.2.2) backend }

end VirtioConsole

/-- A register below the configuration space, the device id apart. -/
def Shared (offset : UInt64) : Prop := offset < BLK_CONFIG_CAPACITY ∧ offset ≠ Reg.DEVICE_ID

structure Agree (c : VirtioConsole) (b : VirtioBlk) : Prop where
  reads : ∀ offset, Shared offset → c.mmioRead offset = b.mmioRead offset
  kicks : ∀ offset value, (c.mmioWrite offset value).2 = (b.mmioWrite offset value).2
  live : c.queueLive = b.queueLive

theorem agree_of_alike {c : VirtioConsole} {b : VirtioBlk}
    (alike : c.transport.Alike b.transport) : Agree c b where
  reads offset shared := by
    have low : offset ≠ BLK_CONFIG_CAPACITY := UInt64.ne_of_lt shared.1
    have low' : offset ≠ BLK_CONFIG_CAPACITY + 4 := by
      rintro rfl
      exact absurd shared.1 (by decide)
    unfold VirtioConsole.mmioRead VirtioBlk.mmioRead
    rw [if_neg low, if_neg low', alike.mmioRead]
    unfold Transport.mmioRead
    simp only [if_neg shared.2]
  kicks offset value := by rw [VirtioConsole.kick_eq, VirtioBlk.kick_eq]
  live := alike.queueLive

/-- Apart from its status, a fresh console would look like this one. -/
def AtReset (c : VirtioConsole) : Prop :=
  { c.transport with status := 0 }.Alike {}

theorem on_reset (c : VirtioConsole) :
    (c.on (.write Reg.STATUS 0)).transport = { c.transport with status := 0 } := rfl

/-- Step by step the devices stay alike, as long as a reset finds the console fresh. -/
theorem alike_on {c : VirtioConsole} {b : VirtioBlk} (alike : c.transport.Alike b.transport)
    (e : BusEvent) (reset : e = .write Reg.STATUS 0 → AtReset c) :
    (c.on e).transport.Alike (b.on e).transport := by
  cases e with
  | served n complete => exact alike.served n complete
  | write offset value =>
      by_cases zero : offset = Reg.STATUS ∧ value = 0
      · obtain ⟨rfl, rfl⟩ := zero
        exact reset rfl
      · have wrote : (b.on (.write offset value)).transport =
            (b.transport.mmioWrite offset value).1 := by
          simp only [VirtioBlk.on, VirtioBlk.mmioWrite, if_neg zero]
        rw [wrote]
        exact alike.mmioWrite offset value

/-- A console and a block device that start fresh agree at every point of the history, and
after a reset each is as good as new. -/
def TransportsAgree (events : List BusEvent) : Prop :=
  ∀ past, past <+: events →
    Agree (VirtioConsole.after {} past) (VirtioBlk.after {} past) ∧
    ∀ before, past = before ++ [.write Reg.STATUS 0] →
      (VirtioConsole.after {} past).Indistinguishable {} ∧ VirtioBlk.after {} past = {}

theorem alike_of_resets {events : List BusEvent}
    (resets : ∀ before, before ++ [.write Reg.STATUS 0] <+: events →
      AtReset (VirtioConsole.after {} before)) (past : List BusEvent) (early : past <+: events) :
    (VirtioConsole.after {} past).transport.Alike (VirtioBlk.after {} past).transport := by
  induction past using List.reverseRecOn with
  | nil => exact Transport.Alike.refl _
  | append_singleton before e ih =>
      have alike := ih ((List.prefix_append before [e]).trans early)
      unfold VirtioConsole.after VirtioBlk.after at alike ⊢
      rw [List.foldl_concat, List.foldl_concat]
      refine alike_on alike e fun reset => resets before ?_
      rwa [← reset]

/-- The two register files agree over a history exactly if no reset finds a console that a
fresh one can be told from. -/
theorem transports_agree_iff (events : List BusEvent) :
    TransportsAgree events ↔
      ∀ before, before ++ [.write Reg.STATUS 0] <+: events →
        AtReset (VirtioConsole.after {} before) := by
  constructor
  · intro agree before early
    have fresh := ((agree _ early).2 before rfl).1.alike
    unfold VirtioConsole.after at fresh
    rwa [List.foldl_concat, on_reset] at fresh
  · intro resets past early
    refine ⟨agree_of_alike (alike_of_resets resets past early), ?_⟩
    rintro before rfl
    unfold VirtioConsole.after VirtioBlk.after
    rw [List.foldl_concat, List.foldl_concat]
    exact ⟨VirtioConsole.indistinguishable_of_alike (resets before early), rfl⟩

/-- A console keeps its queue over a reset. -/
theorem console_keeps_queue :
    let events := [BusEvent.write Reg.QUEUE_READY 1, .write Reg.STATUS 0]
    (VirtioConsole.after {} events).mmioRead Reg.QUEUE_READY = 1 ∧
      (VirtioBlk.after {} events).mmioRead Reg.QUEUE_READY = 0 ∧ ¬TransportsAgree events := by
  intro events
  have kept : (VirtioConsole.after {} events).mmioRead Reg.QUEUE_READY = 1 := by decide
  have dropped : (VirtioBlk.after {} events).mmioRead Reg.QUEUE_READY = 0 := by decide
  refine ⟨kept, dropped, fun agree => ?_⟩
  have same := (agree events (List.prefix_refl _)).1.reads Reg.QUEUE_READY ⟨by decide, by decide⟩
  rw [kept, dropped] at same
  exact absurd same (by decide)

end Baleen.Virtio
