import Baleen.Lib.Bits

/-!
# List registers

A virtual interrupt reaches a guest through a list register, 64 bits that hold a state, a group,
a priority, a number and perhaps the physical interrupt it stands for.  A context switch takes
the physical interrupts away from the registers it saves.
-/

namespace Baleen.Gic

def LR_VINTID_SHIFT : UInt32 := 0
def LR_VINTID_BITS : UInt32 := 32
def LR_PINTID_SHIFT : UInt32 := 32
def LR_PINTID_BITS : UInt32 := 10
def LR_PRIORITY_SHIFT : UInt32 := 48
def LR_PRIORITY_BITS : UInt32 := 8

/-- Group 1. -/
def LR_GROUP1 : UInt64 := (1 : UInt64) <<< 60

/-- The register stands for a physical interrupt. -/
def LR_HW : UInt64 := (1 : UInt64) <<< 61
def LR_STATE_SHIFT : UInt32 := 62
def LR_STATE_BITS : UInt32 := 2

def fieldMask (shift bits : UInt32) : UInt64 :=
  ((1 : UInt64) <<< bits.toUInt64 - 1) <<< shift.toUInt64

def field (lr : UInt64) (shift bits : UInt32) : UInt64 :=
  (lr >>> shift.toUInt64) &&& ((1 : UInt64) <<< bits.toUInt64 - 1)

def MAX_PINTID : UInt32 := (1 : UInt32) <<< LR_PINTID_BITS - 1

inductive LrState where
  | invalid
  | pending
  | active
  | pendingActive
  deriving DecidableEq, Repr

def lrState (lr : UInt64) : LrState :=
  match field lr LR_STATE_SHIFT LR_STATE_BITS with
  | 0b00 => .invalid
  | 0b01 => .pending
  | 0b10 => .active
  | _ => .pendingActive

/-- A register that holds no interrupt; the other fields may be left from an earlier one. -/
def lrIsFree (lr : UInt64) : Bool := lrState lr = .invalid

def lrIsHw (lr : UInt64) : Bool := lr &&& LR_HW != 0

def lrIsGroup1 (lr : UInt64) : Bool := lr &&& LR_GROUP1 != 0

def lrVintid (lr : UInt64) : UInt32 := (field lr LR_VINTID_SHIFT LR_VINTID_BITS).toUInt32

def lrPriority (lr : UInt64) : UInt8 := (field lr LR_PRIORITY_SHIFT LR_PRIORITY_BITS).toUInt8

def lrPintid (lr : UInt64) : Option UInt32 :=
  if lrIsHw lr then some (field lr LR_PINTID_SHIFT LR_PINTID_BITS).toUInt32 else none

/-- The register of a pending interrupt, unless the physical one cannot be named. -/
def encodeLr (vintid : UInt32) (hw : Option UInt32) (priority : UInt8) : Option UInt64 :=
  let base := (0b01 : UInt64) <<< LR_STATE_SHIFT.toUInt64 ||| LR_GROUP1 |||
    priority.toUInt64 <<< LR_PRIORITY_SHIFT.toUInt64 |||
    vintid.toUInt64 <<< LR_VINTID_SHIFT.toUInt64
  match hw with
  | some pintid =>
      if pintid > MAX_PINTID then none
      else some (base ||| LR_HW ||| pintid.toUInt64 <<< LR_PINTID_SHIFT.toUInt64)
  | none => some base

def PINTID_FIELD : UInt64 := fieldMask LR_PINTID_SHIFT LR_PINTID_BITS

/-- The loop over the bank, with the count so far. -/
def releaseFrom (released : UInt64) : List UInt64 → UInt64 × List UInt64
  | [] => (released, [])
  | lr :: rest =>
      if !lrIsFree lr && lrIsHw lr then
        let tail := releaseFrom (released + 1) rest
        (tail.1, (lr &&& ~~~(LR_HW ||| PINTID_FIELD)) :: tail.2)
      else
        let tail := releaseFrom released rest
        (tail.1, lr :: tail.2)

/-- How many registers were changed, and the bank without physical interrupts. -/
def releaseHardwareMappings (bank : List UInt64) : UInt64 × List UInt64 := releaseFrom 0 bank

variable {lr : UInt64}

/-- The registers that are changed. -/
def mapped (lr : UInt64) : Bool := !lrIsFree lr && lrIsHw lr

def demote (lr : UInt64) : UInt64 :=
  if mapped lr then lr &&& ~~~(LR_HW ||| PINTID_FIELD) else lr

theorem field_clear {shift bits : UInt32}
    (kept : (~~~(LR_HW ||| PINTID_FIELD) >>> shift.toUInt64) &&&
      ((1 : UInt64) <<< bits.toUInt64 - 1) = (1 : UInt64) <<< bits.toUInt64 - 1) :
    field (lr &&& ~~~(LR_HW ||| PINTID_FIELD)) shift bits = field lr shift bits :=
  Bits.kept_field kept

theorem lrState_clear : lrState (lr &&& ~~~(LR_HW ||| PINTID_FIELD)) = lrState lr := by
  rw [lrState, field_clear (by decide), ← lrState]

theorem lrIsHw_clear : lrIsHw (lr &&& ~~~(LR_HW ||| PINTID_FIELD)) = false := by
  have apart : ~~~(LR_HW ||| PINTID_FIELD) &&& LR_HW = 0 := by decide
  rw [lrIsHw, UInt64.and_assoc, apart, UInt64.and_zero]
  rfl

theorem demote_of_mapped (changed : mapped lr = true) :
    demote lr = lr &&& ~~~(LR_HW ||| PINTID_FIELD) := if_pos changed

theorem demote_of_not_mapped (kept : mapped lr = false) : demote lr = lr :=
  if_neg (Bool.not_eq_true _ ▸ kept)

@[simp]
theorem mapped_demote : mapped (demote lr) = false := by
  cases changed : mapped lr with
  | false => rwa [demote_of_not_mapped changed]
  | true => rw [demote_of_mapped changed, mapped, lrIsHw_clear, Bool.and_false]

@[simp]
theorem demote_demote : demote (demote lr) = demote lr := demote_of_not_mapped mapped_demote

theorem demote_ne : (lr != demote lr) = mapped lr := by
  cases changed : mapped lr with
  | false => rw [demote_of_not_mapped changed, bne_self_eq_false]
  | true =>
      rw [bne_iff_ne]
      intro same
      have settled : mapped (demote lr) = false := mapped_demote
      rw [← same, changed] at settled
      cases settled

/-- The interrupt stays what it was. -/
theorem demote_keeps : lrState (demote lr) = lrState lr ∧ lrIsGroup1 (demote lr) = lrIsGroup1 lr ∧
    lrVintid (demote lr) = lrVintid lr ∧ lrPriority (demote lr) = lrPriority lr := by
  cases changed : mapped lr with
  | false =>
      rw [demote_of_not_mapped changed]
      exact ⟨rfl, rfl, rfl, rfl⟩
  | true =>
      have group : ~~~(LR_HW ||| PINTID_FIELD) &&& LR_GROUP1 = LR_GROUP1 := by decide
      rw [demote_of_mapped changed]
      refine ⟨lrState_clear, ?_, ?_, ?_⟩
      · rw [lrIsGroup1, UInt64.and_assoc, group, ← lrIsGroup1]
      · rw [lrVintid, field_clear (by decide), ← lrVintid]
      · rw [lrPriority, field_clear (by decide), ← lrPriority]

/-- What the mask covers. -/
theorem getLsbD_mapping {b : Nat} (inside : b < 64) :
    (LR_HW ||| PINTID_FIELD).toBitVec.getLsbD b =
      (decide (b = 61) || decide (32 ≤ b ∧ b < 42)) := by
  have each : ∀ b : Fin 64, (LR_HW ||| PINTID_FIELD).toBitVec.getLsbD b =
      (decide (b.val = 61) || decide (32 ≤ b.val ∧ b.val < 42)) := by decide
  exact each ⟨b, inside⟩

/-- The loop changes each register on its own and counts what it changes. -/
theorem releaseFrom_eq (released : UInt64) (bank : List UInt64) :
    releaseFrom released bank =
      (released + UInt64.ofNat (bank.countP mapped), bank.map demote) := by
  induction bank generalizing released with
  | nil => exact Prod.ext (UInt64.add_zero released).symm rfl
  | cons lr rest ih =>
      rw [releaseFrom, ← mapped]
      cases changed : mapped lr with
      | true =>
          rw [if_pos rfl, ih, List.countP_cons_of_pos changed, List.map_cons,
            demote_of_mapped changed, UInt64.ofNat_add, UInt64.ofNat_one,
            UInt64.add_comm (UInt64.ofNat _), UInt64.add_assoc]
      | false =>
          rw [if_neg Bool.false_ne_true, ih,
            List.countP_cons_of_neg (Bool.not_eq_true _ ▸ changed), List.map_cons,
            demote_of_not_mapped changed]

theorem releaseHardwareMappings_eq (bank : List UInt64) :
    releaseHardwareMappings bank = (UInt64.ofNat (bank.countP mapped), bank.map demote) := by
  rw [releaseHardwareMappings, releaseFrom_eq, UInt64.zero_add]

/-- The registers of two banks that differ. -/
def changes (before after : List UInt64) : Nat :=
  (before.zip after).countP fun q => q.1 != q.2

theorem changes_demote (bank : List UInt64) :
    changes bank (bank.map demote) = bank.countP mapped := by
  induction bank with
  | nil => rfl
  | cons lr rest ih =>
      rw [changes] at ih ⊢
      rw [List.map_cons, List.zip_cons_cons, List.countP_cons, List.countP_cons, ih, demote_ne]

theorem countP_demote (bank : List UInt64) : (bank.map demote).countP mapped = 0 := by
  rw [List.countP_eq_zero]
  intro lr member
  obtain ⟨before, -, rfl⟩ := List.mem_map.mp member
  rw [mapped_demote]
  exact Bool.false_ne_true

/-- The fields of a register without a physical interrupt. -/
def SOFTWARE_FIELDS : UInt64 :=
  fieldMask LR_STATE_SHIFT LR_STATE_BITS ||| LR_GROUP1 |||
    fieldMask LR_PRIORITY_SHIFT LR_PRIORITY_BITS ||| fieldMask LR_VINTID_SHIFT LR_VINTID_BITS

section Encode

variable {vintid pintid : UInt32} {priority : UInt8} {lr lr' : UInt64}

theorem within_priority : Bits.Within (priority.toUInt64 <<< LR_PRIORITY_SHIFT.toUInt64)
    (fieldMask LR_PRIORITY_SHIFT LR_PRIORITY_BITS) := by
  apply Bits.within_shift
  have mask : ((1 : UInt64) <<< LR_PRIORITY_BITS.toUInt64 - 1).toNat = 2 ^ 8 - 1 := rfl
  exact Bits.within_low mask (by rw [UInt8.toNat_toUInt64]; exact priority.toNat_lt)

theorem within_vintid : Bits.Within (vintid.toUInt64 <<< LR_VINTID_SHIFT.toUInt64)
    (fieldMask LR_VINTID_SHIFT LR_VINTID_BITS) := by
  apply Bits.within_shift
  have mask : ((1 : UInt64) <<< LR_VINTID_BITS.toUInt64 - 1).toNat = 2 ^ 32 - 1 := rfl
  exact Bits.within_low mask (by rw [UInt32.toNat_toUInt64]; exact vintid.toNat_lt)

theorem within_pintid (named : ¬pintid > MAX_PINTID) :
    Bits.Within (pintid.toUInt64 <<< LR_PINTID_SHIFT.toUInt64) PINTID_FIELD := by
  apply Bits.within_shift
  have mask : ((1 : UInt64) <<< LR_PINTID_BITS.toUInt64 - 1).toNat = 2 ^ 10 - 1 := rfl
  have largest : MAX_PINTID.toNat = 2 ^ 10 - 1 := rfl
  rw [gt_iff_lt, UInt32.lt_iff_toNat_lt, largest] at named
  exact Bits.within_low mask (by rw [UInt32.toNat_toUInt64]; omega)

theorem within_encodeLr (encoded : encodeLr vintid none priority = some lr) :
    Bits.Within lr SOFTWARE_FIELDS := by
  obtain rfl := Option.some_inj.mp encoded
  refine Bits.within_or (Bits.within_or (Bits.within_or ?_ ?_) within_priority) within_vintid
  · rfl
  · exact UInt64.and_self ..

/-- What is added for a physical interrupt. -/
def mapping (pintid : UInt32) : UInt64 :=
  LR_HW ||| pintid.toUInt64 <<< LR_PINTID_SHIFT.toUInt64

theorem within_mapping (named : ¬pintid > MAX_PINTID) :
    Bits.Within (mapping pintid) (LR_HW ||| PINTID_FIELD) :=
  Bits.within_or (UInt64.and_self ..) (within_pintid named)

theorem mapping_and_hw (named : ¬pintid > MAX_PINTID) : mapping pintid &&& LR_HW = LR_HW := by
  rw [mapping, Bits.or_and, (within_pintid named).apart (by decide), UInt64.and_self,
    UInt64.or_zero]

theorem encodeLr_mapped (encoded : encodeLr vintid (some pintid) priority = some lr) :
    ¬pintid > MAX_PINTID ∧
      ∃ base, encodeLr vintid none priority = some base ∧ lr = base ||| mapping pintid := by
  rw [encodeLr] at encoded
  split at encoded
  · cases encoded
  · next named =>
    obtain rfl := Option.some_inj.mp encoded
    exact ⟨named, _, rfl, UInt64.or_assoc ..⟩

theorem lrIsHw_encodeLr (encoded : encodeLr vintid none priority = some lr) :
    lrIsHw lr = false := by
  rw [lrIsHw, (within_encodeLr encoded).apart (by decide)]
  rfl

theorem lrIsHw_mapped (software : encodeLr vintid none priority = some lr)
    (named : ¬pintid > MAX_PINTID) : lrIsHw (lr ||| mapping pintid) = true := by
  rw [lrIsHw, Bits.or_and, (within_encodeLr software).apart (by decide), mapping_and_hw named,
    UInt64.zero_or]
  decide

theorem lrState_encodeLr (encoded : encodeLr vintid none priority = some lr) :
    lrState lr = .pending := by
  obtain rfl := Option.some_inj.mp encoded
  have state : field ((0b01 : UInt64) <<< LR_STATE_SHIFT.toUInt64 ||| LR_GROUP1 |||
      priority.toUInt64 <<< LR_PRIORITY_SHIFT.toUInt64 |||
      vintid.toUInt64 <<< LR_VINTID_SHIFT.toUInt64) LR_STATE_SHIFT LR_STATE_BITS = 0b01 := by
    rw [field, UInt64.shiftRight_or, UInt64.shiftRight_or, Bits.or_and, Bits.or_and,
      within_priority.silent (by decide), within_vintid.silent (by decide)]
    decide
  rw [lrState, state]
  rfl

/-- The release turns the encoding with a physical interrupt into the one without. -/
theorem demote_encodeLr (encoded : encodeLr vintid (some pintid) priority = some lr) :
    encodeLr vintid none priority = some (demote lr) := by
  obtain ⟨named, base, software, rfl⟩ := encodeLr_mapped encoded
  have outside : base &&& (LR_HW ||| PINTID_FIELD) = 0 :=
    (within_encodeLr software).apart (by decide)
  have cleared : (base ||| mapping pintid) &&& ~~~(LR_HW ||| PINTID_FIELD) = base :=
    Bits.clear_or outside (within_mapping named)
  have occupied : lrIsFree (base ||| mapping pintid) = false := by
    rw [lrIsFree, ← lrState_clear, cleared, lrState_encodeLr software]
    rfl
  have changed : mapped (base ||| mapping pintid) = true := by
    rw [mapped, occupied, lrIsHw_mapped software named]
    rfl
  rw [software, demote_of_mapped changed, cleared]

theorem field_vintid (software : encodeLr vintid none priority = some lr) :
    field lr LR_VINTID_SHIFT LR_VINTID_BITS = vintid.toUInt64 := by
  obtain rfl := Option.some_inj.mp software
  have small : vintid.toUInt64.toNat < 2 ^ 32 := by
    rw [UInt32.toNat_toUInt64]
    exact vintid.toNat_lt
  rw [field, UInt64.shiftRight_or, UInt64.shiftRight_or, Bits.or_and, Bits.or_and,
    within_priority.silent (by decide), UInt64.or_zero,
    Bits.field_shift (show _ = 2 ^ 32 - 1 from rfl) small (by decide) (by decide)]
  exact UInt64.zero_or

theorem field_priority (software : encodeLr vintid none priority = some lr) :
    field lr LR_PRIORITY_SHIFT LR_PRIORITY_BITS = priority.toUInt64 := by
  obtain rfl := Option.some_inj.mp software
  have small : priority.toUInt64.toNat < 2 ^ 8 := by
    rw [UInt8.toNat_toUInt64]
    exact priority.toNat_lt
  rw [field, UInt64.shiftRight_or, UInt64.shiftRight_or, Bits.or_and, Bits.or_and,
    within_vintid.silent (by decide), UInt64.or_zero,
    Bits.field_shift (show _ = 2 ^ 8 - 1 from rfl) small (by decide) (by decide)]
  exact UInt64.zero_or

theorem field_pintid (software : encodeLr vintid none priority = some lr)
    (named : ¬pintid > MAX_PINTID) :
    field (lr ||| mapping pintid) LR_PINTID_SHIFT LR_PINTID_BITS = pintid.toUInt64 := by
  have largest : MAX_PINTID.toNat = 2 ^ 10 - 1 := rfl
  have small : pintid.toUInt64.toNat < 2 ^ 10 := by
    rw [gt_iff_lt, UInt32.lt_iff_toNat_lt, largest] at named
    rw [UInt32.toNat_toUInt64]
    omega
  rw [field, mapping, UInt64.shiftRight_or, UInt64.shiftRight_or, Bits.or_and, Bits.or_and,
    (within_encodeLr software).silent (by decide),
    Bits.field_shift (show _ = 2 ^ 10 - 1 from rfl) small (by decide) (by decide), UInt64.zero_or]
  exact UInt64.zero_or

theorem lrIsGroup1_encodeLr (software : encodeLr vintid none priority = some lr) :
    lrIsGroup1 lr = true := by
  obtain rfl := Option.some_inj.mp software
  rw [lrIsGroup1, Bits.or_and, Bits.or_and, within_priority.apart (by decide),
    within_vintid.apart (by decide)]
  decide

/-- A field that no physical interrupt reaches. -/
theorem field_mapping (named : ¬pintid > MAX_PINTID) {shift bits : UInt32}
    (apart : ((LR_HW ||| PINTID_FIELD) >>> shift.toUInt64) &&&
      ((1 : UInt64) <<< bits.toUInt64 - 1) = 0) :
    field (lr ||| mapping pintid) shift bits = field lr shift bits := by
  rw [field, UInt64.shiftRight_or, Bits.or_and, (within_mapping named).silent apart,
    UInt64.or_zero, ← field]

/-- What the decoders read of a register that the encoder wrote. -/
structure Decodes (lr : UInt64) (vintid : UInt32) (hw : Option UInt32) (priority : UInt8) :
    Prop where
  state : lrState lr = .pending
  group : lrIsGroup1 lr = true
  vintid : lrVintid lr = vintid
  priority : lrPriority lr = priority
  pintid : lrPintid lr = hw

theorem decodes_encodeLr {hw : Option UInt32} (encoded : encodeLr vintid hw priority = some lr) :
    Decodes lr vintid hw priority := by
  cases hw with
  | none =>
      refine ⟨lrState_encodeLr encoded, lrIsGroup1_encodeLr encoded, ?_, ?_, ?_⟩
      · rw [lrVintid, field_vintid encoded, UInt32.toUInt32_toUInt64]
      · rw [lrPriority, field_priority encoded, UInt8.toUInt8_toUInt64]
      · rw [lrPintid, lrIsHw_encodeLr encoded, if_neg Bool.false_ne_true]
  | some pintid =>
      obtain ⟨named, base, software, rfl⟩ := encodeLr_mapped encoded
      refine ⟨?_, ?_, ?_, ?_, ?_⟩
      · rw [lrState, field_mapping named (by decide)]
        exact lrState_encodeLr software
      · rw [lrIsGroup1, Bits.or_and, (within_mapping named).apart (by decide), UInt64.or_zero]
        exact lrIsGroup1_encodeLr software
      · rw [lrVintid, field_mapping named (by decide), field_vintid software,
          UInt32.toUInt32_toUInt64]
      · rw [lrPriority, field_mapping named (by decide), field_priority software,
          UInt8.toUInt8_toUInt64]
      · rw [lrPintid, lrIsHw_mapped software named, if_pos rfl, field_pintid software named,
          UInt32.toUInt32_toUInt64]

end Encode

/-- A bank after the release, and the count that is returned. -/
structure Released (bank after : List UInt64) (released : UInt64) : Prop where
  length : after.length = bank.length
  free : ∀ (i : Nat) lr, bank[i]? = some lr → lrIsFree lr = true → after[i]? = some lr
  software : ∀ (i : Nat) lr, bank[i]? = some lr → lrIsHw lr = false → after[i]? = some lr
  /-- The bit that names a mapping and the ten of its number are cleared, and no others. -/
  hardware : ∀ (i : Nat) lr, bank[i]? = some lr → lrIsFree lr = false → lrIsHw lr = true →
    ∃ lr', after[i]? = some lr' ∧ ∀ b < 64, lr'.toBitVec.getLsbD b =
      (lr.toBitVec.getLsbD b && !(decide (b = 61) || decide (32 ≤ b ∧ b < 42)))
  confined : ∀ lr ∈ after, lrIsFree lr = false → lrIsHw lr = false
  counted : released = UInt64.ofNat (changes bank after)
  /-- The count does not wrap around for a bank that fits in memory. -/
  exactly : bank.length < 2 ^ 64 → released.toNat = changes bank after
  again : releaseHardwareMappings after = (0, after)
  encoded : ∀ (i : Nat) vintid pintid priority lr, bank[i]? = some lr →
    encodeLr vintid (some pintid) priority = some lr →
    after[i]? = encodeLr vintid none priority

theorem getElem?_demote {bank : List UInt64} {i : Nat} {lr : UInt64} (held : bank[i]? = some lr) :
    (bank.map demote)[i]? = some (demote lr) := by
  rw [List.getElem?_map, held, Option.map_some]

theorem released_releaseHardwareMappings (bank : List UInt64) :
    Released bank (releaseHardwareMappings bank).2 (releaseHardwareMappings bank).1 := by
  rw [releaseHardwareMappings_eq]
  constructor
  case length => exact List.length_map demote
  case free =>
    intro i lr held free
    have kept : mapped lr = false := by rw [mapped, free, Bool.not_true, Bool.false_and]
    rw [getElem?_demote held, demote_of_not_mapped kept]
  case software =>
    intro i lr held unmapped
    have kept : mapped lr = false := by rw [mapped, unmapped, Bool.and_false]
    rw [getElem?_demote held, demote_of_not_mapped kept]
  case hardware =>
    intro i lr held occupied hw
    have changed : mapped lr = true := by rw [mapped, occupied, hw]; rfl
    refine ⟨demote lr, getElem?_demote held, fun b inside => ?_⟩
    rw [demote_of_mapped changed, Bits.getLsbD_clear inside, getLsbD_mapping inside]
  case confined =>
    intro lr member occupied
    obtain ⟨before, -, rfl⟩ := List.mem_map.mp member
    have settled : mapped (demote before) = false := mapped_demote
    rwa [mapped, occupied, Bool.not_false, Bool.true_and] at settled
  case counted => rw [changes_demote]
  case exactly =>
    intro few
    have bound : bank.countP mapped < 2 ^ 64 := Nat.lt_of_le_of_lt List.countP_le_length few
    rw [changes_demote, UInt64.toNat_ofNat_of_lt' bound]
  case again =>
    rw [releaseHardwareMappings_eq, countP_demote, List.map_map]
    exact Prod.ext rfl (List.map_congr_left fun lr _ => demote_demote)
  case encoded =>
    intro i vintid pintid priority lr held encoded
    rw [getElem?_demote held, demote_encodeLr encoded]

end Baleen.Gic
