import Baleen.Gic.ListRegisters
import Baleen.Gic.Pending

/-!
# The bank of list registers

The registers of the vCPU on the physical CPU.  An injection takes the first free one, the guest
moves the interrupts in them from state to state, and a refill fills those that became free from
the pending set until either side runs out.
-/

namespace Baleen.Metal

open Gic

def INJECT_PRIORITY : UInt8 := 0x80

/-- Put a register in place of the first free one. -/
def place (lr : UInt64) : List UInt64 → Bool × List UInt64
  | [] => (false, [])
  | old :: rest =>
      if lrIsFree old then (true, lr :: rest) else ((place lr rest).1, old :: (place lr rest).2)

def inject (intid : UInt32) (bank : List UInt64) : Bool × List UInt64 :=
  match encodeLr intid none INJECT_PRIORITY with
  | some lr => place lr bank
  | none => (false, bank)

def injectHw (vintid pintid : UInt32) (bank : List UInt64) : Bool × List UInt64 :=
  match encodeLr vintid (some pintid) INJECT_PRIORITY with
  | some lr => place lr bank
  | none => (false, bank)

/-- The loop over the remaining registers, with the number placed so far. -/
def flushFrom : List Nat → List UInt64 × PendingSet × Nat → List UInt64 × PendingSet × Nat
  | [], s => s
  | i :: rest, (bank, set, placed) =>
      if !lrIsFree (bank[i]?.getD 0) then flushFrom rest (bank, set, placed)
      else
        match set.takeNext with
        | (some intid, set') =>
            if (inject intid bank).1 then flushFrom rest ((inject intid bank).2, set', placed + 1)
            else ((inject intid bank).2, (set'.mark intid).2, placed)
        | (none, set') => (bank, set', placed)

/-- The refilled bank, what still waits, and how many were placed. -/
def flushPendingToLrs (bank : List UInt64) (set : PendingSet) : List UInt64 × PendingSet × Nat :=
  flushFrom (List.range bank.length) (bank, set, 0)

def stateBits : LrState → UInt64
  | .invalid => 0b00
  | .pending => 0b01
  | .active => 0b10
  | .pendingActive => 0b11

/-- The register with its interrupt in another state. -/
def withState (lr : UInt64) (state : LrState) : UInt64 :=
  lr &&& ~~~fieldMask LR_STATE_SHIFT LR_STATE_BITS ||| stateBits state <<< LR_STATE_SHIFT.toUInt64

variable {lr : UInt64} {state : LrState}

theorem lrState_withState : lrState (withState lr state) = state := by
  have cleared :
    ((lr &&& ~~~fieldMask LR_STATE_SHIFT LR_STATE_BITS) >>> LR_STATE_SHIFT.toUInt64) &&&
      ((1 : UInt64) <<< LR_STATE_BITS.toUInt64 - 1) = 0 := by
    have apart : (~~~fieldMask LR_STATE_SHIFT LR_STATE_BITS >>> LR_STATE_SHIFT.toUInt64) &&&
        ((1 : UInt64) <<< LR_STATE_BITS.toUInt64 - 1) = 0 := by decide
    rw [UInt64.shiftRight_and, UInt64.and_assoc, apart, UInt64.and_zero]
  have read : field (withState lr state) LR_STATE_SHIFT LR_STATE_BITS = stateBits state := by
    rw [field, withState, UInt64.shiftRight_or, Bits.or_and, cleared, UInt64.zero_or]
    cases state <;> decide
  rw [lrState, read]
  cases state <;> rfl

/-- A mask that the state is not part of is read as before. -/
theorem withState_and {m : UInt64}
    (apart : ∀ st, stateBits st <<< LR_STATE_SHIFT.toUInt64 &&& m = 0)
    (kept : ~~~fieldMask LR_STATE_SHIFT LR_STATE_BITS &&& m = m) :
    withState lr state &&& m = lr &&& m := by
  rw [withState, Bits.or_and, apart, UInt64.or_zero, UInt64.and_assoc, kept]

theorem lrIsHw_withState : lrIsHw (withState lr state) = lrIsHw lr := by
  have apart : ∀ st, stateBits st <<< LR_STATE_SHIFT.toUInt64 &&& LR_HW = 0 := by
    intro st
    cases st <;> decide
  rw [lrIsHw, withState_and apart (by decide), ← lrIsHw]

/-- A field that the state is not part of is read as before. -/
theorem field_withState {shift bits : UInt32}
    (apart : ∀ st, (stateBits st <<< LR_STATE_SHIFT.toUInt64) >>> shift.toUInt64 &&&
      ((1 : UInt64) <<< bits.toUInt64 - 1) = 0)
    (kept : (~~~fieldMask LR_STATE_SHIFT LR_STATE_BITS >>> shift.toUInt64) &&&
      ((1 : UInt64) <<< bits.toUInt64 - 1) = (1 : UInt64) <<< bits.toUInt64 - 1) :
    field (withState lr state) shift bits = field lr shift bits := by
  rw [withState, field, UInt64.shiftRight_or, Bits.or_and, apart, UInt64.or_zero]
  exact Bits.kept_field kept

theorem lrVintid_withState : lrVintid (withState lr state) = lrVintid lr := by
  rw [lrVintid, field_withState (fun st => by cases st <;> decide) (by decide), ← lrVintid]

theorem lrPintid_withState : lrPintid (withState lr state) = lrPintid lr := by
  rw [lrPintid, lrIsHw_withState, field_withState (fun st => by cases st <;> decide) (by decide),
    ← lrPintid]

/-- The registers that hold an interrupt. -/
def copies (intid : UInt32) (bank : List UInt64) : Nat :=
  bank.countP fun lr => !lrIsFree lr && lrVintid lr == intid

def hasFree (bank : List UInt64) : Bool := bank.any lrIsFree

/-- A property that no free register has. -/
def Quiet (p : UInt64 → Bool) : Prop := ∀ lr, lrIsFree lr = true → p lr = false

theorem quiet_copies (intid : UInt32) : Quiet fun lr => !lrIsFree lr && lrVintid lr == intid := by
  intro lr free
  simp only [free, Bool.not_true, Bool.false_and]

theorem quiet_mapped : Quiet mapped := by
  intro lr free
  rw [mapped, free, Bool.not_true, Bool.false_and]

variable {bank bank' : List UInt64} {p : UInt64 → Bool} {intid other : UInt32}

@[simp] theorem length_place : (place lr bank).2.length = bank.length := by
  induction bank with
  | nil => rfl
  | cons old rest ih =>
      rw [place]
      split_ifs with free
      · rfl
      · rw [List.length_cons, List.length_cons, ih]

theorem place_fst : (place lr bank).1 = hasFree bank := by
  induction bank with
  | nil => rfl
  | cons old rest ih =>
      rw [place, hasFree, List.any_cons, ← hasFree]
      split_ifs with free
      · rw [free, Bool.true_or]
      · rw [Bool.eq_false_iff.mpr free, Bool.false_or]
        exact ih

theorem mem_place {lr' : UInt64} (member : lr' ∈ (place lr bank).2) : lr' = lr ∨ lr' ∈ bank := by
  induction bank with
  | nil => cases member
  | cons old rest ih =>
      rw [place] at member
      split_ifs at member
      · rw [List.mem_cons] at member ⊢
        exact member.imp_right .inr
      · rw [List.mem_cons] at member ⊢
        cases member with
        | inl first => exact .inr (.inl first)
        | inr later => exact (ih later).imp_right .inr

theorem place_full (full : hasFree bank = false) : (place lr bank).2 = bank := by
  induction bank with
  | nil => rfl
  | cons old rest ih =>
      rw [hasFree, List.any_cons, ← hasFree, Bool.or_eq_false_iff] at full
      rw [place, if_neg (Bool.eq_false_iff.mp full.1), ih full.2]

/-- Only the register that is put in place can add to a count that ignores free registers. -/
theorem countP_place (quiet : Quiet p) (room : hasFree bank = true) :
    (place lr bank).2.countP p = bank.countP p + if p lr then 1 else 0 := by
  induction bank with
  | nil => cases room
  | cons old rest ih =>
      rw [place]
      by_cases free : lrIsFree old = true
      · rw [if_pos free, List.countP_cons, List.countP_cons, quiet old free,
          if_neg Bool.false_ne_true, Nat.add_zero]
      · have occupied : lrIsFree old = false := Bool.eq_false_iff.mpr free
        rw [hasFree, List.any_cons, occupied, Bool.false_or, ← hasFree] at room
        rw [if_neg free, List.countP_cons, ih room, List.countP_cons, Nat.add_right_comm]

/-- The first free register is the one that is replaced. -/
theorem place_at {i : Nat} {old : UInt64} (here : bank[i]? = some old) (free : lrIsFree old = true)
    (before : ∀ k < i, ∀ r, bank[k]? = some r → lrIsFree r = false) :
    place lr bank = (true, bank.set i lr) := by
  induction bank generalizing i with
  | nil => cases here
  | cons first rest ih =>
      rw [place]
      cases i with
      | zero =>
          cases here
          rw [if_pos free, List.set_cons_zero]
      | succ i =>
          have occupied : lrIsFree first = false := before 0 (Nat.succ_pos i) first rfl
          have later : place lr rest = (true, rest.set i lr) := by
            refine ih here fun k earlier r held => ?_
            exact before (k + 1) (Nat.succ_lt_succ earlier) r held
          rw [occupied, if_neg Bool.false_ne_true, later, List.set_cons_succ]

/-- The register of a pending virtual interrupt. -/
def virtual (intid : UInt32) : UInt64 := (encodeLr intid none INJECT_PRIORITY).getD 0

theorem encodeLr_virtual (intid : UInt32) :
    encodeLr intid none INJECT_PRIORITY = some (virtual intid) := rfl

theorem inject_eq (intid : UInt32) (bank : List UInt64) :
    inject intid bank = place (virtual intid) bank := rfl

theorem virtual_spec (intid : UInt32) : lrIsFree (virtual intid) = false ∧
    lrVintid (virtual intid) = intid ∧ mapped (virtual intid) = false := by
  have decoded := decodes_encodeLr (encodeLr_virtual intid)
  refine ⟨?_, decoded.vintid, ?_⟩
  · rw [lrIsFree, decoded.state]
    rfl
  · rw [mapped, lrIsHw_encodeLr (encodeLr_virtual intid), Bool.and_false]

@[simp] theorem length_inject : (inject intid bank).2.length = bank.length := length_place

theorem inject_fst : (inject intid bank).1 = hasFree bank := place_fst

theorem inject_full (full : hasFree bank = false) : (inject intid bank).2 = bank := place_full full

theorem copies_inject (room : hasFree bank = true) : copies other (inject intid bank).2 =
    copies other bank + if intid = other then 1 else 0 := by
  obtain ⟨occupied, named, -⟩ := virtual_spec intid
  rw [copies, inject_eq, countP_place (quiet_copies other) room, ← copies, occupied, named]
  simp

theorem mapped_inject : (inject intid bank).2.countP mapped = bank.countP mapped := by
  cases room : hasFree bank with
  | false => rw [inject_full room]
  | true =>
      rw [inject_eq, countP_place quiet_mapped room, (virtual_spec intid).2.2,
        if_neg Bool.false_ne_true, Nat.add_zero]

/-- An injection that stands for the physical interrupt of the same number. -/
theorem injectHw_spec (intid : UInt32) (named : ¬intid > MAX_PINTID) : ∃ lr, lrIsFree lr = false ∧
    lrVintid lr = intid ∧ mapped lr = true ∧ lrPintid lr = some intid ∧
    ∀ bank, injectHw intid intid bank = place lr bank := by
  cases encoded : encodeLr intid (some intid) INJECT_PRIORITY with
  | none =>
      rw [encodeLr, if_neg named] at encoded
      cases encoded
  | some lr =>
      have decoded := decodes_encodeLr encoded
      have occupied : lrIsFree lr = false := by
        rw [lrIsFree, decoded.state]
        rfl
      have hw : lrIsHw lr = true := by
        by_contra software
        have none_named := decoded.pintid
        rw [lrPintid, if_neg software] at none_named
        cases none_named
      refine ⟨lr, occupied, decoded.vintid, ?_, decoded.pintid, fun bank => ?_⟩
      · rw [mapped, occupied, hw]
        rfl
      · rw [injectHw, encoded]

/-- One more if an interrupt waits. -/
def waiting (set : PendingSet) (intid : UInt32) : Nat := if set.waits intid then 1 else 0

/-- What a refill does to a bank and to the set behind it. -/
structure Refilled (bank : List UInt64) (set : PendingSet) (bank' : List UInt64) (set' : PendingSet)
    (placed : Nat) : Prop where
  length : bank'.length = bank.length
  /-- Interrupts move from the set into the bank; none is lost and none is new. -/
  moved : ∀ i, copies i bank' + waiting set' i = copies i bank + waiting set i
  mapped : bank'.countP mapped = bank.countP mapped
  /-- A register that stands for a physical interrupt did before. -/
  stands : ∀ lr ∈ bank', Gic.mapped lr = true → lr ∈ bank
  /-- It goes on until nothing waits or no register is free. -/
  exhausted : set'.isEmpty = true ∨ hasFree bank' = false
  kept : ∀ i, set'.waits i = true → set.waits i = true
  /-- The lowest interrupts go first. -/
  lowest : ∀ i j, set.waits i = true → set'.waits i = false → set'.waits j = true → i < j
  counted : placed + set'.intids.card = set.intids.card
  occupied : ∀ (k : Nat) lr, bank[k]? = some lr → lrIsFree lr = false → bank'[k]? = some lr

/-- The state of the loop at register `i`: the registers before it are occupied, and what has been
done so far is a refill that is not yet exhausted. -/
structure Filling (bank : List UInt64) (set : PendingSet) (i : Nat)
    (s : List UInt64 × PendingSet × Nat) :
    Prop where
  length : s.1.length = bank.length
  moved : ∀ j, copies j s.1 + waiting s.2.1 j = copies j bank + waiting set j
  mapped : s.1.countP mapped = bank.countP mapped
  stands : ∀ lr ∈ s.1, Gic.mapped lr = true → lr ∈ bank
  before : ∀ k < i, ∀ lr, s.1[k]? = some lr → lrIsFree lr = false
  kept : ∀ j, s.2.1.waits j = true → set.waits j = true
  lowest : ∀ j j', set.waits j = true → s.2.1.waits j = false → s.2.1.waits j' = true → j < j'
  counted : s.2.2 + s.2.1.intids.card = set.intids.card
  occupied : ∀ (k : Nat) lr, bank[k]? = some lr → lrIsFree lr = false → s.1[k]? = some lr

theorem Filling.refilled {bank : List UInt64} {set : PendingSet} {i : Nat}
    {s : List UInt64 × PendingSet × Nat} (filling : Filling bank set i s)
    (done : s.2.1.isEmpty = true ∨ hasFree s.1 = false) : Refilled bank set s.1 s.2.1 s.2.2 :=
  ⟨filling.length, filling.moved, filling.mapped, filling.stands, done, filling.kept,
    filling.lowest, filling.counted, filling.occupied⟩

/-- The lowest waiting interrupt goes to the free register that the loop has reached. -/
theorem Filling.placed {bank now : List UInt64} {set left left' : PendingSet} {i placed : Nat}
    {old : UInt64} {intid : UInt32} (filling : Filling bank set i (now, left, placed))
    (here : now[i]? = some old) (free : lrIsFree old = true)
    (taken : left.takeNext = (some intid, left')) :
    Filling bank set (i + 1) ((inject intid now).2, left', placed + 1) := by
  have room : hasFree now = true := List.any_eq_true.mpr ⟨_, List.mem_of_getElem? here, free⟩
  have put : (inject intid now).2 = now.set i (virtual intid) := by
    rw [inject_eq, place_at here free filling.before]
  have inside : i < now.length := (List.getElem?_eq_some_iff.mp here).1
  have waits' : ∀ j, left'.waits j = (left.waits j && !decide (intid = j)) :=
    fun j => (PendingSet.waits_takeNext taken).2
  have waited : left.waits intid = true := (@PendingSet.waits_takeNext _ _ _ intid taken).1
  constructor
  case length => exact length_inject.trans filling.length
  case moved =>
    intro j
    have total := filling.moved j
    dsimp only at total ⊢
    rw [copies_inject room, ← total, waiting, waiting, waits']
    by_cases same : intid = j
    · subst same
      rw [waited]
      simp
    · simp [same]
  case mapped => exact mapped_inject.trans filling.mapped
  case stands =>
    intro lr member stands
    rw [put] at member
    rcases List.mem_or_eq_of_mem_set member with old | rfl
    · exact filling.stands lr old stands
    · rw [(virtual_spec intid).2.2] at stands
      cases stands
  case before =>
    intro k earlier lr held
    rw [put] at held
    rcases Nat.lt_succ_iff_lt_or_eq.mp earlier with passed | rfl
    · rw [List.getElem?_set_ne (by omega)] at held
      exact filling.before k passed lr held
    · rw [List.getElem?_set_self inside] at held
      cases held
      exact (virtual_spec intid).1
  case kept =>
    intro j waits
    rw [waits', Bool.and_eq_true] at waits
    exact filling.kept j waits.1
  case lowest =>
    intro j j' waits gone left_over
    rw [waits', Bool.and_eq_true, Bool.not_eq_true', decide_eq_false_iff_not] at left_over
    rw [waits', Bool.and_eq_false_iff, Bool.not_eq_false', decide_eq_true_iff] at gone
    rcases gone with gone | rfl
    · exact filling.lowest j j' waits gone left_over.1
    · exact UInt32.lt_of_le_of_ne (PendingSet.lowest_takeNext taken left_over.1) left_over.2
  case counted =>
    have counted := filling.counted
    have card := PendingSet.card_takeNext taken
    dsimp only at counted ⊢
    omega
  case occupied =>
    intro k lr held occupied
    have other : i ≠ k := by
      rintro rfl
      have still := filling.occupied i lr held occupied
      rw [here] at still
      cases still
      rw [free] at occupied
      cases occupied
    rw [put, List.getElem?_set_ne other]
    exact filling.occupied k lr held occupied

theorem flushFrom_spec {bank : List UInt64} {set : PendingSet} (n i : Nat)
    (s : List UInt64 × PendingSet × Nat) (whole : i + n = bank.length)
    (filling : Filling bank set i s) :
    Refilled bank set (flushFrom (List.range' i n) s).1 (flushFrom (List.range' i n) s).2.1
      (flushFrom (List.range' i n) s).2.2 := by
  induction n generalizing i s with
  | zero =>
      refine filling.refilled (.inr ?_)
      rw [hasFree, List.any_eq_false]
      intro lr member
      obtain ⟨k, held⟩ := List.mem_iff_getElem?.mp member
      have inside : k < s.1.length := (List.getElem?_eq_some_iff.mp held).1
      have settled := filling.before k (by have := filling.length; omega) lr held
      rw [settled]
      exact Bool.false_ne_true
  | succ n ih =>
      obtain ⟨now, left, placed⟩ := s
      have inside : i < now.length := by
        have := filling.length
        dsimp only at this
        omega
      have here : now[i]? = some now[i] := List.getElem?_eq_getElem inside
      have later : i + 1 + n = bank.length := by omega
      rw [List.range'_succ, flushFrom, here, Option.getD_some]
      cases free : lrIsFree now[i] with
      | false =>
          rw [Bool.not_false, if_pos rfl]
          refine ih (i + 1) _ later { filling with before := ?_ }
          intro k earlier lr held
          rcases Nat.lt_succ_iff_lt_or_eq.mp earlier with passed | rfl
          · exact filling.before k passed lr held
          · rw [here] at held
            cases held
            exact free
      | true =>
          have room : hasFree now = true := List.any_eq_true.mpr ⟨_, List.getElem_mem inside, free⟩
          rw [Bool.not_true, if_neg Bool.false_ne_true]
          cases taken : left.takeNext with
          | mk first left' =>
              cases first with
              | none =>
                  have empty : left.takeNext.1 = none := by rw [taken]
                  have same : left' = left := by
                    have rest := PendingSet.takeNext_rest empty
                    rwa [taken] at rest
                  subst same
                  exact filling.refilled (.inl (PendingSet.takeNext_none.mp empty))
              | some intid =>
                  dsimp only
                  rw [inject_fst, room, if_pos rfl]
                  exact ih (i + 1) _ later (filling.placed here free taken)

/-- Refilling moves the lowest waiting interrupts into the free registers, as many as fit. -/
theorem flush_spec (bank : List UInt64) (set : PendingSet) :
    Refilled bank set (flushPendingToLrs bank set).1 (flushPendingToLrs bank set).2.1
      (flushPendingToLrs bank set).2.2 := by
  rw [flushPendingToLrs, List.range_eq_range']
  refine flushFrom_spec bank.length 0 _ (Nat.zero_add _) ?_
  refine ⟨rfl, fun _ => rfl, rfl, fun _ member _ => member, ?_, fun _ => id, ?_, Nat.zero_add _,
    fun _ _ held _ => held⟩
  · intro k early
    cases early
  · intro j j' waits gone
    rw [waits] at gone
    cases gone

end Baleen.Metal
