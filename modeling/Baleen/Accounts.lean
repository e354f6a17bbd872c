import Baleen.Evtchn.Model

/-!
# Credit accounts and device assignment

The two smallest subsystems: each domain's credit account, and the table that
says which domain holds each DMA-capable device.  The 64-bit counters of an account
are natural numbers with the source's overflow checks.
-/

namespace Baleen

namespace Credit

inductive HError where
  | overflow
  | insufficient
  deriving DecidableEq, Repr

structure HvCore where
  balance : Nat
  granted : Nat
  spent : Nat
  deriving DecidableEq, Repr

namespace HvCore

def new : HvCore := ⟨0, 0, 0⟩

def grantCredit (amount : UInt32) : Op HvCore HError Nat := do
  Op.ensure (fun c => c.balance + amount.toNat < 2 ^ 64) .overflow
  Op.ensure (fun c => c.granted + amount.toNat < 2 ^ 64) .overflow
  Op.modify fun c =>
    { c with balance := c.balance + amount.toNat, granted := c.granted + amount.toNat }
  let c ← Op.read
  return c.balance

def spendCredit (amount : UInt32) : Op HvCore HError Nat := do
  Op.ensure (fun c => amount.toNat ≤ c.balance) .insufficient
  Op.ensure (fun c => c.spent + amount.toNat < 2 ^ 64) .overflow
  Op.modify fun c =>
    { c with balance := c.balance - amount.toNat, spent := c.spent + amount.toNat }
  let c ← Op.read
  return c.balance

def invariantsHold (c : HvCore) : Bool := c.granted = c.spent + c.balance

theorem grantCredit_spec (amount : UInt32) (c : HvCore) :
    Op.Yields (fun _ c' => c.invariantsHold = true → c'.invariantsHold = true) (· = c)
      (grantCredit amount c) := by
  refine Op.yields_ensure rfl fun _ => Op.yields_ensure rfl fun _ => ?_
  simp only [Op.Yields, Op.modify_bind_apply, Op.read_bind_apply, Op.pure_apply, invariantsHold,
    decide_eq_true_eq]
  intro conserved
  rw [conserved, Nat.add_assoc]

theorem spendCredit_spec (amount : UInt32) (c : HvCore) :
    Op.Yields (fun _ c' => c.invariantsHold = true → c'.invariantsHold = true) (· = c)
      (spendCredit amount c) := by
  refine Op.yields_ensure rfl fun covered => Op.yields_ensure rfl fun _ => ?_
  simp only [Op.Yields, Op.modify_bind_apply, Op.read_bind_apply, Op.pure_apply, invariantsHold,
    decide_eq_true_eq] at covered ⊢
  intro conserved
  omega

end HvCore

end Credit

namespace Device

/-- A device identifier. -/
abbrev DevId := UInt16

inductive DeviceError where
  | badDevice
  | badDomain
  | busy
  | notAssigned
  deriving DecidableEq, Repr

/-- The holder of each device. -/
structure System where
  holders : List (Option DomId)
  numDomains : Nat
  deriving DecidableEq, Repr

namespace System

def new (numDomains numDevices : Nat) : System := ⟨List.replicate numDevices none, numDomains⟩

def setHolder (s : System) (dev : DevId) (holder : Option DomId) : System :=
  { s with holders := s.holders.set dev.toNat holder }

def assign (dev : DevId) (recipient : DomId) : Op System DeviceError Unit := do
  Op.ensure (fun s => recipient.toNat < s.numDomains) .badDomain
  let s ← Op.read
  match s.holders[dev.toNat]? with
  | none => Op.fail .badDevice
  | some none => Op.modify (·.setHolder dev (some recipient))
  | some (some holder) => if holder = recipient then pure () else Op.fail .busy

def release (dev : DevId) (holder : DomId) : Op System DeviceError Unit := do
  Op.ensure (fun s => holder.toNat < s.numDomains) .badDomain
  let s ← Op.read
  match s.holders[dev.toNat]? with
  | none => Op.fail .badDevice
  | some slot =>
      Op.ensure (fun _ => slot = some holder) .notAssigned
      Op.modify (·.setHolder dev none)

/-- A device is assigned from the free pool, or already to the same domain. -/
theorem assign_spec (dev : DevId) (recipient : DomId) (s : System) :
    Op.Yields (fun _ s' => s' = s ∨ s.holders[dev.toNat]? = some none ∧
        s' = s.setHolder dev (some recipient)) (· = s) (assign dev recipient s) := by
  refine Op.yields_ensure rfl fun _ => ?_
  rw [Op.read_bind_apply]
  match found : s.holders[dev.toNat]? with
  | none => exact rfl
  | some none => exact .inr ⟨rfl, rfl⟩
  | some (some holder) =>
      by_cases same : holder = recipient
      · simp only [same, if_true]
        exact .inl rfl
      · simp only [same, if_false]
        exact rfl

theorem release_spec (dev : DevId) (holder : DomId) (s : System) :
    Op.Yields (fun _ s' => s.holders[dev.toNat]? = some (some holder) ∧
        s' = s.setHolder dev none) (· = s) (release dev holder s) := by
  refine Op.yields_ensure rfl fun _ => ?_
  rw [Op.read_bind_apply]
  cases found : s.holders[dev.toNat]? with
  | none => exact rfl
  | some slot =>
      refine Op.yields_ensure rfl fun held => ?_
      have held : slot = some holder := by simpa using held
      exact ⟨by rw [held], rfl⟩

def releaseAllOf (holder : DomId) (s : System) : System :=
  { s with holders := s.holders.map fun slot => if slot = some holder then none else slot }

def holderOf (s : System) (dev : DevId) : Option DomId := (s.holders[dev.toNat]?).getD none

def anyDeviceOf (s : System) (holder : DomId) : Bool := s.holders.contains (some holder)

def deviceCount (s : System) : Nat := s.holders.length

end System

end Device

end Baleen
