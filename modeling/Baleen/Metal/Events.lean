import Baleen.Lib.Guarded
import Baleen.Metal.Machine

/-!
# Runs of the machine

What happens to the machine of the guests: traps of the vCPU that runs, physical interrupts, and
switches.  Between them the vCPU computes with its own registers, and its interface moves the
interrupts of the list registers from state to state; ending one that stands for the physical timer
deactivates the timer.
-/

namespace Baleen.Metal

open Gic

inductive Event (G V aps : Nat) where
  | sgi (value : UInt64)
  | spi (route : Irouter.SpiRoute) (intid : UInt32)
  | timer (wanted : Bool)
  | maintenance
  | mirror (enabled : Bool)
  | seed (own : Role G V) (entry contextId sctlr : UInt64)
  | switch (next : Role G V) (wants : Bool)
  | interface (k : Nat) (state : LrState)
  | compute (x : Vector UInt64 31) (regs : CtxReg → UInt64) (fp : FpCtx) (vmcr : UInt64)
      (apr : Vector (Vector UInt64 aps) 2)

namespace Machine

variable {G V lrs aps : Nat} {m : Machine G V lrs aps}

/-- The register of the vCPU that runs. -/
def register (m : Machine G V lrs aps) (k : Nat) : UInt64 := m.live.bank[k]?.getD 0

theorem length_set_live (m : Machine G V lrs aps) (k : Nat) (lr : UInt64) :
    (m.live.bank.set k lr).length = m.live.vgic.lr.length := List.length_set

/-- The interface of the vCPU has moved an interrupt to another state. -/
def useInterface (k : Nat) (state : LrState) (m : Machine G V lrs aps) : Machine G V lrs aps :=
  let lr := m.register k
  let m' := m.setLive (m.live.withBank (m.live.bank.set k (withState lr state))
    (m.length_set_live k _))
  if mapped lr && state = .invalid then { m' with timer := { m.timer with active := false } }
  else m'

def compute (x : Vector UInt64 31) (regs : CtxReg → UInt64) (fp : FpCtx) (vmcr : UInt64)
    (apr : Vector (Vector UInt64 aps) 2) (m : Machine G V lrs aps) : Machine G V lrs aps :=
  m.setLive
    { x := x, regs := regs, fp := fp, vgic := { m.live.vgic with vmcr := vmcr, apr := apr } }

/-- What the machine and its callers guarantee of an event.  An SPI is routed only if the
distributor has it, an active interrupt is not signalled again, a guest seeds only contexts of its
own that were never seeded, a switch does not park, and the interface cannot fill a free register.
-/
def may (m : Machine G V lrs aps) : Event G V aps → Prop
  | .spi _ intid => intid.toNat < NUM_INTIDS
  | .timer _ => m.timer.enabled = true ∧ m.timer.active = false
  | .seed own _ _ _ => own.guest = m.current.guest ∧ m.seeded own = false
  | .switch next _ => m.seeded next = true
  | .interface k _ => k < lrs ∧ lrIsFree (m.register k) = false
  | _ => True

instance (e : Event G V aps) : Decidable (m.may e) := by
  cases e <;> simp only [may] <;> infer_instance

def step : Event G V aps → Machine G V lrs aps → Machine G V lrs aps
  | .sgi value, m => m.sendSgi value
  | .spi route intid, m => m.deliverSpi route intid
  | .timer wanted, m => m.takeTimer wanted
  | .maintenance, m => m.takeMaintenance
  | .mirror enabled, m => m.setPpiEnabled enabled
  | .seed own entry contextId sctlr, m => m.seed own entry contextId sctlr
  | .switch next wants, m => (m.switchContext next wants).getD m
  | .interface k state, m => m.useInterface k state
  | .compute x regs fp vmcr apr, m => m.compute x regs fp vmcr apr

end Machine

end Baleen.Metal
