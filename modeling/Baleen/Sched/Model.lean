import Baleen.Evtchn.Model

/-!
# The scheduler

Run states of every domain's vCPUs and the occupancy of the physical CPUs.  Ticks
are natural numbers that saturate where the source's 64-bit counters do, and an
affinity mask is the natural number of its 64 bits.
-/

namespace Baleen

/-- Clock readings. -/
abbrev Ticks := Nat

namespace Sched

/-- A physical CPU identifier. -/
abbrev Pcpu := UInt32

inductive RunState where
  | offline
  | runnable
  | running (pcpu : Pcpu)
  | blocked
  deriving DecidableEq, Repr

structure VirtualCpu where
  state : RunState
  runtime : Ticks
  dispatchedAt : Ticks
  affinity : Nat
  deriving DecidableEq, Repr

def VirtualCpu.OFFLINE : VirtualCpu := ⟨.offline, 0, 0, 0⟩

/-- The mask that permits every physical CPU. -/
def fullMask (numPcpus : Nat) : Nat := if 64 ≤ numPcpus then 2 ^ 64 - 1 else 2 ^ numPcpus - 1

def maskPermits (mask : Nat) (pcpu : Pcpu) : Bool :=
  pcpu.toNat < 64 && mask.testBit pcpu.toNat

structure System where
  /-- One row of vCPUs for each domain. -/
  domains : Grid VirtualCpu
  /-- Who is running on each physical CPU. -/
  pcpus : List (Option (DomId × Vcpu))
  deriving DecidableEq, Repr

inductive SchedError where
  | badDomain
  | badVcpu
  | badPcpu
  | wrongState
  | pcpuBusy
  | notAffine
  deriving DecidableEq, Repr

inductive Violation where
  | runningGhostPcpu (dom vcpu : Nat)
  | occupancyBroken (dom vcpu : Nat)
  | occupantNotRunning (pcpu : Nat)
  | occupantGhost (pcpu : Nat)
  | runningOffAffinity (dom vcpu : Nat)
  deriving DecidableEq, Repr

namespace System

def new (numDomains vcpusPerDomain numPcpus : Nat) : System where
  domains := Grid.fill numDomains vcpusPerDomain
    { VirtualCpu.OFFLINE with affinity := fullMask numPcpus }
  pcpus := List.replicate numPcpus none

def vcpu (s : System) (dom : DomId) (v : Vcpu) : Except SchedError VirtualCpu :=
  match s.domains[dom.toNat]? with
  | none => .error .badDomain
  | some vcpus =>
      match vcpus[v.toNat]? with
      | some c => .ok c
      | none => .error .badVcpu

/-- The vCPU, without the reason for its absence. -/
def vcpu? (s : System) (dom : DomId) (v : Vcpu) : Option VirtualCpu :=
  s.domains.get? dom.toNat v.toNat

def setVcpu (s : System) (dom : DomId) (v : Vcpu) (c : VirtualCpu) : System :=
  { s with domains := s.domains.set dom.toNat v.toNat c }

def setPcpu (s : System) (pcpu : Pcpu) (occupant : Option (DomId × Vcpu)) : System :=
  { s with pcpus := s.pcpus.set pcpu.toNat occupant }

def domainCount (s : System) : Nat := s.domains.length

def vcpuCount (s : System) (dom : DomId) : Nat := s.domains.width dom.toNat

/-- The vCPUs a loop over `0..vcpu_count(dom) as Vcpu` visits. -/
def vcpus (s : System) (dom : DomId) : List Vcpu := Words.range32 (s.vcpuCount dom)

def fullAffinity (s : System) : Nat := fullMask s.pcpus.length

def stateOf (s : System) (dom : DomId) (v : Vcpu) : Option RunState :=
  (s.vcpu? dom v).map (·.state)

def occupant (s : System) (pcpu : Pcpu) : Option (DomId × Vcpu) := (s.pcpus[pcpu.toNat]?).join

def affinityOf (s : System) (dom : DomId) (v : Vcpu) : Option Nat :=
  (s.vcpu? dom v).map (·.affinity)

def affinityPermits (s : System) (dom : DomId) (v : Vcpu) (pcpu : Pcpu) : Bool :=
  match s.vcpu dom v with
  | .error _ => false
  | .ok c => maskPermits c.affinity pcpu

def admitVcpu (dom : DomId) (v : Vcpu) : Op System SchedError Unit := do
  let c ← Op.query (·.vcpu dom v)
  Op.ensure (fun _ => c.state = .offline) .wrongState
  Op.modify (·.setVcpu dom v { c with state := .runnable })

def run (dom : DomId) (v : Vcpu) (pcpu : Pcpu) (now : Ticks) : Op System SchedError Unit := do
  Op.ensure (fun s => pcpu.toNat < s.pcpus.length) .badPcpu
  let c ← Op.query (·.vcpu dom v)
  Op.ensure (fun _ => c.state = .runnable) .wrongState
  Op.ensure (·.affinityPermits dom v pcpu) .notAffine
  Op.ensure (fun s => s.pcpus[pcpu.toNat]? = some none) .pcpuBusy
  Op.modify (·.setVcpu dom v { c with state := .running pcpu, dispatchedAt := now })
  Op.modify (·.setPcpu pcpu (some (dom, v)))

/-- Close the current on-CPU interval into `runtime`, in saturating arithmetic. -/
def account (c : VirtualCpu) (now : Ticks) : VirtualCpu :=
  { c with runtime := min (c.runtime + (now - c.dispatchedAt)) (2 ^ 64 - 1) }

/-- Take a vCPU off the physical CPU it runs on, if it runs. -/
def offCpu (dom : DomId) (v : Vcpu) (now : Ticks) (c : VirtualCpu) (s : System) : System :=
  match c.state with
  | .running pcpu => (s.setVcpu dom v (account c now)).setPcpu pcpu none
  | _ => s

/-- The vCPU record after `offCpu`. -/
def closed (now : Ticks) (c : VirtualCpu) : VirtualCpu :=
  match c.state with
  | .running _ => account c now
  | _ => c

def isRunning : RunState → Bool
  | .running _ => true
  | _ => false

def preempt (dom : DomId) (v : Vcpu) (now : Ticks) : Op System SchedError Unit := do
  let c ← Op.query (·.vcpu dom v)
  Op.ensure (fun _ => isRunning c.state) .wrongState
  Op.modify (offCpu dom v now c)
  Op.modify (·.setVcpu dom v { closed now c with state := .runnable })

def block (dom : DomId) (v : Vcpu) (now : Ticks) : Op System SchedError Unit := do
  let c ← Op.query (·.vcpu dom v)
  Op.ensure (fun _ => c.state ≠ .offline ∧ c.state ≠ .blocked) .wrongState
  Op.modify (offCpu dom v now c)
  Op.modify (·.setVcpu dom v { closed now c with state := .blocked })

def wake (dom : DomId) (v : Vcpu) : Op System SchedError Unit := do
  let c ← Op.query (·.vcpu dom v)
  Op.ensure (fun _ => c.state = .blocked) .wrongState
  Op.modify (·.setVcpu dom v { c with state := .runnable })

/-- Whether a vCPU in this state may be given the mask. -/
def staysAffine (mask : Nat) : RunState → Bool
  | .running pcpu => maskPermits mask pcpu
  | _ => true

def setAffinity (dom : DomId) (v : Vcpu) (affinity : Nat) : Op System SchedError Unit := do
  let s ← Op.read
  let c ← Op.query (·.vcpu dom v)
  Op.ensure (fun _ => staysAffine (affinity &&& s.fullAffinity) c.state) .notAffine
  Op.modify (·.setVcpu dom v { c with affinity := affinity &&& s.fullAffinity })

def offline (dom : DomId) (v : Vcpu) (now : Ticks) : Op System SchedError Unit := do
  let s ← Op.read
  let c ← Op.query (·.vcpu dom v)
  Op.ensure (fun _ => c.state ≠ .offline) .wrongState
  Op.modify (offCpu dom v now c)
  Op.modify (·.setVcpu dom v { closed now c with state := .offline, affinity := s.fullAffinity })

/-- Take every vCPU of `dom` offline, with the result of each. -/
def offlineAll (dom : DomId) (now : Ticks) (s : System) : List (Except SchedError Unit) × System :=
  Op.sweep (fun v s =>
    if s.stateOf dom v ≠ some .offline then some (offline dom v now s) else none) (s.vcpus dom) s

/-- The breach, if any, at one vCPU. -/
def vcpuViolation (s : System) (d v : Nat) (c : VirtualCpu) : Option Violation :=
  match c.state with
  | .running pcpu =>
      match s.pcpus[pcpu.toNat]? with
      | none => some (.runningGhostPcpu d v)
      | some occupant =>
          if occupant ≠ some (UInt16.ofNat d, UInt32.ofNat v) then some (.occupancyBroken d v)
          else if !maskPermits c.affinity pcpu then some (.runningOffAffinity d v)
          else none
  | _ => none

/-- The breach, if any, at one physical CPU. -/
def pcpuViolation (s : System) (p : Nat) : Option (DomId × Vcpu) → Option Violation
  | none => none
  | some (dom, v) =>
      match s.vcpu dom v with
      | .error _ => some (.occupantGhost p)
      | .ok c => if c.state ≠ .running (UInt32.ofNat p) then some (.occupantNotRunning p) else none

def firstViolation (s : System) : Option Violation :=
  ((List.range s.domains.length).findSome? fun d =>
    (List.range (s.domains.width d)).findSome? fun v =>
      (s.domains.get? d v).bind (s.vcpuViolation d v)) <|>
  (List.range s.pcpus.length).findSome? fun p => s.pcpus[p]?.bind (s.pcpuViolation p)

def invariantsHold (s : System) : Bool := s.firstViolation.isNone

end System

end Sched

end Baleen
