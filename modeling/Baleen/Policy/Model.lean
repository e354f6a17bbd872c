import Baleen.Lib.Choose
import Baleen.Sched.Model

/-!
# The scheduling policy

The layer that picks: it dispatches the runnable vCPU with the least service for its
weight, and takes a physical CPU back from a runner whose time-slice is over and whom a
waiter beats.  It changes the scheduler only through `run` and `preempt`.
-/

namespace Baleen.Policy

open Sched

def MIN_WEIGHT : UInt32 := 1

/-- The largest 128-bit value. -/
def U128_MAX : Nat := 2 ^ 128 - 1

def saturatingMul (a b : Nat) : Nat := min (a * b) U128_MAX

/-- The position of a vCPU: its service over its weight. -/
structure Share where
  service : Nat
  weight : Nat
  deriving DecidableEq, Repr

def moreDeserving (a b : Share) : Bool :=
  saturatingMul a.service b.weight < saturatingMul b.service a.weight

inductive Decision where
  | run (dom : DomId) (vcpu : Vcpu) (pcpu : Pcpu)
  | preempt (dom : DomId) (vcpu : Vcpu) (pcpu : Pcpu)
  | idle
  deriving DecidableEq, Repr

structure Scheduler where
  weights : Grid UInt32
  quantum : Ticks
  offset : Grid Nat
  wasSchedulable : Grid Bool
  wakeBoost : Bool
  deriving DecidableEq, Repr

end Baleen.Policy

namespace Baleen.Sched.System

/-- The vCPUs that a loop over all domains and their vCPUs visits. -/
def visits (s : System) : List (DomId × Vcpu) :=
  (Words.range16 s.domainCount).flatMap fun dom => (s.vcpus dom).map fun v => (dom, v)

def pcpuIds (s : System) : List Pcpu := Words.range32 s.pcpus.length

def runtime (s : System) (dom : DomId) (v : Vcpu) : Option Ticks := (s.vcpu? dom v).map (·.runtime)

def onCpuSince (s : System) (dom : DomId) (v : Vcpu) : Option Ticks :=
  (s.vcpu? dom v).bind fun c => if isRunning c.state then some c.dispatchedAt else none

end Baleen.Sched.System

namespace Baleen.Policy

open Sched

/-- Whether a vCPU is in the runnable pool. -/
def schedulable (sys : System) (dom : DomId) (v : Vcpu) : Bool :=
  match sys.stateOf dom v with
  | some .runnable => true
  | some (.running _) => true
  | _ => false

namespace Scheduler

def new (numDomains vcpusPerDomain : Nat) (quantum : Ticks) : Scheduler where
  weights := Grid.fill numDomains vcpusPerDomain MIN_WEIGHT
  quantum := quantum
  offset := Grid.fill numDomains vcpusPerDomain 0
  wasSchedulable := Grid.fill numDomains vcpusPerDomain false
  wakeBoost := true

def setWakeBoost (s : Scheduler) (enabled : Bool) : Scheduler :=
  { s with wakeBoost := enabled, offset := s.offset.map fun row => row.map fun _ => 0 }

def setWeight (s : Scheduler) (dom : DomId) (v : Vcpu) (weight : UInt32) : Scheduler :=
  { s with weights := s.weights.set dom.toNat v.toNat (max weight MIN_WEIGHT) }

def weightOf (s : Scheduler) (dom : DomId) (v : Vcpu) : Nat :=
  (max ((s.weights.get? dom.toNat v.toNat).getD MIN_WEIGHT) MIN_WEIGHT).toNat

def offsetOf (s : Scheduler) (dom : DomId) (v : Vcpu) : Nat :=
  (s.offset.get? dom.toNat v.toNat).getD 0

def setOffset (s : Scheduler) (dom : DomId) (v : Vcpu) (value : Nat) : Scheduler :=
  { s with offset := s.offset.set dom.toNat v.toNat value }

def wasSchedulableOf (s : Scheduler) (dom : DomId) (v : Vcpu) : Bool :=
  (s.wasSchedulable.get? dom.toNat v.toNat).getD false

def setWasSchedulable (s : Scheduler) (dom : DomId) (v : Vcpu) (value : Bool) : Scheduler :=
  { s with wasSchedulable := s.wasSchedulable.set dom.toNat v.toNat value }

/-- The sum is one of 128-bit words. -/
def share (s : Scheduler) (sys : System) (dom : DomId) (v : Vcpu) (now : Ticks) : Share :=
  let closed := (sys.runtime dom v).getD 0
  let inFlight := ((sys.onCpuSince dom v).map fun since => now - since).getD 0
  ⟨(closed + inFlight + s.offsetOf dom v) % 2 ^ 128, s.weightOf dom v⟩

def firstIdlePcpuFor (sys : System) (dom : DomId) (v : Vcpu) : Option Pcpu :=
  sys.pcpuIds.find? fun p => (sys.occupant p).isNone && sys.affinityPermits dom v p

/-- The runnable vCPUs that can be placed now, each with its physical CPU and its share. -/
def placements (s : Scheduler) (sys : System) (now : Ticks) :
    List ((DomId × Vcpu × Pcpu) × Share) :=
  sys.visits.filterMap fun (dom, v) =>
    if sys.stateOf dom v = some .runnable then
      (firstIdlePcpuFor sys dom v).map fun p => ((dom, v, p), s.share sys dom v now)
    else none

def bestPlacement (s : Scheduler) (sys : System) (now : Ticks) : Option (DomId × Vcpu × Pcpu) :=
  (Choose.best moreDeserving (s.placements sys now)).map (·.1)

def someAffineWaiterBeats (s : Scheduler) (sys : System) (pcpu : Pcpu) (runner : Share)
    (now : Ticks) : Bool :=
  sys.visits.any fun (dom, v) =>
    decide (sys.stateOf dom v = some .runnable) && sys.affinityPermits dom v pcpu &&
      moreDeserving (s.share sys dom v now) runner

/-- Whether a runner has held its physical CPU for a time-slice. -/
def expired (s : Scheduler) (sys : System) (dom : DomId) (v : Vcpu) (now : Ticks) : Bool :=
  s.quantum ≤ now - (sys.onCpuSince dom v).getD now

/-- The runners whose time-slice is over and whose physical CPU a waiter has a better claim to. -/
def preemptions (s : Scheduler) (sys : System) (now : Ticks) :
    List ((DomId × Vcpu × Pcpu) × Share) :=
  sys.visits.filterMap fun (dom, v) =>
    match sys.stateOf dom v with
    | some (.running p) =>
        if s.expired sys dom v now && s.someAffineWaiterBeats sys p (s.share sys dom v now) now then
          some ((dom, v, p), s.share sys dom v now)
        else none
    | _ => none

def bestPreemption (s : Scheduler) (sys : System) (now : Ticks) : Option (DomId × Vcpu × Pcpu) :=
  (Choose.best (fun a b => moreDeserving b a) (s.preemptions sys now)).map (·.1)

def next (s : Scheduler) (sys : System) (now : Ticks) : Decision :=
  match s.bestPlacement sys now with
  | some (dom, v, p) => .run dom v p
  | none =>
      match s.bestPreemption sys now with
      | some (dom, v, p) => .preempt dom v p
      | none => .idle

/-- The least share of those that were in the pool at the last snapshot and still are. -/
def floor (s : Scheduler) (sys : System) (now : Ticks) : Option Share :=
  (Choose.best moreDeserving (sys.visits.filterMap fun (dom, v) =>
    if schedulable sys dom v && s.wasSchedulableOf dom v then some ((), s.share sys dom v now)
    else none)).map (·.2)

/-- The service that puts a vCPU of this weight at the floor. -/
def floorService (f : Share) (weight : Nat) : Nat := saturatingMul f.service weight / f.weight

/-- The body of the second loop: place a waker at the floor, and refresh the snapshot. -/
def placeWaker (sys : System) (floor : Option Share) (s : Scheduler) : DomId × Vcpu → Scheduler
  | (dom, v) =>
      let nowSched := schedulable sys dom v
      let woke := nowSched && !s.wasSchedulableOf dom v
      let s' :=
        match floor with
        | some f =>
            if woke && s.wakeBoost then
              s.setOffset dom v (floorService f (s.weightOf dom v) - (sys.runtime dom v).getD 0)
            else s
        | none => s
      s'.setWasSchedulable dom v nowSched

def account (s : Scheduler) (sys : System) (now : Ticks) : Scheduler :=
  sys.visits.foldl (placeWaker sys (s.floor sys now)) s

/-- One placement for each vCPU, and a preemption and a refill for each physical CPU. -/
def capacity (sys : System) : Nat :=
  ((Words.range16 sys.domainCount).map sys.vcpuCount).sum + 2 * sys.pcpus.length + 1

/-- The number of transitions after which the loop gives up, as a 32-bit word. -/
def limit (sys : System) : Nat := capacity sys % 2 ^ 32

/-- The scheduler after an enacted decision, or nothing when there is none to enact. -/
def enact (now : Ticks) (sys : System) : Decision → Option System
  | .run dom v p =>
      match System.run dom v p now sys with
      | (.ok (), sys') => some sys'
      | (.error _, _) => none
  | .preempt dom v _ =>
      match System.preempt dom v now sys with
      | (.ok (), sys') => some sys'
      | (.error _, _) => none
  | .idle => none

/-- The loop, with the number of transitions enacted. -/
def settle (s : Scheduler) (now : Ticks) : Nat → System → System × Nat
  | 0, sys => (sys, 0)
  | fuel + 1, sys =>
      match enact now sys (s.next sys now) with
      | none => (sys, 0)
      | some sys' => ((settle s now fuel sys').1, (settle s now fuel sys').2 + 1)

/-- The policy and the scheduler after a tick, and the number of transitions. -/
def advance (s : Scheduler) (sys : System) (now : Ticks) : Scheduler × System × Nat :=
  let s' := s.account sys now
  let settled := settle s' now (limit sys) sys
  (s', settled.1, settled.2)

end Scheduler

end Baleen.Policy
