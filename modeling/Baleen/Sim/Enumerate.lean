import Baleen.Sim.Noninterference
import Mathlib.Data.List.DropRight

/-!
# The key under which states are deduplicated

A snapshot is read out of a hypervisor and laid out as a list of words; the breadth-first
search keeps one state for each list.  Loops over identifiers run up to a count that is
cast to the width of the identifier, and an index past the end of a read-out array panics:
then there is no key.
-/

namespace Baleen

namespace Enumerate

open Evtchn (PortState)
open Sched (RunState)
open Grant (GrantRef Access)
open P2m (PageType)

structure PortRec where
  state : PortState
  pending : Bool
  masked : Bool
  deriving DecidableEq, Repr

structure VcpuRec where
  state : RunState
  affinity : Nat
  deriving DecidableEq, Repr

structure FrameRec where
  owner : DomId
  refs : Nat
  writableRefs : Nat
  pagetableRefs : Nat
  ty : Option PageType
  pinned : Bool
  deriving DecidableEq, Repr

/-- A live mapping at a handle: grantor, reference, whether it is writable. -/
abbrev Mapping := DomId × GrantRef × Bool

/-- A page-table edge: parent, slot, child, writable, leaf, execute. -/
abbrev Edge := P2m.Mfn × UInt32 × P2m.Mfn × Bool × Bool × Bool

/-- Arrays over two kinds of identifier are in row-major order. -/
structure Snapshot where
  nDom : Nat
  nPort : Nat
  nGrant : Nat
  nVcpu : Nat
  nPcpu : Nat
  nFrame : Nat
  ports : List PortRec
  grants : List (Option Access)
  mappings : List (List (Option Mapping))
  vcpus : List VcpuRec
  occ : List (Option (DomId × Vcpu))
  frames : List (Option FrameRec)
  edges : List Edge
  live : List Bool
  mayCreate : List Bool
  control : List Control
  assign : List (Option DomId)
  deriving DecidableEq, Repr

section FromHv

variable (hv : Hypervisor)

/-- The sizes of domain 0 stand for those of all. -/
def ofFirst (count : DomId → Nat) : Nat := if 0 < hv.domainCount then count 0 else 0

def portRec (dom : DomId) (port : Evtchn.Port) : PortRec :=
  ⟨(hv.evtchn.stateOf dom port).getD .free, hv.evtchn.isPending dom port,
    hv.evtchn.isMasked dom port⟩

def vcpuRec (dom : DomId) (vcpu : Vcpu) : VcpuRec :=
  ⟨(hv.sched.stateOf dom vcpu).getD .offline, (hv.sched.affinityOf dom vcpu).getD 0⟩

def track (dom : DomId) : List (Option Mapping) :=
  (Words.range32 (hv.grant.handleSlots dom)).map fun h => hv.grant.mappingAt dom h.toNat

/-- The page-table references, if the frame is typed as a table. -/
def tableRefs (mfn : P2m.Mfn) : Nat :=
  match hv.p2m.currentType mfn with
  | some (.pageTable level) => (hv.p2m.typeRefs mfn (.pageTable level)).getD 0
  | _ => 0

def frameRec (mfn : P2m.Mfn) : Option FrameRec :=
  (hv.p2m.ownerOf mfn).map fun owner =>
    { owner
      refs := (hv.p2m.refs mfn).getD 0
      writableRefs := (hv.p2m.typeRefs mfn .writable).getD 0
      pagetableRefs := tableRefs hv mfn
      ty := hv.p2m.currentType mfn
      pinned := hv.p2m.isPinned mfn }

def Snapshot.fromHv : Snapshot :=
  let nPort := ofFirst hv hv.evtchn.portCount
  let nGrant := ofFirst hv hv.grant.entryCount
  let nVcpu := ofFirst hv hv.sched.vcpuCount
  { nDom := hv.domainCount
    nPort
    nGrant
    nVcpu
    nPcpu := hv.sched.pcpus.length
    nFrame := hv.p2m.frameCount
    ports := hv.doms.flatMap fun dom => (Words.range32 nPort).map fun port => portRec hv dom port
    grants := hv.doms.flatMap fun dom =>
      (Words.range32 nGrant).map fun gref => hv.grant.grantEntry dom gref
    mappings := hv.doms.map (track hv)
    vcpus := hv.doms.flatMap fun dom => (Words.range32 nVcpu).map fun vcpu => vcpuRec hv dom vcpu
    occ := (Words.range32 hv.sched.pcpus.length).map hv.sched.occupant
    frames := (Words.range32 hv.p2m.frameCount).map (frameRec hv)
    edges := hv.p2m.linkEdges
    live := hv.doms.map hv.isLive
    mayCreate := hv.doms.map hv.mayCreateOf
    control := hv.doms.flatMap fun holder => hv.doms.map fun target => hv.controlEdge holder target
    assign := (Words.range16 hv.device.deviceCount).map hv.device.holderOf }

end FromHv

def PortRec.words (r : PortRec) : List Nat :=
  let state : List Nat :=
    match r.state with
    | .free => [0, 0, 0]
    | .unbound remote => [1, remote.toNat, 0]
    | .interdomain remote remotePort => [2, remote.toNat, remotePort.toNat]
    | .virq vcpu virq => [3, vcpu.toNat, virq.toNat]
    | .ipi vcpu => [4, vcpu.toNat, 0]
  state ++ [r.pending.toNat, r.masked.toNat]

def grantWords : Option Access → List Nat
  | some e => [1, e.grantee.toNat, e.frame.toNat, e.readonly.toNat, e.maps, e.writableMaps]
  | none => [0, 0, 0, 0, 0, 0]

def mappingWords : Option Mapping → List Nat
  | some (grantor, gref, writable) => [1, grantor.toNat, gref.toNat, writable.toNat]
  | none => [0, 0, 0, 0]

def VcpuRec.words (r : VcpuRec) : List Nat :=
  let state : List Nat :=
    match r.state with
    | .offline => [0, 0]
    | .runnable => [1, 0]
    | .running pcpu => [2, pcpu.toNat]
    | .blocked => [3, 0]
  state ++ [r.affinity]

def occWords : Option (DomId × Vcpu) → List Nat
  | some (dom, vcpu) => [1, dom.toNat, vcpu.toNat]
  | none => [0, 0, 0]

def frameWords : Option FrameRec → List Nat
  | some f => [1, f.owner.toNat, f.refs, f.writableRefs, f.pagetableRefs,
      Noninterference.levelTag f.ty, f.pinned.toNat]
  | none => [0, 0, 0, 0, 0, 0, 0]

def edgeWords : Edge → List Nat
  | (parent, slot, child, writable, leaf, execute) =>
      [parent.toNat, slot.toNat, child.toNat, writable.toNat, leaf.toNat, execute.toNat]

def controlWord : Control → Nat
  | .absent => 0
  | .root => 1
  | .via delegator => 2 + delegator.toNat

def assignWord : Option DomId → Nat
  | some holder => 1 + holder.toNat
  | none => 0

/-- The handles up to the last one in use. -/
def trimmed (track : List (Option Mapping)) : List (Option Mapping) :=
  track.rdropWhile Option.isNone

/-- A domain that holds no mapping is left out. -/
def trackWords (grantee : Nat) (track : List (Option Mapping)) : List Nat :=
  if trimmed track = [] then [] else [0xD00A0, grantee] ++ (trimmed track).flatMap mappingWords

/-- The tracks in order, the first of them that of domain `first`. -/
def tracksWords (first : Nat) : List (List (Option Mapping)) → List Nat
  | [] => []
  | track :: rest => trackWords first track ++ tracksWords (first + 1) rest

/-- The words of the array elements at the given positions, one after another. -/
def gather {α : Type} (words : α → List Nat) (xs : List α) (positions : List Nat) :
    Option (List Nat) :=
  (positions.mapM fun i => xs[i]?.map words).map List.flatten

/-- The positions a nested loop visits in a row-major array. -/
def rowMajor (rows columns : Nat) : List Nat :=
  (List.range rows).flatMap fun i => (List.range columns).map fun j => i * columns + j

/-- The edges are sorted as tuples. -/
def sortedEdges (edges : List Edge) : List Nat := (edges.map edgeWords).mergeSort.flatten

def snapshotKey (sn : Snapshot) : Option (List Nat) := do
  let ports ← gather PortRec.words sn.ports (rowMajor sn.nDom sn.nPort)
  let grants ← gather grantWords sn.grants (rowMajor sn.nDom sn.nGrant)
  let vcpus ← gather VcpuRec.words sn.vcpus (rowMajor sn.nDom sn.nVcpu)
  let occ ← gather occWords sn.occ (List.range sn.nPcpu)
  let frames ← gather frameWords sn.frames (List.range sn.nFrame)
  let life ← gather (fun (live, mayCreate) => [live.toNat, mayCreate.toNat])
    (sn.live.zip sn.mayCreate) (List.range sn.nDom)
  let control ← gather (fun c => [controlWord c]) sn.control (rowMajor sn.nDom sn.nDom)
  return ports ++ [0xFFFF0001] ++
    grants ++ tracksWords 0 sn.mappings ++ [0xFFFF0002] ++
    vcpus ++ occ ++ [0xFFFF0003] ++
    frames ++ [sn.edges.length] ++ sortedEdges sn.edges ++ [0xFFFF0004] ++
    life ++ control ++ sn.assign.map assignWord

/-- A fingerprint of the whole state. -/
def stateKey (hv : Hypervisor) : Option (List Nat) := snapshotKey (Snapshot.fromHv hv)

end Enumerate

end Baleen
