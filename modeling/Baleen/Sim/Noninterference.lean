import Baleen.Hypervisor.Model

/-!
# Who may affect whom

The surface of a domain, a fingerprint of everything that belongs to it, and the
relation under which another domain is authorized to move it.  Loops over ports,
grant references, handles and domains run up to a count that is cast to the width of
the identifier, as in the source.
-/

namespace Baleen

namespace Hypervisor

def balance (hv : Hypervisor) (dom : DomId) : Option Nat :=
  hv.credit[dom.toNat]?.map (·.balance)

end Hypervisor

namespace Evtchn.System

def isPending (s : System) (dom : DomId) (port : Port) : Bool :=
  ((s.chan? dom port).map (·.pending)).getD false

def isMasked (s : System) (dom : DomId) (port : Port) : Bool :=
  ((s.chan? dom port).map (·.masked)).getD false

end Evtchn.System

namespace Noninterference

open Evtchn (Port PortState)
open Grant (GrantRef)
open P2m (Mfn PageType)
open Sched (RunState)

/-- Which terms of the relation are enabled. -/
structure Channels where
  grant : Bool
  evtchn : Bool
  control : Bool
  create : Bool
  teardownReach : Bool
  teardownBorrow : Bool
  deriving DecidableEq, Repr

def Channels.full : Channels := ⟨true, true, true, true, true, true⟩

section Relation

variable (hv : Hypervisor)

/-- Whether `a` has an active grant whose grantee is `b`. -/
def aGrantsTo (a b : DomId) : Bool :=
  (hv.grant.grefs a).any fun gref =>
    match hv.grant.grantEntry a gref with
    | some access => access.grantee = b
    | none => false

/-- Whether `a` maps a frame of `b`, or links one into its own tables. -/
def aBorrowsFrom (a b : DomId) : Bool :=
  let mapped := (Words.range32 (hv.grant.handleSlots a)).any fun handle =>
    match hv.grant.mappingAt a handle.toNat with
    | some (grantor, _, _) => grantor = b
    | none => false
  let linked := hv.p2m.linkEdges.any fun (parent, _, child, _) =>
    hv.p2m.ownerOf parent = some a && hv.p2m.ownerOf child = some b
  mapped || linked

/-- Whether `a` holds a port bound to `b` or awaiting it. -/
def aPortToward (a b : DomId) : Bool :=
  (hv.evtchn.ports a).any fun port =>
    match hv.evtchn.stateOf a port with
    | some (.unbound remote) => remote = b
    | some (.interdomain remote _) => remote = b
    | _ => false

/-- `b` controls a domain that `a` refers to. -/
def teardownReachTo (b a : DomId) : Bool :=
  hv.doms.any fun c => hv.holdsControl b c && (aGrantsTo hv a c || aPortToward hv a c)

/-- `b` controls, or is, a domain that `a` borrows from. -/
def teardownBorrowFrom (b a : DomId) : Bool :=
  hv.doms.any fun c => (decide (c = b) || hv.holdsControl b c) && aBorrowsFrom hv a c

/-- Whether an action by `b` may affect the surface of `a`. -/
def Channels.authorized (ch : Channels) (b a : DomId) : Bool :=
  decide (b = a) ||
  (ch.grant && aGrantsTo hv a b) ||
  (ch.evtchn && aPortToward hv a b) ||
  (ch.control && hv.holdsControl b a) ||
  (ch.create && hv.mayCreateOf b && !hv.isLive a) ||
  (ch.teardownReach && teardownReachTo hv b a) ||
  (ch.teardownBorrow && teardownBorrowFrom hv b a)

end Relation

def levelTag : Option PageType → Nat
  | none => 0
  | some .writable => 1
  | some (.pageTable .l1) => 2
  | some (.pageTable .l2) => 3
  | some (.pageTable .l3) => 4
  | some (.pageTable .l4) => 5

section Surface

variable (hv : Hypervisor) (a : DomId)

def portWords (port : Port) : List Nat :=
  let state : List Nat :=
    match hv.evtchn.stateOf a port with
    | some (.unbound remote) => [1, remote.toNat, 0]
    | some (.interdomain remote remotePort) => [2, remote.toNat, remotePort.toNat]
    | some (.virq vcpu virq) => [3, vcpu.toNat, virq.toNat]
    | some (.ipi vcpu) => [4, vcpu.toNat, 0]
    | _ => [0, 0, 0]
  state ++ [(hv.evtchn.isPending a port).toNat, (hv.evtchn.isMasked a port).toNat]

/-- A grant row; `foreignLinked` answers for its last word. -/
def rowWords (foreignLinked : Mfn → DomId → Bool) (gref : GrantRef) : List Nat :=
  match hv.grant.grantEntry a gref with
  | some e => [1, e.grantee.toNat, e.frame.toNat, e.readonly.toNat, e.maps, e.writableMaps,
      (foreignLinked e.frame e.grantee).toNat]
  | none => [0, 0, 0, 0, 0, 0, 0]

def heldWords (handle : Nat) : List Nat :=
  match hv.grant.mappingAt a handle with
  | some (grantor, gref, writable) => [1, grantor.toNat, gref.toNat, writable.toNat]
  | none => [0, 0, 0, 0]

def vcpuWords (vcpu : Vcpu) : List Nat :=
  let state : List Nat :=
    match hv.sched.stateOf a vcpu with
    | some .runnable => [1, 0]
    | some (.running pcpu) => [2, pcpu.toNat]
    | some .blocked => [3, 0]
    | _ => [0, 0]
  state ++ [(hv.sched.affinityOf a vcpu).getD 0]

def frameWords (mfn : Mfn) : List Nat :=
  if hv.p2m.ownerOf mfn = some a then
    let ptRefs :=
      match hv.p2m.currentType mfn with
      | some (.pageTable level) => (hv.p2m.typeRefs mfn (.pageTable level)).getD 0
      | _ => 0
    [1, mfn.toNat, (hv.p2m.refs mfn).getD 0, (hv.p2m.typeRefs mfn .writable).getD 0,
      (hv.p2m.executableRefs mfn).getD 0, ptRefs, levelTag (hv.p2m.currentType mfn),
      (hv.p2m.isPinned mfn).toNat]
  else []

/-- The entries of `a`'s own tables, sorted. -/
def edges : List (List Nat) :=
  ((hv.p2m.linkEdges.filter fun (parent, _) => hv.p2m.ownerOf parent = some a).map
    fun (parent, slot, child, writable, leaf, execute) =>
      [parent.toNat, slot.toNat, child.toNat, writable.toNat, leaf.toNat, execute.toNat]).mergeSort

def deviceWords (dev : Device.DevId) : List Nat :=
  if hv.device.holderOf dev = some a then [dev.toNat] else []

/-- The surface of `a`, with the last word of each grant row left to `foreignLinked`. -/
def surface (foreignLinked : Mfn → DomId → Bool) : List Nat :=
  [(hv.isLive a).toNat, (hv.balance a).getD 0, 0xD0000] ++
  (hv.evtchn.ports a).flatMap (portWords hv a) ++ [0xD0001] ++
  (hv.grant.grefs a).flatMap (rowWords hv a foreignLinked) ++ [0xD0002] ++
  (Words.range32 (hv.grant.handleSlots a)).flatMap (fun handle => heldWords hv a handle.toNat) ++
  [0xD0003] ++
  (hv.sched.vcpus a).flatMap (vcpuWords hv a) ++ [0xD0004] ++
  hv.p2m.mfns.flatMap (frameWords hv a) ++ [0xD0005] ++
  [(edges hv a).length] ++ (edges hv a).flatten ++ [0xD0006] ++
  (Words.range16 hv.device.deviceCount).flatMap (deviceWords hv a)

/-- The isolation surface of `a`. -/
def obs : List Nat := surface hv a hv.p2m.isForeignLinkedBy

end Surface

end Noninterference

end Baleen
