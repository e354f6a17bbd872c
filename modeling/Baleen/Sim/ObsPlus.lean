import Baleen.Sim.Noninterference

/-!
# What a domain can observe

The surface of a domain, extended by what the guards of its own calls read of others: its
authority, who is live, the ports that invite it, the grants made to it, and the devices as
far as it can resolve them.
-/

namespace Baleen.Noninterference

open Evtchn (Port)
open Grant (GrantRef)
open P2m (Mfn PageType P2mError)
open Device (DevId)

/-- Which optional components an observation carries. -/
structure Surface where
  authority : Bool
  provenance : Bool
  peerLiveness : Bool
  invitations : Bool
  acquireGuard : Bool
  devices : Bool
  deriving DecidableEq, Repr

def Surface.full : Surface := ⟨true, true, true, true, true, true⟩

section Observation

variable (hv : Hypervisor) (a : DomId)

/-- Free, taken, or held by a domain that `a` is or controls. -/
def deviceTag (dev : DevId) : Nat :=
  match hv.device.holderOf dev with
  | none => 0
  | some holder => if holder = a || hv.holdsControl a holder then 2 + holder.toNat else 1

def controlTag (provenance : Bool) : Control → Nat
  | .absent => 0
  | .root => 1
  | .via _ => if provenance then 2 else 1

/-- What an acquire on the frame would return. -/
def acquireTag (frame : Mfn) (ty : Option PageType) : Nat :=
  match hv.p2m.canAcquire frame ty with
  | .ok _ => 0
  | .error .wrongState => 1
  | .error .typePinned => 2
  | .error .wxConflict => 3
  | .error .overflow => 4
  | .error _ => 5

/-- The ports of others that await `a`. -/
def invites : List (List Nat) :=
  (hv.doms.flatMap fun b =>
    if b = a then []
    else ((hv.evtchn.ports b).filter fun port =>
      hv.evtchn.stateOf b port = some (.unbound a)).map fun port =>
        [b.toNat, port.toNat]).mergeSort

/-- A grant to `a`: whether the grantor owns the frame, and if so what an acquire would
return. -/
def readCap (acquireGuard : Bool) (grantor : DomId) (gref : GrantRef) : Option (List Nat) :=
  match hv.grant.grantEntry grantor gref with
  | some e =>
      if e.grantee = a then
        let owns : Bool := hv.p2m.ownerOf e.frame = some grantor
        let acquires (ty : Option PageType) :=
          if owns && acquireGuard then acquireTag hv e.frame ty else 0
        some [grantor.toNat, gref.toNat, e.frame.toNat, e.readonly.toNat, owns.toNat,
          acquires (some .writable), acquires none]
      else none
  | none => none

def readCaps (acquireGuard : Bool) : List (List Nat) :=
  (hv.doms.flatMap fun grantor =>
    (hv.grant.grefs grantor).filterMap (readCap hv a acquireGuard grantor)).mergeSort

def obsPlusImpl (surface : Surface) : List Nat :=
  obs hv a ++
  (if surface.authority then
    [0xD0007, (hv.mayCreateOf a).toNat] ++
      hv.doms.map (fun b => controlTag surface.provenance (hv.controlEdge b a)) ++
      hv.doms.map (fun c => controlTag surface.provenance (hv.controlEdge a c))
  else []) ++
  (if surface.peerLiveness then 0xD0008 :: hv.doms.map (fun b => (hv.isLive b).toNat) else []) ++
  (if surface.invitations then [0xD0009, (invites hv a).length] ++ (invites hv a).flatten
  else []) ++
  [0xD0006, (readCaps hv a surface.acquireGuard).length] ++
  (readCaps hv a surface.acquireGuard).flatten ++
  (if surface.devices then
    0xD000A :: (Words.range16 hv.device.deviceCount).map (deviceTag hv a)
  else [])

/-- The read-closure observation of `a`. -/
def obsPlus : List Nat := obsPlusImpl hv a .full

end Observation

end Baleen.Noninterference
