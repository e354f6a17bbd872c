import Baleen.Hypervisor.Model
import Baleen.Stage2.LeafMap

/-!
# The checker of the leaf maps

Emits the maps of every domain, dead ones included, and holds them against ownership,
the grants and the live edges.
-/

namespace Baleen.Stage2

open P2m (Mfn)

/-- The entries of one hardware table. -/
def TABLE_ENTRIES : Nat := 512

inductive Violation where
  | unauthorizedMapping (dom : DomId) (mfn : Mfn) (owner : Option DomId) (perm : Perm)
  | writeEscalation (dom : DomId) (mfn : Mfn) (owner : DomId)
  | inexact (dom : DomId) (mfn : Mfn) (mapped expected : Option Perm)
  | overflow (dom : DomId) (mfn : Mfn)
  deriving DecidableEq, Repr

inductive OutOfDomain where
  | spanConflict (dom : DomId) (mfn : Mfn)
  | unsupportedSpan (dom : DomId) (parent : Mfn)
  deriving DecidableEq, Repr

inductive Verdict where
  | violated (v : Violation)
  | outOfDomain (o : OutOfDomain)
  deriving DecidableEq, Repr

section Authorization

variable (dom : DomId) (ownerOf : Mfn → Option DomId)
    (authorizes : DomId → DomId → Mfn → Bool → Bool)

/-- The breach, if any, of authorization at one frame. -/
def unauthorized (mfn : Mfn) (perm : Perm) : Option Violation :=
  match ownerOf mfn with
  | none => some (.unauthorizedMapping dom mfn none perm)
  | some grantor =>
      if grantor = dom then none
      else if authorizes grantor dom mfn (decide (perm = .rw)) then none
      else if decide (perm = .rw) && authorizes grantor dom mfn false then
        some (.writeEscalation dom mfn grantor)
      else some (.unauthorizedMapping dom mfn (some grantor) perm)

def checkAuthorizedWith (leaves : List (Option Perm)) : Except Violation Unit :=
  match (List.range leaves.length).findSome? fun m =>
      ((leaves[m]?).getD none).bind (unauthorized dom ownerOf authorizes (UInt32.ofNat m)) with
  | some v => .error v
  | none => .ok ()

end Authorization

def checkAuthorized (hv : Hypervisor) (dom : DomId) (leaves : List (Option Perm)) :
    Except Violation Unit :=
  checkAuthorizedWith dom hv.p2m.ownerOf hv.grant.authorizes leaves

/-- The permission of the last leaf edge into a frame, at one span. -/
def expectedAt (ownerOf : Mfn → Option DomId) (spanOf : Mfn → Option Span) (dom : DomId)
    (span : Span) (mfn : Mfn) (edges : List Edge) : Option Perm :=
  edges.foldl (fun expected e =>
    if reaches ownerOf dom e && e.child = mfn && spanOf e.parent = some span then some e.perm
    else expected) none

def checkExact (hv : Hypervisor) (dom : DomId) (leaves : List (Option Perm)) (span : Span) :
    Except Violation Unit :=
  match (List.range leaves.length).findSome? fun m =>
      let mapped := (leaves[m]?).getD none
      let expected :=
        expectedAt hv.p2m.ownerOf (spanOfTable hv.p2m) dom span (UInt32.ofNat m) hv.p2m.linkEdges
      if mapped ≠ expected then some (Violation.inexact dom (UInt32.ofNat m) mapped expected)
      else none with
  | some v => .error v
  | none => .ok ()

/-- The breach that a failed emission is reported as. -/
def MapError.verdict (dom : DomId) : MapError → Verdict
  | .outOfRange frame => .violated (.overflow dom frame.mfn)
  | .spanConflict mfn => .outOfDomain (.spanConflict dom mfn)
  | .unsupportedSpan parent => .outOfDomain (.unsupportedSpan dom parent)

/-- The checks of one domain, over the buffers the loop reuses. -/
def checkDomain (hv : Hypervisor) (dom : DomId) : Op Maps Verdict Unit := do
  match ← Op.attempt (leafMap hv.p2m dom) with
  | .error e => Op.fail (e.verdict dom)
  | .ok () =>
      let m ← Op.read
      Op.query fun _ => (checkAuthorized hv dom m.base).mapError .violated
      Op.query fun _ => (checkExact hv dom m.base .base).mapError .violated
      Op.query fun _ => (checkAuthorized hv dom m.sup).mapError .violated
      Op.query fun _ => (checkExact hv dom m.sup .super).mapError .violated

def checkDomains (hv : Hypervisor) : List Nat → Op Maps Verdict Unit
  | [] => return ()
  | d :: rest => do
      checkDomain hv (UInt16.ofNat d)
      checkDomains hv rest

def checkAll (hv : Hypervisor) : Except Verdict Unit :=
  let frames := min hv.p2m.frameCount TABLE_ENTRIES
  (checkDomains hv (List.range hv.domainCount)
    ⟨List.replicate frames none, List.replicate frames none⟩).1

end Baleen.Stage2
