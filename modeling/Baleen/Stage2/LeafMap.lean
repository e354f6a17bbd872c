import Baleen.P2m.Model

/-!
# The Stage-2 leaf maps of a domain

Which frames the page tables of a domain reach, at which permission and at which span.
The maps are buffers of the caller: they are cleared over their full capacity, and then
written edge by edge.
-/

namespace Baleen.Stage2

open P2m (Mfn PageType PtLevel)

/-- A live page-table entry `(parent, slot, child, writable, leaf, execute)`. -/
abbrev Edge := Mfn × UInt32 × Mfn × Bool × Bool × Bool

namespace Edge

def parent (e : Edge) : Mfn := e.1
def child (e : Edge) : Mfn := e.2.2.1
def writable (e : Edge) : Bool := e.2.2.2.1
def leaf (e : Edge) : Bool := e.2.2.2.2.1
def execute (e : Edge) : Bool := e.2.2.2.2.2

end Edge

inductive Perm where
  | ro
  | rw
  | rx
  deriving DecidableEq, Repr

namespace Perm

def writable : Perm → Bool
  | .rw => true
  | _ => false

end Perm

/-- The permission an edge gives: a writable edge is never executable. -/
def Edge.perm (e : Edge) : Perm :=
  if e.writable then .rw else if e.execute then .rx else .ro

inductive Span where
  | base
  | super
  deriving DecidableEq, Repr

structure Maps where
  base : List (Option Perm)
  sup : List (Option Perm)
  deriving DecidableEq, Repr

structure FrameOutOfRange where
  mfn : Mfn
  capacity : Nat
  deriving DecidableEq, Repr

inductive MapError where
  | outOfRange (frame : FrameOutOfRange)
  | spanConflict (mfn : Mfn)
  | unsupportedSpan (parent : Mfn)
  deriving DecidableEq, Repr

namespace Maps

/-- The map that leaves of a span are written to. -/
def leavesOf (m : Maps) : Span → List (Option Perm)
  | .base => m.base
  | .super => m.sup

def update (m : Maps) (span : Span) (leaves : List (Option Perm)) : Maps :=
  match span with
  | .base => { m with base := leaves }
  | .super => { m with sup := leaves }

def clear (m : Maps) : Maps := ⟨m.base.map fun _ => none, m.sup.map fun _ => none⟩

end Maps

section Emission

variable (ownerOf : Mfn → Option DomId) (spanOf : Mfn → Option Span) (dom : DomId)

/-- Whether an edge is a leaf of a table that `dom` owns. -/
def reaches (e : Edge) : Bool := e.leaf && decide (ownerOf e.parent = some dom)

/-- The body of the loop over the edges. -/
def placeLeaf (e : Edge) : Op Maps MapError Unit := do
  if !reaches ownerOf dom e then return ()
  else
    match spanOf e.parent with
    | none => Op.fail (.unsupportedSpan e.parent)
    | some span =>
        let m ← Op.read
        if (m.leavesOf span).length ≤ e.child.toNat then
          Op.fail (.outOfRange ⟨e.child, (m.leavesOf span).length⟩)
        else Op.modify fun m => m.update span ((m.leavesOf span).set e.child.toNat (some e.perm))

def placeLeaves : List Edge → Op Maps MapError Unit
  | [] => return ()
  | e :: rest => do
      placeLeaf ownerOf spanOf dom e
      placeLeaves rest

/-- The least frame mapped at both spans. -/
def spanConflict (m : Maps) : Option Nat :=
  (List.range (min m.base.length m.sup.length)).find? fun i =>
    ((m.base[i]?).getD none).isSome && ((m.sup[i]?).getD none).isSome

def leafMapFromEdges (edges : List Edge) : Op Maps MapError Unit := do
  Op.modify Maps.clear
  placeLeaves ownerOf spanOf dom edges
  let m ← Op.read
  match spanConflict m with
  | some i => Op.fail (.spanConflict (UInt32.ofNat i))
  | none => return ()

end Emission

def spanOfTable (p : P2m.System) (parent : Mfn) : Option Span :=
  match p.currentType parent with
  | some (.pageTable .l1) => some .base
  | some (.pageTable .l2) => some .super
  | _ => none

def leafMap (p : P2m.System) (dom : DomId) : Op Maps MapError Unit :=
  leafMapFromEdges p.ownerOf (spanOfTable p) dom p.linkEdges

end Baleen.Stage2
