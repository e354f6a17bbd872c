import Baleen.Evtchn.Model
import Baleen.Lib.Slab

/-!
# Page-type accounting

Every machine frame carries a count of references and, by kind, the counts of
writable, executable and page-table references; page-table entries are directed
edges between frames, kept in one slab.
-/

namespace Baleen.P2m

/-- A machine frame number. -/
abbrev Mfn := UInt32

inductive PtLevel where
  | l1
  | l2
  | l3
  | l4
  deriving DecidableEq, Repr

inductive PageType where
  | writable
  | pageTable (level : PtLevel)
  deriving DecidableEq, Repr

/-- The type an interior entry of a table at this level must reference. -/
def PtLevel.interiorChildType : PtLevel → Option PageType
  | .l1 => none
  | .l2 => some (.pageTable .l1)
  | .l3 => some (.pageTable .l2)
  | .l4 => some (.pageTable .l3)

/-- The accounting of an allocated frame. -/
structure FrameInfo where
  owner : DomId
  refs : Nat
  writableRefs : Nat
  executableRefs : Nat
  pagetableRefs : Nat
  ptLevel : PtLevel
  pinned : Bool
  deriving DecidableEq, Repr

inductive Frame where
  | free
  | allocated (info : FrameInfo)
  deriving DecidableEq, Repr

/-- The reference a page-table entry holds on its child. -/
inductive ChildRef where
  | bare
  | exec
  | typed (ty : PageType)
  deriving DecidableEq, Repr

def entryChildRef (level : PtLevel) (leaf writable execute : Bool) : Option ChildRef :=
  if leaf then
    some (if writable then .typed .writable else if execute then .exec else .bare)
  else
    level.interiorChildType.map .typed

/-- The number of entry slots of a page-table frame. -/
def TABLE_SLOTS : Nat := 8

structure Link where
  active : Bool
  parent : Mfn
  slot : UInt32
  child : Mfn
  writable : Bool
  leaf : Bool
  execute : Bool
  deriving DecidableEq, Repr

structure System where
  frames : List Frame
  links : List Link
  numDomains : Nat
  deriving DecidableEq, Repr

inductive P2mError where
  | badFrame
  | badDomain
  | wrongState
  | typePinned
  | inUse
  | notYours
  | overflow
  | badSlot
  | wxConflict
  deriving DecidableEq, Repr

inductive Violation where
  | ownerGhostDomain (mfn : Nat)
  | typeConfusion (mfn : Nat)
  | writeExecuteConfusion (mfn : Nat)
  | typedExceedsRefs (mfn : Nat)
  | pinnedNotPageTyped (mfn : Nat)
  | mislevelledLink (parent slot : Nat)
  | pagetableRefsAccounted (mfn : Nat)
  deriving DecidableEq, Repr

namespace System

def new (numDomains numFrames : Nat) : System :=
  ⟨List.replicate numFrames .free, [], numDomains⟩

def frame (s : System) (mfn : Mfn) : Except P2mError Frame :=
  match s.frames[mfn.toNat]? with
  | some f => .ok f
  | none => .error .badFrame

/-- The accounting of an allocated frame; a free frame is the wrong state. -/
def allocated (s : System) (mfn : Mfn) : Except P2mError FrameInfo :=
  match s.frame mfn with
  | .error e => .error e
  | .ok .free => .error .wrongState
  | .ok (.allocated i) => .ok i

/-- The accounting of the frame, if it is allocated. -/
def info (s : System) (mfn : Mfn) : Option FrameInfo :=
  match s.frames[mfn.toNat]? with
  | some (.allocated i) => some i
  | _ => none

def setFrame (s : System) (mfn : Mfn) (f : Frame) : System :=
  { s with frames := s.frames.set mfn.toNat f }

def frameCount (s : System) : Nat := s.frames.length

/-- The frames a loop over `0..frames.len() as Mfn` visits. -/
def mfns (s : System) : List Mfn := Words.range32 s.frameCount

/-- The live page-table entries. -/
def live (s : System) : List Link := Slab.live (·.active) s.links

def isAllocated (s : System) (mfn : Mfn) : Bool := (s.info mfn).isSome

def ownerOf (s : System) (mfn : Mfn) : Option DomId := (s.info mfn).map (·.owner)

def refs (s : System) (mfn : Mfn) : Option Nat := (s.info mfn).map (·.refs)

def executableRefs (s : System) (mfn : Mfn) : Option Nat := (s.info mfn).map (·.executableRefs)

def typeRefs (s : System) (mfn : Mfn) (ty : PageType) : Option Nat :=
  (s.info mfn).map fun i =>
    match ty with
    | .writable => i.writableRefs
    | .pageTable level => if 0 < i.pagetableRefs ∧ i.ptLevel = level then i.pagetableRefs else 0

def FrameInfo.currentType (i : FrameInfo) : Option PageType :=
  if 0 < i.writableRefs then some .writable
  else if 0 < i.pagetableRefs then some (.pageTable i.ptLevel)
  else none

def currentType (s : System) (mfn : Mfn) : Option PageType :=
  (s.info mfn).bind FrameInfo.currentType

def isPinned (s : System) (mfn : Mfn) : Bool := ((s.info mfn).map (·.pinned)).getD false

/-- Whether an entry is live at `(parent, slot)`. -/
def occupies (parent : Mfn) (slot : UInt32) (l : Link) : Bool :=
  l.active && l.parent = parent && l.slot = slot

def linkIndex (s : System) (parent : Mfn) (slot : UInt32) : Option Nat :=
  s.links.findIdx? (occupies parent slot)

/-- The live entries, as the integrating layer reads them. -/
def linkEdges (s : System) : List (Mfn × UInt32 × Mfn × Bool × Bool × Bool) :=
  (s.links.filter (·.active)).map fun l =>
    (l.parent, l.slot, l.child, l.writable, l.leaf, l.execute)

def isForeignLinkedBy (s : System) (frame : Mfn) (linker : DomId) : Bool :=
  s.links.any fun l =>
    l.active && l.child = frame && s.ownerOf l.parent = some linker &&
      some linker ≠ s.ownerOf frame

/-- The conflict a typed acquire meets, if any. -/
def typeConflict (i : FrameInfo) : PageType → Option P2mError
  | .writable =>
      if 0 < i.executableRefs then some .wxConflict
      else if 0 < i.pagetableRefs then some .typePinned
      else none
  | .pageTable level =>
      if 0 < i.writableRefs ∨ (0 < i.pagetableRefs ∧ i.ptLevel ≠ level) then some .typePinned
      else none

/-- The count a typed reference is taken on. -/
def typedCount (i : FrameInfo) : PageType → Nat
  | .writable => i.writableRefs
  | .pageTable _ => i.pagetableRefs

/-- The acquire guard on an allocated frame: no conflicting type, no overflowing count. -/
def acquireAllocated (i : FrameInfo) (ty : Option PageType) : Except P2mError Unit :=
  match ty.bind (typeConflict i) with
  | some e => .error e
  | none =>
      if 2 ^ 32 ≤ i.refs + 1 then .error .overflow
      else
        match ty with
        | none => .ok ()
        | some ty => if 2 ^ 32 ≤ typedCount i ty + 1 then .error .overflow else .ok ()

def acquireCheck (f : Frame) (ty : Option PageType) : Except P2mError Unit :=
  match f with
  | .free => .error .wrongState
  | .allocated i => acquireAllocated i ty

def canAcquire (s : System) (mfn : Mfn) (ty : Option PageType) : Except P2mError Unit :=
  match s.frame mfn with
  | .error e => .error e
  | .ok f => acquireCheck f ty

def get (mfn : Mfn) : Op System P2mError Unit := do
  let _ ← Op.query (·.canAcquire mfn none)
  let i ← Op.query (·.allocated mfn)
  Op.modify (·.setFrame mfn (.allocated { i with refs := i.refs + 1 }))

def put (mfn : Mfn) : Op System P2mError Unit := do
  let i ← Op.query (·.allocated mfn)
  Op.ensure (fun _ => i.refs ≠ 0) .wrongState
  Op.ensure (fun _ => i.writableRefs + i.executableRefs + i.pagetableRefs ≤ i.refs - 1) .inUse
  Op.modify (·.setFrame mfn (.allocated { i with refs := i.refs - 1 }))

/-- The accounting after one more reference of a type. -/
def addTyped (i : FrameInfo) : PageType → FrameInfo
  | .writable => { i with refs := i.refs + 1, writableRefs := i.writableRefs + 1 }
  | .pageTable level =>
      { i with
        refs := i.refs + 1
        pagetableRefs := i.pagetableRefs + 1
        ptLevel := if i.pagetableRefs = 0 then level else i.ptLevel }

def getType (mfn : Mfn) (ty : PageType) : Op System P2mError Unit := do
  let _ ← Op.query (·.canAcquire mfn (some ty))
  let i ← Op.query (·.allocated mfn)
  Op.modify (·.setFrame mfn (.allocated (addTyped i ty)))

/-- Whether a reference of this type is held. -/
def holdsTyped (i : FrameInfo) : PageType → Bool
  | .writable => i.writableRefs ≠ 0
  | .pageTable level => i.pagetableRefs ≠ 0 && i.ptLevel = level

/-- The accounting after one reference of a type less. -/
def dropTyped (i : FrameInfo) : PageType → FrameInfo
  | .writable => { i with refs := i.refs - 1, writableRefs := i.writableRefs - 1 }
  | .pageTable _ => { i with refs := i.refs - 1, pagetableRefs := i.pagetableRefs - 1 }

def putType (mfn : Mfn) (ty : PageType) : Op System P2mError Unit := do
  let i ← Op.query (·.allocated mfn)
  Op.ensure (fun _ => holdsTyped i ty) .wrongState
  Op.modify (·.setFrame mfn (.allocated (dropTyped i ty)))

def getExec (mfn : Mfn) : Op System P2mError Unit := do
  let i ← Op.query (·.allocated mfn)
  Op.ensure (fun _ => i.writableRefs = 0) .wxConflict
  Op.ensure (fun _ => i.refs + 1 < 2 ^ 32) .overflow
  Op.ensure (fun _ => i.executableRefs + 1 < 2 ^ 32) .overflow
  Op.modify (·.setFrame mfn (.allocated
    { i with refs := i.refs + 1, executableRefs := i.executableRefs + 1 }))

def putExec (mfn : Mfn) : Op System P2mError Unit := do
  let i ← Op.query (·.allocated mfn)
  Op.ensure (fun _ => i.executableRefs ≠ 0) .wrongState
  Op.modify (·.setFrame mfn (.allocated
    { i with refs := i.refs - 1, executableRefs := i.executableRefs - 1 }))

def allocate (owner : DomId) (mfn : Mfn) : Op System P2mError Unit := do
  Op.ensure (fun s => owner.toNat < s.numDomains) .badDomain
  let f ← Op.query (·.frame mfn)
  Op.ensure (fun _ => f = .free) .wrongState
  Op.modify (·.setFrame mfn (.allocated ⟨owner, 0, 0, 0, 0, .l1, false⟩))

/-- Write the pin bit of a frame. -/
def setPinned (s : System) (mfn : Mfn) (pinned : Bool) : System :=
  match s.info mfn with
  | none => s
  | some i => s.setFrame mfn (.allocated { i with pinned })

def pin (caller : DomId) (mfn : Mfn) (level : PtLevel) : Op System P2mError Unit := do
  let i ← Op.query (·.allocated mfn)
  Op.ensure (fun _ => i.owner = caller) .notYours
  Op.ensure (fun _ => !i.pinned) .wrongState
  getType mfn (.pageTable level)
  Op.modify (·.setPinned mfn true)

def unpin (caller : DomId) (mfn : Mfn) : Op System P2mError Unit := do
  let i ← Op.query (·.allocated mfn)
  Op.ensure (fun _ => i.owner = caller) .notYours
  Op.ensure (fun _ => i.pinned) .wrongState
  Op.modify (·.setPinned mfn false)
  putType mfn (.pageTable i.ptLevel)

def free (caller : DomId) (mfn : Mfn) : Op System P2mError Unit := do
  let i ← Op.query (·.allocated mfn)
  Op.ensure (fun _ => i.owner = caller) .notYours
  Op.ensure (fun _ => i.refs = 0) .inUse
  Op.modify (·.setFrame mfn .free)

/-- Take the reference an entry holds on its child. -/
def getChild (child : Mfn) : ChildRef → Op System P2mError Unit
  | .bare => get child
  | .exec => getExec child
  | .typed ty => getType child ty

/-- Give it back. -/
def putChild (child : Mfn) : ChildRef → Op System P2mError Unit
  | .bare => put child
  | .exec => putExec child
  | .typed ty => putType child ty

def allocLink (s : System) (l : Link) : System :=
  { s with links := Slab.insert (·.active) s.links l }

/-- Take the table's own reference for a new entry; on failure give the child's back. -/
def takeParent (parent : Mfn) (level : PtLevel) (child : Mfn) (ref : ChildRef) :
    Op System P2mError Unit := do
  match ← Op.attempt (getType parent (.pageTable level)) with
  | .ok () => pure ()
  | .error e =>
      Op.ignore (putChild child ref)
      Op.fail e

def link (caller : DomId) (parent : Mfn) (slot : UInt32) (child : Mfn)
    (writable leaf execute : Bool) : Op System P2mError Unit := do
  Op.ensure (fun _ => slot.toNat < TABLE_SLOTS) .badSlot
  Op.ensure (fun _ => !(writable && (execute && leaf))) .wxConflict
  let i ← Op.query (·.allocated parent)
  Op.ensure (fun _ => i.owner = caller) .notYours
  Op.ensure (fun s => s.currentType parent = some (.pageTable i.ptLevel)) .wrongState
  Op.ensure (·.isAllocated child) .wrongState
  Op.ensure (fun s => (s.linkIndex parent slot).isNone) .wrongState
  let ref ← Op.query fun _ =>
    match entryChildRef i.ptLevel leaf writable (execute && leaf) with
    | some ref => .ok ref
    | none => .error .wrongState
  getChild child ref
  takeParent parent i.ptLevel child ref
  Op.modify (·.allocLink ⟨true, parent, slot, child, writable, leaf, execute && leaf⟩)

/-- Give back both references of a removed entry; their results are only asserted. -/
def releaseEntry (level : PtLevel) (l : Link) : Op System P2mError Unit := do
  Op.ignore (putType l.parent (.pageTable level))
  match entryChildRef level l.leaf l.writable l.execute with
  | some ref => Op.ignore (putChild l.child ref)
  | none => pure ()

def unlink (caller : DomId) (parent : Mfn) (slot : UInt32) : Op System P2mError Unit := do
  let i ← Op.query (·.allocated parent)
  Op.ensure (fun _ => i.owner = caller) .notYours
  let s ← Op.read
  match s.linkIndex parent slot with
  | none => Op.fail .wrongState
  | some idx =>
      match s.links[idx]? with
      | none => Op.fail .wrongState
      | some l =>
          Op.modify fun s => { s with links := s.links.set idx { l with active := false } }
          releaseEntry i.ptLevel l

def unlinkAll (owner : DomId) (s : System) : List (Except P2mError Unit) × System :=
  Op.sweep (fun idx s =>
    match s.links[idx]? with
    | none => none
    | some l =>
        if l.active && s.ownerOf l.parent = some owner then some (unlink owner l.parent l.slot s)
        else none)
    (List.range s.links.length) s

def unlinkAllInto (owner : DomId) (s : System) : List (Except P2mError Unit) × System :=
  Op.sweep (fun idx s =>
    match s.links[idx]? with
    | none => none
    | some l =>
        if !l.active || s.ownerOf l.child ≠ some owner then none
        else
          match s.ownerOf l.parent with
          | none => none
          | some parentOwner =>
              if parentOwner = owner then none
              else some (unlink parentOwner l.parent l.slot s))
    (List.range s.links.length) s

def unpinAll (owner : DomId) (s : System) : List (Except P2mError Unit) × System :=
  Op.sweep (fun mfn s =>
    if s.ownerOf mfn = some owner ∧ s.isPinned mfn then some (unpin owner mfn s) else none)
    s.mfns s

def freeAll (owner : DomId) (s : System) : List (Except P2mError Unit) × System :=
  Op.sweep (fun mfn s =>
    if s.ownerOf mfn = some owner then some (free owner mfn s) else none) s.mfns s

/-- The breach, if any, in the counts of one frame. -/
def frameViolation (s : System) (m : Nat) : Frame → Option Violation
  | .free => none
  | .allocated i =>
      if s.numDomains ≤ i.owner.toNat then some (.ownerGhostDomain m)
      else if 0 < i.writableRefs ∧ 0 < i.pagetableRefs then some (.typeConfusion m)
      else if 0 < i.writableRefs ∧ 0 < i.executableRefs then some (.writeExecuteConfusion m)
      else if i.refs < i.writableRefs + i.executableRefs + i.pagetableRefs then
        some (.typedExceedsRefs m)
      else if i.pinned ∧ i.pagetableRefs = 0 then some (.pinnedNotPageTyped m)
      else none

/-- Whether the child of a live entry is what the entry's shape demands. -/
def levelled (s : System) (l : Link) : Bool :=
  match s.currentType l.parent with
  | some (.pageTable level) =>
      match entryChildRef level l.leaf l.writable l.execute with
      | some (.typed ty) => s.currentType l.child = some ty
      | some _ => s.isAllocated l.child
      | none => false
  | _ => false

/-- The page-table references the live entries and the pin hold on a frame. -/
def heldOn (s : System) (m : Nat) (pinned : Bool) : Nat :=
  (s.links.filter fun l => l.active && l.parent.toNat = m).length +
    (s.links.filter fun l => l.active && l.child.toNat = m && !l.leaf).length +
    (if pinned then 1 else 0)

/-- The breach, if any, of the page-table reference accounting of one frame. -/
def heldViolation (s : System) (m : Nat) : Frame → Option Violation
  | .free => none
  | .allocated i =>
      if i.pagetableRefs < s.heldOn m i.pinned then some (.pagetableRefsAccounted m) else none

def firstViolation (s : System) : Option Violation :=
  ((List.range s.frames.length).findSome? fun m => s.frames[m]?.bind (s.frameViolation m)) <|>
  ((s.links.filter (·.active)).findSome? fun l =>
    if s.levelled l then none else some (.mislevelledLink l.parent.toNat l.slot.toNat)) <|>
  (List.range s.frames.length).findSome? fun m => s.frames[m]?.bind (s.heldViolation m)

def invariantsHold (s : System) : Bool := s.firstViolation.isNone

end System

end Baleen.P2m
