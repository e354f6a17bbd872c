import Baleen.Evtchn.Model
import Baleen.Lib.Slab
import Baleen.Lib.FirstFit

/-!
# Grant tables

Every domain's table of grants offered to others, and one slab of live mappings.
A mapping handle counts up from zero among its grantee's live mappings; it is a
natural number here, since the 32-bit counter of the source can only overflow
when one domain holds `2^32` live mappings.
-/

namespace Baleen.Grant

/-- A grant reference, an index into a grantor's table. -/
abbrev GrantRef := UInt32
/-- A machine frame number. -/
abbrev Frame := UInt32
/-- A mapping handle, in its grantee's own numbering. -/
abbrev GrantHandle := Nat

/-- An active permit. -/
structure Access where
  grantee : DomId
  frame : Frame
  readonly : Bool
  maps : Nat
  writableMaps : Nat
  deriving DecidableEq, Repr

inductive GrantEntry where
  | free
  | access (a : Access)
  deriving DecidableEq, Repr

structure Mapping where
  active : Bool
  grantee : DomId
  handle : GrantHandle
  grantor : DomId
  gref : GrantRef
  writable : Bool
  deriving DecidableEq, Repr

/-- What an unmap released. -/
structure Unmapped where
  frame : Frame
  writable : Bool
  deriving DecidableEq, Repr

structure System where
  /-- One row of grant entries for each grantor. -/
  domains : Grid GrantEntry
  maps : List Mapping
  deriving DecidableEq, Repr

inductive GrantError where
  | badDomain
  | badGrantRef
  | badHandle
  | wrongState
  | inUse
  | permissionDenied
  | overflow
  deriving DecidableEq, Repr

inductive Violation where
  | granteeGhostDomain (grantor gref : Nat)
  | refcountMismatch (grantor gref : Nat)
  | readonlyViolated (grantor gref : Nat)
  | writableExceedsMaps (grantor gref : Nat)
  | danglingMap (grantor gref : Nat)
  deriving DecidableEq, Repr

namespace System

def new (numDomains entriesPerDomain : Nat) : System :=
  ⟨Grid.fill numDomains entriesPerDomain .free, []⟩

def domain (s : System) (dom : DomId) : Except GrantError (List GrantEntry) :=
  match s.domains[dom.toNat]? with
  | some entries => .ok entries
  | none => .error .badDomain

def entry (s : System) (grantor : DomId) (gref : GrantRef) : Except GrantError GrantEntry :=
  match s.domain grantor with
  | .error e => .error e
  | .ok entries =>
      match entries[gref.toNat]? with
      | some e => .ok e
      | none => .error .badGrantRef

/-- The entry, without the reason for its absence. -/
def entryAt (s : System) (grantor : DomId) (gref : GrantRef) : Option GrantEntry :=
  s.domains.get? grantor.toNat gref.toNat

def setEntry (s : System) (grantor : DomId) (gref : GrantRef) (e : GrantEntry) : System :=
  { s with domains := s.domains.set grantor.toNat gref.toNat e }

def domainCount (s : System) : Nat := s.domains.length

def entryCount (s : System) (grantor : DomId) : Nat := s.domains.width grantor.toNat

/-- The references a loop over `0..entry_count(grantor) as GrantRef` visits. -/
def grefs (s : System) (grantor : DomId) : List GrantRef := Words.range32 (s.entryCount grantor)

/-- The live mappings. -/
def live (s : System) : List Mapping := Slab.live (·.active) s.maps

/-- The full state of a grant slot, if active. -/
def grantEntry (s : System) (grantor : DomId) (gref : GrantRef) : Option Access :=
  match s.entryAt grantor gref with
  | some (.access a) => some a
  | _ => none

def isGranted (s : System) (grantor : DomId) (gref : GrantRef) : Bool :=
  (s.grantEntry grantor gref).isSome

def mapCount (s : System) (grantor : DomId) (gref : GrantRef) : Option Nat :=
  (s.grantEntry grantor gref).map (·.maps)

def writableMapCount (s : System) (grantor : DomId) (gref : GrantRef) : Option Nat :=
  (s.grantEntry grantor gref).map (·.writableMaps)

def granteeOf (s : System) (grantor : DomId) (gref : GrantRef) : Option DomId :=
  (s.grantEntry grantor gref).map (·.grantee)

def grantedFrame (s : System) (grantor : DomId) (gref : GrantRef) : Option Frame :=
  (s.grantEntry grantor gref).map (·.frame)

/-- Whether a permit covers `grantee`, `frame` and, if asked, writing. -/
def covers (grantee : DomId) (frame : Frame) (writable : Bool) : GrantEntry → Bool
  | .access a => a.grantee = grantee && a.frame = frame && (!writable || !a.readonly)
  | .free => false

def authorizes (s : System) (grantor grantee : DomId) (frame : Frame) (writable : Bool) : Bool :=
  match s.domain grantor with
  | .error _ => false
  | .ok entries => entries.any (covers grantee frame writable)

def anyGrantTo (s : System) (grantee : DomId) : Bool :=
  (Words.range16 s.domainCount).any fun grantor =>
    (s.grefs grantor).any fun gref => s.granteeOf grantor gref = some grantee

def holdsAnyMap (s : System) (grantee : DomId) : Bool :=
  s.maps.any fun m => m.active && m.grantee = grantee

/-- One past the highest live handle of `grantee`. -/
def handleSlots (s : System) (grantee : DomId) : Nat :=
  ((s.maps.filter fun m => m.active && m.grantee = grantee).map (·.handle + 1)).foldl max 0

/-- Whether a mapping is live and named `(grantee, handle)`. -/
def named (grantee : DomId) (handle : GrantHandle) (m : Mapping) : Bool :=
  m.active && m.grantee = grantee && m.handle = handle

def mappingAt (s : System) (grantee : DomId) (handle : GrantHandle) :
    Option (DomId × GrantRef × Bool) :=
  (s.maps.find? (named grantee handle)).map fun m => (m.grantor, m.gref, m.writable)

def grantAccess (grantor : DomId) (gref : GrantRef) (grantee : DomId) (frame : Frame)
    (readonly : Bool) : Op System GrantError Unit := do
  let _ ← Op.query (·.domain grantee)
  let e ← Op.query (·.entry grantor gref)
  Op.ensure (fun _ => e = .free) .wrongState
  Op.modify (·.setEntry grantor gref (.access ⟨grantee, frame, readonly, 0, 0⟩))

def endAccess (grantor : DomId) (gref : GrantRef) : Op System GrantError Unit := do
  match ← Op.query (·.entry grantor gref) with
  | .free => Op.fail .wrongState
  | .access a =>
      Op.ensure (fun _ => a.maps = 0) .inUse
      Op.modify (·.setEntry grantor gref .free)

def countsAfterMap (maps writableMaps : Nat) (writable : Bool) : Except GrantError (Nat × Nat) :=
  if maps + 1 < 2 ^ 32 then .ok (maps + 1, if writable then writableMaps + 1 else writableMaps)
  else .error .overflow

def countsAfterUnmap (maps writableMaps : Nat) (writable : Bool) : Nat × Nat :=
  (maps - 1, if writable then writableMaps - 1 else writableMaps)

/-- The lowest handle no live mapping of `grantee` has. -/
def freeHandle (s : System) (grantee : DomId) : GrantHandle :=
  FirstFit.search (fun h => s.maps.any (named grantee h)) s.maps.length 0

def allocHandle (grantee grantor : DomId) (gref : GrantRef) (writable : Bool) :
    Op System GrantError GrantHandle := do
  let s ← Op.read
  Op.modify fun s => { s with
    maps := Slab.insert (·.active) s.maps
      ⟨true, grantee, s.freeHandle grantee, grantor, gref, writable⟩ }
  return s.freeHandle grantee

def map (grantee grantor : DomId) (gref : GrantRef) (writable : Bool) :
    Op System GrantError GrantHandle := do
  match ← Op.query (·.entry grantor gref) with
  | .free => Op.fail .wrongState
  | .access a =>
      Op.ensure (fun _ => a.grantee = grantee) .permissionDenied
      Op.ensure (fun _ => !(writable && a.readonly)) .permissionDenied
      let counts ← Op.query fun _ => countsAfterMap a.maps a.writableMaps writable
      Op.modify (·.setEntry grantor gref
        (.access { a with maps := counts.1, writableMaps := counts.2 }))
      allocHandle grantee grantor gref writable

/-- Drop one mapping from its entry's counts. -/
def dropCounts (s : System) (m : Mapping) : System :=
  match s.grantEntry m.grantor m.gref with
  | none => s
  | some a =>
      let counts := countsAfterUnmap a.maps a.writableMaps m.writable
      s.setEntry m.grantor m.gref (.access { a with maps := counts.1, writableMaps := counts.2 })

def unmap (grantee : DomId) (handle : GrantHandle) : Op System GrantError Unmapped := do
  let s ← Op.read
  match s.maps.findIdx? (named grantee handle) with
  | none => Op.fail .badHandle
  | some slot =>
      match s.maps[slot]? with
      | none => Op.fail .badHandle
      | some m =>
          Op.modify (·.dropCounts m)
          Op.modify fun s => { s with maps := s.maps.set slot { m with active := false } }
          return ⟨(s.grantedFrame m.grantor m.gref).getD 0, m.writable⟩

def copy (s : System) (grantee grantor : DomId) (gref : GrantRef) (write : Bool) :
    Except GrantError Unit :=
  match s.entry grantor gref with
  | .error e => .error e
  | .ok .free => .error .wrongState
  | .ok (.access a) =>
      if a.grantee ≠ grantee then .error .permissionDenied
      else if write && a.readonly then .error .permissionDenied
      else .ok ()

/-- Unmap the listed mappings, with the result of each unmap. -/
def drain (held : List (DomId × GrantHandle)) (s : System) :
    List (Except GrantError Unmapped) × System :=
  Op.sweep (fun name s => some (unmap name.1 name.2 s)) held s

def drainMapsOf (grantee : DomId) (s : System) : List (Except GrantError Unmapped) × System :=
  drain ((s.maps.filter fun m => m.active && m.grantee = grantee).map fun m =>
    (grantee, m.handle)) s

def drainForeignMapsOf (target : DomId) (s : System) :
    List (Except GrantError Unmapped) × System :=
  drain ((s.maps.filter fun m => m.active && m.grantor = target && m.grantee ≠ target).map fun m =>
    (m.grantee, m.handle)) s

def revokeAll (grantor : DomId) (s : System) : List (Except GrantError Unit) × System :=
  Op.sweep (fun gref s =>
    if s.isGranted grantor gref then some (endAccess grantor gref s) else none)
    (s.grefs grantor) s

/-- Every grant reference of every grantor, in the order a nested loop visits them. -/
def allRefs (s : System) : List (DomId × GrantRef) :=
  (Words.range16 s.domainCount).flatMap fun grantor =>
    (s.grefs grantor).map fun gref => (grantor, gref)

def revokeGrantsTo (grantee : DomId) (s : System) : List (Except GrantError Unit) × System :=
  Op.sweep (fun slot s =>
    if s.granteeOf slot.1 slot.2 = some grantee then some (endAccess slot.1 slot.2 s) else none)
    s.allRefs s

/-- The live mappings over the entry at a position of the table. -/
def liveOver (s : System) (d g : Nat) : List Mapping :=
  s.maps.filter fun m => m.active && m.grantor.toNat = d && m.gref.toNat = g

/-- The breach, if any, at one entry. -/
def entryViolation (s : System) (d g : Nat) : GrantEntry → Option Violation
  | .free => none
  | .access a =>
      if s.domains.length ≤ a.grantee.toNat then some (.granteeGhostDomain d g)
      else if a.maps < a.writableMaps then some (.writableExceedsMaps d g)
      else if a.readonly && decide (0 < a.writableMaps) then some (.readonlyViolated d g)
      else if a.maps ≠ (s.liveOver d g).length ∨
          a.writableMaps ≠ ((s.liveOver d g).filter (·.writable)).length then
        some (.refcountMismatch d g)
      else none

/-- Whether a mapping stands on a matching, active grant. -/
def backed (s : System) (m : Mapping) : Bool :=
  match s.entry m.grantor m.gref with
  | .ok (.access a) => a.grantee = m.grantee && (!m.writable || !a.readonly)
  | _ => false

def firstViolation (s : System) : Option Violation :=
  ((List.range s.domains.length).findSome? fun d =>
    (List.range (s.domains.width d)).findSome? fun g =>
      (s.domains.get? d g).bind (s.entryViolation d g)) <|>
  (s.maps.filter (·.active)).findSome? fun m =>
    if s.backed m then none else some (.danglingMap m.grantor.toNat m.gref.toNat)

def invariantsHold (s : System) : Bool := s.firstViolation.isNone

end System

end Baleen.Grant
