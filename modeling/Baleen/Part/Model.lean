import Baleen.Lib.Words

/-!
# The partition

One machine divided among guest slots: the model frames, the page tables and the window of
addresses that a slot owns, and the domain it runs as, all computed from its number.
-/

namespace Baleen.Part

open Words

abbrev DomId := UInt16

/-- The privileged domain, which no slot runs as. -/
def DOM0 : DomId := 0

/-- `DomId::MAX`. -/
def DOM_ID_MAX : DomId := 0xffff

def windowLenFrom (framesPerGuest frameBytes : UInt64) : UInt64 := framesPerGuest * frameBytes

structure Partition where
  numGuests : UInt64
  framesPerGuest : UInt64
  windowLen : UInt64
  ramBase : UInt64
  ramEnd : UInt64
  numSupFrames : UInt64
  tablesPerGuest : UInt64
  vcpusPerGuest : UInt64
  deriving DecidableEq, Repr

namespace Partition

variable (p : Partition)

def exactHalving : Bool :=
  match checkedMul p.numGuests p.framesPerGuest with
  | some f => f == p.numSupFrames
  | none => false

def windowFits : Bool :=
  match checkedMul p.numGuests p.windowLen with
  | none => false
  | some span =>
      match checkedAdd p.ramBase span with
      | some finish => finish ≤ p.ramEnd
      | none => false

def tablesFit : Bool :=
  match checkedMul p.numGuests p.tablesPerGuest with
  | none => false
  | some t => (checkedAdd p.numSupFrames t).isSome

def isWellFormed : Bool :=
  p.numGuests > 0 && p.numGuests < DOM_ID_MAX.toUInt64 && p.framesPerGuest > 0 &&
    p.windowLen > 0 && p.vcpusPerGuest > 0 && p.exactHalving && p.windowFits && p.tablesFit

def hasSlot (slot : UInt64) : Bool := slot < p.numGuests

-- The derivations wrap around: that they do not is a theorem.
def firstFrame (slot : UInt64) : UInt64 := slot * p.framesPerGuest

def framesEnd (slot : UInt64) : UInt64 := p.firstFrame slot + p.framesPerGuest

def firstTable (slot : UInt64) : UInt64 := p.numSupFrames + slot * p.tablesPerGuest

def tablesEnd (slot : UInt64) : UInt64 := p.firstTable slot + p.tablesPerGuest

def windowBase (slot : UInt64) : UInt64 := p.ramBase + slot * p.windowLen

def windowEnd (slot : UInt64) : UInt64 := p.windowBase slot + p.windowLen

def windowContains (slot ipa : UInt64) : Bool :=
  p.windowBase slot ≤ ipa && ipa < p.windowEnd slot

/-- The first slot whose window contains the address. -/
def ownerOf (ipa : UInt64) : Option UInt64 :=
  (span64 0 p.numGuests).find? fun slot => p.windowContains slot ipa

def domOf (_p : Partition) (slot : UInt64) : DomId := slot.toUInt16 + 1

def inWindow (slot offset : UInt64) : Option UInt64 :=
  if !p.hasSlot slot || offset ≥ p.windowLen then none else some (p.windowBase slot + offset)

def windowTop (slot len : UInt64) : Option UInt64 :=
  if !p.hasSlot slot || len == 0 || len > p.windowLen then none
  else some (p.windowEnd slot - len)

def windowsInRange : Bool :=
  (span64 0 p.numGuests).all fun slot => !decide (p.windowEnd slot > p.ramEnd)

def windowsDisjoint : Bool :=
  (span64 0 p.numGuests).all fun a =>
    (span64 (a + 1) p.numGuests).all fun b =>
      !(p.windowBase a < p.windowEnd b && p.windowBase b < p.windowEnd a)

def framesDisjoint : Bool :=
  (span64 0 p.numGuests).all fun a =>
    !decide (p.firstTable a < p.numSupFrames) &&
      (span64 (a + 1) p.numGuests).all fun b =>
        !(p.firstFrame a < p.framesEnd b && p.firstFrame b < p.framesEnd a) &&
          !(p.firstTable a < p.tablesEnd b && p.firstTable b < p.tablesEnd a)

end Partition

end Baleen.Part
