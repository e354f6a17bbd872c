import Baleen.Lib.BitSet
import Baleen.Lib.Refine
import Baleen.Gic.Model

/-!
# The software pending set

Interrupts of one vCPU that wait for a list register, one bit for each that the distributor can
name.  A set has no full state: what is marked stays until it is taken, the lowest first, and
marking it once more changes nothing.
-/

namespace Baleen.Gic

def wordsFor (intids : Nat) : Nat := (intids + 63) / 64

def wordOf (intid : UInt32) : Nat := intid.toNat / 64

def bitOf (intid : UInt32) : UInt64 := (1 : UInt64) <<< UInt64.ofNat (intid.toNat % 64)

/-- The sum is one of 32-bit words. -/
def intidOf (word : Nat) (bit : UInt32) : UInt32 := UInt32.ofNat (word * 64) + bit

def trailingZeros (x : UInt64) : UInt32 := UInt32.ofNat x.toBitVec.ctz.toNat

/-- The search from the word at an index on. -/
def lowestFrom : Nat → List UInt64 → Option UInt32
  | _, [] => none
  | w, x :: rest => if x ≠ 0 then some (intidOf w (trailingZeros x)) else lowestFrom (w + 1) rest

def lowestSet (words : List UInt64) : Option UInt32 := lowestFrom 0 words

def isEmpty (words : List UInt64) : Bool := words.all fun x => x = 0

def PENDING_WORDS : Nat := wordsFor NUM_INTIDS

structure PendingSet where
  words : List UInt64
  sized : words.length = PENDING_WORDS
  deriving DecidableEq, Repr

namespace PendingSet

def new : PendingSet := ⟨List.replicate PENDING_WORDS 0, List.length_replicate⟩

/-- Change the word of an interrupt. -/
def modifyWord (p : PendingSet) (intid : UInt32) (f : UInt64 → UInt64) : PendingSet :=
  ⟨p.words.modify (wordOf intid) f, (List.length_modify ..).trans p.sized⟩

def mark (p : PendingSet) (intid : UInt32) : Bool × PendingSet :=
  if NUM_INTIDS ≤ intid.toNat then (false, p)
  else (true, p.modifyWord intid (· ||| bitOf intid))

def isEmpty (p : PendingSet) : Bool := Gic.isEmpty p.words

def takeNext (p : PendingSet) : Option UInt32 × PendingSet :=
  match lowestSet p.words with
  | none => (none, p)
  | some intid => (some intid, p.modifyWord intid (· &&& ~~~bitOf intid))

/-- Whether an interrupt is waiting. -/
def waits (p : PendingSet) (intid : UInt32) : Bool := BitSet.holds p.words intid.toNat

/-- The interrupts that wait, by their numbers. -/
def intids (p : PendingSet) : Finset ℕ := BitSet.toFinset p.words

variable {p p' : PendingSet} {intid other : UInt32}

theorem mem_intids : intid.toNat ∈ p.intids ↔ p.waits intid = true := BitSet.mem_toFinset

theorem inside_words (p : PendingSet) (named : intid.toNat < NUM_INTIDS) :
    intid.toNat < 64 * p.words.length := by
  have room : NUM_INTIDS ≤ 64 * PENDING_WORDS := by decide
  rw [p.sized]
  omega

theorem small_of_mem {i : Nat} (member : i ∈ p.intids) : i < 2 ^ 32 := by
  have room : 64 * PENDING_WORDS ≤ 2 ^ 32 := by decide
  have inside : i < 64 * p.words.length := by
    refine Nat.not_le.mp fun outside => ?_
    rw [intids, BitSet.mem_toFinset, BitSet.holds_out outside] at member
    cases member
  rw [p.sized] at inside
  omega

theorem waits_new : new.waits intid = false := by
  have none_set : BitSet.least new.words = none := by decide
  exact BitSet.least_eq_none.mp none_set _

theorem intids_new : new.intids = ∅ := BitSet.toFinset_eq_empty.mpr (by decide)

theorem mark_named (p : PendingSet) (named : intid.toNat < NUM_INTIDS) :
    (p.mark intid).1 = true ∧ (p.mark intid).2.words = BitSet.insert p.words intid.toNat := by
  rw [mark, if_neg (Nat.not_le.mpr named)]
  exact ⟨rfl, rfl⟩

theorem mark_unnamed (p : PendingSet) (unnamed : NUM_INTIDS ≤ intid.toNat) :
    p.mark intid = (false, p) := if_pos unnamed

theorem waits_mark (p : PendingSet) (named : intid.toNat < NUM_INTIDS) :
    (p.mark intid).2.waits other = (p.waits other || decide (intid = other)) := by
  rw [waits, (mark_named p named).2, BitSet.holds_insert (inside_words p named), ← waits]
  simp only [UInt32.toNat_inj]

theorem lowestFrom_eq (w : Nat) (words : List UInt64) :
    lowestFrom w words = (BitSet.least words).map fun i => UInt32.ofNat (64 * w + i) := by
  induction words generalizing w with
  | nil => rfl
  | cons x rest ih =>
      rw [lowestFrom, BitSet.least]
      by_cases zero : x = 0
      · rw [if_neg (not_not.mpr zero), if_pos zero, ih, Option.map_map]
        refine Option.map_congr fun i _ => ?_
        have sum : 64 * (w + 1) + i = 64 * w + (64 + i) := by omega
        rw [Function.comp_apply, sum]
      · rw [if_pos zero, if_neg zero, Option.map_some, intidOf, trailingZeros, Nat.mul_comm,
          UInt32.ofNat_add]

theorem lowestSet_eq (words : List UInt64) :
    lowestSet words = (BitSet.least words).map UInt32.ofNat := by
  rw [lowestSet, lowestFrom_eq]
  simp only [Nat.mul_zero, Nat.zero_add]

theorem isEmpty_iff_least (words : List UInt64) :
    Gic.isEmpty words = true ↔ BitSet.least words = none := by
  induction words with
  | nil => exact ⟨fun _ => rfl, fun _ => rfl⟩
  | cons x rest ih =>
      rw [Gic.isEmpty, List.all_cons, ← Gic.isEmpty, Bool.and_eq_true, decide_eq_true_iff, ih,
        BitSet.least]
      split_ifs with zero
      · rw [Option.map_eq_none_iff]
        exact ⟨And.right, fun found => ⟨zero, found⟩⟩
      · refine ⟨fun both => absurd both.1 zero, fun found => ?_⟩
        cases found

theorem isEmpty_iff : p.isEmpty = true ↔ p.intids = ∅ := by
  rw [isEmpty, isEmpty_iff_least, intids, BitSet.toFinset_eq_empty]

theorem isEmpty_iff_waits : p.isEmpty = true ↔ ∀ i, p.waits i = false := by
  rw [isEmpty_iff, Finset.eq_empty_iff_forall_notMem]
  constructor
  · intro empty i
    exact Bool.eq_false_iff.mpr fun set => empty _ (mem_intids.mpr set)
  · intro empty i member
    have same : (UInt32.ofNat i).toNat = i := UInt32.toNat_ofNat_of_lt' (small_of_mem member)
    rw [← same, mem_intids, empty] at member
    cases member

/-- What a taking removes: the lowest interrupt of the set. -/
inductive Takes (p : PendingSet) : Option UInt32 × PendingSet → Prop where
  | nothing (empty : p.intids = ∅) : Takes p (none, p)
  | lowest {intid : UInt32} {p' : PendingSet} (member : intid.toNat ∈ p.intids)
      (least : ∀ i ∈ p.intids, intid.toNat ≤ i)
      (rest : p'.words = BitSet.erase p.words intid.toNat) : Takes p (some intid, p')

theorem takes_takeNext (p : PendingSet) : Takes p p.takeNext := by
  rw [takeNext, lowestSet_eq]
  cases found : BitSet.least p.words with
  | none => exact .nothing (BitSet.toFinset_eq_empty.mpr found)
  | some i =>
      obtain ⟨set, below⟩ := BitSet.isLeast_of_least found
      have member : i ∈ p.intids := BitSet.mem_toFinset.mpr set
      have same : (UInt32.ofNat i).toNat = i := UInt32.toNat_ofNat_of_lt' (small_of_mem member)
      refine .lowest (by rwa [same]) (fun j other => ?_) rfl
      rw [same]
      refine Nat.not_lt.mp fun smaller => ?_
      rw [intids, BitSet.mem_toFinset, below j smaller] at other
      cases other

theorem waits_takeNext (taken : p.takeNext = (some intid, p')) :
    p.waits intid = true ∧ p'.waits other = (p.waits other && !decide (intid = other)) := by
  have takes := takes_takeNext p
  rw [taken] at takes
  cases takes with
  | lowest member _ rest =>
      refine ⟨mem_intids.mp member, ?_⟩
      rw [waits, rest, BitSet.holds_erase, ← waits]
      simp only [UInt32.toNat_inj]

theorem lowest_takeNext (taken : p.takeNext = (some intid, p')) (waits : p.waits other = true) :
    intid ≤ other := by
  have takes := takes_takeNext p
  rw [taken] at takes
  cases takes with
  | lowest _ least _ => exact UInt32.le_iff_toNat_le.mpr (least _ (mem_intids.mpr waits))

theorem card_takeNext (taken : p.takeNext = (some intid, p')) :
    p'.intids.card + 1 = p.intids.card := by
  have takes := takes_takeNext p
  rw [taken] at takes
  cases takes with
  | lowest member _ rest =>
      rw [intids, rest, BitSet.toFinset_erase]
      exact Finset.card_erase_add_one member

theorem card_mark (p : PendingSet) (named : intid.toNat < NUM_INTIDS) :
    (p.mark intid).2.intids.card = p.intids.card + if p.waits intid then 0 else 1 := by
  rw [intids, (mark_named p named).2, BitSet.toFinset_insert (inside_words p named), ← intids]
  split_ifs with already
  · rw [Finset.insert_eq_of_mem (mem_intids.mpr already), Nat.add_zero]
  · exact Finset.card_insert_of_notMem (mt mem_intids.mp already)

theorem takeNext_rest (empty : p.takeNext.1 = none) : p.takeNext.2 = p := by
  rw [takeNext] at empty ⊢
  cases found : lowestSet p.words with
  | none => rfl
  | some intid =>
      rw [found] at empty
      cases empty

theorem takeNext_none : p.takeNext.1 = none ↔ p.isEmpty = true := by
  rw [isEmpty_iff]
  constructor
  · intro nothing
    have takes := takes_takeNext p
    cases taken : p.takeNext with
    | mk first second =>
        rw [taken] at takes nothing
        cases takes with
        | nothing empty => exact empty
        | lowest _ _ _ => cases nothing
  · intro empty
    rw [takeNext, lowestSet_eq, BitSet.toFinset_eq_empty.mp empty]
    rfl

/-- What the two switches ask of a pending set. -/
inductive Call where
  | mark (intid : UInt32)
  | takeNext
  | isEmpty
  deriving DecidableEq, Repr

inductive Answer where
  | marked (accepted : Bool)
  | taken (intid : Option ℕ)
  | empty (empty : Bool)
  deriving DecidableEq, Repr

def serve : Call → PendingSet → Answer × PendingSet
  | .mark intid, p => (.marked (p.mark intid).1, (p.mark intid).2)
  | .takeNext, p => (.taken (p.takeNext.1.map UInt32.toNat), p.takeNext.2)
  | .isEmpty, p => (.empty p.isEmpty, p)

/-- The same calls on a set of numbers. -/
def serveSet : Call → Finset ℕ → Answer × Finset ℕ
  | .mark intid, waiting =>
      if intid.toNat < NUM_INTIDS then (.marked true, insert intid.toNat waiting)
      else (.marked false, waiting)
  | .takeNext, waiting =>
      if inhabited : waiting.Nonempty then
        (.taken (some (waiting.min' inhabited)), waiting.erase (waiting.min' inhabited))
      else (.taken none, waiting)
  | .isEmpty, waiting => (.empty (decide (waiting = ∅)), waiting)

theorem serve_step (call : Call) (p : PendingSet) :
    (serve call p).1 = (serveSet call p.intids).1 ∧
      (serve call p).2.intids = (serveSet call p.intids).2 := by
  cases call with
  | mark intid =>
      by_cases named : intid.toNat < NUM_INTIDS
      · obtain ⟨accepted, words⟩ := mark_named p named
        rw [serve, serveSet, if_pos named, accepted]
        refine ⟨rfl, ?_⟩
        rw [intids, words, BitSet.toFinset_insert (inside_words p named), ← intids]
      · rw [serve, serveSet, if_neg named, mark_unnamed p (Nat.not_lt.mp named)]
        exact ⟨rfl, rfl⟩
  | takeNext =>
      have takes := takes_takeNext p
      rw [serve, serveSet]
      cases taken : p.takeNext with
      | mk first second =>
          rw [taken] at takes
          cases takes with
          | nothing empty =>
              rw [dif_neg (Finset.not_nonempty_iff_eq_empty.mpr empty)]
              exact ⟨rfl, rfl⟩
          | @lowest intid _ member least rest =>
              have inhabited : p.intids.Nonempty := ⟨_, member⟩
              have smallest : p.intids.min' inhabited = intid.toNat :=
                le_antisymm (Finset.min'_le _ _ member) (Finset.le_min' _ _ _ least)
              rw [dif_pos inhabited, smallest]
              refine ⟨rfl, ?_⟩
              rw [intids, rest, BitSet.toFinset_erase, ← intids]
  | isEmpty =>
      have same : p.isEmpty = decide (p.intids = ∅) := by
        rw [Bool.eq_iff_iff, decide_eq_true_iff, isEmpty_iff]
      rw [serve, serveSet, same]
      exact ⟨rfl, rfl⟩

/-- No sequence of calls tells a pending set from a set of numbers. -/
theorem refines_finset (calls : List Call) :
    (Refine.serve serve calls new).1 = (Refine.serve serveSet calls ∅).1 ∧
      (Refine.serve serve calls new).2.intids = (Refine.serve serveSet calls ∅).2 := by
  have refined := Refine.serve_abstracts intids serve_step calls new
  rwa [intids_new] at refined

end PendingSet

end Baleen.Gic
