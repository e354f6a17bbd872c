import Mathlib.Data.Finset.Range
import Mathlib.Data.Finset.Max
import Mathlib.Algebra.Order.Ring.Nat

/-!
# Sets in machine words

A list of 64-bit words holds a set of numbers: bit `i` of word `w` stands for `64 * w + i`.
Adding and removing a number touch one word, and the least number of a set is the lowest bit
of the first word that is not zero.
-/

namespace BitSet

variable {words : List UInt64} {w : UInt64} {i j : Nat}

/-- The bit of a number in its word. -/
def bit (i : Nat) : UInt64 := (1 : UInt64) <<< UInt64.ofNat (i % 64)

def holds (words : List UInt64) (i : Nat) : Bool :=
  ((words[i / 64]?).getD 0).toBitVec.getLsbD (i % 64)

def insert (words : List UInt64) (i : Nat) : List UInt64 := words.modify (i / 64) (· ||| bit i)

def erase (words : List UInt64) (i : Nat) : List UInt64 := words.modify (i / 64) (· &&& ~~~bit i)

def least : List UInt64 → Option Nat
  | [] => none
  | w :: rest => if w = 0 then (least rest).map (64 + ·) else some w.toBitVec.ctz.toNat

theorem getLsbD_bit {k : Nat} (small : k < 64) :
    (bit i).toBitVec.getLsbD k = decide (i % 64 = k) := by
  have below : i % 64 < 64 := Nat.mod_lt _ (by decide)
  have each : ∀ a b : Fin 64, ((1 : UInt64) <<< UInt64.ofNat a.val).toBitVec.getLsbD b.val =
      decide (a.val = b.val) := by decide
  exact each ⟨i % 64, below⟩ ⟨k, small⟩

theorem getLsbD_or_bit {k : Nat} (small : k < 64) :
    (w ||| bit i).toBitVec.getLsbD k = (w.toBitVec.getLsbD k || decide (i % 64 = k)) := by
  rw [UInt64.toBitVec_or, BitVec.getLsbD_or, getLsbD_bit small]

theorem getLsbD_and_not_bit {k : Nat} (small : k < 64) :
    (w &&& ~~~bit i).toBitVec.getLsbD k = (w.toBitVec.getLsbD k && !decide (i % 64 = k)) := by
  rw [UInt64.toBitVec_and, UInt64.toBitVec_not, BitVec.getLsbD_and, BitVec.getLsbD_not,
    getLsbD_bit small, decide_eq_true small, Bool.true_and]

theorem exists_getLsbD (nonzero : w ≠ 0) :
    w.toBitVec.ctz.toNat < 64 ∧ w.toBitVec.getLsbD w.toBitVec.ctz.toNat = true := by
  have nonzero' : w.toBitVec ≠ 0#64 := fun zero => nonzero (UInt64.toBitVec_inj.mp zero)
  exact ⟨BitVec.ctz_lt_iff_ne_zero.mpr nonzero', BitVec.getLsbD_true_ctz_of_ne_zero nonzero'⟩

theorem same_rest (word : i / 64 = j / 64) : i % 64 = j % 64 ↔ i = j := by
  constructor
  · intro rest
    omega
  · rintro rfl
    rfl

theorem holds_out (outside : 64 * words.length ≤ i) : holds words i = false := by
  have missing : words[i / 64]? = none := List.getElem?_eq_none (by omega)
  rw [holds, missing]
  exact BitVec.getLsbD_zero

@[simp] theorem holds_nil : holds [] i = false := holds_out (Nat.zero_le _)

theorem holds_cons_low (low : i < 64) : holds (w :: words) i = w.toBitVec.getLsbD i := by
  rw [holds, Nat.div_eq_of_lt low, Nat.mod_eq_of_lt low]
  rfl

theorem holds_cons_high : holds (w :: words) (64 + i) = holds words i := by
  have quotient : (64 + i) / 64 = i / 64 + 1 := by omega
  have rest : (64 + i) % 64 = i % 64 := by omega
  rw [holds, holds, quotient, rest, List.getElem?_cons_succ]

@[simp] theorem length_insert : (insert words i).length = words.length := List.length_modify ..

@[simp] theorem length_erase : (erase words i).length = words.length := List.length_modify ..

theorem holds_modify (f : UInt64 → UInt64) (inside : j < 64 * words.length) :
    holds (words.modify (i / 64) f) j =
      if i / 64 = j / 64 then (f (words[j / 64]?.getD 0)).toBitVec.getLsbD (j % 64)
      else holds words j := by
  have present : j / 64 < words.length := by omega
  rw [holds, List.getElem?_modify, List.getElem?_eq_getElem present]
  split_ifs with here
  · rfl
  · rw [holds, List.getElem?_eq_getElem present]
    rfl

theorem holds_insert (inside : i < 64 * words.length) :
    holds (insert words i) j = (holds words j || decide (i = j)) := by
  have small : j % 64 < 64 := Nat.mod_lt _ (by decide)
  by_cases outside : 64 * words.length ≤ j
  · have other : i ≠ j := by omega
    rw [holds_out (by simpa using outside), holds_out outside, decide_eq_false other]
    rfl
  · rw [insert, holds_modify _ (Nat.not_le.mp outside)]
    split_ifs with here
    · have rest : i % 64 = j % 64 ↔ i = j := same_rest here
      rw [getLsbD_or_bit small, ← holds, decide_eq_decide.mpr rest]
    · have other : i ≠ j := fun same => here (same ▸ rfl)
      rw [decide_eq_false other, Bool.or_false]

theorem holds_erase : holds (erase words i) j = (holds words j && !decide (i = j)) := by
  have small : j % 64 < 64 := Nat.mod_lt _ (by decide)
  by_cases outside : 64 * words.length ≤ j
  · rw [holds_out (by simpa using outside), holds_out outside]
    rfl
  · rw [erase, holds_modify _ (Nat.not_le.mp outside)]
    split_ifs with here
    · have rest : i % 64 = j % 64 ↔ i = j := same_rest here
      rw [getLsbD_and_not_bit small, ← holds, decide_eq_decide.mpr rest]
    · have other : i ≠ j := fun same => here (same ▸ rfl)
      rw [decide_eq_false other, Bool.not_false, Bool.and_true]

theorem least_eq_none : least words = none ↔ ∀ i, holds words i = false := by
  induction words with
  | nil => simp [least]
  | cons w rest ih =>
      rw [least]
      split_ifs with zero
      · subst zero
        rw [Option.map_eq_none_iff, ih]
        constructor
        · intro empty i
          by_cases low : i < 64
          · rw [holds_cons_low low]
            exact BitVec.getLsbD_zero
          · obtain ⟨j, rfl⟩ := Nat.exists_eq_add_of_le (Nat.not_lt.mp low)
            rw [holds_cons_high]
            exact empty j
        · intro empty i
          rw [← holds_cons_high (w := 0)]
          exact empty _
      · obtain ⟨low, set⟩ := exists_getLsbD zero
        constructor
        · intro found
          cases found
        · intro empty
          have first := empty w.toBitVec.ctz.toNat
          rw [holds_cons_low low, set] at first
          cases first

theorem isLeast_of_least (found : least words = some i) :
    holds words i = true ∧ ∀ j < i, holds words j = false := by
  induction words generalizing i with
  | nil => cases found
  | cons w rest ih =>
      rw [least] at found
      split_ifs at found with zero
      · subst zero
        obtain ⟨k, found', rfl⟩ := Option.map_eq_some_iff.mp found
        obtain ⟨set, below⟩ := ih found'
        refine ⟨holds_cons_high.trans set, fun j smaller => ?_⟩
        by_cases low : j < 64
        · rw [holds_cons_low low]
          exact BitVec.getLsbD_zero
        · obtain ⟨j, rfl⟩ := Nat.exists_eq_add_of_le (Nat.not_lt.mp low)
          rw [holds_cons_high]
          exact below j (by omega)
      · obtain ⟨low, set⟩ := exists_getLsbD zero
        cases found
        refine ⟨(holds_cons_low low).trans set, fun j smaller => ?_⟩
        rw [holds_cons_low (by omega)]
        exact BitVec.getLsbD_false_of_lt_ctz smaller

def toFinset (words : List UInt64) : Finset ℕ :=
  (Finset.range (64 * words.length)).filter fun i => holds words i = true

@[simp] theorem mem_toFinset : i ∈ toFinset words ↔ holds words i = true := by
  rw [toFinset, Finset.mem_filter, Finset.mem_range]
  constructor
  · exact And.right
  · intro set
    refine ⟨Nat.not_le.mp fun outside => ?_, set⟩
    rw [holds_out outside] at set
    cases set

theorem toFinset_insert (inside : i < 64 * words.length) :
    toFinset (insert words i) = Insert.insert i (toFinset words) := by
  ext j
  rw [mem_toFinset, holds_insert inside, Finset.mem_insert, mem_toFinset, Bool.or_eq_true,
    decide_eq_true_iff, or_comm, eq_comm]

theorem toFinset_erase : toFinset (erase words i) = (toFinset words).erase i := by
  ext j
  rw [mem_toFinset, holds_erase, Finset.mem_erase, mem_toFinset, Bool.and_eq_true,
    Bool.not_eq_true', decide_eq_false_iff_not, and_comm, ne_comm]

theorem toFinset_eq_empty : toFinset words = ∅ ↔ least words = none := by
  rw [least_eq_none, Finset.eq_empty_iff_forall_notMem]
  simp

end BitSet
