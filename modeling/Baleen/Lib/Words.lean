import Mathlib.Algebra.Order.Ring.Nat
import Mathlib.Data.List.Nodup

/-!
# Machine-word identifiers

Identifiers are fixed-width words while the tables they index have a length
counted in native words.  A loop `for x in 0..n as u32` therefore visits the
identifiers below `n % 2^32`, and an index written back as an identifier wraps.
-/

namespace Words

/-- The identifiers visited by a loop over `0..n as u16`. -/
def range16 (n : Nat) : List UInt16 := (List.range (n % 2 ^ 16)).map UInt16.ofNat

/-- The identifiers visited by a loop over `0..n as u32`. -/
def range32 (n : Nat) : List UInt32 := (List.range (n % 2 ^ 32)).map UInt32.ofNat

theorem toNat_ofNat16 {i : Nat} (bounded : i < 2 ^ 16) : (UInt16.ofNat i).toNat = i :=
  UInt16.toNat_ofNat_of_lt' bounded

theorem toNat_ofNat32 {i : Nat} (bounded : i < 2 ^ 32) : (UInt32.ofNat i).toNat = i :=
  UInt32.toNat_ofNat_of_lt' bounded

@[simp] theorem mem_range16 {n : Nat} {x : UInt16} : x ∈ range16 n ↔ x.toNat < n % 2 ^ 16 := by
  simp only [range16, List.mem_map, List.mem_range]
  constructor
  · rintro ⟨i, small, rfl⟩
    rwa [toNat_ofNat16 (by omega)]
  · intro small
    exact ⟨x.toNat, small, UInt16.ofNat_toNat⟩

@[simp] theorem mem_range32 {n : Nat} {x : UInt32} : x ∈ range32 n ↔ x.toNat < n % 2 ^ 32 := by
  simp only [range32, List.mem_map, List.mem_range]
  constructor
  · rintro ⟨i, small, rfl⟩
    rwa [toNat_ofNat32 (by omega)]
  · intro small
    exact ⟨x.toNat, small, UInt32.ofNat_toNat⟩

theorem mem_range16_of_lt {n : Nat} (few : n < 2 ^ 16) {x : UInt16} :
    x ∈ range16 n ↔ x.toNat < n := by
  rw [mem_range16, Nat.mod_eq_of_lt few]

theorem mem_range32_of_lt {n : Nat} (few : n < 2 ^ 32) {x : UInt32} :
    x ∈ range32 n ↔ x.toNat < n := by
  rw [mem_range32, Nat.mod_eq_of_lt few]

theorem range16_nodup (n : Nat) : (range16 n).Nodup := by
  refine List.Nodup.map_on (fun i small j small' same => ?_) List.nodup_range
  rw [List.mem_range] at small small'
  rw [← toNat_ofNat16 (show i < 2 ^ 16 by omega),
    ← toNat_ofNat16 (show j < 2 ^ 16 by omega), same]

theorem range32_nodup (n : Nat) : (range32 n).Nodup := by
  refine List.Nodup.map_on (fun i small j small' same => ?_) List.nodup_range
  rw [List.mem_range] at small small'
  rw [← toNat_ofNat32 (show i < 2 ^ 32 by omega),
    ← toNat_ofNat32 (show j < 2 ^ 32 by omega), same]

/-- The values visited by `while i < finish { ..; i += 1 }` from `start` on. -/
def span64 (start finish : UInt64) : List UInt64 :=
  (List.range' start.toNat (finish.toNat - start.toNat)).map UInt64.ofNat

def checkedAdd (a b : UInt64) : Option UInt64 :=
  if a.toNat + b.toNat < 2 ^ 64 then some (a + b) else none

def checkedMul (a b : UInt64) : Option UInt64 :=
  if a.toNat * b.toNat < 2 ^ 64 then some (a * b) else none

@[simp] theorem mem_span64 {start finish x : UInt64} :
    x ∈ span64 start finish ↔ start ≤ x ∧ x < finish := by
  simp only [span64, List.mem_map, List.mem_range'_1, UInt64.le_iff_toNat_le,
    UInt64.lt_iff_toNat_lt]
  constructor
  · rintro ⟨i, visited, rfl⟩
    have bounded := finish.toNat_lt
    rw [UInt64.toNat_ofNat_of_lt' (show i < 2 ^ 64 by omega)]
    omega
  · intro visited
    exact ⟨x.toNat, by omega, UInt64.ofNat_toNat⟩

theorem toNat_add_of_lt {a b : UInt64} (fits : a.toNat + b.toNat < 2 ^ 64) :
    (a + b).toNat = a.toNat + b.toNat := by
  rw [UInt64.toNat_add, Nat.mod_eq_of_lt fits]

theorem toNat_mul_of_lt {a b : UInt64} (fits : a.toNat * b.toNat < 2 ^ 64) :
    (a * b).toNat = a.toNat * b.toNat := by
  rw [UInt64.toNat_mul, Nat.mod_eq_of_lt fits]

theorem checkedAdd_eq_some {a b c : UInt64} :
    checkedAdd a b = some c ↔ a.toNat + b.toNat = c.toNat := by
  unfold checkedAdd
  split
  · next fits => rw [Option.some_inj, ← UInt64.toNat_inj, toNat_add_of_lt fits]
  · next large =>
    have bounded := c.toNat_lt
    exact ⟨nofun, fun same => absurd (same ▸ bounded) large⟩

theorem checkedAdd_eq_none {a b : UInt64} :
    checkedAdd a b = none ↔ 2 ^ 64 ≤ a.toNat + b.toNat := by
  rw [checkedAdd, ite_eq_right_iff, ← Nat.not_lt]
  exact ⟨fun failed fits => (nomatch failed fits), fun large fits => absurd fits large⟩

theorem checkedMul_eq_some {a b c : UInt64} :
    checkedMul a b = some c ↔ a.toNat * b.toNat = c.toNat := by
  unfold checkedMul
  split
  · next fits => rw [Option.some_inj, ← UInt64.toNat_inj, toNat_mul_of_lt fits]
  · next large =>
    have bounded := c.toNat_lt
    exact ⟨nofun, fun same => absurd (same ▸ bounded) large⟩

theorem checkedMul_eq_none {a b : UInt64} :
    checkedMul a b = none ↔ 2 ^ 64 ≤ a.toNat * b.toNat := by
  rw [checkedMul, ite_eq_right_iff, ← Nat.not_lt]
  exact ⟨fun failed fits => (nomatch failed fits), fun large fits => absurd fits large⟩

end Words
