import Baleen.Lib.Words

/-!
# Two-dimensional tables

A table of rows, addressed by a row and a column.  `get?` answers `none` outside
the table and `set` ignores such a cell, so the one lemma `get?_set` describes
every read after a write; sizes never change.
-/

/-- A list of rows. -/
abbrev Grid (α : Type) := List (List α)

namespace Grid

variable {α : Type}

/-- The cell in row `i`, column `j`. -/
def get? (g : Grid α) (i j : Nat) : Option α := g[i]?.bind fun row => row[j]?

/-- Overwrite one cell; a cell outside the table is ignored. -/
def set (g : Grid α) (i j : Nat) (a : α) : Grid α := g.modify i fun row => row.set j a

/-- `n` rows of `m` equal cells. -/
def fill (n m : Nat) (a : α) : Grid α := List.replicate n (List.replicate m a)

/-- The number of columns of row `i`, zero outside the table. -/
def width (g : Grid α) (i : Nat) : Nat := (g[i]?.map List.length).getD 0

/-- A table is its rows and its cells. -/
theorem ext_get? {g g' : Grid α} (rows : g.length = g'.length)
    (cells : ∀ i j, g.get? i j = g'.get? i j) : g = g' := by
  refine List.ext_getElem rows fun i inside inside' => List.ext_getElem? fun j => ?_
  have cell := cells i j
  simpa only [get?, List.getElem?_eq_getElem inside, List.getElem?_eq_getElem inside',
    Option.bind_some] using cell

theorem get?_set (g : Grid α) (i j k l : Nat) (a : α) :
    (set g i j a).get? k l =
      if i = k ∧ j = l then (g.get? i j).map fun _ => a else g.get? k l := by
  simp only [get?, set, List.getElem?_modify]
  by_cases rows : i = k
  · subst rows
    cases row : g[i]? with
    | none => simp
    | some cells =>
        simp only [Option.bind_some, true_and, if_true]
        by_cases cols : j = l
        · subst cols
          by_cases inside : j < cells.length <;> simp [inside]
        · simp [cols]
  · simp [rows]

theorem get?_set_other {g : Grid α} {i j k l : Nat} {a : α} (other : i = k → j ≠ l) :
    (set g i j a).get? k l = g.get? k l := by
  rw [get?_set, if_neg]
  rintro ⟨same, clash⟩
  exact other same clash

theorem set_set (g : Grid α) (i j : Nat) (a b : α) : set (set g i j a) i j b = set g i j b := by
  simp only [set, List.modify_modify_eq]
  congr 1
  funext row
  simp

/-- Writing what is there changes nothing. -/
theorem set_present {g : Grid α} {i j : Nat} {a : α} (present : g.get? i j = some a) :
    set g i j a = g := by
  unfold get? at present
  cases row : g[i]? with
  | none => simp [row] at present
  | some cells =>
      simp only [row, Option.bind_some] at present
      have same : cells.set j a = cells := by
        obtain ⟨inside, value⟩ := List.getElem?_eq_some_iff.mp present
        rw [← value, List.set_getElem_self]
      refine List.ext_getElem? fun k => ?_
      rw [set, List.getElem?_modify]
      split_ifs with here
      · rw [← here, row, Option.map_eq_map, Option.map_some, same]
      · cases g[k]? <;> rfl

/-- Rewriting every cell. -/
theorem get?_map {β : Type} (f : α → β) (g : Grid α) (i j : Nat) :
    get? (g.map fun row => row.map f) i j = (g.get? i j).map f := by
  simp only [get?, List.getElem?_map]
  cases g[i]? with
  | none => rfl
  | some row => simp

@[simp] theorem width_map {β : Type} (f : α → β) (g : Grid α) (i : Nat) :
    width (g.map fun row => row.map f) i = g.width i := by
  simp only [width, List.getElem?_map]
  cases g[i]? with
  | none => rfl
  | some row => simp

theorem map_set {β : Type} (f : α → β) (g : Grid α) (i j : Nat) (a : α) :
    (set g i j a).map (fun row => row.map f) = set (g.map fun row => row.map f) i j (f a) := by
  refine List.ext_getElem? fun k => ?_
  simp only [set, List.getElem?_map, List.getElem?_modify]
  cases g[k]? with
  | none => rfl
  | some row => by_cases here : i = k <;> simp [here]

@[simp] theorem length_set (g : Grid α) (i j : Nat) (a : α) :
    (set g i j a).length = g.length := by simp [set]

@[simp] theorem width_set (g : Grid α) (i j k : Nat) (a : α) :
    (set g i j a).width k = g.width k := by
  simp only [width, set, List.getElem?_modify]
  cases g[k]? with
  | none => simp
  | some row => by_cases rows : i = k <;> simp [rows]

theorem get?_eq_none_iff {g : Grid α} {i j : Nat} : g.get? i j = none ↔ g.width i ≤ j := by
  cases row : g[i]? with
  | none => simp [get?, width, row]
  | some cells => simp [get?, width, row]

theorem get?_isSome_iff {g : Grid α} {i j : Nat} : (g.get? i j).isSome ↔ j < g.width i := by
  rw [Option.isSome_iff_ne_none, ne_eq, get?_eq_none_iff, Nat.not_le]

theorem exists_get? {g : Grid α} {i j : Nat} (inside : j < g.width i) :
    ∃ a, g.get? i j = some a :=
  Option.isSome_iff_exists.mp (get?_isSome_iff.mpr inside)

theorem lt_width_of_get? {g : Grid α} {i j : Nat} {a : α} (present : g.get? i j = some a) :
    j < g.width i :=
  get?_isSome_iff.mp (by simp [present])

theorem lt_length_of_get? {g : Grid α} {i j : Nat} {a : α} (present : g.get? i j = some a) :
    i < g.length := by
  by_contra outside
  have : g[i]? = none := List.getElem?_eq_none (by omega)
  simp [get?, this] at present

theorem get?_fill (n m : Nat) (a : α) (i j : Nat) :
    (fill n m a).get? i j = if i < n ∧ j < m then some a else none := by
  by_cases rows : i < n
  · by_cases cols : j < m <;> simp [fill, get?, rows, cols]
  · simp [fill, get?, rows]

@[simp] theorem length_fill (n m : Nat) (a : α) : (fill n m a).length = n := by simp [fill]

theorem width_fill (n m : Nat) (a : α) (i : Nat) :
    (fill n m a).width i = if i < n then m else 0 := by
  by_cases rows : i < n <;> simp [fill, width, rows]

/-- A table whose rows and columns all have identifiers is what these read of it. -/
theorem ext_words {g g' : Grid α} (few : g.length < 2 ^ 16)
    (narrow : ∀ d : UInt16, g.width d.toNat < 2 ^ 32) (rows : g.length = g'.length)
    (cells : ∀ (d : UInt16) (r : UInt32), g.get? d.toNat r.toNat = g'.get? d.toNat r.toNat)
    (widths : ∀ d : UInt16, g.width d.toNat = g'.width d.toNat) : g = g' := by
  refine ext_get? rows fun i j => ?_
  by_cases row : i < g.length
  · obtain ⟨d, rfl⟩ : ∃ d : UInt16, d.toNat = i :=
      ⟨UInt16.ofNat i, Words.toNat_ofNat16 (Nat.lt_trans row few)⟩
    by_cases column : j < g.width d.toNat
    · obtain ⟨r, rfl⟩ : ∃ r : UInt32, r.toNat = j :=
        ⟨UInt32.ofNat j, Words.toNat_ofNat32 (Nat.lt_trans column (narrow d))⟩
      exact cells d r
    · have outside := Nat.le_of_not_lt column
      rw [get?_eq_none_iff.mpr outside, get?_eq_none_iff.mpr ((widths d).symm.trans_le outside)]
  · have outside : ∀ {h : Grid α}, h.length ≤ i → h.get? i j = none := by
      intro h beyond
      unfold get?
      rw [List.getElem?_eq_none beyond]
      rfl
    have beyond := Nat.le_of_not_lt row
    rw [outside beyond, outside (rows.symm.trans_le beyond)]

end Grid
