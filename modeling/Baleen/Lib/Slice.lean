import Mathlib.Data.List.Basic

/-!
# Slices of a buffer

Reading and overwriting a stretch of a list, as `&words[off..off + n]` and
`copy_from_slice` do.  A write shows in its own stretch and nowhere else.
-/

namespace Slice

variable {α : Type}

def read (l : List α) (off n : Nat) : List α := (l.drop off).take n

def write (l : List α) (off : Nat) (r : List α) : List α :=
  l.take off ++ r ++ l.drop (off + r.length)

variable {l r : List α} {off off' n : Nat}

theorem getElem?_read (i : Nat) : (read l off n)[i]? = if i < n then l[off + i]? else none := by
  rw [read, List.getElem?_take, List.getElem?_drop]

theorem length_write (fits : off + r.length ≤ l.length) : (write l off r).length = l.length := by
  simp only [write, List.length_append, List.length_take, List.length_drop]
  omega

theorem getElem?_write (fits : off + r.length ≤ l.length) (i : Nat) :
    (write l off r)[i]? =
      if off ≤ i ∧ i < off + r.length then r[i - off]? else l[i]? := by
  have taken : (l.take off).length = off := by
    rw [List.length_take]
    omega
  rw [write, List.append_assoc]
  by_cases before : i < off
  · rw [List.getElem?_append_left (by omega), List.getElem?_take, if_pos before, if_neg (by omega)]
  · rw [List.getElem?_append_right (by omega), taken]
    by_cases inside : i < off + r.length
    · rw [List.getElem?_append_left (by omega), if_pos (by omega)]
    · rw [List.getElem?_append_right (by omega), List.getElem?_drop, if_neg (by omega)]
      congr 1
      omega

theorem read_write (fits : off + r.length ≤ l.length) : read (write l off r) off r.length = r := by
  apply List.ext_getElem?
  intro i
  rw [getElem?_read, getElem?_write fits]
  by_cases inside : i < r.length
  · rw [if_pos inside, if_pos (by omega), Nat.add_sub_cancel_left]
  · rw [if_neg inside, List.getElem?_eq_none (Nat.le_of_not_lt inside)]

theorem read_write_apart (fits : off + r.length ≤ l.length)
    (apart : off' + n ≤ off ∨ off + r.length ≤ off') :
    read (write l off r) off' n = read l off' n := by
  apply List.ext_getElem?
  intro i
  rw [getElem?_read, getElem?_read, getElem?_write fits]
  by_cases inside : i < n
  · rw [if_pos inside, if_pos inside, if_neg (by omega)]
  · rw [if_neg inside, if_neg inside]

end Slice
