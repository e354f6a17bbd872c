import Mathlib.Data.List.Infix

/-!
# Overlaps of a word and a text

How much of the head of a word the end of a text shows, and the words for which a mismatch
may forget everything but the first letter.
-/

namespace Overlap

variable {α : Type*}

/-- `k` letters of `word` end `text`, and no more do. -/
structure Longest (word text : List α) (k : Nat) : Prop where
  le : k ≤ word.length
  ends : word.take k <:+ text
  top : ∀ j, j ≤ word.length → word.take j <:+ text → j ≤ k

/-- Where a head of `word` ends with a shorter head of `word`, both continue alike. -/
def SteadyBorders (word : List α) : Prop :=
  ∀ k, k < word.length → ∀ i, i < k → 0 < i →
    word.take i <:+ word.take k → word[i]? = word[k]?

instance [DecidableEq α] (word : List α) : Decidable (SteadyBorders word) :=
  inferInstanceAs (Decidable (∀ k, k < word.length → ∀ i, i < k → 0 < i →
    word.take i <:+ word.take k → word[i]? = word[k]?))

/-- One more letter of the word ends one more letter of text. -/
theorem take_succ_suffix_concat {word text : List α} {j : Nat} {b : α} (short : j < word.length) :
    word.take (j + 1) <:+ text ++ [b] ↔ word.take j <:+ text ∧ word[j]? = some b := by
  rw [List.take_succ_eq_append_getElem short, List.getElem?_eq_getElem short, Option.some_inj]
  constructor
  · rintro ⟨before, split⟩
    rw [← List.append_assoc] at split
    have ⟨init, last⟩ := List.append_inj' split rfl
    exact ⟨⟨before, init⟩, List.singleton_inj.mp last⟩
  · rintro ⟨⟨before, rfl⟩, rfl⟩
    exact ⟨before, List.append_assoc _ _ _ |>.symm⟩

/-- Of two heads that end one text the shorter ends the longer. -/
theorem take_suffix_take {word text : List α} {i k : Nat} (le : i ≤ k) (short : k ≤ word.length)
    (inner : word.take i <:+ text) (outer : word.take k <:+ text) :
    word.take i <:+ word.take k := by
  apply List.suffix_of_suffix_length_le inner outer
  rw [List.length_take, List.length_take]
  omega

namespace Longest

variable {word text : List α} {k : Nat}

theorem nil (word : List α) : Longest word [] 0 where
  le := Nat.zero_le _
  ends := by simp
  top := by
    intro j short ends
    have empty := congrArg List.length (List.suffix_nil.mp ends)
    rw [List.length_take, List.length_nil] at empty
    omega

theorem extend (longest : Longest word text k) {b : α} (next : word[k]? = some b) :
    Longest word (text ++ [b]) (k + 1) := by
  have short : k < word.length := (List.getElem?_eq_some_iff.mp next).1
  refine ⟨short, (take_succ_suffix_concat short).mpr ⟨longest.ends, next⟩, ?_⟩
  intro j le ends
  cases j with
  | zero => exact Nat.zero_le _
  | succ j =>
      have ⟨shorter, _⟩ := (take_succ_suffix_concat le).mp ends
      exact Nat.succ_le_succ (longest.top j (by omega) shorter)

/-- After a mismatch at most the first letter remains. -/
theorem restart (longest : Longest word text k) (steady : SteadyBorders word)
    (short : k < word.length) {b : α} (mismatch : word[k]? ≠ some b)
    {k' : Nat} (restarted : k' = 1 ∧ word[0]? = some b ∨ k' = 0 ∧ word[0]? ≠ some b) :
    Longest word (text ++ [b]) k' := by
  have first : 0 < word.length := by omega
  refine ⟨by omega, ?_, ?_⟩
  · rcases restarted with ⟨rfl, same⟩ | ⟨rfl, _⟩
    · exact (take_succ_suffix_concat first).mpr ⟨by simp, same⟩
    · simp
  · intro j le ends
    cases j with
    | zero => exact Nat.zero_le _
    | succ i =>
        have ⟨shorter, continues⟩ := (take_succ_suffix_concat le).mp ends
        have below : i ≤ k := longest.top i (by omega) shorter
        have other : i ≠ k := fun same => mismatch (same ▸ continues)
        cases Nat.eq_zero_or_pos i with
        | inl zero =>
            subst zero
            rcases restarted with ⟨rfl, _⟩ | ⟨_, differs⟩
            · exact Nat.le_refl _
            · exact absurd continues differs
        | inr positive =>
            -- a border that the mismatched letter continues
            have border := take_suffix_take below longest.le shorter longest.ends
            have alike := steady k short i (by omega) positive border
            exact absurd (alike ▸ continues) mismatch

/-- The word ends the text when all of it is shown. -/
theorem ends_iff (longest : Longest word text k) : word <:+ text ↔ k = word.length := by
  constructor
  · intro ends
    have top := longest.top word.length (Nat.le_refl _) (by rwa [List.take_length])
    exact Nat.le_antisymm longest.le top
  · rintro rfl
    have ends := longest.ends
    rwa [List.take_length] at ends

end Longest

/-- A border that does not continue alike puts the word at the end of a text that leaves the
word half way. -/
theorem suffix_of_border {word : List α} {k i : Nat} (border : word.take i <:+ word.take k) :
    word <:+ word.take k ++ word.drop i := by
  obtain ⟨before, split⟩ := border
  refine ⟨before, ?_⟩
  rw [← split, List.append_assoc, List.take_append_drop]

end Overlap
