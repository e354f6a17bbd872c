import Mathlib.Tactic.Common
import Mathlib.Data.List.DropRight

/-!
# Codes that delimit themselves

A code delimits itself if the end of a code word can be told from the words that follow.
A sequence of such code words can be read back if its length is known, or if what follows
starts with a word that no code word starts with.
-/

namespace Codes

variable {α β : Type} {code : α → List β}

structure Delimits (code : α → List β) : Prop where
  cancel : ∀ {a b : α} {r r' : List β}, code a ++ r = code b ++ r' → a = b ∧ r = r'

theorem Delimits.of_width (width : Nat) (fixed : ∀ a, (code a).length = width)
    (injective : Function.Injective code) : Delimits code := by
  constructor
  intro a b r r' same
  obtain ⟨words, rest⟩ := List.append_inj same ((fixed a).trans (fixed b).symm)
  exact ⟨injective words, rest⟩

theorem Delimits.injective (delimits : Delimits code) : Function.Injective code := by
  intro a b same
  have padded : code a ++ [] = code b ++ [] := by rw [same]
  exact (delimits.cancel padded).1

/-- As many words on both sides, each of which can be told from what follows. -/
theorem cancel_sequence {xs ys : List α} {r r' : List β} (count : xs.length = ys.length)
    (delimits : ∀ a ∈ xs, ∀ b ∈ ys, ∀ {r r'}, code a ++ r = code b ++ r' → a = b ∧ r = r')
    (same : xs.flatMap code ++ r = ys.flatMap code ++ r') : xs = ys ∧ r = r' := by
  induction xs generalizing ys with
  | nil =>
      obtain rfl := List.length_eq_zero_iff.mp count.symm
      exact ⟨rfl, same⟩
  | cons x xs ih =>
      cases ys with
      | nil => cases count
      | cons y ys =>
          simp only [List.flatMap_cons, List.append_assoc] at same
          obtain ⟨rfl, rest⟩ := delimits x (List.mem_cons_self ..) y (List.mem_cons_self ..) same
          obtain ⟨rfl, rfl⟩ := ih (Nat.succ_inj.mp count)
            (fun a member b member' => delimits a (List.mem_cons_of_mem _ member) b
              (List.mem_cons_of_mem _ member')) rest
          exact ⟨rfl, rfl⟩

theorem Delimits.sequence (delimits : Delimits code) {xs ys : List α} {r r' : List β}
    (count : xs.length = ys.length) (same : xs.flatMap code ++ r = ys.flatMap code ++ r') :
    xs = ys ∧ r = r' :=
  cancel_sequence count (fun _ _ _ _ => delimits.cancel) same

/-- Lists of words of one width. -/
theorem cancel_flatten {width : Nat} {xs ys : List (List β)} {r r' : List β}
    (count : xs.length = ys.length) (fixed : ∀ w ∈ xs, w.length = width)
    (fixed' : ∀ w ∈ ys, w.length = width) (same : xs.flatten ++ r = ys.flatten ++ r') :
    xs = ys ∧ r = r' := by
  have same : xs.flatMap id ++ r = ys.flatMap id ++ r' := by simpa [List.flatMap_id] using same
  refine cancel_sequence count ?_ same
  intro a member b member' r r' words
  exact List.append_inj words ((fixed a member).trans (fixed' b member').symm)

/-- Code words up to one that starts none. -/
theorem Delimits.until (delimits : Delimits code) (stops : β → Prop)
    (starts : ∀ a, ∃ b rest, code a = b :: rest ∧ ¬stops b) {xs ys : List α} {b b' : β}
    {r r' : List β} (ends : stops b) (ends' : stops b')
    (same : xs.flatMap code ++ b :: r = ys.flatMap code ++ b' :: r') :
    xs = ys ∧ b :: r = b' :: r' := by
  induction xs generalizing ys with
  | nil =>
      cases ys with
      | nil => exact ⟨rfl, same⟩
      | cons y ys =>
          obtain ⟨c, rest, word, going⟩ := starts y
          simp only [List.flatMap_nil, List.nil_append, List.flatMap_cons, word, List.cons_append,
            List.cons.injEq] at same
          exact absurd (same.1 ▸ ends) going
  | cons x xs ih =>
      cases ys with
      | nil =>
          obtain ⟨c, rest, word, going⟩ := starts x
          simp only [List.flatMap_nil, List.nil_append, List.flatMap_cons, word, List.cons_append,
            List.cons.injEq] at same
          exact absurd (same.1 ▸ ends') going
      | cons y ys =>
          simp only [List.flatMap_cons, List.append_assoc] at same
          obtain ⟨rfl, rest⟩ := delimits.cancel same
          obtain ⟨rfl, tail⟩ := ih rest
          exact ⟨rfl, tail⟩

/-- Blocks over the same positions. -/
theorem cancel_tabulated {ι : Type} {positions : List ι} {f g : ι → List β} {r r' : List β}
    (widths : ∀ i ∈ positions, (f i).length = (g i).length)
    (same : positions.flatMap f ++ r = positions.flatMap g ++ r') :
    (∀ i ∈ positions, f i = g i) ∧ r = r' := by
  induction positions with
  | nil => exact ⟨fun i member => absurd member (List.not_mem_nil), same⟩
  | cons i positions ih =>
      simp only [List.flatMap_cons, List.append_assoc] at same
      obtain ⟨block, rest⟩ := List.append_inj same (widths i (List.mem_cons_self ..))
      obtain ⟨blocks, tail⟩ := ih (fun j member => widths j (List.mem_cons_of_mem _ member)) rest
      exact ⟨List.forall_mem_cons.mpr ⟨block, blocks⟩, tail⟩

/-- Functions that tabulate alike agree on what they tabulate. -/
theorem eq_of_flatMap_map {ι κ : Type} {f g : ι → κ → α} {rows : List ι} {columns : List κ}
    (same : rows.flatMap (fun i => columns.map (f i)) = rows.flatMap fun i => columns.map (g i)) :
    ∀ i ∈ rows, ∀ j ∈ columns, f i j = g i j := by
  induction rows with
  | nil => exact fun i member => absurd member (List.not_mem_nil)
  | cons i rows ih =>
      simp only [List.flatMap_cons] at same
      obtain ⟨row, rest⟩ := List.append_inj same (by simp)
      intro i' member
      rcases List.mem_cons.mp member with rfl | member
      · exact List.map_inj_left.mp row
      · exact ih rest i' member

/-- Dropping absent cells from the end leaves every present cell where it was. -/
theorem getElem?_rdropWhile_isNone (cells : List (Option α)) (i : Nat) :
    ((cells.rdropWhile Option.isNone)[i]?).join = (cells[i]?).join := by
  induction cells using List.reverseRecOn with
  | nil => rfl
  | append_singleton cells last ih =>
      rw [List.rdropWhile_concat]
      cases last with
      | some a => rfl
      | none =>
          simp only [Option.isNone_none, if_true, ih, List.getElem?_append]
          split_ifs with inside
          · rfl
          · rw [List.getElem?_eq_none (Nat.le_of_not_lt inside)]
            cases i - cells.length with
            | zero => rfl
            | succ k => rfl

end Codes
