import Baleen.Lib.Overlap

/-!
# The transmit-path witness of the emulated UART

A rolling match of a fixed byte sequence over the stream that a guest transmits.
-/

namespace Baleen.Pl011

/-- The marker that the guest's userspace prints, as the deployed device looks for it. -/
def NEEDLE : List UInt8 :=
  [66, 65, 76, 69, 69, 78, 45, 83, 84, 69, 80, 48, 45, 79, 75]

structure NeedleMatcher where
  needle : List UInt8
  cursor : Nat
  saw : Bool
  deriving DecidableEq, Repr

namespace NeedleMatcher

/-- A needle that is empty fails the assertion. -/
def new (needle : List UInt8) : Option NeedleMatcher :=
  if needle.isEmpty then none else some ⟨needle, 0, false⟩

/-- One transmitted byte; `none` is an index past the needle. -/
def feed (m : NeedleMatcher) (byte : UInt8) : Option NeedleMatcher :=
  if m.saw then some m
  else do
    let expected ← m.needle[m.cursor]?
    if byte = expected then
      let cursor := m.cursor + 1
      return { m with cursor, saw := m.saw || cursor == m.needle.length }
    else
      let first ← m.needle[0]?
      return { m with cursor := if byte = first then 1 else 0 }

def feedAll (m : NeedleMatcher) : List UInt8 → Option NeedleMatcher
  | [] => some m
  | byte :: rest => (m.feed byte).bind fun m' => m'.feedAll rest

/-- What the matcher maintains: `needle[cursor]` is in bounds until the needle was seen. -/
structure WithinNeedle (m : NeedleMatcher) : Prop where
  le : m.cursor ≤ m.needle.length
  saw_iff : m.saw = true ↔ m.cursor = m.needle.length
  nonempty : m.needle ≠ []

variable {m m' : NeedleMatcher} {needle stream : List UInt8} {byte : UInt8}

theorem new_eq_some (nonempty : needle ≠ []) : new needle = some ⟨needle, 0, false⟩ := by
  simp [new, nonempty]

theorem new_within (created : new needle = some m) : m.WithinNeedle := by
  by_cases nonempty : needle = []
  · simp [new, nonempty] at created
  · rw [new_eq_some nonempty] at created
    cases created
    refine ⟨Nat.zero_le _, ?_, nonempty⟩
    have length := List.length_pos_of_ne_nil nonempty
    simp
    omega

/-- What one byte does. -/
theorem feed_cases (within : m.WithinNeedle) (byte : UInt8) :
    (m.saw = true ∧ m.feed byte = some m) ∨
    (m.saw = false ∧ m.needle[m.cursor]? = some byte ∧
      m.feed byte = some
        ⟨m.needle, m.cursor + 1, decide (m.cursor + 1 = m.needle.length)⟩) ∨
    (m.saw = false ∧ m.cursor < m.needle.length ∧ m.needle[m.cursor]? ≠ some byte ∧
      ∃ cursor, m.feed byte = some ⟨m.needle, cursor, false⟩ ∧
        (cursor = 1 ∧ m.needle[0]? = some byte ∨ cursor = 0 ∧ m.needle[0]? ≠ some byte)) := by
  by_cases saw : m.saw = true
  · exact .inl ⟨saw, by rw [feed, if_pos saw]⟩
  right
  have unseen : m.saw = false := by simpa using saw
  have short : m.cursor < m.needle.length :=
    Nat.lt_of_le_of_ne within.le fun full => saw (within.saw_iff.mpr full)
  have expected := List.getElem?_eq_getElem short
  have first := List.getElem?_eq_getElem (Nat.zero_lt_of_lt short)
  by_cases same : byte = m.needle[m.cursor]
  · refine .inl ⟨unseen, by rw [expected, same], ?_⟩
    simp [feed, unseen, expected, same, beq_eq_decide]
  · refine .inr ⟨unseen, short, by rw [expected]; simpa using Ne.symm same, ?_⟩
    have fed : m.feed byte =
        some ⟨m.needle, if byte = m.needle[0] then 1 else 0, false⟩ := by
      simp [feed, unseen, expected, same, first]
    rw [fed, first]
    by_cases head : byte = m.needle[0]
    · exact ⟨1, by rw [if_pos head], .inl ⟨rfl, by rw [head]⟩⟩
    · exact ⟨0, by rw [if_neg head], .inr ⟨rfl, by simpa using Ne.symm head⟩⟩

/-- A byte never runs the matcher off its needle, and moves it on by one at most. -/
theorem feed_within (within : m.WithinNeedle) (byte : UInt8) :
    ∃ m', m.feed byte = some m' ∧ m'.WithinNeedle ∧ m'.needle = m.needle ∧
      m'.cursor ≤ m.cursor + 1 := by
  rcases feed_cases within byte with
    ⟨_, fed⟩ | ⟨_, next, fed⟩ | ⟨_, short, mismatch, k, fed, restarted⟩
  · exact ⟨m, fed, within, rfl, Nat.le_succ _⟩
  · have short := (List.getElem?_eq_some_iff.mp next).1
    exact ⟨_, fed, ⟨short, decide_eq_true_iff, within.nonempty⟩, rfl, Nat.le_refl _⟩
  · have below : k < m.needle.length := by
      rcases restarted with ⟨rfl, head⟩ | ⟨rfl, _⟩
      · -- a needle of one byte would have matched
        by_contra long
        have start : m.cursor = 0 := by omega
        rw [start] at mismatch
        exact mismatch head
      · omega
    refine ⟨_, fed, ⟨Nat.le_of_lt below, ?_, within.nonempty⟩, rfl, by simp only; omega⟩
    simp only [Bool.false_eq_true, false_iff]
    omega

theorem feedAll_within (within : m.WithinNeedle) (stream : List UInt8) :
    ∃ m', m.feedAll stream = some m' ∧ m'.WithinNeedle ∧ m'.needle = m.needle ∧
      m'.cursor ≤ m.cursor + stream.length := by
  induction stream generalizing m with
  | nil => exact ⟨m, rfl, within, rfl, Nat.le_refl _⟩
  | cons byte rest ih =>
      obtain ⟨m₁, fed, within₁, needle₁, moved₁⟩ := feed_within within byte
      obtain ⟨m₂, fed₂, within₂, needle₂, moved₂⟩ := ih within₁
      refine ⟨m₂, by simp [feedAll, fed, fed₂], within₂, needle₂.trans needle₁, ?_⟩
      rw [List.length_cons]
      omega

theorem feedAll_append (m : NeedleMatcher) (first second : List UInt8) :
    m.feedAll (first ++ second) = (m.feedAll first).bind fun m' => m'.feedAll second := by
  induction first generalizing m with
  | nil => rfl
  | cons byte rest ih =>
      cases fed : m.feed byte with
      | none => simp [feedAll, fed]
      | some m₁ => simp [feedAll, fed, ih]

/-- The cursor is the longest head of the needle that ends the stream, until the needle
occurs in it. -/
structure Tracks (m : NeedleMatcher) (stream : List UInt8) : Prop where
  within : m.WithinNeedle
  saw_iff : m.saw = true ↔ m.needle <:+: stream
  longest : m.saw = false → Overlap.Longest m.needle stream m.cursor

theorem new_tracks (created : new needle = some m) : m.Tracks [] := by
  have within := new_within created
  have shape : m = ⟨needle, 0, false⟩ := by
    rw [new_eq_some] at created
    · exact (Option.some_inj.mp created).symm
    · rintro rfl
      simp [new] at created
  subst shape
  refine ⟨within, ?_, fun _ => Overlap.Longest.nil needle⟩
  simpa using within.nonempty

theorem feed_tracks (tracks : m.Tracks stream) (steady : Overlap.SteadyBorders m.needle)
    (fed : m.feed byte = some m') : m'.Tracks (stream ++ [byte]) := by
  obtain ⟨m₁, fed₁, within', needle', _⟩ := feed_within tracks.within byte
  obtain rfl : m₁ = m' := Option.some_inj.mp (fed₁.symm.trans fed)
  -- while the needle was not seen, the cursor says whether it ends the longer stream
  have settle (unseen : m.saw = false)
      (longest : Overlap.Longest m.needle (stream ++ [byte]) m₁.cursor) :
      m₁.Tracks (stream ++ [byte]) := by
    rw [← needle'] at longest
    refine ⟨within', ?_, fun _ => longest⟩
    rw [within'.saw_iff, ← longest.ends_iff, List.infix_concat_iff, needle', ← tracks.saw_iff]
    simp [unseen]
  rcases feed_cases tracks.within byte with
    ⟨saw, same⟩ | ⟨unseen, next, same⟩ | ⟨unseen, short, mismatch, k, same, restarted⟩
  · obtain rfl : m = m₁ := Option.some_inj.mp (same.symm.trans fed)
    refine ⟨within', ?_, fun unseen => by simp [saw] at unseen⟩
    have occurs := tracks.saw_iff.mp saw
    exact iff_of_true saw (List.infix_concat_iff.mpr (.inr occurs))
  · obtain rfl := Option.some_inj.mp (same.symm.trans fed)
    exact settle unseen ((tracks.longest unseen).extend next)
  · obtain rfl := Option.some_inj.mp (same.symm.trans fed)
    exact settle unseen ((tracks.longest unseen).restart steady short mismatch restarted)

theorem feedAll_tracks (tracks : m.Tracks stream) (steady : Overlap.SteadyBorders m.needle)
    {rest : List UInt8} (fed : m.feedAll rest = some m') : m'.Tracks (stream ++ rest) := by
  induction rest generalizing m stream with
  | nil =>
      cases fed
      rwa [List.append_nil]
  | cons byte rest ih =>
      obtain ⟨m₁, fed₁, _, needle₁, _⟩ := feed_within tracks.within byte
      simp only [feedAll, fed₁, Option.bind_some] at fed
      have tracks₁ := ih (feed_tracks tracks steady fed₁) (by rwa [needle₁]) fed
      rwa [List.append_assoc, List.singleton_append] at tracks₁

/-- The matcher made for `needle` reports over every stream whether the needle occurs. -/
def Detects (needle : List UInt8) : Prop :=
  ∀ stream, ∃ m, ((new needle).bind fun m => m.feedAll stream) = some m ∧
    (m.saw = true ↔ needle <:+: stream) ∧ m.cursor ≤ needle.length ∧
    (m.saw = false → m.cursor < needle.length)

theorem detects_of_steady (nonempty : needle ≠ []) (steady : Overlap.SteadyBorders needle) :
    Detects needle := by
  intro stream
  have created := new_eq_some nonempty
  have tracks := new_tracks created
  obtain ⟨m, fed, within, same, _⟩ := feedAll_within tracks.within stream
  have tracked := feedAll_tracks tracks steady fed
  simp only at same
  refine ⟨m, by rw [created, Option.bind_some, fed], ?_, same ▸ within.le, fun unseen => ?_⟩
  · have saw := tracked.saw_iff
    rwa [same, List.nil_append] at saw
  · rw [← same]
    refine Nat.lt_of_le_of_ne within.le fun full => ?_
    simp [within.saw_iff.mpr full] at unseen

/-- The deployed witness fires exactly when the marker went through. -/
theorem detects_deployed : Detects NEEDLE := detects_of_steady (by decide) (by decide)

/-- The needle's own head moves the cursor along. -/
theorem feedAll_take (k : Nat) (short : k < needle.length) :
    (⟨needle, 0, false⟩ : NeedleMatcher).feedAll (needle.take k) = some ⟨needle, k, false⟩ := by
  induction k with
  | zero => rfl
  | succ k ih =>
      have fed := ih (by omega)
      have next := List.getElem?_eq_getElem (show k < needle.length by omega)
      rw [List.take_succ_eq_append_getElem (by omega), feedAll_append, fed, Option.bind_some]
      simp [feedAll, feed, next]
      omega

/-- Whoever restarts on a letter that continues a border misses the occurrence there. -/
theorem steady_of_detects (nonempty : needle ≠ []) (detects : Detects needle) :
    Overlap.SteadyBorders needle := by
  intro k short i below positive border
  by_contra differs
  have occurs := (Overlap.suffix_of_border border).isInfix
  obtain ⟨m, fed, saw_iff, -, -⟩ := detects (needle.take k ++ needle.drop i)
  have saw := saw_iff.mpr occurs
  -- the cursor after the needle's own head, and after the letter that does not fit
  have letter : needle.drop i = needle[i] :: needle.drop (i + 1) :=
    List.drop_eq_getElem_cons (by omega)
  have within : (⟨needle, k, false⟩ : NeedleMatcher).WithinNeedle := by
    refine ⟨Nat.le_of_lt short, ?_, nonempty⟩
    simp
    omega
  rw [new_eq_some nonempty, Option.bind_some, feedAll_append, feedAll_take k short,
    Option.bind_some, letter, feedAll] at fed
  obtain ⟨m₁, fed₁, within₁, needle₁, -⟩ := feed_within within needle[i]
  have restarted : m₁.cursor ≤ 1 := by
    rcases feed_cases within needle[i] with ⟨saw, _⟩ | ⟨_, next, _⟩ | ⟨_, _, _, k', same, r⟩
    · simp at saw
    · exact absurd (next.trans (List.getElem?_eq_getElem _).symm).symm differs
    · obtain rfl := Option.some_inj.mp (same.symm.trans fed₁)
      simp only
      omega
  obtain ⟨m₂, fed₂, within₂, needle₂, moved⟩ := feedAll_within within₁ (needle.drop (i + 1))
  rw [fed₁, Option.bind_some] at fed
  obtain rfl : m₂ = m := Option.some_inj.mp (fed₂.symm.trans fed)
  -- too few bytes are left for the cursor to reach the end
  have full := within₂.saw_iff.mp saw
  have same : m₂.needle = needle := needle₂.trans needle₁
  rw [same] at full
  rw [List.length_drop] at moved
  omega

theorem detects_iff_steady (nonempty : needle ≠ []) :
    Detects needle ↔ Overlap.SteadyBorders needle :=
  ⟨steady_of_detects nonempty, detects_of_steady nonempty⟩

/-- `AB` is a needle that no restart loses. -/
theorem detects_iff_steady_two : Overlap.SteadyBorders [65, 66] ∧ Detects [65, 66] :=
  ⟨by decide, (detects_iff_steady (by decide)).mpr (by decide)⟩

/-- `AAB` goes through in `AAAB` unseen. -/
theorem aab_missed :
    [65, 65, 66] <:+: [65, 65, 65, 66] ∧
      ((new [65, 65, 66]).bind fun m => m.feedAll [65, 65, 65, 66]) =
        some ⟨[65, 65, 66], 0, false⟩ ∧
      ¬ ∀ needle, needle ≠ [] → Detects needle := by
  refine ⟨by decide, by decide, fun all => ?_⟩
  have steady := steady_of_detects (by decide) (all [65, 65, 66] (by decide))
  exact absurd steady (by decide)

end NeedleMatcher

end Baleen.Pl011
