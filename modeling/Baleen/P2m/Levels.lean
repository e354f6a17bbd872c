import Baleen.P2m.Frames
import Baleen.Lib.Keeps

/-!
# Releases keep levels

An operation that only gives references back, removes entries, clears pins or frees
frames never writes the level of a table: what is still allocated afterwards has the
level it had before.
-/

namespace Baleen.P2m.System

section Keeps

variable {P : System → Prop}

theorem releaseEntry_keeps (released : ∀ m ref, Op.Keeps P (putChild m ref)) (level : PtLevel)
    (l : Link) : Op.Keeps P (releaseEntry level l) := by
  refine (released l.parent (.typed (.pageTable level))).ignore.bind fun _ => ?_
  cases entryChildRef level l.leaf l.writable l.execute with
  | none => exact .pure ()
  | some ref => exact (released l.child ref).ignore

theorem unlink_keeps (released : ∀ m ref, Op.Keeps P (putChild m ref))
    (cleared : ∀ (s : System) (idx : Nat) (l : Link), P s →
      P { s with links := s.links.set idx { l with active := false } })
    (caller : DomId) (parent : Mfn) (slot : UInt32) : Op.Keeps P (unlink caller parent slot) := by
  refine (Op.Keeps.query _).bind fun i => (Op.Keeps.ensure _ _).bind fun _ => ?_
  refine Op.Keeps.read.bind fun s => ?_
  cases s.linkIndex parent slot with
  | none => exact Op.Keeps.fail _
  | some idx =>
      dsimp only
      cases s.links[idx]? with
      | none => exact Op.Keeps.fail _
      | some l =>
          refine Op.Keeps.bind (.modify fun s holds => cleared s idx l holds) fun _ => ?_
          exact releaseEntry_keeps released i.ptLevel l

theorem unpin_keeps (released : ∀ m ref, Op.Keeps P (putChild m ref))
    (cleared : ∀ (s : System) (m : Mfn), P s → P (s.setPinned m false)) (caller : DomId) (m : Mfn) :
    Op.Keeps P (unpin caller m) := by
  refine (Op.Keeps.query _).bind fun i => (Op.Keeps.ensure _ _).bind fun _ => ?_
  refine (Op.Keeps.ensure _ _).bind fun _ => ?_
  refine Op.Keeps.bind (.modify fun s holds => cleared s m holds) fun _ => ?_
  exact released m (.typed (.pageTable i.ptLevel))

theorem free_keeps (freed : ∀ (s : System) (m : Mfn), P s → P (s.setFrame m .free))
    (caller : DomId) (m : Mfn) : Op.Keeps P (free caller m) := by
  refine (Op.Keeps.query _).bind fun i => (Op.Keeps.ensure _ _).bind fun _ => ?_
  exact (Op.Keeps.ensure _ _).bind fun _ => .modify fun s holds => freed s m holds

variable {s : System} (start : P s) (owner : DomId)
include start

theorem unlinkAll_keeps (removes : ∀ caller parent slot, Op.Keeps P (unlink caller parent slot)) :
    P (unlinkAll owner s).2 := by
  refine Op.Keeps.sweep ?_ _ start
  intro idx s r holds ran
  cases stored : s.links[idx]? with
  | none => simp [stored] at ran
  | some l =>
      simp only [stored, Option.ite_none_right_eq_some, Option.some.injEq] at ran
      obtain ⟨-, rfl⟩ := ran
      exact removes owner l.parent l.slot s holds

theorem unlinkAllInto_keeps
    (removes : ∀ caller parent slot, Op.Keeps P (unlink caller parent slot)) :
    P (unlinkAllInto owner s).2 := by
  refine Op.Keeps.sweep ?_ _ start
  intro idx s r holds ran
  cases stored : s.links[idx]? with
  | none => simp [stored] at ran
  | some l =>
      simp only [stored, Option.ite_none_left_eq_some] at ran
      obtain ⟨-, ran⟩ := ran
      cases known : s.ownerOf l.parent with
      | none => simp [known] at ran
      | some other =>
          simp only [known, Option.ite_none_left_eq_some, Option.some.injEq] at ran
          obtain ⟨-, rfl⟩ := ran
          exact removes other l.parent l.slot s holds

theorem unpinAll_keeps (clears : ∀ caller m, Op.Keeps P (unpin caller m)) :
    P (unpinAll owner s).2 := by
  refine Op.Keeps.sweep ?_ _ start
  intro m s r holds ran
  simp only [Option.ite_none_right_eq_some, Option.some.injEq] at ran
  obtain ⟨-, rfl⟩ := ran
  exact clears owner m s holds

theorem freeAll_keeps (frees : ∀ caller m, Op.Keeps P (free caller m)) :
    P (freeAll owner s).2 := by
  refine Op.Keeps.sweep ?_ _ start
  intro m s r holds ran
  simp only [Option.ite_none_right_eq_some, Option.some.injEq] at ran
  obtain ⟨-, rfl⟩ := ran
  exact frees owner m s holds

end Keeps

/-- Every frame that is allocated was allocated at the start, at the same level. -/
structure KeepsLevels (start s : System) : Prop where
  numDomains : s.numDomains = start.numDomains
  level : ∀ {m i'}, s.info m = some i' → ∃ i, start.info m = some i ∧ i'.ptLevel = i.ptLevel

variable {start s : System} {owner : DomId}

theorem KeepsLevels.refl (s : System) : KeepsLevels s s :=
  ⟨rfl, fun known => ⟨_, known, rfl⟩⟩

theorem KeepsLevels.setFrame (keeps : KeepsLevels start s) {m : Mfn} {i i' : FrameInfo}
    (known : s.info m = some i) (level : i'.ptLevel = i.ptLevel) :
    KeepsLevels start (s.setFrame m (.allocated i')) := by
  refine ⟨keeps.numDomains, ?_⟩
  intro m' a after
  rw [info_setFrame_of_info known] at after
  split_ifs at after with here
  · subst here
    cases after
    obtain ⟨b, before, same⟩ := keeps.level known
    exact ⟨b, before, level.trans same⟩
  · exact keeps.level after

theorem KeepsLevels.setPinned (keeps : KeepsLevels start s) (m : Mfn) (pinned : Bool) :
    KeepsLevels start (s.setPinned m pinned) := by
  unfold System.setPinned
  cases known : s.info m with
  | none => exact keeps
  | some i => exact keeps.setFrame known rfl

theorem KeepsLevels.free (keeps : KeepsLevels start s) (m : Mfn) :
    KeepsLevels start (s.setFrame m .free) := by
  refine ⟨keeps.numDomains, ?_⟩
  intro m' a after
  rw [info_setFrame] at after
  split_ifs at after with here
  · cases cell : s.frames[m.toNat]? with
    | none => simp [cell] at after
    | some f => simp [cell, infoOf] at after
  · exact keeps.level after

theorem putChild_keepsLevels (m : Mfn) (ref : ChildRef) :
    Op.Keeps (KeepsLevels start) (putChild m ref) := by
  intro s keeps
  rcases putChild_cases s m ref with ⟨i, known, -, ran⟩ | ⟨e, failed⟩
  · rw [ran]
    exact keeps.setFrame known (i.drop_ptLevel ref)
  · rw [failed]
    exact keeps

theorem unlink_keepsLevels (caller : DomId) (parent : Mfn) (slot : UInt32) :
    Op.Keeps (KeepsLevels start) (unlink caller parent slot) := by
  refine unlink_keeps putChild_keepsLevels ?_ caller parent slot
  exact fun s idx l keeps => ⟨keeps.numDomains, fun known => keeps.level known⟩

theorem unlinkAll_keepsLevels (keeps : KeepsLevels start s) (owner : DomId) :
    KeepsLevels start (unlinkAll owner s).2 :=
  unlinkAll_keeps keeps owner unlink_keepsLevels

theorem unlinkAllInto_keepsLevels (keeps : KeepsLevels start s) (owner : DomId) :
    KeepsLevels start (unlinkAllInto owner s).2 :=
  unlinkAllInto_keeps keeps owner unlink_keepsLevels

theorem unpinAll_keepsLevels (keeps : KeepsLevels start s) (owner : DomId) :
    KeepsLevels start (unpinAll owner s).2 := by
  refine unpinAll_keeps keeps owner (unpin_keeps putChild_keepsLevels ?_)
  exact fun s m keeps => keeps.setPinned m false

theorem freeAll_keepsLevels (keeps : KeepsLevels start s) (owner : DomId) :
    KeepsLevels start (freeAll owner s).2 :=
  freeAll_keeps keeps owner (free_keeps fun _ m keeps => keeps.free m)

end Baleen.P2m.System
