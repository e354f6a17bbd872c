import Baleen.Stage2.Check
import Mathlib.Data.List.Perm.Basic

/-!
# What an emission writes

A successful emission leaves in each cell the permission of the last leaf edge into that
frame at that span.  Whether it succeeds depends on the set of edges only; what it
leaves depends on their order exactly when two edges into one frame disagree.
-/

namespace Baleen.Stage2

open P2m (Mfn)

variable {ownerOf : Mfn → Option DomId} {spanOf : Mfn → Option Span} {dom : DomId}
variable {edges edges' : List Edge} {m m' : Maps} {span : Span}

namespace Maps

theorem leavesOf_update (m : Maps) (span span' : Span) (leaves : List (Option Perm)) :
    (m.update span leaves).leavesOf span' = if span = span' then leaves else m.leavesOf span' := by
  cases span <;> cases span' <;> rfl

theorem ext_leavesOf (same : ∀ span, m.leavesOf span = m'.leavesOf span) : m = m' := by
  obtain ⟨base, sup⟩ := m
  obtain ⟨base', sup'⟩ := m'
  obtain rfl : base = base' := same .base
  obtain rfl : sup = sup' := same .super
  rfl

theorem leavesOf_clear (m : Maps) (span : Span) :
    m.clear.leavesOf span = (m.leavesOf span).map fun _ => none := by
  cases span <;> rfl

end Maps

/-- An edge writes the cell of its child, in the map of its table's span. -/
def Writes (ownerOf : Mfn → Option DomId) (spanOf : Mfn → Option Span) (dom : DomId) (span : Span)
    (i : Nat) (e : Edge) : Prop :=
  reaches ownerOf dom e = true ∧ e.child.toNat = i ∧ spanOf e.parent = some span

instance (i : Nat) (e : Edge) : Decidable (Writes ownerOf spanOf dom span i e) :=
  inferInstanceAs (Decidable (_ ∧ _ ∧ _))

/-- The edge's table has a span, and its child fits the map of that span. -/
def Fits (spanOf : Mfn → Option Span) (m : Maps) (e : Edge) : Prop :=
  ∃ span, spanOf e.parent = some span ∧ e.child.toNat < (m.leavesOf span).length

/-- The maps differ in contents only. -/
def SameCapacity (m m' : Maps) : Prop :=
  ∀ span, (m'.leavesOf span).length = (m.leavesOf span).length

theorem SameCapacity.fits (same : SameCapacity m m') {e : Edge} :
    Fits spanOf m' e ↔ Fits spanOf m e := by
  refine exists_congr fun span => ?_
  rw [same span]

theorem placeLeaf_cases (ownerOf : Mfn → Option DomId) (spanOf : Mfn → Option Span) (dom : DomId)
    (e : Edge) (m : Maps) :
    (reaches ownerOf dom e = false ∧ placeLeaf ownerOf spanOf dom e m = (.ok (), m)) ∨
    (reaches ownerOf dom e = true ∧ ∃ span, spanOf e.parent = some span ∧
      e.child.toNat < (m.leavesOf span).length ∧ placeLeaf ownerOf spanOf dom e m =
        (.ok (), m.update span ((m.leavesOf span).set e.child.toNat (some e.perm)))) ∨
    (reaches ownerOf dom e = true ∧ ¬Fits spanOf m e ∧
      ∃ error, placeLeaf ownerOf spanOf dom e m = (.error error, m) ∧
        ((spanOf e.parent = none ∧ error = .unsupportedSpan e.parent) ∨
          ∃ frame span, error = .outOfRange frame ∧ frame.mfn = e.child ∧
            spanOf e.parent = some span)) := by
  cases reached : reaches ownerOf dom e with
  | false =>
      refine .inl ⟨rfl, ?_⟩
      simp only [placeLeaf, reached, Bool.not_false, if_true, Op.pure_apply]
  | true =>
      right
      cases level : spanOf e.parent with
      | none =>
          refine .inr ⟨rfl, ?_, .unsupportedSpan e.parent, ?_, .inl ⟨rfl, rfl⟩⟩
          · rintro ⟨span, spanned, -⟩
            rw [level] at spanned
            cases spanned
          · simp only [placeLeaf, reached, level, Bool.not_true, Bool.false_eq_true, if_false,
              Op.fail_apply]
      | some span =>
          by_cases outside : (m.leavesOf span).length ≤ e.child.toNat
          · refine .inr ⟨rfl, ?_, .outOfRange ⟨e.child, (m.leavesOf span).length⟩, ?_,
              .inr ⟨_, span, rfl, rfl, rfl⟩⟩
            · rintro ⟨span', spanned, inside⟩
              rw [level] at spanned
              cases spanned
              exact Nat.not_lt.mpr outside inside
            · simp only [placeLeaf, reached, level, Bool.not_true, Bool.false_eq_true, if_false,
                Op.read_bind_apply, if_pos outside, Op.fail_apply]
          · refine .inl ⟨rfl, span, rfl, Nat.lt_of_not_le outside, ?_⟩
            simp only [placeLeaf, reached, level, Bool.not_true, Bool.false_eq_true, if_false,
              Op.read_bind_apply, if_neg outside, Op.modify_apply]

/-- The permission of the last edge that writes a cell. -/
def lastLeaf (ownerOf : Mfn → Option DomId) (spanOf : Mfn → Option Span) (dom : DomId)
    (span : Span) (i : Nat) (edges : List Edge) (old : Option Perm) : Option Perm :=
  edges.foldl (fun last e => if Writes ownerOf spanOf dom span i e then some e.perm else last) old

theorem expectedAt_eq (mfn : Mfn) :
    expectedAt ownerOf spanOf dom span mfn edges =
      lastLeaf ownerOf spanOf dom span mfn.toNat edges none := by
  unfold expectedAt lastLeaf Writes
  congr 1
  funext last e
  simp only [Bool.and_eq_true, decide_eq_true_eq, UInt32.toNat_inj, and_assoc]

/-- Every leaf edge of the domain fits. -/
def AllFit (ownerOf : Mfn → Option DomId) (spanOf : Mfn → Option Span) (dom : DomId) (m : Maps)
    (edges : List Edge) : Prop :=
  ∀ e ∈ edges, reaches ownerOf dom e = true → Fits spanOf m e

theorem placeLeaves_spec (edges : List Edge) (m : Maps) :
    (∃ m', placeLeaves ownerOf spanOf dom edges m = (.ok (), m') ∧
      AllFit ownerOf spanOf dom m edges ∧ SameCapacity m m' ∧
      ∀ span i, (m'.leavesOf span)[i]? =
        ((m.leavesOf span)[i]?).map (lastLeaf ownerOf spanOf dom span i edges)) ∨
    ∃ error m', placeLeaves ownerOf spanOf dom edges m = (.error error, m') ∧
      (∃ e ∈ edges, reaches ownerOf dom e = true ∧ ¬Fits spanOf m e ∧
        ((spanOf e.parent = none ∧ error = .unsupportedSpan e.parent) ∨
          ∃ frame span, error = .outOfRange frame ∧ frame.mfn = e.child ∧
            spanOf e.parent = some span)) := by
  induction edges generalizing m with
  | nil =>
      refine .inl ⟨m, rfl, fun e member => absurd member List.not_mem_nil, fun _ => rfl, ?_⟩
      intro span i
      cases (m.leavesOf span)[i]? <;> rfl
  | cons e rest ih =>
      rcases placeLeaf_cases ownerOf spanOf dom e m with
        ⟨skipped, ran⟩ | ⟨reached, span, spanned, inside, ran⟩ | ⟨reached, unfit, error, ran, why⟩
      · have step : placeLeaves ownerOf spanOf dom (e :: rest) m =
            placeLeaves ownerOf spanOf dom rest m := Op.bind_of_ok ran
        have silent : ∀ span i, ¬Writes ownerOf spanOf dom span i e := by
          intro span i writes
          rw [writes.1] at skipped
          cases skipped
        rw [step]
        rcases ih m with ⟨m', done, fit, capacity, cells⟩ | ⟨error, m', failed, e', member, why⟩
        · refine .inl ⟨m', done, ?_, capacity, ?_⟩
          · intro e' member reached
            rcases List.mem_cons.mp member with rfl | later
            · rw [skipped] at reached
              cases reached
            · exact fit e' later reached
          · intro span i
            rw [cells]
            unfold lastLeaf
            simp only [List.foldl_cons, if_neg (silent span i)]
        · exact .inr ⟨error, m', failed, e', List.mem_cons_of_mem _ member, why⟩
      · have step : placeLeaves ownerOf spanOf dom (e :: rest) m =
          placeLeaves ownerOf spanOf dom rest
            (m.update span ((m.leavesOf span).set e.child.toNat (some e.perm))) := Op.bind_of_ok ran
        have capacity₁ : SameCapacity m
            (m.update span ((m.leavesOf span).set e.child.toNat (some e.perm))) := by
          intro span'
          rw [Maps.leavesOf_update]
          split_ifs with here
          · rw [List.length_set, here]
          · rfl
        rw [step]
        rcases ih (m.update span ((m.leavesOf span).set e.child.toNat (some e.perm))) with
          ⟨m', done, fit, capacity, cells⟩ | ⟨error, m', failed, e', member, reached', unfit, why⟩
        · refine .inl ⟨m', done, ?_, fun span' => (capacity span').trans (capacity₁ span'), ?_⟩
          · intro e' member reached'
            rcases List.mem_cons.mp member with rfl | later
            · exact ⟨span, spanned, inside⟩
            · exact capacity₁.fits.mp (fit e' later reached')
          · intro span' i
            rw [cells, Maps.leavesOf_update]
            unfold lastLeaf
            simp only [List.foldl_cons]
            by_cases here : span = span' ∧ e.child.toNat = i
            · obtain ⟨rfl, rfl⟩ := here
              rw [if_pos rfl, List.getElem?_set, if_pos rfl, if_pos inside,
                List.getElem?_eq_getElem inside, Option.map_some, Option.map_some,
                if_pos ⟨reached, rfl, spanned⟩]
            · have silent : ¬Writes ownerOf spanOf dom span' i e := by
                rintro ⟨-, index, spanned'⟩
                rw [spanned] at spanned'
                exact here ⟨Option.some.inj spanned', index⟩
              simp only [if_neg silent]
              split_ifs with same
              · rw [List.getElem?_set_ne fun index => here ⟨same, index⟩, same]
              · rfl
        · exact .inr ⟨error, m', failed, e', List.mem_cons_of_mem _ member, reached',
            fun fits => unfit (capacity₁.fits.mpr fits), why⟩
      · have step : placeLeaves ownerOf spanOf dom (e :: rest) m = (.error error, m) :=
          Op.bind_of_error ran
        exact .inr ⟨error, m, step, e, List.mem_cons_self .., reached, unfit, why⟩

section LastLeaf

variable {i : Nat}

theorem lastLeaf_concat (edges : List Edge) (e : Edge) (old : Option Perm) :
    lastLeaf ownerOf spanOf dom span i (edges ++ [e]) old =
      if Writes ownerOf spanOf dom span i e then some e.perm
      else lastLeaf ownerOf spanOf dom span i edges old := by
  unfold lastLeaf
  rw [List.foldl_append]
  rfl

theorem lastLeaf_append {before after : List Edge} {old : Option Perm}
    (silent : ∀ e ∈ after, ¬Writes ownerOf spanOf dom span i e) :
    lastLeaf ownerOf spanOf dom span i (before ++ after) old =
      lastLeaf ownerOf spanOf dom span i before old := by
  induction after using List.reverseRecOn with
  | nil => rw [List.append_nil]
  | append_singleton after e ih =>
      rw [← List.append_assoc, lastLeaf_concat, if_neg (silent e (by simp))]
      exact ih fun e' member => silent e' (List.mem_append_left _ member)

theorem lastLeaf_eq_some {perm : Perm}
    (mapped : lastLeaf ownerOf spanOf dom span i edges none = some perm) :
    ∃ e ∈ edges, Writes ownerOf spanOf dom span i e ∧ e.perm = perm := by
  induction edges using List.reverseRecOn with
  | nil => cases mapped
  | append_singleton edges e ih =>
      rw [lastLeaf_concat] at mapped
      split_ifs at mapped with writes
      · exact ⟨e, by simp, writes, Option.some.inj mapped⟩
      · obtain ⟨e', member, found⟩ := ih mapped
        exact ⟨e', List.mem_append_left _ member, found⟩

theorem lastLeaf_isSome {e : Edge} (member : e ∈ edges)
    (writes : Writes ownerOf spanOf dom span i e) :
    (lastLeaf ownerOf spanOf dom span i edges none).isSome = true := by
  induction edges using List.reverseRecOn with
  | nil => cases member
  | append_singleton edges e' ih =>
      rw [lastLeaf_concat]
      split_ifs with last
      · rfl
      · rcases List.mem_append.mp member with earlier | here
        · exact ih earlier
        · rw [List.mem_singleton.mp here] at writes
          exact absurd writes last

/-- Where all writers agree, the order does not matter. -/
theorem lastLeaf_of_agree {e : Edge} (member : e ∈ edges)
    (writes : Writes ownerOf spanOf dom span i e)
    (agree : ∀ e' ∈ edges, Writes ownerOf spanOf dom span i e' → e'.perm = e.perm) :
    lastLeaf ownerOf spanOf dom span i edges none = some e.perm := by
  obtain ⟨perm, mapped⟩ := Option.isSome_iff_exists.mp (lastLeaf_isSome member writes)
  obtain ⟨e', member', writes', rfl⟩ := lastLeaf_eq_some mapped
  rw [mapped, agree e' member' writes']

end LastLeaf

/-- No frame is a leaf of the domain at two spans. -/
def OneSpan (ownerOf : Mfn → Option DomId) (spanOf : Mfn → Option Span) (dom : DomId)
    (edges : List Edge) : Prop :=
  ∀ e ∈ edges, ∀ e' ∈ edges, reaches ownerOf dom e = true → reaches ownerOf dom e' = true →
    e.child = e'.child → spanOf e.parent = spanOf e'.parent

theorem spanConflict_eq_none :
    spanConflict m = none ↔
      ∀ {i : Nat} {p q}, m.base[i]? = some (some p) → m.sup[i]? = some (some q) → False := by
  unfold spanConflict
  simp only [List.find?_eq_none, List.mem_range, Bool.and_eq_true, not_and, Bool.not_eq_true]
  constructor
  · intro apart i p q base sup
    obtain ⟨inBase, -⟩ := List.getElem?_eq_some_iff.mp base
    obtain ⟨inSup, -⟩ := List.getElem?_eq_some_iff.mp sup
    have absent := apart i (lt_min inBase inSup) (by rw [base]; rfl)
    rw [sup] at absent
    cases absent
  · intro apart i inside mapped
    obtain ⟨inBase, inSup⟩ := lt_min_iff.mp inside
    rw [List.getElem?_eq_getElem inBase, Option.getD_some, Option.isSome_iff_exists] at mapped
    obtain ⟨p, mapped⟩ := mapped
    rw [List.getElem?_eq_getElem inSup, Option.getD_some]
    cases here : m.sup[i] with
    | none => rfl
    | some q =>
        refine absurd (apart (i := i) (p := p) (q := q) ?_ ?_) id
        · rw [List.getElem?_eq_getElem inBase, mapped]
        · rw [List.getElem?_eq_getElem inSup, here]

section Cells

variable (cells : ∀ span (i : Nat), (m'.leavesOf span)[i]? =
  ((m.leavesOf span)[i]?).map fun _ => lastLeaf ownerOf spanOf dom span i edges none)
include cells

theorem mapped_iff {i : Nat} {perm : Perm} :
    (m'.leavesOf span)[i]? = some (some perm) ↔
      i < (m.leavesOf span).length ∧
        lastLeaf ownerOf spanOf dom span i edges none = some perm := by
  rw [cells, Option.map_eq_some_iff]
  constructor
  · rintro ⟨old, present, mapped⟩
    exact ⟨(List.getElem?_eq_some_iff.mp present).1, mapped⟩
  · rintro ⟨inside, mapped⟩
    exact ⟨_, List.getElem?_eq_getElem inside, mapped⟩

theorem mapped_of_edge (fit : AllFit ownerOf spanOf dom m edges) {e : Edge} (member : e ∈ edges)
    (reached : reaches ownerOf dom e = true) :
    ∃ span perm, spanOf e.parent = some span ∧
      (m'.leavesOf span)[e.child.toNat]? = some (some perm) := by
  obtain ⟨span, spanned, inside⟩ := fit e member reached
  obtain ⟨perm, mapped⟩ :=
    Option.isSome_iff_exists.mp (lastLeaf_isSome member ⟨reached, rfl, spanned⟩)
  exact ⟨span, perm, spanned, (mapped_iff cells).mpr ⟨inside, mapped⟩⟩

theorem spanConflict_iff (fit : AllFit ownerOf spanOf dom m edges) :
    spanConflict m' = none ↔ OneSpan ownerOf spanOf dom edges := by
  rw [spanConflict_eq_none]
  constructor
  · intro apart e member e' member' reached reached' same
    obtain ⟨span, p, spanned, mapped⟩ := mapped_of_edge cells fit member reached
    obtain ⟨span', q, spanned', mapped'⟩ := mapped_of_edge cells fit member' reached'
    rw [spanned, spanned']
    rw [← same] at mapped'
    cases span with
    | base =>
        cases span' with
        | base => rfl
        | super => exact absurd mapped' (fun mapped' => apart mapped mapped')
    | super =>
        cases span' with
        | base => exact absurd mapped (fun mapped => apart mapped' mapped)
        | super => rfl
  · intro oneSpan i p q base sup
    obtain ⟨e, member, ⟨reached, index, spanned⟩, -⟩ :=
      lastLeaf_eq_some ((@mapped_iff _ _ _ _ _ _ .base cells _ _).mp base).2
    obtain ⟨e', member', ⟨reached', index', spanned'⟩, -⟩ :=
      lastLeaf_eq_some ((@mapped_iff _ _ _ _ _ _ .super cells _ _).mp sup).2
    have same : e.child = e'.child := UInt32.toNat_inj.mp (index.trans index'.symm)
    have clash := oneSpan e member e' member' reached reached' same
    rw [spanned, spanned'] at clash
    cases clash

end Cells

/-- What a successful emission leaves in the maps. -/
structure Emitted (ownerOf : Mfn → Option DomId) (spanOf : Mfn → Option Span) (dom : DomId)
    (edges : List Edge) (m m' : Maps) : Prop where
  fit : AllFit ownerOf spanOf dom m edges
  oneSpan : OneSpan ownerOf spanOf dom edges
  capacity : SameCapacity m m'
  cells : ∀ span (i : Nat), (m'.leavesOf span)[i]? =
    ((m.leavesOf span)[i]?).map fun _ => lastLeaf ownerOf spanOf dom span i edges none

theorem leafMapFromEdges_of_error {error : MapError} {m m₁ : Maps}
    (ran : placeLeaves ownerOf spanOf dom edges m.clear = (.error error, m₁)) :
    leafMapFromEdges ownerOf spanOf dom edges m = (.error error, m₁) := by
  unfold leafMapFromEdges
  rw [Op.modify_bind_apply, Op.bind_of_error ran]

theorem leafMapFromEdges_of_conflict {m m₁ : Maps} {i : Nat}
    (ran : placeLeaves ownerOf spanOf dom edges m.clear = (.ok (), m₁))
    (conflict : spanConflict m₁ = some i) :
    leafMapFromEdges ownerOf spanOf dom edges m =
      (.error (.spanConflict (UInt32.ofNat i)), m₁) := by
  unfold leafMapFromEdges
  rw [Op.modify_bind_apply, Op.bind_of_ok ran, Op.read_bind_apply, conflict]
  rfl

theorem leafMapFromEdges_of_placed {m m₁ : Maps}
    (ran : placeLeaves ownerOf spanOf dom edges m.clear = (.ok (), m₁))
    (clear : spanConflict m₁ = none) :
    leafMapFromEdges ownerOf spanOf dom edges m = (.ok (), m₁) := by
  unfold leafMapFromEdges
  rw [Op.modify_bind_apply, Op.bind_of_ok ran, Op.read_bind_apply, clear]
  rfl

theorem leafMapFromEdges_spec (edges : List Edge) (m : Maps) :
    (∃ m', leafMapFromEdges ownerOf spanOf dom edges m = (.ok (), m') ∧
      Emitted ownerOf spanOf dom edges m m') ∨
    ∃ error m', leafMapFromEdges ownerOf spanOf dom edges m = (.error error, m') ∧
      ((∃ mfn, error = .spanConflict mfn ∧ ¬OneSpan ownerOf spanOf dom edges) ∨
        ∃ e ∈ edges, reaches ownerOf dom e = true ∧ ¬Fits spanOf m e ∧
          ((spanOf e.parent = none ∧ error = .unsupportedSpan e.parent) ∨
            ∃ frame span, error = .outOfRange frame ∧ frame.mfn = e.child ∧
            spanOf e.parent = some span)) := by
  have capacity₀ : SameCapacity m m.clear := by
    intro span
    rw [Maps.leavesOf_clear, List.length_map]
  rcases @placeLeaves_spec ownerOf spanOf dom edges m.clear with
    ⟨m', ran, fit, capacity, cells⟩ | ⟨error, m', ran, e, member, reached, unfit, why⟩
  · have cells' : ∀ span (i : Nat), (m'.leavesOf span)[i]? =
        ((m.leavesOf span)[i]?).map fun _ => lastLeaf ownerOf spanOf dom span i edges none := by
      intro span i
      rw [cells, Maps.leavesOf_clear, List.getElem?_map, Option.map_map]
      rfl
    have fit' : AllFit ownerOf spanOf dom m edges :=
      fun e member reached => capacity₀.fits.mp (fit e member reached)
    cases conflict : spanConflict m' with
    | none =>
        refine .inl ⟨m', leafMapFromEdges_of_placed ran conflict, fit', ?_, ?_, cells'⟩
        · exact (spanConflict_iff cells' fit').mp conflict
        · exact fun span => (capacity span).trans (capacity₀ span)
    | some i =>
        refine .inr ⟨_, m', leafMapFromEdges_of_conflict ran conflict, .inl ⟨_, rfl, ?_⟩⟩
        intro oneSpan
        rw [(spanConflict_iff cells' fit').mpr oneSpan] at conflict
        cases conflict
  · refine .inr ⟨error, m', leafMapFromEdges_of_error ran, .inr ⟨e, member, reached, ?_, why⟩⟩
    exact fun fits => unfit (capacity₀.fits.mpr fits)

/-- All leaf edges of the domain into one frame give it the same permission. -/
def Agree (ownerOf : Mfn → Option DomId) (dom : DomId) (edges : List Edge) : Prop :=
  ∀ e ∈ edges, ∀ e' ∈ edges, reaches ownerOf dom e = true → reaches ownerOf dom e' = true →
    e.child = e'.child → e.perm = e'.perm

theorem AllFit.perm (fit : AllFit ownerOf spanOf dom m edges) (perm : edges'.Perm edges) :
    AllFit ownerOf spanOf dom m edges' :=
  fun e member => fit e (perm.mem_iff.mp member)

theorem OneSpan.perm (oneSpan : OneSpan ownerOf spanOf dom edges) (perm : edges'.Perm edges) :
    OneSpan ownerOf spanOf dom edges' :=
  fun e member e' member' =>
    oneSpan e (perm.mem_iff.mp member) e' (perm.mem_iff.mp member')

theorem leafMapFromEdges_ok (fit : AllFit ownerOf spanOf dom m edges)
    (oneSpan : OneSpan ownerOf spanOf dom edges) :
    ∃ m', leafMapFromEdges ownerOf spanOf dom edges m = (.ok (), m') ∧
      Emitted ownerOf spanOf dom edges m m' := by
  rcases @leafMapFromEdges_spec ownerOf spanOf dom edges m with
    done | ⟨error, m', -, ⟨mfn, -, clash⟩ | ⟨e, member, reached, unfit, -⟩⟩
  · exact done
  · exact absurd oneSpan clash
  · exact absurd (fit e member reached) unfit

theorem emitted_of_ok (done : leafMapFromEdges ownerOf spanOf dom edges m = (.ok (), m')) :
    Emitted ownerOf spanOf dom edges m m' := by
  rcases @leafMapFromEdges_spec ownerOf spanOf dom edges m with
    ⟨m₁, ran, emitted⟩ | ⟨error, m₁, failed, -⟩
  · rw [ran] at done
    cases done
    exact emitted
  · rw [failed] at done
    cases done

theorem Emitted.eq_of_agree (emitted : Emitted ownerOf spanOf dom edges m m')
    {m₁ : Maps} (emitted₁ : Emitted ownerOf spanOf dom edges' m m₁) (perm : edges'.Perm edges)
    (agree : Agree ownerOf dom edges) : m' = m₁ := by
  refine Maps.ext_leavesOf fun span => List.ext_getElem? fun i => ?_
  rw [emitted.cells, emitted₁.cells]
  congr 1
  funext _
  cases mapped : lastLeaf ownerOf spanOf dom span i edges none with
  | some p =>
      obtain ⟨e, member, writes, rfl⟩ := lastLeaf_eq_some mapped
      refine (lastLeaf_of_agree (perm.mem_iff.mpr member) writes ?_).symm
      intro e' member' writes'
      refine agree e' (perm.mem_iff.mp member') e member writes'.1 writes.1 ?_
      exact UInt32.toNat_inj.mp (writes'.2.1.trans writes.2.1.symm)
  | none =>
      symm
      by_contra other
      obtain ⟨p, mapped'⟩ := Option.ne_none_iff_exists'.mp other
      obtain ⟨e, member, writes, -⟩ := lastLeaf_eq_some mapped'
      have some' := lastLeaf_isSome (perm.mem_iff.mp member) writes
      rw [mapped] at some'
      cases some'

/-- The map shows the permission of a leaf edge that no later one into the same frame follows. -/
theorem Emitted.decided {e : Edge} {before after : List Edge}
    (emitted : Emitted ownerOf spanOf dom (before ++ e :: after) m m')
    (reached : reaches ownerOf dom e = true) (spanned : spanOf e.parent = some span)
    (latest : ∀ e' ∈ after, reaches ownerOf dom e' = true → e'.child ≠ e.child) :
    (m'.leavesOf span)[e.child.toNat]? = some (some e.perm) := by
  obtain ⟨span', spanned', inside⟩ := emitted.fit e (by simp) reached
  rw [spanned] at spanned'
  cases spanned'
  have silent : ∀ e' ∈ after, ¬Writes ownerOf spanOf dom span e.child.toNat e' :=
    fun e' later writes => latest e' later writes.1 (UInt32.toNat_inj.mp writes.2.1)
  rw [emitted.cells, List.getElem?_eq_getElem inside, Option.map_some,
    List.append_cons, lastLeaf_append silent, lastLeaf_concat, if_pos ⟨reached, rfl, spanned⟩]

/-- The emission is a function of the set of edges exactly when, among edges it can emit at
all, those into one frame agree. -/
theorem leafMap_order_iff (ownerOf : Mfn → Option DomId) (spanOf : Mfn → Option Span) (dom : DomId)
    (out : Maps) (edges : List Edge) :
    (∀ edges' : List Edge, edges'.Perm edges → ∀ m₁ m₂,
        leafMapFromEdges ownerOf spanOf dom edges out = (.ok (), m₁) →
        leafMapFromEdges ownerOf spanOf dom edges' out = (.ok (), m₂) → m₁ = m₂) ↔
      (AllFit ownerOf spanOf dom out edges → OneSpan ownerOf spanOf dom edges →
        Agree ownerOf dom edges) := by
  constructor
  · intro stable fit oneSpan e member e' member' reached reached' same
    obtain ⟨m₁, ran, -⟩ := leafMapFromEdges_ok fit oneSpan
    -- Moving either edge to the end decides the permission of the frame.
    have moved : ∀ e ∈ edges, reaches ownerOf dom e = true → ∀ span,
        spanOf e.parent = some span → (m₁.leavesOf span)[e.child.toNat]? = some (some e.perm) := by
      intro e member reached span spanned
      have perm : (edges.erase e ++ [e]).Perm edges :=
        (List.perm_append_singleton e _).trans (List.perm_cons_erase member).symm
      obtain ⟨m₂, ran', emitted⟩ := leafMapFromEdges_ok (fit.perm perm) (oneSpan.perm perm)
      rw [stable _ perm m₁ m₂ ran ran']
      exact emitted.decided reached spanned (fun _ none => absurd none List.not_mem_nil)
    obtain ⟨span, spanned, -⟩ := fit e member reached
    have spanned' := oneSpan e member e' member' reached reached' same
    have first := moved e member reached span spanned
    have second := moved e' member' reached' span (spanned'.symm.trans spanned)
    rw [same, second] at first
    exact (Option.some.inj (Option.some.inj first)).symm
  · intro agree edges' perm m₁ m₂ ran ran'
    have emitted := emitted_of_ok ran
    exact emitted.eq_of_agree (emitted_of_ok ran') perm (agree emitted.fit emitted.oneSpan)

/-- What is emitted for a frame is the permission of the last leaf edge into it, whatever the order
of the others. -/
theorem leafMap_last_decides (ownerOf : Mfn → Option DomId) (spanOf : Mfn → Option Span)
    (dom : DomId) (out : Maps) (edges : List Edge) :
    ((∀ edges' : List Edge, edges'.Perm edges → ∀ m₁ m₂,
        leafMapFromEdges ownerOf spanOf dom edges out = (.ok (), m₁) →
        leafMapFromEdges ownerOf spanOf dom edges' out = (.ok (), m₂) → m₁ = m₂) ↔
      (AllFit ownerOf spanOf dom out edges → OneSpan ownerOf spanOf dom edges →
        Agree ownerOf dom edges)) ∧
    ∀ (m : Maps) (before after : List Edge) (e : Edge) (span : Span),
      leafMapFromEdges ownerOf spanOf dom edges out = (.ok (), m) → edges = before ++ e :: after →
      reaches ownerOf dom e = true → spanOf e.parent = some span →
      (∀ e' ∈ after, reaches ownerOf dom e' = true → e'.child ≠ e.child) →
      (m.leavesOf span)[e.child.toNat]? = some (some e.perm) := by
  refine ⟨leafMap_order_iff ownerOf spanOf dom out edges, ?_⟩
  rintro m before after e span ran rfl reached spanned latest
  exact (emitted_of_ok ran).decided reached spanned latest

/-- A frame linked read-only and writable: the link made last decides. -/
theorem leafMap_order_matters :
    let start : List Transition :=
      [.guest 0 (.p2mAllocate 1), .guest 0 (.p2mAllocate 2), .guest 0 (.p2mPin 1 .l1)]
    let readonly := Transition.guest 0 (.p2mLink 1 0 2 false true false)
    let writable := Transition.guest 0 (.p2mLink 1 1 2 true true false)
    let hv := Op.run Hypervisor.apply (start ++ [readonly, writable])
      (Hypervisor.new ⟨1, 1, 1, 1, 1, 3, 0⟩)
    let hv' := Op.run Hypervisor.apply (start ++ [writable, readonly])
      (Hypervisor.new ⟨1, 1, 1, 1, 1, 3, 0⟩)
    let out : Maps := ⟨[none, none, none], []⟩
    hv'.p2m.linkEdges.Perm hv.p2m.linkEdges ∧
      leafMapFromEdges hv.p2m.ownerOf (spanOfTable hv.p2m) 0 hv.p2m.linkEdges out =
        (.ok (), ⟨[none, none, some .rw], []⟩) ∧
      leafMapFromEdges hv.p2m.ownerOf (spanOfTable hv.p2m) 0 hv'.p2m.linkEdges out =
        (.ok (), ⟨[none, none, some .ro], []⟩) := by
  decide +kernel

end Baleen.Stage2
