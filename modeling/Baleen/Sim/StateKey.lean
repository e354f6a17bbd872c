import Baleen.Sim.Enumerate
import Baleen.Sim.Surface
import Baleen.Lib.Codes

/-!
# Reading a key back

The layout of a key can be parsed: two states of one universe with one key have the same
snapshot, but for the order of the edges and for the free handles after the last one in
use.
-/

namespace Baleen.Enumerate

open Evtchn (PortState)
open Grant (Access)
open Codes (Delimits)

theorem bool_toNat_injective : Function.Injective Bool.toNat := by
  intro a b same
  cases a <;> cases b <;> first | rfl | cases same

theorem PortRec.delimits : Delimits PortRec.words := by
  refine Delimits.of_width 5 (fun r => ?_) ?_
  · unfold words
    cases r.state <;> rfl
  · rintro ⟨state, pending, masked⟩ ⟨state', pending', masked'⟩ same
    cases state <;> cases state' <;>
      simp_all [words, UInt8.toNat_inj, UInt16.toNat_inj, UInt32.toNat_inj,
        bool_toNat_injective.eq_iff]

theorem grantWords_delimits : Delimits grantWords := by
  refine Delimits.of_width 6 (fun e => ?_) ?_
  · cases e <;> rfl
  · intro e e' same
    match e, e' with
    | none, none => rfl
    | none, some a => cases same
    | some a, none => cases same
    | some ⟨grantee, frame, readonly, maps, writableMaps⟩,
        some ⟨grantee', frame', readonly', maps', writableMaps'⟩ =>
        simp_all [grantWords, UInt16.toNat_inj, UInt32.toNat_inj, bool_toNat_injective.eq_iff]

theorem mappingWords_delimits : Delimits mappingWords := by
  refine Delimits.of_width 4 (fun m => ?_) ?_
  · rcases m with _ | ⟨grantor, gref, writable⟩ <;> rfl
  · intro m m' same
    match m, m' with
    | none, none => rfl
    | none, some (grantor, gref, writable) => cases same
    | some (grantor, gref, writable), none => cases same
    | some (grantor, gref, writable), some (grantor', gref', writable') =>
        simp_all [mappingWords, UInt16.toNat_inj, UInt32.toNat_inj, bool_toNat_injective.eq_iff]

theorem VcpuRec.delimits : Delimits VcpuRec.words := by
  refine Delimits.of_width 3 (fun r => ?_) ?_
  · unfold words
    cases r.state <;> rfl
  · rintro ⟨state, affinity⟩ ⟨state', affinity'⟩ same
    cases state <;> cases state' <;> simp_all [words, UInt32.toNat_inj]

theorem occWords_delimits : Delimits occWords := by
  refine Delimits.of_width 3 (fun o => ?_) ?_
  · rcases o with _ | ⟨dom, vcpu⟩ <;> rfl
  · intro o o' same
    match o, o' with
    | none, none => rfl
    | none, some (dom, vcpu) => cases same
    | some (dom, vcpu), none => cases same
    | some (dom, vcpu), some (dom', vcpu') =>
        simp_all [occWords, UInt16.toNat_inj, UInt32.toNat_inj]

theorem levelTag_injective : Function.Injective Noninterference.levelTag := by
  rintro (_ | _ | (_ | _ | _ | _)) (_ | _ | (_ | _ | _ | _)) same <;>
    first | rfl | cases same

theorem frameWords_delimits : Delimits frameWords := by
  refine Delimits.of_width 7 (fun f => ?_) ?_
  · cases f <;> rfl
  · intro f f' same
    match f, f' with
    | none, none => rfl
    | none, some a => cases same
    | some a, none => cases same
    | some ⟨owner, refs, writableRefs, pagetableRefs, ty, pinned⟩,
        some ⟨owner', refs', writableRefs', pagetableRefs', ty', pinned'⟩ =>
        simp_all [frameWords, UInt16.toNat_inj, bool_toNat_injective.eq_iff,
          levelTag_injective.eq_iff]

theorem edgeWords_length (e : Edge) : (edgeWords e).length = 6 := by
  obtain ⟨parent, slot, child, writable, leaf, execute⟩ := e
  rfl

theorem edgeWords_injective : Function.Injective edgeWords := by
  rintro ⟨parent, slot, child, writable, leaf, execute⟩
    ⟨parent', slot', child', writable', leaf', execute'⟩ same
  simp_all [edgeWords, UInt32.toNat_inj, bool_toNat_injective.eq_iff]

theorem lifeWords_delimits :
    Delimits fun life : Bool × Bool => [life.1.toNat, life.2.toNat] := by
  refine Delimits.of_width 2 (fun _ => rfl) ?_
  rintro ⟨live, mayCreate⟩ ⟨live', mayCreate'⟩ same
  simp_all [bool_toNat_injective.eq_iff]

theorem controlWord_injective : Function.Injective controlWord := by
  intro c c' same
  match c, c' with
  | .absent, .absent => rfl
  | .root, .root => rfl
  | .via d, .via d' => simp_all [controlWord, UInt16.toNat_inj]
  | .absent, .root => cases same
  | .root, .absent => cases same
  | .absent, .via d => simp only [controlWord] at same; omega
  | .via d, .absent => simp only [controlWord] at same; omega
  | .root, .via d => simp only [controlWord] at same; omega
  | .via d, .root => simp only [controlWord] at same; omega

theorem controlWord_delimits : Delimits fun c => [controlWord c] :=
  Delimits.of_width 1 (fun _ => rfl) fun _ _ same =>
    controlWord_injective (List.cons.inj same).1

theorem assignWord_injective : Function.Injective assignWord := by
  intro a a' same
  match a, a' with
  | none, none => rfl
  | some d, some d' => simp_all [assignWord, UInt16.toNat_inj]
  | none, some d => simp only [assignWord] at same; omega
  | some d, none => simp only [assignWord] at same; omega

/-- The words that no record of a mapping starts with. -/
def Marks (word : Nat) : Prop := word = 0xD00A0 ∨ word = 0xFFFF0002

theorem mappingWords_starts (m : Option Mapping) :
    ∃ word rest, mappingWords m = word :: rest ∧ ¬Marks word := by
  rcases m with _ | ⟨grantor, gref, writable⟩
  · exact ⟨0, _, rfl, by simp [Marks]⟩
  · exact ⟨1, _, rfl, by simp [Marks]⟩

/-- What follows a track: the end of the section, or the track of a later domain. -/
theorem tracksWords_next (first : Nat) (tracks : List (List (Option Mapping))) (r : List Nat) :
    (∃ rest, tracksWords first tracks ++ 0xFFFF0002 :: r = 0xFFFF0002 :: rest) ∨
      ∃ grantee rest, first ≤ grantee ∧
        tracksWords first tracks ++ 0xFFFF0002 :: r = 0xD00A0 :: grantee :: rest := by
  induction tracks generalizing first with
  | nil => exact .inl ⟨r, rfl⟩
  | cons track tracks ih =>
      simp only [tracksWords, trackWords, List.append_assoc]
      split_ifs with idle
      · rw [List.nil_append]
        rcases ih (first + 1) with ⟨rest, ends⟩ | ⟨grantee, rest, later, starts⟩
        · exact .inl ⟨rest, ends⟩
        · exact .inr ⟨grantee, rest, by omega, starts⟩
      · exact .inr ⟨first, _, Nat.le_refl _, rfl⟩

theorem tracksWords_cancel {first : Nat} {tracks tracks' : List (List (Option Mapping))}
    {r r' : List Nat} (count : tracks.length = tracks'.length)
    (same : tracksWords first tracks ++ 0xFFFF0002 :: r =
      tracksWords first tracks' ++ 0xFFFF0002 :: r') :
    tracks.map trimmed = tracks'.map trimmed ∧ r = r' := by
  induction tracks generalizing first tracks' with
  | nil =>
      obtain rfl := List.length_eq_zero_iff.mp count.symm
      exact ⟨rfl, (List.cons.inj same).2⟩
  | cons track tracks ih =>
      cases tracks' with
      | nil => cases count
      | cons track' tracks' =>
          have rest : tracks.length = tracks'.length := Nat.succ_inj.mp count
          have clash : ∀ (tracks : List (List (Option Mapping))) (r words : List Nat),
              tracksWords (first + 1) tracks ++ 0xFFFF0002 :: r ≠
                0xD00A0 :: first :: words := by
            intro tracks r words equal
            rcases tracksWords_next (first + 1) tracks r with ⟨_, ends⟩ | ⟨_, _, later, starts⟩
            · rw [ends] at equal
              cases equal
            · rw [starts] at equal
              obtain ⟨-, equal⟩ := List.cons.inj equal
              obtain ⟨here, -⟩ := List.cons.inj equal
              omega
          simp only [tracksWords, trackWords, List.append_assoc] at same
          by_cases idle : trimmed track = [] <;> by_cases idle' : trimmed track' = []
          · simp only [idle, idle', if_true, List.nil_append] at same
            obtain ⟨tail, after⟩ := ih rest same
            exact ⟨by simp [idle, idle', tail], after⟩
          · simp only [idle, idle', if_true, if_false, List.nil_append, List.cons_append] at same
            exact absurd same (clash tracks r _)
          · simp only [idle, idle', if_true, if_false, List.nil_append, List.cons_append] at same
            exact absurd same.symm (clash tracks' r' _)
          · simp only [idle, idle', if_false, List.nil_append, List.cons_append, List.cons.injEq,
              true_and] at same
            have next : ∀ (tracks : List (List (Option Mapping))) (r : List Nat),
                ∃ word words, Marks word ∧
                  tracksWords (first + 1) tracks ++ 0xFFFF0002 :: r = word :: words := by
              intro tracks r
              rcases tracksWords_next (first + 1) tracks r with ⟨_, ends⟩ | ⟨_, _, -, starts⟩
              · exact ⟨_, _, .inr rfl, ends⟩
              · exact ⟨_, _, .inl rfl, starts⟩
            obtain ⟨word, words, marks, follows⟩ := next tracks r
            obtain ⟨word', words', marks', follows'⟩ := next tracks' r'
            rw [follows, follows'] at same
            obtain ⟨cells, tail⟩ :=
              mappingWords_delimits.until Marks mappingWords_starts marks marks' same
            rw [← follows, ← follows'] at tail
            obtain ⟨tail, after⟩ := ih rest tail
            exact ⟨by simp [cells, tail], after⟩

theorem gather_eq_some {α : Type} {words : α → List Nat} {xs : List α} {positions : List Nat}
    {k : List Nat} (read : gather words xs positions = some k) :
    ∃ ys : List α, positions.map (fun i => xs[i]?) = ys.map some ∧ k = ys.flatMap words := by
  induction positions generalizing k with
  | nil =>
      obtain rfl : [] = k := Option.some.inj read
      exact ⟨[], rfl, rfl⟩
  | cons i rest ih =>
      unfold gather at read ih
      rw [List.mapM_cons] at read
      cases here : xs[i]? with
      | none => simp [here] at read
      | some x =>
          cases later : rest.mapM (fun i => xs[i]?.map words) with
          | none => simp [here, later] at read
          | some found =>
              simp only [here, later, Option.map_some, Option.pure_def, Option.bind_eq_bind,
                Option.bind_some, Option.some.injEq, List.flatten_cons] at read
              obtain ⟨ys, stored, flat⟩ := ih (k := found.flatten) (by rw [later]; rfl)
              refine ⟨x :: ys, by simp [here, stored], ?_⟩
              rw [← read, flat, List.flatMap_cons]

/-- A loop that panics nowhere reads a beginning of its array. -/
theorem gather_range {α : Type} {words : α → List Nat} {xs : List α} {n : Nat} {k : List Nat}
    (read : gather words xs (List.range n) = some k) :
    n ≤ xs.length ∧ k = (xs.take n).flatMap words := by
  obtain ⟨ys, stored, rfl⟩ := gather_eq_some read
  have count : ys.length = n := by
    have lengths := congrArg List.length stored
    simpa using lengths.symm
  have cells : ∀ i < n, xs[i]? = ys[i]? := by
    intro i inside
    have cell := congrArg (fun l => l[i]?) stored
    have range : (List.range n)[i]? = some i := List.getElem?_range inside
    simp only [List.getElem?_map, range, Option.map_some] at cell
    cases found : ys[i]? with
    | none =>
        rw [found] at cell
        cases cell
    | some y =>
        rw [found] at cell
        exact Option.some.inj cell
  have long : n ≤ xs.length := by
    by_contra short
    have last := cells xs.length (Nat.lt_of_not_le short)
    rw [List.getElem?_eq_none (Nat.le_refl _)] at last
    have missing := List.getElem?_eq_none_iff.mp last.symm
    omega
  refine ⟨long, congrArg (·.flatMap words) (List.ext_getElem? fun i => ?_)⟩
  rw [List.getElem?_take]
  split_ifs with inside
  · exact (cells i inside).symm
  · exact List.getElem?_eq_none (by omega)

theorem gather_all {α : Type} (words : α → List Nat) (xs : List α) :
    gather words xs (List.range xs.length) = some (xs.flatMap words) := by
  have total : ∀ positions : List Nat, (∀ i ∈ positions, i < xs.length) →
      (gather words xs positions).isSome := by
    intro positions
    induction positions with
    | nil => exact fun _ => rfl
    | cons i rest ih =>
        intro inside
        have later := ih fun j member => inside j (List.mem_cons_of_mem _ member)
        have here := List.getElem?_eq_getElem (inside i (List.mem_cons_self ..))
        unfold gather at later ⊢
        rw [Option.isSome_map] at later ⊢
        obtain ⟨found, same⟩ := Option.isSome_iff_exists.mp later
        simp [List.mapM_cons, here, same]
  obtain ⟨k, read⟩ := Option.isSome_iff_exists.mp (total _ fun i member => List.mem_range.mp member)
  obtain ⟨-, rfl⟩ := gather_range read
  rw [read, List.take_length]

theorem rowMajor_eq (rows columns : Nat) : rowMajor rows columns = List.range (rows * columns) := by
  unfold rowMajor
  induction rows with
  | zero => simp
  | succ rows ih =>
      rw [List.range_succ, List.flatMap_append, ih, Nat.succ_mul, List.range_add]
      simp

/-- The words of a snapshot whose arrays are as long as their loops. -/
def Snapshot.words (sn : Snapshot) : List Nat :=
  sn.ports.flatMap PortRec.words ++ 0xFFFF0001 ::
    (sn.grants.flatMap grantWords ++ (tracksWords 0 sn.mappings ++ 0xFFFF0002 ::
      (sn.vcpus.flatMap VcpuRec.words ++ (sn.occ.flatMap occWords ++ 0xFFFF0003 ::
        (sn.frames.flatMap frameWords ++ sn.edges.length ::
          (sortedEdges sn.edges ++ 0xFFFF0004 ::
            ((sn.live.zip sn.mayCreate).flatMap (fun life => [life.1.toNat, life.2.toNat]) ++
              (sn.control.flatMap (fun c => [controlWord c]) ++
                sn.assign.map assignWord))))))))

section Laid

variable (hv : Hypervisor)

/-- What a state with a key fits into: every loop over identifiers reaches its end. -/
structure Fits : Prop where
  domains : hv.domainCount < 2 ^ 16
  ports : 0 < hv.domainCount → hv.evtchn.portCount 0 < 2 ^ 32
  grants : 0 < hv.domainCount → hv.grant.entryCount 0 < 2 ^ 32
  vcpus : 0 < hv.domainCount → hv.sched.vcpuCount 0 < 2 ^ 32
  pcpus : hv.sched.pcpus.length < 2 ^ 32
  frames : hv.p2m.frameCount < 2 ^ 32

variable {hv}

theorem range16_length (n : Nat) : (Words.range16 n).length = n % 2 ^ 16 := by
  simp [Words.range16]

theorem range32_length (n : Nat) : (Words.range32 n).length = n % 2 ^ 32 := by
  simp [Words.range32]

theorem grid_length {α : Type} (rows columns : Nat) (f : UInt16 → UInt32 → α) :
    ((Words.range16 rows).flatMap fun i => (Words.range32 columns).map (f i)).length =
      rows % 2 ^ 16 * (columns % 2 ^ 32) := by
  rw [List.length_flatMap]
  simp [range16_length, range32_length]

theorem column_fits {rows columns : Nat} (few : rows < 2 ^ 16) (some' : 0 < rows)
    (long : rows * columns ≤ rows % 2 ^ 16 * (columns % 2 ^ 32)) : columns < 2 ^ 32 := by
  rw [Nat.mod_eq_of_lt few] at long
  have whole := Nat.le_of_mul_le_mul_left long some'
  have small := Nat.mod_lt columns (Nat.two_pow_pos 32)
  omega

/-- An array read out over all rows and columns is not longer than the loop over it. -/
theorem take_grid {α : Type} {rows columns : Nat} {f : UInt16 → UInt32 → α} {xs : List α}
    (read : xs = (Words.range16 rows).flatMap fun i => (Words.range32 columns).map (f i)) :
    xs.take (rows * columns) = xs := by
  apply List.take_of_length_le
  rw [read, grid_length]
  exact Nat.mul_le_mul (Nat.mod_le _ _) (Nat.mod_le _ _)

theorem first_fits {count : DomId → Nat} (few : hv.domainCount < 2 ^ 16)
    (long : hv.domainCount * ofFirst hv count ≤
      hv.domainCount % 2 ^ 16 * (ofFirst hv count % 2 ^ 32)) (some' : 0 < hv.domainCount) :
    count 0 < 2 ^ 32 := by
  have fits := column_fits few some' long
  rwa [ofFirst, if_pos some'] at fits

theorem stateKey_eq_some {k : List Nat} (key : stateKey hv = some k) :
    Fits hv ∧ k = (Snapshot.fromHv hv).words := by
  unfold stateKey snapshotKey at key
  simp only [Option.bind_eq_bind, Option.bind_eq_some_iff, rowMajor_eq, Option.pure_def,
    Option.some.injEq] at key
  obtain ⟨ports, readPorts, grants, readGrants, vcpus, readVcpus, occ, readOcc, frames, readFrames,
    life, readLife, control, readControl, rfl⟩ := key
  obtain ⟨portsLong, rfl⟩ := gather_range readPorts
  obtain ⟨grantsLong, rfl⟩ := gather_range readGrants
  obtain ⟨vcpusLong, rfl⟩ := gather_range readVcpus
  obtain ⟨occLong, rfl⟩ := gather_range readOcc
  obtain ⟨framesLong, rfl⟩ := gather_range readFrames
  obtain ⟨lifeLong, rfl⟩ := gather_range readLife
  obtain ⟨controlLong, rfl⟩ := gather_range readControl
  have lifeCount : ((Snapshot.fromHv hv).live.zip (Snapshot.fromHv hv).mayCreate).length =
      hv.domainCount % 2 ^ 16 := by
    simp [Snapshot.fromHv, Hypervisor.doms, range16_length]
  have occCount : (Snapshot.fromHv hv).occ.length = hv.sched.pcpus.length % 2 ^ 32 := by
    simp [Snapshot.fromHv, range32_length]
  have frameCount : (Snapshot.fromHv hv).frames.length = hv.p2m.frameCount % 2 ^ 32 := by
    simp [Snapshot.fromHv, range32_length]
  have controlCount : (Snapshot.fromHv hv).control.length =
      hv.domainCount % 2 ^ 16 * (hv.domainCount % 2 ^ 16) := by
    simp [Snapshot.fromHv, Hypervisor.doms, range16_length, List.length_flatMap]
  rw [lifeCount] at lifeLong
  rw [occCount] at occLong
  rw [frameCount] at framesLong
  have fits : ∀ {n m : Nat}, n ≤ n % m → 0 < m → n < m := by
    intro n m whole positive
    exact Nat.lt_of_le_of_lt whole (Nat.mod_lt n positive)
  have domains : hv.domainCount < 2 ^ 16 := fits lifeLong (Nat.two_pow_pos 16)
  refine ⟨⟨domains, ?_, ?_, ?_, fits occLong (Nat.two_pow_pos 32),
    fits framesLong (Nat.two_pow_pos 32)⟩, ?_⟩
  · apply first_fits domains
    rwa [← grid_length (f := portRec hv)]
  · apply first_fits domains
    rwa [← grid_length (f := hv.grant.grantEntry)]
  · apply first_fits domains
    rwa [← grid_length (f := vcpuRec hv)]
  · have whole := Nat.mod_le hv.domainCount (2 ^ 16)
    have ports : (Snapshot.fromHv hv).ports.take
        ((Snapshot.fromHv hv).nDom * (Snapshot.fromHv hv).nPort) = (Snapshot.fromHv hv).ports :=
      take_grid (f := portRec hv) rfl
    have grants : (Snapshot.fromHv hv).grants.take
        ((Snapshot.fromHv hv).nDom * (Snapshot.fromHv hv).nGrant) = (Snapshot.fromHv hv).grants :=
      take_grid (f := hv.grant.grantEntry) rfl
    have vcpus : (Snapshot.fromHv hv).vcpus.take
        ((Snapshot.fromHv hv).nDom * (Snapshot.fromHv hv).nVcpu) = (Snapshot.fromHv hv).vcpus :=
      take_grid (f := vcpuRec hv) rfl
    have occ : (Snapshot.fromHv hv).occ.take (Snapshot.fromHv hv).nPcpu =
        (Snapshot.fromHv hv).occ :=
      List.take_of_length_le (occCount.trans_le (Nat.mod_le _ _))
    have frames : (Snapshot.fromHv hv).frames.take (Snapshot.fromHv hv).nFrame =
        (Snapshot.fromHv hv).frames :=
      List.take_of_length_le (frameCount.trans_le (Nat.mod_le _ _))
    have life : ((Snapshot.fromHv hv).live.zip (Snapshot.fromHv hv).mayCreate).take
        (Snapshot.fromHv hv).nDom = (Snapshot.fromHv hv).live.zip (Snapshot.fromHv hv).mayCreate :=
      List.take_of_length_le (lifeCount.trans_le whole)
    have control : (Snapshot.fromHv hv).control.take
        ((Snapshot.fromHv hv).nDom * (Snapshot.fromHv hv).nDom) = (Snapshot.fromHv hv).control :=
      List.take_of_length_le (controlCount.trans_le (Nat.mul_le_mul whole whole))
    rw [ports, grants, vcpus, occ, frames, life, control]
    simp only [Snapshot.words, List.append_assoc, List.cons_append, List.nil_append]

end Laid

/-- Arrays of the same lengths, as any two states of one universe have. -/
structure SameCounts (sn sn' : Snapshot) : Prop where
  ports : sn.ports.length = sn'.ports.length
  grants : sn.grants.length = sn'.grants.length
  mappings : sn.mappings.length = sn'.mappings.length
  vcpus : sn.vcpus.length = sn'.vcpus.length
  occ : sn.occ.length = sn'.occ.length
  frames : sn.frames.length = sn'.frames.length
  life : (sn.live.zip sn.mayCreate).length = (sn'.live.zip sn'.mayCreate).length
  control : sn.control.length = sn'.control.length

/-- Snapshots that differ in the order of the edges and in trailing free handles alone. -/
structure SameSnapshot (sn sn' : Snapshot) : Prop where
  ports : sn.ports = sn'.ports
  grants : sn.grants = sn'.grants
  mappings : sn.mappings.map trimmed = sn'.mappings.map trimmed
  vcpus : sn.vcpus = sn'.vcpus
  occ : sn.occ = sn'.occ
  frames : sn.frames = sn'.frames
  edges : sn.edges.Perm sn'.edges
  life : sn.live.zip sn.mayCreate = sn'.live.zip sn'.mayCreate
  control : sn.control = sn'.control
  assign : sn.assign = sn'.assign

theorem sortedEdges_cancel {edges edges' : List Edge} {r r' : List Nat}
    (count : edges.length = edges'.length)
    (same : sortedEdges edges ++ r = sortedEdges edges' ++ r') : edges.Perm edges' ∧ r = r' := by
  have sorted : ∀ edges : List Edge, (edges.map edgeWords).mergeSort.Perm (edges.map edgeWords) :=
    fun edges => List.mergeSort_perm ..
  have width : ∀ (edges : List Edge), ∀ w ∈ (edges.map edgeWords).mergeSort, w.length = 6 := by
    intro edges w member
    obtain ⟨e, -, rfl⟩ := List.mem_map.mp ((sorted edges).mem_iff.mp member)
    exact edgeWords_length e
  have lengths : (edges.map edgeWords).mergeSort.length =
      (edges'.map edgeWords).mergeSort.length := by
    rw [(sorted edges).length_eq, (sorted edges').length_eq, List.length_map, List.length_map,
      count]
  obtain ⟨equal, rest⟩ := Codes.cancel_flatten lengths (width edges) (width edges') same
  refine ⟨(List.map_perm_map_iff edgeWords_injective).mp ?_, rest⟩
  exact (sorted edges).symm.trans (equal ▸ sorted edges')

theorem Snapshot.words_cancel {sn sn' : Snapshot} (counts : SameCounts sn sn')
    (same : sn.words = sn'.words) : SameSnapshot sn sn' := by
  unfold words at same
  obtain ⟨ports, same⟩ := PortRec.delimits.sequence counts.ports same
  obtain ⟨grants, same⟩ :=
    grantWords_delimits.sequence counts.grants (List.cons.inj same).2
  obtain ⟨mappings, same⟩ := tracksWords_cancel counts.mappings same
  obtain ⟨vcpus, same⟩ := VcpuRec.delimits.sequence counts.vcpus same
  obtain ⟨occ, same⟩ := occWords_delimits.sequence counts.occ same
  obtain ⟨frames, same⟩ := frameWords_delimits.sequence counts.frames (List.cons.inj same).2
  obtain ⟨edgeCount, same⟩ := List.cons.inj same
  obtain ⟨edges, same⟩ := sortedEdges_cancel edgeCount same
  obtain ⟨life, same⟩ := lifeWords_delimits.sequence counts.life (List.cons.inj same).2
  obtain ⟨control, same⟩ := controlWord_delimits.sequence counts.control same
  exact ⟨ports, grants, mappings, vcpus, occ, frames, edges, life, control,
    assignWord_injective.list_map same⟩

end Baleen.Enumerate
