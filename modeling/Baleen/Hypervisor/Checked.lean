import Baleen.Hypervisor.Shape
import Baleen.P2m.Ledger

/-!
# The executable checks

The checks that the source runs over a state are consequences of the invariants: each
scan visits positions of the tables, and every position it objects to is one that an
identifier names.
-/

namespace Baleen

open Evtchn (Port)
open Grant (GrantRef Mapping Access)
open P2m (Mfn FrameInfo Link Kind ChildRef)

namespace Evtchn.System

variable {s : System}

theorem Consistent.invariantsHold (consistent : s.Consistent) (bounded : s.Bounded)
    (domains : s.domainCount ≤ 2 ^ 16) : s.invariantsHold = true := by
  have named : ∀ {d p c}, s.domains.get? d p = some c → ∃ (dom : DomId) (port : Port),
      dom.toNat = d ∧ port.toNat = p ∧ s.chan? dom port = some c := by
    intro d p c present
    have small : d < 2 ^ 16 := lt_of_lt_of_le (Grid.lt_length_of_get? present) domains
    have dom : (UInt16.ofNat d).toNat = d := Words.toNat_ofNat16 small
    have small' : p < 2 ^ 32 := by
      have width := bounded (UInt16.ofNat d)
      rw [portCount, dom] at width
      exact lt_of_lt_of_le (Grid.lt_width_of_get? present) width
    have port : (UInt32.ofNat p).toNat = p := Words.toNat_ofNat32 small'
    exact ⟨UInt16.ofNat d, UInt32.ofNat p, dom, port, by rw [chan?, dom, port, present]⟩
  rw [System.invariantsHold, Option.isNone_iff_eq_none]
  refine findSome?_range_eq_none fun d _ => findSome?_range_eq_none fun p _ => ?_
  cases present : s.domains.get? d p with
  | none => rfl
  | some c =>
      rw [Option.bind_some]
      obtain ⟨dom, port, rfl, rfl, found⟩ := named present
      unfold violationAt
      cases state : c.state with
      | free =>
          obtain ⟨pending, masked⟩ := consistent.quiet found state
          simp [pending, masked]
      | unbound r =>
          have known : ¬s.domains.length ≤ r.toNat := Nat.not_le.mpr (consistent.known found state)
          simp only [if_neg known]
      | interdomain r q =>
          obtain ⟨peer, present', back⟩ := consistent.reciprocal found state
          have points : s.stateAt r.toNat q.toNat = some (.interdomain dom port) :=
            stateOf_eq_some.mpr ⟨peer, present', back⟩
          simp [points, pointsBack]
      | virq v i =>
          have alone : ((List.range (s.domains.width dom.toNat)).any fun q =>
              q ≠ port.toNat ∧ s.stateAt dom.toNat q = some (.virq v i)) = false := by
            rw [List.any_eq_false]
            intro q _ both
            obtain ⟨apart, twin⟩ := of_decide_eq_true both
            obtain ⟨c', present', state'⟩ := Option.map_eq_some_iff.mp twin
            obtain ⟨dom', port', same, rfl, found'⟩ := named present'
            obtain rfl := UInt16.toNat_inj.mp same
            exact apart (congrArg _ (consistent.unique found' found state' state))
          simp only [alone, Bool.false_eq_true, if_false]
      | ipi v => rfl

end Evtchn.System

namespace Grant.System

variable {s : System}

theorem countP_liveOver (s : System) (d : DomId) (r : GrantRef) (test : Mapping → Bool) :
    ((s.liveOver d.toNat r.toNat).filter test).length =
      s.live.countP fun m => Mapping.ofEntry d r m && test m := by
  unfold liveOver live Slab.live
  rw [List.countP_filter, List.countP_eq_length_filter, List.filter_filter]
  congr 1
  refine List.filter_congr fun m _ => ?_
  unfold Mapping.ofEntry
  simp only [UInt16.toNat_inj, UInt32.toNat_inj]
  cases m.active <;> cases test m <;> simp

theorem Consistent.invariantsHold (consistent : s.Consistent) : s.invariantsHold = true := by
  rw [System.invariantsHold, Option.isNone_iff_eq_none]
  refine orElse_eq_none ?_ ?_
  · refine findSome?_range_eq_none fun d _ => findSome?_range_eq_none fun g _ => ?_
    cases present : s.domains.get? d g with
    | none => rfl
    | some e =>
        rw [Option.bind_some]
        cases e with
        | free => rfl
        | access a =>
            obtain ⟨dom, gref, rfl, rfl⟩ := consistent.placed present
            have active : s.grantEntry dom gref = some a := grantEntry_eq_some.mpr present
            obtain ⟨maps, writableMaps⟩ := consistent.counts active
            have known : ¬s.domains.length ≤ a.grantee.toNat :=
              Nat.not_le.mpr (consistent.known active)
            have fewer : ¬a.maps < a.writableMaps := by
              rw [maps, writableMaps, Nat.not_lt]
              exact List.countP_mono_left fun m _ both => by
                simp only [Bool.and_eq_true] at both
                exact both.1
            have readable : (a.readonly && decide (0 < a.writableMaps)) = false := by
              by_contra broken
              obtain ⟨readonly, held⟩ : a.readonly = true ∧ 0 < a.writableMaps := by
                simpa [Nat.pos_iff_ne_zero] using broken
              rw [writableMaps, List.countP_pos_iff] at held
              obtain ⟨m, isLive, both⟩ := held
              obtain ⟨ofEntry, writable⟩ :
                Mapping.ofEntry dom gref m = true ∧ m.writable = true := by
                simpa using both
              obtain ⟨rfl, rfl⟩ := ofEntry_iff.mp ofEntry
              obtain ⟨b, active', -, permitted⟩ := consistent.backed isLive
              rw [active] at active'
              cases active'
              rw [permitted writable] at readonly
              cases readonly
            have exact' : ¬(a.maps ≠ (s.liveOver dom.toNat gref.toNat).length ∨ a.writableMaps ≠
                ((s.liveOver dom.toNat gref.toNat).filter (·.writable)).length) := by
              have all := countP_liveOver s dom gref fun _ => true
              rw [List.filter_true] at all
              simp only [Bool.and_true] at all
              rw [all, countP_liveOver, maps, writableMaps]
              simp
            simp only [entryViolation, if_neg known, if_neg fewer, readable, Bool.false_eq_true,
              if_false, if_neg exact']
  · refine List.findSome?_eq_none_iff.mpr fun m isLive => ?_
    obtain ⟨a, active, grantee, permitted⟩ := consistent.backed (m := m) isLive
    have entry := entry_of_entryAt (grantEntry_eq_some.mp active)
    have fine : s.backed m = true := by
      unfold System.backed
      rw [entry]
      cases writable : m.writable with
      | false => simp [grantee]
      | true => simp [grantee, permitted writable]
    rw [fine, if_pos rfl]

end Grant.System

namespace Sched.System

variable {s : System}

theorem Consistent.invariantsHold (consistent : s.Consistent) : s.invariantsHold = true := by
  rw [System.invariantsHold, Option.isNone_iff_eq_none]
  refine orElse_eq_none ?_ ?_
  · refine findSome?_range_eq_none fun d _ => findSome?_range_eq_none fun v _ => ?_
    cases present : s.domains.get? d v with
    | none => rfl
    | some c =>
        rw [Option.bind_some]
        unfold vcpuViolation
        cases state : c.state with
        | running p =>
            obtain ⟨dom, vcpu, rfl, rfl⟩ := consistent.placed present state
            obtain ⟨occupant, permitted⟩ := consistent.running (d := dom) (w := vcpu) present state
            simp [occupant, permitted]
        | _ => rfl
  · refine findSome?_range_eq_none fun p _ => ?_
    cases present : s.pcpus[p]? with
    | none => rfl
    | some occupant =>
        rw [Option.bind_some]
        cases occupant with
        | none => rfl
        | some who =>
            obtain ⟨c, q, found, state, rfl⟩ :=
              consistent.occupied (d := who.1) (w := who.2) present
            simp [pcpuViolation, vcpu_of_vcpu? found, state]

end Sched.System

end Baleen
