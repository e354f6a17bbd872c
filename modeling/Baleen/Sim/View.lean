import Baleen.Sim.ObsPlus
import Baleen.Sim.StateKey
import Baleen.Hypervisor.Universe
import Mathlib.Data.Vector.Basic

/-!
# Reading an observation back

Two states of one universe that give a domain the same observation agree on everything the
observation was made of.
-/

namespace Baleen.Noninterference

open Evtchn (Port)
open Grant (GrantRef Access)
open P2m (Mfn PageType Link)
open Device (DevId)
open Codes (Delimits)

section Layout

variable (hv : Hypervisor) (a : DomId)

/-- What is shown of a frame of `a`. -/
def frameShown (mfn : Mfn) : Option (List.Vector Nat 7) :=
  if hv.p2m.ownerOf mfn = some a then
    let ptRefs :=
      match hv.p2m.currentType mfn with
      | some (.pageTable level) => (hv.p2m.typeRefs mfn (.pageTable level)).getD 0
      | _ => 0
    some ⟨[mfn.toNat, (hv.p2m.refs mfn).getD 0, (hv.p2m.typeRefs mfn .writable).getD 0,
      (hv.p2m.executableRefs mfn).getD 0, ptRefs, levelTag (hv.p2m.currentType mfn),
      (hv.p2m.isPinned mfn).toNat], rfl⟩
  else none

def shownWords (shown : List.Vector Nat 7) : List Nat := 1 :: shown.toList

/-- The devices of `a`. -/
def ownDevices : List DevId :=
  (Words.range16 hv.device.deviceCount).filter fun dev => hv.device.holderOf dev = some a

theorem heldWords_track : (Words.range32 (hv.grant.handleSlots a)).flatMap
    (fun handle => heldWords hv a handle.toNat) =
      (Enumerate.track hv a).flatMap Enumerate.mappingWords := by
  unfold Enumerate.track
  rw [List.flatMap_map]
  rfl

theorem frameWords_eq (mfn : Mfn) :
    frameWords hv a mfn = (frameShown hv a mfn).elim [] shownWords := by
  unfold frameWords frameShown
  split_ifs <;> rfl

theorem frameWords_shown : hv.p2m.mfns.flatMap (frameWords hv a) =
    (hv.p2m.mfns.filterMap (frameShown hv a)).flatMap shownWords := by
  induction hv.p2m.mfns with
  | nil => rfl
  | cons m rest ih =>
      rw [List.flatMap_cons, ih, frameWords_eq]
      cases shown : frameShown hv a m with
      | none =>
          rw [List.filterMap_cons_none shown]
          rfl
      | some v =>
          rw [List.filterMap_cons_some shown]
          rfl

theorem deviceWords_own : (Words.range16 hv.device.deviceCount).flatMap (deviceWords hv a) =
    (ownDevices hv a).flatMap fun dev => [dev.toNat] := by
  unfold ownDevices
  induction Words.range16 hv.device.deviceCount with
  | nil => rfl
  | cons dev rest ih =>
      rw [List.flatMap_cons, ih]
      unfold deviceWords
      split_ifs with mine
      · rw [List.filter_cons_of_pos (by simpa using mine)]
        rfl
      · rw [List.filter_cons_of_neg (by simpa using mine)]
        rfl

theorem obsPlus_eq : obsPlus hv a =
    (hv.isLive a).toNat :: (hv.balance a).getD 0 :: 0xD0000 ::
      ((hv.evtchn.ports a).flatMap (portWords hv a) ++ 0xD0001 ::
        ((hv.grant.grefs a).flatMap (rowWords hv a hv.p2m.isForeignLinkedBy) ++ 0xD0002 ::
          ((Enumerate.track hv a).flatMap Enumerate.mappingWords ++ 0xD0003 ::
            ((hv.sched.vcpus a).flatMap (vcpuWords hv a) ++ 0xD0004 ::
              ((hv.p2m.mfns.filterMap (frameShown hv a)).flatMap shownWords ++ 0xD0005 ::
                (edges hv a).length :: ((edges hv a).flatten ++ 0xD0006 ::
                  ((ownDevices hv a).flatMap (fun dev => [dev.toNat]) ++ 0xD0007 ::
                    (hv.mayCreateOf a).toNat ::
                      (hv.doms.map (fun b => controlTag true (hv.controlEdge b a)) ++
                        (hv.doms.map (fun c => controlTag true (hv.controlEdge a c)) ++ 0xD0008 ::
                          (hv.doms.map (fun b => (hv.isLive b).toNat) ++ 0xD0009 ::
                            (invites hv a).length :: ((invites hv a).flatten ++ 0xD0006 ::
                              (readCaps hv a true).length :: ((readCaps hv a true).flatten ++
                                0xD000A :: (Words.range16 hv.device.deviceCount).map
                                  (deviceTag hv a))))))))))))) := by
  unfold obsPlus obsPlusImpl obs surface
  rw [heldWords_track, frameWords_shown, deviceWords_own]
  simp only [Surface.full, if_true, List.append_assoc, List.cons_append, List.nil_append]

end Layout

variable {hv s t : Hypervisor} {a : DomId}

theorem portWords_length (p : Port) : (portWords hv a p).length = 5 := by
  unfold portWords
  rcases hv.evtchn.stateOf a p with _ | (_ | _ | _ | _ | _) <;> rfl

theorem rowWords_length (linked : Mfn → DomId → Bool) (r : GrantRef) :
    (rowWords hv a linked r).length = 7 := by
  unfold rowWords
  cases hv.grant.grantEntry a r <;> rfl

theorem vcpuWords_length (v : Vcpu) : (vcpuWords hv a v).length = 3 := by
  unfold vcpuWords
  rcases hv.sched.stateOf a v with _ | (_ | _ | _ | _) <;> rfl

theorem shownWords_delimits : Delimits shownWords := by
  refine Delimits.of_width 8 (fun v => ?_) ?_
  · exact congrArg (· + 1) v.toList_length
  · intro v w same
    exact List.Vector.toList_injective (List.cons.inj same).2

theorem deviceWord_delimits : Delimits fun dev : DevId => [dev.toNat] := by
  refine Delimits.of_width 1 (fun _ => rfl) fun dev dev' same => ?_
  exact UInt16.toNat_inj.mp (List.cons.inj same).1

theorem edges_width : ∀ w ∈ edges hv a, w.length = 6 := by
  intro w member
  unfold edges at member
  obtain ⟨e, -, rfl⟩ := List.mem_map.mp ((List.mergeSort_perm _ _).mem_iff.mp member)
  rfl

theorem invites_width : ∀ w ∈ invites hv a, w.length = 2 := by
  intro w member
  unfold invites at member
  obtain ⟨b, -, member⟩ := List.mem_flatMap.mp ((List.mergeSort_perm _ _).mem_iff.mp member)
  split_ifs at member
  · cases member
  · obtain ⟨p, -, rfl⟩ := List.mem_map.mp member
    rfl

theorem readCap_width {guarded : Bool} {d : DomId} {r : GrantRef} {w : List Nat}
    (cap : readCap hv a guarded d r = some w) : w.length = 7 := by
  unfold readCap at cap
  cases entry : hv.grant.grantEntry d r with
  | none =>
      rw [entry] at cap
      cases cap
  | some e =>
      simp only [entry] at cap
      split_ifs at cap
      · rw [← Option.some.inj cap]
        rfl
      · rw [← Option.some.inj cap]
        rfl

theorem readCaps_width (guarded : Bool) : ∀ w ∈ readCaps hv a guarded, w.length = 7 := by
  intro w member
  unfold readCaps at member
  obtain ⟨d, -, member⟩ := List.mem_flatMap.mp ((List.mergeSort_perm _ _).mem_iff.mp member)
  obtain ⟨r, -, cap⟩ := List.mem_filterMap.mp member
  exact readCap_width cap

/-- The universe that two states share, as far as the loops of an observation go. -/
structure SameLoops (a : DomId) (s t : Hypervisor) : Prop where
  ports : s.evtchn.ports a = t.evtchn.ports a
  rows : s.grant.grefs a = t.grant.grefs a
  vcpus : s.sched.vcpus a = t.sched.vcpus a
  doms : s.doms = t.doms
  devices : s.device.deviceCount = t.device.deviceCount

/-- The parts of an observation. -/
structure SameParts (a : DomId) (s t : Hypervisor) : Prop where
  alive : s.isLive a = t.isLive a
  ports : ∀ p ∈ s.evtchn.ports a, portWords s a p = portWords t a p
  rows : ∀ r ∈ s.grant.grefs a, rowWords s a s.p2m.isForeignLinkedBy r =
    rowWords t a t.p2m.isForeignLinkedBy r
  held : Enumerate.track s a = Enumerate.track t a
  vcpus : ∀ v ∈ s.sched.vcpus a, vcpuWords s a v = vcpuWords t a v
  frames : s.p2m.mfns.filterMap (frameShown s a) = t.p2m.mfns.filterMap (frameShown t a)
  edges : edges s a = edges t a
  mayCreate : s.mayCreateOf a = t.mayCreateOf a
  controllers : ∀ b ∈ s.doms,
    controlTag true (s.controlEdge b a) = controlTag true (t.controlEdge b a)
  controlled : ∀ b ∈ s.doms,
    controlTag true (s.controlEdge a b) = controlTag true (t.controlEdge a b)
  lives : ∀ b ∈ s.doms, s.isLive b = t.isLive b
  invites : invites s a = invites t a
  caps : readCaps s a true = readCaps t a true
  devices : ∀ dev ∈ Words.range16 s.device.deviceCount, deviceTag s a dev = deviceTag t a dev

theorem obsPlus_cancel (loops : SameLoops a s t) (same : obsPlus s a = obsPlus t a) :
    SameParts a s t := by
  rw [obsPlus_eq, obsPlus_eq, ← loops.ports, ← loops.rows, ← loops.vcpus, ← loops.doms,
    ← loops.devices] at same
  obtain ⟨alive, same⟩ := List.cons.inj same
  obtain ⟨-, same⟩ := List.cons.inj same
  obtain ⟨ports, same⟩ := Codes.cancel_tabulated
    (fun p _ => by rw [portWords_length, portWords_length]) (List.cons.inj same).2
  obtain ⟨rows, same⟩ := Codes.cancel_tabulated
    (fun r _ => by rw [rowWords_length, rowWords_length]) (List.cons.inj same).2
  have starts : ∀ m : Option Enumerate.Mapping,
      ∃ word rest, Enumerate.mappingWords m = word :: rest ∧ word ≠ 0xD0003 := by
    rintro (_ | ⟨grantor, gref, writable⟩)
    · exact ⟨0, _, rfl, by simp⟩
    · exact ⟨1, _, rfl, by simp⟩
  obtain ⟨held, same⟩ := Enumerate.mappingWords_delimits.until (· = 0xD0003) starts rfl rfl
    (List.cons.inj same).2
  obtain ⟨vcpus, same⟩ := Codes.cancel_tabulated
    (fun v _ => by rw [vcpuWords_length, vcpuWords_length]) (List.cons.inj same).2
  obtain ⟨frames, same⟩ := shownWords_delimits.until (· = 0xD0005)
    (fun v => ⟨1, v.toList, rfl, by simp⟩) rfl rfl (List.cons.inj same).2
  obtain ⟨edgeCount, same⟩ := List.cons.inj (List.cons.inj same).2
  obtain ⟨edges, same⟩ := Codes.cancel_flatten edgeCount edges_width edges_width same
  obtain ⟨-, same⟩ := deviceWord_delimits.until (· = 0xD0007)
    (fun dev => ⟨dev.toNat, [], rfl, Nat.ne_of_lt (dev.toNat_lt.trans (by decide))⟩) rfl rfl
    (List.cons.inj same).2
  obtain ⟨mayCreate, same⟩ := List.cons.inj (List.cons.inj same).2
  obtain ⟨controllers, same⟩ := List.append_inj same (by simp)
  obtain ⟨controlled, same⟩ := List.append_inj same (by simp)
  obtain ⟨lives, same⟩ := List.append_inj (List.cons.inj same).2 (by simp)
  obtain ⟨inviteCount, same⟩ := List.cons.inj (List.cons.inj same).2
  obtain ⟨invites, same⟩ := Codes.cancel_flatten inviteCount invites_width invites_width same
  obtain ⟨capCount, same⟩ := List.cons.inj (List.cons.inj same).2
  obtain ⟨caps, same⟩ :=
    Codes.cancel_flatten capCount (readCaps_width true) (readCaps_width true) same
  have devices := List.map_inj_left.mp (List.cons.inj same).2
  exact {
    alive := Enumerate.bool_toNat_injective alive
    ports
    rows
    held
    vcpus
    frames
    edges
    mayCreate := Enumerate.bool_toNat_injective mayCreate
    controllers := List.map_inj_left.mp controllers
    controlled := List.map_inj_left.mp controlled
    lives := fun b member =>
      Enumerate.bool_toNat_injective (List.map_inj_left.mp lives b member)
    invites
    caps
    devices }

end Baleen.Noninterference
