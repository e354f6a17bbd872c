import Baleen.Lib.Rotation
import Baleen.Lib.RoundRobin

/-!
# Roles

A vCPU of a guest, by the slot of the guest and its own index.  The roles that the source tells
apart (running, outgoing, incoming, a guest's own) are this pair.  The scheduler looks for a
candidate in the order of the packed pairs, from the one after the running vCPU to itself.
-/

namespace Baleen.Metal

structure Role (G V : Nat) where
  guest : Fin G
  vcpu : Fin V
  deriving DecidableEq, Repr

namespace Role

variable {G V : Nat} {r s : Role G V} {k : Nat}

def pack (r : Role G V) : Nat := r.guest.val * V + r.vcpu.val

theorem pack_lt (r : Role G V) : r.pack < G * V := by
  have row : (r.guest.val + 1) * V ≤ G * V := Nat.mul_le_mul_right V r.guest.isLt
  have place := r.vcpu.isLt
  rw [Nat.add_mul, Nat.one_mul] at row
  rw [pack]
  omega

def unpack (k : Nat) (inside : k < G * V) : Role G V where
  guest := ⟨k / V, Nat.div_lt_of_lt_mul (Nat.mul_comm G V ▸ inside)⟩
  vcpu := ⟨k % V, Nat.mod_lt _ (Nat.pos_of_ne_zero fun none => by simp [none] at inside)⟩

theorem unpack_pack (r : Role G V) : unpack r.pack r.pack_lt = r := by
  obtain ⟨⟨g, known⟩, ⟨v, inside⟩⟩ := r
  have quotient : (g * V + v) / V = g := by
    rw [Nat.mul_comm, Nat.mul_add_div (by omega), Nat.div_eq_of_lt inside, Nat.add_zero]
  have rest : (g * V + v) % V = v := by
    rw [Nat.mul_comm, Nat.mul_add_mod, Nat.mod_eq_of_lt inside]
  simp only [unpack, pack, quotient, rest]

theorem pack_unpack (inside : k < G * V) : (unpack k inside).pack = k := Nat.div_add_mod' k V

theorem pack_inj (same : r.pack = s.pack) : r = s := by
  rw [← unpack_pack r, ← unpack_pack s]
  simp only [same]

def isBoot (r : Role G V) : Bool := r.vcpu.val = 0

/-- Every vCPU of every guest. -/
def census (G V : Nat) : List (Role G V) :=
  (List.finRange G).flatMap fun g => (List.finRange V).map fun v => ⟨g, v⟩

@[simp] theorem mem_census (r : Role G V) : r ∈ census G V := by
  simp only [census, List.mem_flatMap, List.mem_map, List.mem_finRange, true_and]
  exact ⟨r.guest, r.vcpu, rfl⟩

/-- Every vCPU of the guest, itself included. -/
def ownVcpus (r : Role G V) : List (Role G V) := (List.finRange V).map fun v => ⟨r.guest, v⟩

@[simp] theorem mem_ownVcpus : s ∈ r.ownVcpus ↔ s.guest = r.guest := by
  simp only [ownVcpus, List.mem_map, List.mem_finRange, true_and]
  constructor
  · rintro ⟨v, rfl⟩
    rfl
  · intro own
    refine ⟨s.vcpu, ?_⟩
    rw [← own]

theorem ownVcpus_nodup (r : Role G V) : r.ownVcpus.Nodup := by
  refine (List.nodup_finRange V).map fun v w same => ?_
  cases same
  rfl

/-- The scheduler's candidates in order. -/
def rotation (r : Role G V) : List (Role G V) :=
  (List.finRange (G * V)).map fun k : Fin (G * V) =>
    unpack (Rotation.visit (G * V) r.pack k.val) (Rotation.visit_lt (Nat.zero_lt_of_lt r.pack_lt))

/-- How many candidates come before a vCPU. -/
def ahead (r s : Role G V) : Nat := Rotation.gap (G * V) r.pack s.pack

theorem ahead_lt (r s : Role G V) : r.ahead s < G * V :=
  Rotation.gap_lt (Nat.zero_lt_of_lt r.pack_lt)

theorem length_rotation (r : Role G V) : r.rotation.length = G * V := by
  rw [rotation, List.length_map, List.length_finRange]

theorem getElem?_rotation (r s : Role G V) : r.rotation[r.ahead s]? = some s := by
  have inside := r.ahead_lt s
  have visited : Rotation.visit (G * V) r.pack (r.ahead s) = s.pack :=
    Rotation.visit_gap r.pack_lt s.pack_lt
  rw [rotation, List.getElem?_map, List.getElem?_eq_getElem (by simpa using inside),
    Option.map_some, Option.some.injEq]
  apply pack_inj
  rw [pack_unpack, List.getElem_finRange]
  exact visited

theorem ahead_of_getElem? (found : r.rotation[k]? = some s) : r.ahead s = k := by
  obtain ⟨inside, visited⟩ := List.getElem?_eq_some_iff.mp found
  rw [length_rotation] at inside
  rw [← visited]
  simp only [rotation, List.getElem_map, List.getElem_finRange, ahead, pack_unpack]
  exact Rotation.gap_visit r.pack_lt inside

theorem mem_rotation (r s : Role G V) : s ∈ r.rotation :=
  List.mem_of_getElem? (r.getElem?_rotation s)

/-- The first candidate that passes a test: no other that passes is ahead of it. -/
theorem find?_rotation {test : Role G V → Bool} (found : r.rotation.find? test = some s) :
    test s = true ∧ ∀ c, test c = true → r.ahead s ≤ r.ahead c := by
  obtain ⟨passed, k, inside, here, before⟩ := List.find?_eq_some_iff_getElem.mp found
  refine ⟨passed, fun c candidate => ?_⟩
  have place : r.ahead s = k := ahead_of_getElem? (List.getElem?_eq_some_iff.mpr ⟨inside, here⟩)
  rw [place]
  refine Nat.not_lt.mp fun earlier => ?_
  have visited := r.getElem?_rotation c
  obtain ⟨inside', here'⟩ := List.getElem?_eq_some_iff.mp visited
  have failed := before _ earlier
  rw [here', candidate] at failed
  cases failed

/-- The vCPUs of all guests take turns on the physical CPU. -/
def circle (G V : Nat) : RoundRobin.Circle (Role G V) where
  size := G * V
  order := rotation
  ahead := ahead
  complete := mem_rotation
  first found := (find?_rotation found).2
  apart {i j k} same := pack_inj (Rotation.gap_inj i.pack_lt j.pack_lt k.pack_lt same)
  bounded := ahead_lt
  nearer {i j k} closer := Rotation.gap_shrinks i.pack_lt j.pack_lt k.pack_lt closer

end Role

end Baleen.Metal
