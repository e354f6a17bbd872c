import Baleen.Virtio.Transport

/-!
# The copy-on-write disk, byte by byte

What a tenant sees of the disk as a sequence of bytes, and what each operation on the disk
does to it.
-/

namespace Baleen.Virtio

theorem Sector.padded_get {bytes : List UInt8} {i : Nat} (inside : i < SECTOR_SIZE) :
    (Sector.padded bytes)[i] = (bytes[i]?).getD 0 := by
  rw [Sector.padded, Vector.getElem_ofFn]

namespace BlkDisk

variable {d : BlkDisk} {t t' : Fin N_TENANTS} {s : Fin DISK_SECTORS} {bytes : List UInt8} {p : Nat}

/-- The byte at a position of a row of sectors. -/
def byteOf (sectors : Fin DISK_SECTORS → Sector) (p : Nat) : Option UInt8 :=
  if inside : p / SECTOR_SIZE < DISK_SECTORS then
    (sectors ⟨p / SECTOR_SIZE, inside⟩)[p % SECTOR_SIZE]?
  else none

/-- The byte that a tenant sees. -/
def view (d : BlkDisk) (t : Fin N_TENANTS) : Nat → Option UInt8 := byteOf (d.read t)

/-- The byte of the template. -/
def pristine (d : BlkDisk) : Nat → Option UInt8 := byteOf fun s => d.template.get s

/-- A disk as the template is seeded, before any tenant runs. -/
inductive Seeded : BlkDisk → Prop
  | new : Seeded .new
  | seed {d : BlkDisk} (sector : Fin DISK_SECTORS) (bytes : List UInt8) :
      Seeded d → Seeded (d.seedTemplate sector bytes)

theorem read_write (t' : Fin N_TENANTS) (s' : Fin DISK_SECTORS) :
    (d.write t s bytes).read t' s' =
      if t' = t ∧ s' = s then Sector.padded bytes else d.read t' s' := by
  simp only [read, write, Fin.getElem_fin, Vector.getElem_set]
  by_cases tenant : t' = t
  · subst tenant
    by_cases sector : s' = s
    · subst sector
      simp
    · have other : s.val ≠ s'.val := fun same => sector (Fin.ext same.symm)
      simp [sector, other]
  · have other : t.val ≠ t'.val := fun same => tenant (Fin.ext same.symm)
    simp [tenant, other]

theorem read_discardOverlay (t' : Fin N_TENANTS) (s : Fin DISK_SECTORS) :
    (d.discardOverlay t).read t' s = if t' = t then d.template.get s else d.read t' s := by
  simp only [read, discardOverlay, Fin.getElem_fin, Vector.getElem_set]
  by_cases tenant : t' = t
  · subst tenant
    simp
    rfl
  · have other : t.val ≠ t'.val := fun same => tenant (Fin.ext same.symm)
    simp [tenant, other]

theorem Seeded.read (seeded : Seeded d) (t : Fin N_TENANTS) (s : Fin DISK_SECTORS) :
    d.read t s = d.template.get s := by
  have clean : d.dirty = BlkDisk.new.dirty := by
    induction seeded with
    | new => rfl
    | seed _ _ _ ih => exact ih
  simp [BlkDisk.read, clean, BlkDisk.new]
  rfl

theorem byteOf_at {sectors : Fin DISK_SECTORS → Sector} {i : Nat} (small : i < SECTOR_SIZE) :
    byteOf sectors (s.val * SECTOR_SIZE + i) = some (sectors s)[i] := by
  have sector : (s.val * SECTOR_SIZE + i) / SECTOR_SIZE = s.val := by
    rw [SECTOR_SIZE] at small ⊢
    omega
  have place : (s.val * SECTOR_SIZE + i) % SECTOR_SIZE = i := by
    rw [SECTOR_SIZE] at small ⊢
    omega
  simp only [byteOf, sector, place, s.isLt, dite_true, Fin.eta]
  exact Vector.getElem?_eq_getElem small

theorem byteOf_congr {sectors sectors' : Fin DISK_SECTORS → Sector}
    (same : ∀ s : Fin DISK_SECTORS, s.val = p / SECTOR_SIZE → sectors s = sectors' s) :
    byteOf sectors p = byteOf sectors' p := by
  unfold byteOf
  split_ifs with inside
  · rw [same ⟨_, inside⟩ rfl]
  · rfl

/-- A position is in one sector. -/
theorem exists_of_div_eq (inside : p / SECTOR_SIZE = s.val) :
    ∃ i, i < SECTOR_SIZE ∧ p = s.val * SECTOR_SIZE + i := by
  refine ⟨p % SECTOR_SIZE, Nat.mod_lt _ (by decide), ?_⟩
  rw [← inside, Nat.mul_comm]
  exact (Nat.div_add_mod p SECTOR_SIZE).symm

/-- A write is seen by its tenant alone, in its sector alone. -/
theorem view_write_of_ne (apart : ¬(t' = t ∧ p / SECTOR_SIZE = s.val)) :
    (d.write t s bytes).view t' p = d.view t' p := by
  refine byteOf_congr fun s' place => ?_
  rw [read_write, if_neg]
  rintro ⟨tenant, sector⟩
  rw [sector] at place
  exact apart ⟨tenant, place.symm⟩

theorem view_write {i : Nat} (small : i < SECTOR_SIZE) :
    (d.write t s bytes).view t (s.val * SECTOR_SIZE + i) = some ((bytes[i]?).getD 0) := by
  rw [view, byteOf_at small, read_write, if_pos ⟨rfl, rfl⟩, Sector.padded_get small]

theorem view_at {i : Nat} (small : i < SECTOR_SIZE) :
    d.view t (s.val * SECTOR_SIZE + i) = some (d.read t s)[i] := byteOf_at small

theorem view_discardOverlay (t' : Fin N_TENANTS) :
    (d.discardOverlay t).view t' = if t' = t then d.pristine else d.view t' := by
  funext p
  split_ifs with tenant
  · refine byteOf_congr fun s _ => ?_
    rw [read_discardOverlay, if_pos tenant]
  · refine byteOf_congr fun s _ => ?_
    rw [read_discardOverlay, if_neg tenant]

theorem Seeded.view (seeded : Seeded d) (t : Fin N_TENANTS) : d.view t = d.pristine := by
  funext p
  exact byteOf_congr fun s _ => seeded.read t s

end BlkDisk

end Baleen.Virtio
