import Baleen.Smmu.Entry
import Baleen.Lib.Choose

/-!
# The derived table says what the assignment says

The loop over the devices writes one entry for each assigned device and leaves the rest
denied; a refusal clears the table.
-/

namespace Baleen.Smmu

open Device (DevId)

variable {devices : Device.System} {streamOf : List UInt32}
    {bindingOf : List (Option Stage2Binding)}
  {log2size sid : UInt32} {words words' : List UInt64} {dev : Nat}

/-- The entry of a stream. -/
def entry (words : List UInt64) (sid : UInt32) : List UInt64 :=
  Slice.read words (sid.toNat * STE_WORDS) STE_WORDS

/-- The storage holds the table. -/
structure Holds (words : List UInt64) (log2size : UInt32) : Prop where
  small : ¬log2size > MAX_LOG2SIZE
  room : 2 ^ log2size.toNat * STE_WORDS ≤ words.length

theorem fits_iff : fits words log2size = true ↔ Holds words log2size := by
  rw [fits, tableWords]
  by_cases large : log2size > MAX_LOG2SIZE
  · simp only [large, if_true]
    exact ⟨nofun, fun holds => absurd large holds.small⟩
  · simp only [large, if_false, decide_eq_true_eq]
    exact ⟨fun room => ⟨large, room⟩, fun holds => holds.room⟩

theorem Holds.entryOffset (holds : Holds words log2size) : entryOffset words.length log2size sid =
    if sid.toNat < 2 ^ log2size.toNat then some (sid.toNat * STE_WORDS) else none := by
  rw [Smmu.entryOffset, tableWords, if_neg holds.small]
  simp only [Nat.not_lt.mpr holds.room, if_false]
  by_cases covered : sid.toNat < 2 ^ log2size.toNat
  · rw [if_neg (Nat.not_le.mpr covered), if_pos covered]
  · rw [if_pos (Nat.le_of_not_lt covered), if_neg covered]

theorem Holds.inside (holds : Holds words log2size) (covered : sid.toNat < 2 ^ log2size.toNat) :
    sid.toNat * STE_WORDS + STE_WORDS ≤ words.length := by
  have room := holds.room
  calc sid.toNat * STE_WORDS + STE_WORDS = (sid.toNat + 1) * STE_WORDS := (Nat.succ_mul ..).symm
    _ ≤ 2 ^ log2size.toNat * STE_WORDS := Nat.mul_le_mul_right _ covered
    _ ≤ words.length := room

theorem Holds.of_length (holds : Holds words log2size) (same : words'.length = words.length) :
    Holds words' log2size := ⟨holds.small, same ▸ holds.room⟩

/-- Both readings of the table depend on the entry alone. -/
theorem Holds.readings (holds : Holds words log2size) (covered : sid.toNat < 2 ^ log2size.toNat) :
    stage2BindingAt words log2size sid = decodeStage2Binding (entry words sid) ∧
      verdict words log2size sid = decode (((entry words sid)[0]?).getD 0) := by
  have offset := @Holds.entryOffset log2size sid words holds
  rw [if_pos covered] at offset
  rw [stage2BindingAt, verdict, offset, entry, Slice.getElem?_read, if_pos (by decide)]
  exact ⟨rfl, rfl⟩

theorem Holds.outside (holds : Holds words log2size) (uncovered : ¬sid.toNat < 2 ^ log2size.toNat) :
    stage2BindingAt words log2size sid = none ∧ (verdict words log2size sid).permits = false := by
  have offset := @Holds.entryOffset log2size sid words holds
  rw [if_neg uncovered] at offset
  rw [stage2BindingAt, verdict, offset]
  exact ⟨rfl, rfl⟩

theorem getElem?_initDeny (i : Nat) : ((initDeny words)[i]?).getD 0 = 0 := by
  rw [initDeny, List.getElem?_map]
  cases words[i]? <;> rfl

theorem denied_of_cleared (sid : UInt32) :
    (verdict (initDeny words) log2size sid).permits = false := by
  rw [verdict]
  split
  · rfl
  · rw [getElem?_initDeny]
    decide

theorem entry_initDeny : ((entry (initDeny words) sid)[0]?).getD 0 = 0 := by
  rw [entry, Slice.getElem?_read, if_pos (by decide)]
  exact getElem?_initDeny _

theorem decodeStage2Binding_denied {ste : List UInt64} (denied : (ste[0]?).getD 0 = 0) :
    decodeStage2Binding ste = none := by
  have verdict : decode 0 ≠ .stage2Only := by decide
  rw [decodeStage2Binding, denied]
  split_ifs <;> rfl

theorem bind_apply {ste : List UInt64} (holds : Holds words log2size) :
    bind log2size sid ste words =
      if sid.toNat < 2 ^ log2size.toNat then
        (.ok (), Slice.write words (sid.toNat * STE_WORDS) ste)
      else (.error .sidOutOfRange, words) := by
  rw [bind, Op.ensure_bind_apply, if_pos (fits_iff.mpr holds), Op.read_bind_apply,
    holds.entryOffset]
  by_cases covered : sid.toNat < 2 ^ log2size.toNat
  · rw [if_pos covered, if_pos covered]
    rfl
  · rw [if_neg covered, if_neg covered]
    rfl

/-- The stream a device presents. -/
def streamAt (streamOf : List UInt32) (dev : Nat) : UInt32 := (streamOf[dev]?).getD 0

/-- A device is assigned, and its stream bound to the tables of its holder. -/
structure Bound (devices : Device.System) (streamOf : List UInt32)
    (bindingOf : List (Option Stage2Binding)) (log2size : UInt32) (dev : Nat) (holder : DomId)
    (ste : List UInt64) : Prop where
  held : devices.holderOf (UInt16.ofNat dev) = some holder
  covered : (streamAt streamOf dev).toNat < 2 ^ log2size.toNat
  encodes : ∃ b, (bindingOf[holder.toNat]?).join = some b ∧ stage2Ste b = .ok ste

theorem Bound.width {holder : DomId} {ste : List UInt64}
    (bound : Bound devices streamOf bindingOf log2size dev holder ste) :
    ste.length = STE_WORDS := by
  obtain ⟨b, -, encoded⟩ := bound.encodes
  exact (stage2Ste_spec encoded).1

/-- A table that some refusal cleared. -/
def Cleared (words : List UInt64) : Prop := ∃ before, words = initDeny before

theorem deny_yields {good : Unit → List UInt64 → Prop} (e : DeriveError) :
    Op.Yields good Cleared (deny e words) := ⟨words, rfl⟩

theorem bindDevice_spec (holds : Holds words log2size) :
    Op.Yields (fun _ words' =>
        (devices.holderOf (UInt16.ofNat dev) = none ∧ words' = words) ∨
          ∃ holder ste, Bound devices streamOf bindingOf log2size dev holder ste ∧
            words' = Slice.write words ((streamAt streamOf dev).toNat * STE_WORDS) ste) Cleared
      (bindDevice devices streamOf bindingOf log2size dev words) := by
  rw [bindDevice]
  cases held : devices.holderOf (UInt16.ofNat dev) with
  | none => exact .inl ⟨rfl, rfl⟩
  | some holder =>
      dsimp only
      cases registered : (bindingOf[holder.toNat]?).join with
      | none => exact deny_yields _
      | some b =>
          simp only [Op.attempt_bind_apply, bindStage2]
          cases encoded : stage2Ste b with
          | error e => exact deny_yields _
          | ok ste =>
              simp only [bind_apply holds]
              by_cases covered : ((streamOf[dev]?).getD 0).toNat < 2 ^ log2size.toNat
              · simp only [if_pos covered]
                exact .inr ⟨holder, ste, ⟨held, covered, b, registered, encoded⟩, rfl⟩
              · simp only [if_neg covered]
                exact deny_yields _

/-- What the loop over some of the devices does to the table. -/
structure Realized (devices : Device.System) (streamOf : List UInt32)
    (bindingOf : List (Option Stage2Binding)) (log2size : UInt32) (devs : List Nat)
    (words words' : List UInt64) : Prop where
  length : words'.length = words.length
  bound : ∀ dev ∈ devs, ∀ holder, devices.holderOf (UInt16.ofNat dev) = some holder →
    ∃ ste, Bound devices streamOf bindingOf log2size dev holder ste ∧
      entry words' (streamAt streamOf dev) = ste
  rest : ∀ sid, (∀ dev ∈ devs, devices.holderOf (UInt16.ofNat dev) ≠ none →
    streamAt streamOf dev ≠ sid) → entry words' sid = entry words sid

theorem entry_write_apart {ste : List UInt64} {sid' : UInt32} (width : ste.length = STE_WORDS)
    (room : sid.toNat * STE_WORDS + STE_WORDS ≤ words.length) (apart : sid ≠ sid') :
    entry (Slice.write words (sid.toNat * STE_WORDS) ste) sid' = entry words sid' := by
  have differs : sid.toNat ≠ sid'.toNat := fun same => apart (UInt32.toNat_inj.mp same)
  refine Slice.read_write_apart (by rw [width]; exact room) ?_
  rw [width]
  rw [STE_WORDS]
  omega

theorem bindDevices_spec {devs : List Nat} (holds : Holds words log2size)
    (distinct : devs.Pairwise fun a b => streamAt streamOf a ≠ streamAt streamOf b) :
    Op.Yields (fun _ words' => Realized devices streamOf bindingOf log2size devs words words')
    Cleared
      (bindDevices devices streamOf bindingOf log2size devs words) := by
  induction devs generalizing words with
  | nil => exact ⟨rfl, nofun, fun _ _ => rfl⟩
  | cons dev rest ih =>
      obtain ⟨first, others⟩ := List.pairwise_cons.mp distinct
      refine Op.yields_bind _ (bindDevice_spec holds) fun _ words₁ step => ?_
      rcases step with ⟨unheld, rfl⟩ | ⟨holder, ste, bound, rfl⟩
      · refine (ih holds others).mono (fun _ words' realized => ?_) fun _ cleared => cleared
        refine ⟨realized.length, ?_, fun sid apart => realized.rest sid fun d member =>
          apart d (List.mem_cons_of_mem _ member)⟩
        intro d member holder held
        rcases List.mem_cons.mp member with rfl | later
        · rw [unheld] at held
          cases held
        · exact realized.bound d later holder held
      · have width := bound.width
        have room := holds.inside bound.covered
        have fits : (streamAt streamOf dev).toNat * STE_WORDS + ste.length ≤ words.length := by
          rw [width]
          exact room
        have length := Slice.length_write fits
        refine (ih (holds.of_length length) others).mono (fun _ words' realized => ?_)
          fun _ cleared => cleared
        refine ⟨realized.length.trans length, ?_, ?_⟩
        · intro d member holder' held
          rcases List.mem_cons.mp member with rfl | later
          · rw [bound.held] at held
            obtain rfl := Option.some.inj held
            refine ⟨ste, bound, ?_⟩
            rw [realized.rest _ fun d' later _ => (first d' later).symm, entry]
            have own := Slice.read_write fits
            rwa [width] at own
          · exact realized.bound d later holder' held
        · intro sid apart
          rw [realized.rest sid fun d later => apart d (List.mem_cons_of_mem _ later)]
          refine entry_write_apart width room (apart dev List.mem_cons_self ?_)
          rw [bound.held]
          exact Option.some_ne_none _

/-- An assigned device carries the stream. -/
def Carried (devices : Device.System) (streamOf : List UInt32) (sid : UInt32) (dev : Nat)
    (holder : DomId) : Prop :=
  devices.holders[dev]? = some (some holder) ∧ streamOf[dev]? = some sid

theorem holderOf_eq (dev : Nat) (small : dev < 65536) :
    devices.holderOf (UInt16.ofNat dev) = (devices.holders[dev]?).getD none := by
  rw [Device.System.holderOf, Words.toNat_ofNat16 small]

theorem streams_injective (covers : devices.deviceCount ≤ streamOf.length)
    (distinct : streamsDistinct devices streamOf = .ok ()) :
    (List.range devices.deviceCount).Pairwise
    (fun a b => streamAt streamOf a ≠ streamAt streamOf b) ∧
      ∀ a < devices.deviceCount, ∀ b < devices.deviceCount,
        streamAt streamOf a = streamAt streamOf b → a = b := by
  rw [streamsDistinct, Checks.pairwise_ok] at distinct
  simp only [Checks.require_ok] at distinct
  have known : ∀ a < devices.deviceCount, streamOf[a]? = some (streamAt streamOf a) := by
    intro a small
    rw [streamAt, List.getElem?_eq_getElem (small.trans_le covers)]
    rfl
  have apart : ∀ a b, a < b → b < devices.deviceCount →
      streamAt streamOf a ≠ streamAt streamOf b := by
    intro a b before small same
    have differ := List.pairwise_iff_getElem.mp distinct a b (by simpa using before.trans small)
      (by simpa using small) before
    simp only [List.getElem_range] at differ
    rw [known a (before.trans small), known b small, same] at differ
    exact differ rfl
  constructor
  · rw [List.pairwise_iff_getElem]
    intro a b _ small before
    rw [List.length_range] at small
    simp only [List.getElem_range]
    exact apart a b before small
  · intro a smallA b smallB same
    rcases Nat.lt_trichotomy a b with before | here | after
    · exact absurd same (apart a b before smallB)
    · exact here
    · exact absurd same.symm (apart b a after smallA)

section Derived

variable (covers : devices.deviceCount ≤ streamOf.length)
  (distinct : streamsDistinct devices streamOf = .ok ())
include covers distinct

omit covers distinct in
theorem streamAt_of_stream {d : Nat} (stream : streamOf[d]? = some sid) :
    streamAt streamOf d = sid := by
  rw [streamAt, stream]
  rfl

theorem holderOfStream_of_stream (inside : dev < devices.deviceCount)
    (stream : streamOf[dev]? = some sid) :
    holderOfStream devices streamOf sid = devices.holderOf (UInt16.ofNat dev) := by
  have unique : ∀ a ∈ List.range devices.deviceCount, ∀ b ∈ List.range devices.deviceCount,
      decide (streamOf[a]? = some sid) = true → decide (streamOf[b]? = some sid) = true →
      a = b := by
    intro a below b below' carried carried'
    apply (streams_injective covers distinct).2 a (List.mem_range.mp below) b
      (List.mem_range.mp below')
    rw [streamAt_of_stream (of_decide_eq_true carried),
      streamAt_of_stream (of_decide_eq_true carried')]
  have first : (List.range devices.deviceCount).find? (fun d => streamOf[d]? = some sid) =
      some dev :=
    (Choose.find?_iff unique).mpr ⟨List.mem_range.mpr inside, decide_eq_true stream⟩
  rw [holderOfStream, first]
  rfl

omit covers distinct in
theorem stream_of_holderOfStream {holder : DomId}
    (found : holderOfStream devices streamOf sid = some holder) :
    ∃ dev < devices.deviceCount, streamOf[dev]? = some sid ∧
      devices.holderOf (UInt16.ofNat dev) = some holder := by
  obtain ⟨dev, first, held⟩ := Option.bind_eq_some_iff.mp found
  exact ⟨dev, List.mem_range.mp (List.mem_of_find?_eq_some first),
    by simpa using List.find?_some first, held⟩

/-- With an index for every device, the holder of a stream is that of the device carrying it. -/
theorem holderOfStream_iff (few : devices.deviceCount ≤ 65536) {holder : DomId} :
    holderOfStream devices streamOf sid = some holder ↔
      ∃ dev, Carried devices streamOf sid dev holder := by
  constructor
  · intro found
    obtain ⟨dev, inside, stream, held⟩ := stream_of_holderOfStream found
    rw [holderOf_eq dev (inside.trans_le few), List.getElem?_eq_getElem inside,
      Option.getD_some] at held
    refine ⟨dev, ?_, stream⟩
    rw [List.getElem?_eq_getElem inside, held]
  · rintro ⟨dev, held, stream⟩
    have inside : dev < devices.deviceCount := (List.getElem?_eq_some_iff.mp held).1
    rw [holderOfStream_of_stream covers distinct inside stream,
      holderOf_eq dev (inside.trans_le few), held]
    rfl

variable (holds : Holds words log2size)
  (realized : Realized devices streamOf bindingOf log2size (List.range devices.deviceCount)
    (initDeny words) words')
include holds realized

omit distinct covers in
/-- The stream of an assigned device is bound to its holder's tables. -/
theorem bound_of_holder {holder : DomId}
    (found : holderOfStream devices streamOf sid = some holder) :
    ∃ b, (bindingOf[holder.toNat]?).join = some b ∧ stage2BindingAt words' log2size sid = some b ∧
      (verdict words' log2size sid).permits = true := by
  obtain ⟨dev, inside, stream, held⟩ := stream_of_holderOfStream found
  have same : streamAt streamOf dev = sid := streamAt_of_stream stream
  obtain ⟨ste, bound, here⟩ := realized.bound dev (List.mem_range.mpr inside) holder held
  obtain ⟨b, registered, encoded⟩ := bound.encodes
  obtain ⟨-, verdict, decoded⟩ := stage2Ste_spec encoded
  have covered := bound.covered
  rw [same] at covered here
  have holds' : Holds words' log2size :=
    holds.of_length (realized.length.trans (List.length_map ..))
  obtain ⟨binding, decision⟩ := holds'.readings covered
  refine ⟨b, registered, ?_, ?_⟩
  · rw [binding, here, decoded]
  · rw [decision, here, verdict]
    rfl

/-- A stream without a holder stays denied. -/
theorem denied_of_no_holder (nobody : holderOfStream devices streamOf sid = none) :
    stage2BindingAt words' log2size sid = none ∧ (verdict words' log2size sid).permits = false := by
  have holds' : Holds words' log2size :=
    holds.of_length (realized.length.trans (List.length_map ..))
  by_cases covered : sid.toNat < 2 ^ log2size.toNat
  · obtain ⟨binding, decision⟩ := holds'.readings covered
    have untouched : entry words' sid = entry (initDeny words) sid := by
      refine realized.rest sid fun d member assigned same => assigned ?_
      have inside := List.mem_range.mp member
      rw [← holderOfStream_of_stream covers distinct inside ?_, nobody]
      rw [streamAt, List.getElem?_eq_getElem (inside.trans_le covers)] at same
      rw [List.getElem?_eq_getElem (inside.trans_le covers), ← same]
      rfl
    rw [binding, decision, untouched, entry_initDeny, decodeStage2Binding_denied entry_initDeny]
    exact ⟨rfl, rfl⟩
  · exact holds'.outside covered

end Derived

theorem deriveStreamTable_spec :
    Op.Yields (fun _ words' => devices.deviceCount ≤ streamOf.length ∧
        streamsDistinct devices streamOf = .ok () ∧ Holds words log2size ∧
        Realized devices streamOf bindingOf log2size (List.range devices.deviceCount)
          (initDeny words) words') Cleared
      (deriveStreamTable devices streamOf bindingOf log2size words) := by
  have cleared : Cleared (initDeny words) := ⟨words, rfl⟩
  rw [deriveStreamTable, Op.modify_bind_apply]
  refine Op.yields_ensure cleared fun fitting => ?_
  refine Op.yields_ensure cleared fun covers => ?_
  refine Op.yields_ensure cleared fun _ => ?_
  have covers : devices.deviceCount ≤ streamOf.length := by simpa using covers
  have holds := fits_iff.mp fitting
  cases distinct : streamsDistinct devices streamOf with
  | error e => exact deny_yields e
  | ok u =>
      refine (bindDevices_spec holds (streams_injective covers distinct).1).mono ?_ fun _ bad => bad
      intro _ words' realized
      exact ⟨covers, rfl, holds.of_length (List.length_map ..).symm, realized⟩

/-- What a successful derivation has checked and written. -/
theorem derived_of_ok
    (derived : (deriveStreamTable devices streamOf bindingOf log2size words).1 = .ok ()) :
    devices.deviceCount ≤ streamOf.length ∧ streamsDistinct devices streamOf = .ok () ∧
      Holds words log2size ∧
      Realized devices streamOf bindingOf log2size (List.range devices.deviceCount) (initDeny words)
        (deriveStreamTable devices streamOf bindingOf log2size words).2 := by
  have spec := @deriveStreamTable_spec devices streamOf bindingOf log2size words
  cases run : deriveStreamTable devices streamOf bindingOf log2size words with
  | mk result words' =>
      rw [run] at spec derived
      cases derived
      exact spec

/-- The derived table binds a stream exactly when an assigned device carries it, and to the
tables of its holder; a refusal denies every stream. -/
theorem deriveStreamTable_exact (devices : Device.System) (few : devices.deviceCount ≤ 65536)
    (streamOf : List UInt32) (bindingOf : List (Option Stage2Binding)) (log2size : UInt32)
    (words : List UInt64) :
    ((deriveStreamTable devices streamOf bindingOf log2size words).1 = .ok () → ∀ sid,
      stage2BindingAt (deriveStreamTable devices streamOf bindingOf log2size words).2 log2size sid =
          intendedBinding devices streamOf bindingOf sid ∧
        ((verdict (deriveStreamTable devices streamOf bindingOf log2size words).2 log2size
            sid).permits = true ↔ ∃ dev holder, Carried devices streamOf sid dev holder)) ∧
      ∀ e, (deriveStreamTable devices streamOf bindingOf log2size words).1 = .error e → ∀ sid,
        (verdict (deriveStreamTable devices streamOf bindingOf log2size words).2 log2size
          sid).permits = false := by
  have spec := @deriveStreamTable_spec devices streamOf bindingOf log2size words
  match deriveStreamTable devices streamOf bindingOf log2size words, spec with
  | (.ok (), words'), derived =>
      obtain ⟨covers, distinct, holds, realized⟩ := derived
      refine ⟨fun _ sid => ?_, nofun⟩
      have carried : (∃ dev holder, Carried devices streamOf sid dev holder) ↔
          ∃ holder, holderOfStream devices streamOf sid = some holder := by
        rw [exists_comm]
        exact exists_congr fun holder => (holderOfStream_iff covers distinct few).symm
      rw [carried, intendedBinding]
      cases found : holderOfStream devices streamOf sid with
      | some holder =>
          obtain ⟨b, registered, bound, permitted⟩ := bound_of_holder holds realized found
          rw [bound, Option.bind_some, registered]
          exact ⟨rfl, fun _ => ⟨holder, rfl⟩, fun _ => permitted⟩
      | none =>
          obtain ⟨unbound, denied⟩ := denied_of_no_holder covers distinct holds realized found
          rw [unbound, denied]
          exact ⟨rfl, nofun, nofun⟩
  | (.error e, words'), ⟨before, cleared⟩ =>
      refine ⟨nofun, fun _ _ sid => ?_⟩
      rw [cleared]
      exact denied_of_cleared sid

/-- One of two devices is assigned, over a table that permitted both. -/
theorem deriveStreamTable_exact_assigned :
    let devices : Device.System := ⟨[some 1, none], 2⟩
    let binding : Stage2Binding := ⟨0x40100000, 1, Arm64.BALEEN_STAGE2⟩
    let words := List.replicate 16 (0b1001 : UInt64)
    let derived := deriveStreamTable devices [0, 1] [none, some binding] 1 words
    derived.1 = .ok () ∧ stage2BindingAt derived.2 1 0 = intendedBinding devices [0, 1]
      [none, some binding] 0 ∧ intendedBinding devices [0, 1] [none, some binding] 0 =
      some binding := by
  intro devices binding words derived
  have ran : derived.1 = .ok () := by decide +kernel
  exact ⟨ran, (((deriveStreamTable_exact devices (by decide) [0, 1] [none, some binding] 1
    words).1 ran) 0).1, by decide +kernel⟩

end Baleen.Smmu
